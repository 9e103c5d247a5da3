import ContraGate.HealthyAnalysis

/-!
# The cascade and the condition of the statement

The agent asks for the foreign key graph of the table alone, and `get_fk_graph` traces it without
a condition: the cascade in the contract is scaled from the size of the whole table. The rows of
the root enter the trace only through the estimates of its direct children.
-/

namespace CascadeTracer

open ReaderTools

variable {arith : CascadeArith} {conn : CascadeCatalog} {maxDepth : ℕ} {table : String}
  {rows rows' : ℤ} {confidence confidence' : Py.Float} {depth n : ℕ} {path : List String}

/-- The entries of a trace do not depend on the confidence. -/
theorem trace_entries_confidence (hn : depth + n = maxDepth + 1) :
    (trace arith conn maxDepth table rows confidence depth path {}).levels.map entryOf =
      (trace arith conn maxDepth table rows confidence' depth path {}).levels.map entryOf := by
  induction n generalizing table rows confidence confidence' depth path with
  | zero => rw [trace_of_gt _ _ _ _ (by omega), trace_of_gt _ _ _ _ (by omega)]
  | succ n ih =>
    rw [trace_empty (by omega), trace_empty (by omega), TraceState.appendAll_levels,
      TraceState.appendAll_levels, List.map_flatMap, List.map_flatMap]
    apply List.flatMap_congr
    intro child _
    unfold visit
    split
    · rfl
    · have hbelow : (below arith conn maxDepth table rows confidence depth path child {}).levels.map
          entryOf = (below arith conn maxDepth table rows confidence' depth path child {}).levels.map
            entryOf := ih (by omega)
      rw [TraceState.append, TraceState.append, List.map_append, List.map_append, hbelow]
      rfl

/-- How many levels there are does not depend on the rows. -/
theorem trace_levels_length (hn : depth + n = maxDepth + 1) :
    (trace arith conn maxDepth table rows confidence depth path {}).levels.length =
      (trace arith conn maxDepth table rows' confidence' depth path {}).levels.length := by
  have hplaces : (trace arith conn maxDepth table rows confidence depth path {}).levels.map place =
      (trace arith conn maxDepth table rows' confidence' depth path {}).levels.map place :=
    (trace_levels hn).trans (trace_levels hn).symm
  simpa using congrArg List.length hplaces

/-- Two lists of blocks that are of the same lengths in pairs. -/
theorem flatMap_eq_iff {α β : Type} {f g : α → List β} {items : List α}
    (h : ∀ item ∈ items, (f item).length = (g item).length) :
    items.flatMap f = items.flatMap g ↔ ∀ item ∈ items, f item = g item := by
  induction items with
  | nil => simp
  | cons item items ih =>
    have hrest := ih fun i hi => h i (List.mem_cons_of_mem _ hi)
    rw [List.flatMap_cons, List.flatMap_cons, List.forall_mem_cons, ← hrest]
    constructor
    · exact fun heq => List.append_inj heq (h item List.mem_cons_self)
    · rintro ⟨hhead, htail⟩
      rw [hhead, htail]

/-- Two traces with different root rows have the same entries exactly when the direct children
have the same estimates. -/
theorem trace_entries_iff (hn : depth + (n + 1) = maxDepth + 1) :
    (trace arith conn maxDepth table rows confidence depth path {}).levels.map entryOf =
        (trace arith conn maxDepth table rows' confidence' depth path {}).levels.map entryOf ↔
      ∀ child ∈ conn.cascadeChildren table, child.childTable ∉ path →
        childEstimated arith conn table child.childTable rows =
          childEstimated arith conn table child.childTable rows' := by
  rw [trace_empty (by omega), trace_empty (by omega), TraceState.appendAll_levels,
    TraceState.appendAll_levels, List.map_flatMap, List.map_flatMap, flatMap_eq_iff]
  · refine forall₂_congr fun child _ => ?_
    unfold visit
    split
    next hmem => simp [hmem]
    next hmem =>
      rw [TraceState.append, TraceState.append, List.map_append, List.map_append]
      constructor
      -- the first entry is the child's own
      · intro hentries _
        have hhead := List.head_eq_of_cons_eq hentries
        exact congrArg CascadeEntry.estimatedRows hhead
      · intro hsame
        have hrows := hsame hmem
        have hbelow : (below arith conn maxDepth table rows confidence depth path child
            {}).levels.map entryOf =
            (below arith conn maxDepth table rows' confidence' depth path child {}).levels.map
              entryOf := by
          unfold below levelOf
          rw [hrows]
          exact trace_entries_confidence (n := n) (by omega)
        have hlevel : entryOf (levelOf arith conn table rows confidence depth child) =
            entryOf (levelOf arith conn table rows' confidence' depth child) := by
          unfold entryOf levelOf
          rw [hrows]
        rw [hbelow]
        simp [hlevel]
  · intro child _
    unfold visit
    split
    · rfl
    · have hbelow :
          (below arith conn maxDepth table rows confidence depth path child {}).levels.length =
            (below arith conn maxDepth table rows' confidence' depth path child {}).levels.length :=
        trace_levels_length (n := n) (by omega)
      simpa [TraceState.append] using hbelow

end CascadeTracer

namespace ReaderTools

open AnalyzerAgent

variable (acfg : AnalyzerConfig) (cfg : ReaderConfig) (db : ReaderDatabase)

/-- The first word of the statement, in capitals. -/
def verb (rawSql : String) : String :=
  String.ofList (Py.upper (Py.firstWord (Py.strip rawSql.toList)))

/-- The entries of `trace_cascades(table, condition)`. -/
def conditionedCascade (table condition : String) : List CascadeEntry :=
  (CascadeTracer.traceCascades cfg.arith db.catalog table (some condition)).levels.map entryOf

/-- Every direct child gets the same estimate from the whole table and from the rows that
satisfy the condition. -/
def SameShares (table condition : String) : Prop :=
  ∀ child ∈ db.cascadeChildren table, child.childTable ≠ table →
    CascadeTracer.childEstimated cfg.arith db.catalog table child.childTable
        (RowEstimator.estimateRows db.toTableStatistics table none).estimatedRows =
      CascadeTracer.childEstimated cfg.arith db.catalog table child.childTable
        (RowEstimator.estimateRows db.toTableStatistics table (some condition)).estimatedRows

/-- The analysis returns the trace without the condition. -/
def ReturnsCascade (reply : LlmReply) (now : Time) (contract : HandoffContract)
    (cascade : List CascadeEntry) : Prop :=
  ∃ c, analyze acfg (reader cfg db) reply now contract = some c ∧ c.cascade = cascade

variable {acfg cfg db} {reply : LlmReply} {now : Time} {contract : HandoffContract}
  {table condition : String}

/-- A `DELETE` or `UPDATE` is classified as such: no keyword of the DDL begins like it. -/
theorem classify_of_verb (acfg : AnalyzerConfig)
    (hverb : verb contract.rawSql ∈ ["DELETE", "UPDATE"]) :
    AnalyzerTools.classifyOperationType acfg contract.rawSql =
      if verb contract.rawSql = "DELETE" then .delete else .update := by
  have hkeywords : ∀ keyword ∈ ["DROP", "TRUNCATE", "ALTER", "CREATE"],
      Py.isPlain keyword.toList = true ∧ Py.isUnexpanded keyword.toList = true ∧
        keyword.toList.all Py.isCapital = true ∧
        ∀ word ∈ ["DELETE", "UPDATE"], ¬ keyword.toList <+: word.toList := by decide
  have hddl : Classifiers.keyword? acfg.wide ["DROP", "TRUNCATE", "ALTER", "CREATE"]
      (String.ofList (Py.strip contract.rawSql.toList)) = none := by
    unfold Classifiers.keyword?
    rw [String.toList_ofList, if_neg]
    rw [List.any_eq_true]
    rintro ⟨keyword, hkeyword, hmatches⟩
    obtain ⟨hplain, hexpand, hletters, hapart⟩ := hkeywords keyword hkeyword
    have hprefix := Py.prefix_upper_firstWord hplain hexpand hletters hmatches
    refine hapart _ hverb ?_
    rwa [verb, String.toList_ofList]
  unfold AnalyzerTools.classifyOperationType
  dsimp only
  rw [hddl, if_neg (by decide)]
  change (if verb contract.rawSql = "DELETE" then OperationType.delete
      else if verb contract.rawSql = "UPDATE" then .update
      else if verb contract.rawSql = "INSERT" then .insert
      else if verb contract.rawSql = "SELECT" then .select
      else .unknown) = _
  generalize verb contract.rawSql = word at hverb ⊢
  rcases List.mem_pair.mp hverb with rfl | rfl
  · decide
  · decide

/-- The two traces have the same entries exactly when the shares are the same. -/
theorem fkGraph_entries_iff :
    (fkGraph cfg db table).levels.map entryOf = conditionedCascade cfg db table condition ↔
      SameShares cfg db table condition := by
  refine (CascadeTracer.trace_entries_iff (n := 4) rfl).trans ?_
  refine forall₂_congr fun child _ => ?_
  rw [List.mem_singleton]
  rfl

theorem returnsCascade_of_skips (hskips : skips contract = true) {cascade : List CascadeEntry} :
    ReturnsCascade acfg cfg db reply now contract cascade ↔ contract.cascade = cascade := by
  unfold ReturnsCascade
  rw [analyze_of_skips hskips]
  constructor
  · rintro ⟨c, hc, hcascade⟩
    obtain rfl := Option.some.inj hc
    exact hcascade
  · exact fun hcascade => ⟨contract, rfl, hcascade⟩

/-- An analysis that is not skipped returns the trace of the whole table. -/
theorem returnsCascade_of_parse (hfinite : cfg.arith.KeepsFinite)
    (hparse : AnalyzerTools.parseSqlIntent acfg contract.rawSql = (table, condition))
    (htable : table ≠ "") (hverb : verb contract.rawSql ∈ ["DELETE", "UPDATE"])
    (hskips : skips contract = false) {cascade : List CascadeEntry} :
    ReturnsCascade acfg cfg db reply now contract cascade ↔
      (fkGraph cfg db table).levels.map entryOf = cascade := by
  obtain ⟨facts, c', hfacts, hanalyze, hwrote⟩ :=
    analyze_reader acfg hfinite db reply now hskips
  have hprimary : (parsed acfg contract).primaryTable = table := by
    unfold parsed
    rw [hparse]
    exact if_neg htable
  have hoperation : (parsed acfg contract).operationType ∈ [OperationType.delete, .update] := by
    rw [parsed_operationType, classify_of_verb acfg hverb]
    split <;> decide
  have hwritten : c'.cascade = (fkGraph cfg db table).levels.map entryOf := by
    rw [hwrote.cascade, hfacts.cascade, if_pos ⟨hprimary ▸ htable, hoperation⟩, hprimary]
  rw [← hwritten]
  unfold ReturnsCascade
  rw [hanalyze]
  constructor
  · rintro ⟨c, hc, hsame⟩
    obtain rfl := Option.some.inj hc
    exact hsame
  · exact fun hsame => ⟨c', rfl, hsame⟩

/-! ## A condition that one row satisfies -/

/-- Text without characters beyond ASCII. -/
def plainAnalyzer : AnalyzerConfig where
  wide _ := false
  printable _ := true
  texts := .decimals
  readInt _ := none

/-- Python's arithmetic, on the numbers of the examples. -/
def plainReader : ReaderConfig where
  wide _ := false
  cases := Py.CaseMap.ascii
  arith :=
    { scale := fun rows child parent => (rows * child).tdiv parent
      degrade := fun
        | .finite q => .finite (q * 4 / 5)
        | x => x }

theorem plainReader_keepsFinite : plainReader.arith.KeepsFinite := fun q => ⟨q * 4 / 5, rfl⟩

/-- 1,000 users with 5,000 orders; the planner expects `rows` users to satisfy a condition. -/
def usersAndOrders (rows : ℤ) : ReaderDatabase where
  statsRow table := if table = "users" then some ⟨1000, some (.finite 1)⟩ else none
  explainRows _ := some rows
  triggers _ := []
  installedExtensions := []
  cascadeChildren table :=
    if table = "users" then [⟨"orders", "user_id", "id", "CASCADE"⟩] else []
  reltuples table :=
    if table = "users" then some 1000 else if table = "orders" then some 5000 else none
  softDeleteColumn _ := none

/-- A contract for the deletion of one user. -/
def deleteUser : HandoffContract := { sampleContract with rawSql := "DELETE FROM users WHERE id = 7" }

theorem parse_deleteUser :
    AnalyzerTools.parseSqlIntent plainAnalyzer deleteUser.rawSql = ("users", "id = 7") := by
  decide

theorem verb_deleteUser : verb deleteUser.rawSql ∈ ["DELETE", "UPDATE"] := by decide

theorem skips_deleteUser : skips deleteUser = false := by decide

/-- One user is deleted with five orders; the contract says 5,000. -/
theorem cascade_ignores_condition :
    ¬ ReturnsCascade plainAnalyzer plainReader (usersAndOrders 1) none 0 deleteUser
      (conditionedCascade plainReader (usersAndOrders 1) "users" "id = 7") := by
  rw [returnsCascade_of_parse plainReader_keepsFinite parse_deleteUser (by decide)
    verb_deleteUser skips_deleteUser, fkGraph_entries_iff]
  intro hshares
  have hsame := hshares ⟨"orders", "user_id", "id", "CASCADE"⟩ (List.mem_singleton.mpr rfl)
    (by decide)
  revert hsame
  decide

/-! ## When the cascade reflects the condition -/

/-- **When the cascade reflects the condition.** After the analysis of a `DELETE` or `UPDATE`
whose table and condition are extracted, the cascade is the trace of the table with the condition
exactly when all direct children get the same estimates from the whole table, or, where the
analysis is skipped, when it was that trace already. -/
theorem cascade_reflects_condition_iff (hfinite : cfg.arith.KeepsFinite)
    (hparse : AnalyzerTools.parseSqlIntent acfg contract.rawSql = (table, condition))
    (htable : table ≠ "") (hverb : verb contract.rawSql ∈ ["DELETE", "UPDATE"]) :
    ReturnsCascade acfg cfg db reply now contract (conditionedCascade cfg db table condition) ↔
      if skips contract then contract.cascade = conditionedCascade cfg db table condition
      else SameShares cfg db table condition := by
  cases hskips : skips contract with
  | true => rw [returnsCascade_of_skips hskips, if_pos rfl]
  | false =>
    rw [returnsCascade_of_parse hfinite hparse htable hverb hskips, fkGraph_entries_iff,
      if_neg (by decide)]

/-- A condition that the planner expects all users to satisfy. -/
theorem cascade_reflects_all_users :
    ReturnsCascade plainAnalyzer plainReader (usersAndOrders 1000) none 0 deleteUser
      (conditionedCascade plainReader (usersAndOrders 1000) "users" "id = 7") := by
  have hshares : SameShares plainReader (usersAndOrders 1000) "users" "id = 7" := by
    intro child hchild _
    obtain rfl := List.mem_singleton.mp hchild
    decide
  refine (cascade_reflects_condition_iff plainReader_keepsFinite parse_deleteUser (by decide)
    verb_deleteUser).mpr ?_
  rw [skips_deleteUser]
  exact hshares

end ReaderTools
