import ContraGate.FieldOwnership
import ContraGate.PermanentComponents

/-!
# Which fields a second analysis changes

After a modification the analysis is to be selective: only the fields in `stale_fields` are to be
written again. The agent looks at the list only to see whether it can skip everything; otherwise
all fields of the analysis are written. So what stays as it is depends on the replies, except for
the fields that follow from the statement alone.
-/

open HandoffContract

namespace AnalyzerAgent

variable {cfg : AnalyzerConfig} {reader : PostgresTools}

/-! ## Selective re-analysis -/

/-- Whatever the reader and the LLM reply, only stale fields change, and the provenance grows. -/
def TouchesOnlyStale (cfg : AnalyzerConfig) (c : HandoffContract) : Prop :=
  ∀ reader reply now c', analyze cfg reader reply now c = some c' →
    ChangesOnly (c.staleFields ++ ["workflow_provenance"]) c c' ∧
      c.workflowProvenance <+: c'.workflowProvenance

/-- The value of the field after the analysis of a parsed contract depends on the replies. -/
def DependsOnReplies (p : HandoffContract) : ContractField → Prop
  | .intentSummary => True
  | .estimatedPrimaryRows | .rowConfidence | .externalTriggers => p.primaryTable ≠ ""
  | .cascade => Changes p
  | .reversibility | .reversibilityReason =>
    p.primaryTable ≠ "" ∧ p.operationType ∉ [OperationType.ddl, .unknown]
  | .permanentComponents =>
    p.primaryTable ≠ "" ∧ p.operationType ∉ [OperationType.select, .insert]
  | _ => False

/-- The facts of a reader that is down. -/
def quietFacts (p : HandoffContract) : ReaderFacts where
  rows := .int 0
  confidence := .float (.finite 0)
  triggerResult :=
    if p.primaryTable ≠ "" then
      .obj [("triggers", .arr []), ("has_permanent_side_effects", .bool false),
        ("non_transactional_triggers", .arr [])]
    else .obj []
  external := if p.primaryTable ≠ "" then [] else p.externalTriggers
  cascade := if Changes p then [] else p.cascade
  hasSoftDelete := false
  triggerAnalysis :=
    { table := p.primaryTable, triggers := [], hasPermanentSideEffects := false
      nonTransactionalTriggers := [] }

/-! ## What the facts are written to -/

namespace ReaderFacts

/-- The outcome of `classify_reversibility` on the facts. -/
def outcome (facts : ReaderFacts) (cfg : AnalyzerConfig) (p : HandoffContract) :
    Except ReversibilityError ReversibilityResult :=
  ReversibilityRules.classifyReversibility cfg.texts p.operationType.value p.primaryTable
    facts.hasSoftDelete facts.triggerAnalysis false none facts.rows

/-- The class that is written. -/
def reversibility (facts : ReaderFacts) (cfg : AnalyzerConfig) (p : HandoffContract) :
    ReversibilityClass :=
  ((facts.outcome cfg p).toOption.map (·.classification)).getD .permanent

/-- The reason that is written. -/
def reversibilityReason (facts : ReaderFacts) (cfg : AnalyzerConfig) (p : HandoffContract) :
    String :=
  match facts.outcome cfg p with
  | .ok result => result.reason
  | .error (.valueError exc) => s!"Classification error — defaulting to PERMANENT: {exc}"
  | .error .typeError => p.reversibilityReason

/-- What is written, field by field. -/
def written (facts : ReaderFacts) (cfg : AnalyzerConfig) (p : HandoffContract) : HandoffContract :=
  { p with
    estimatedPrimaryRows := facts.rows
    rowConfidence := facts.confidence
    externalTriggers := facts.external
    cascade := facts.cascade
    reversibility := some (facts.reversibility cfg p)
    reversibilityReason := facts.reversibilityReason cfg p
    automatedRecoverySql :=
      if (facts.outcome cfg p).toOption.isSome then none else p.automatedRecoverySql
    permanentComponents :=
      AnalyzerTools.identifyPermanentComponents (some (facts.reversibility cfg p))
        p.operationType p.primaryTable facts.external facts.cascade }

/-- The extensions could be listed. -/
def Listed (facts : ReaderFacts) (cfg : AnalyzerConfig) (p : HandoffContract) : Prop :=
  facts.outcome cfg p ≠ .error .typeError

theorem write_of_listed {facts : ReaderFacts} {cfg : AnalyzerConfig} {p : HandoffContract}
    (h : facts.Listed cfg p) : facts.write cfg p = some (facts.written cfg p) := by
  unfold Listed at h
  unfold ReaderFacts.write writeReversibility written reversibility reversibilityReason
  dsimp only
  rw [← outcome]
  match facts.outcome cfg p, h with
  | .ok _, _ | .error (.valueError _), _ => rfl
  | .error .typeError, h => exact absurd rfl h

/-- Otherwise nothing is written. -/
theorem listed_of_write {facts : ReaderFacts} {cfg : AnalyzerConfig} {p c : HandoffContract}
    (h : facts.write cfg p = some c) : facts.Listed cfg p := by
  intro hraised
  rw [outcome] at hraised
  unfold ReaderFacts.write writeReversibility at h
  dsimp only at h
  rw [hraised] at h
  cases h

end ReaderFacts

variable {facts facts' : ReaderFacts} {p : HandoffContract}

theorem outcome_class (h : facts.Listed cfg p) :
    (facts.outcome cfg p).toOption.map (·.classification) =
      analyzedClass p.operationType facts.hasSoftDelete
        facts.triggerAnalysis.hasPermanentSideEffects :=
  classification_eq h

theorem reversibility_eq (h : facts.Listed cfg p) :
    facts.reversibility cfg p = (analyzedClass p.operationType facts.hasSoftDelete
      facts.triggerAnalysis.hasPermanentSideEffects).getD .permanent := by
  rw [ReaderFacts.reversibility, outcome_class h]

/-- Whether `classify_reversibility` raises a `ValueError` depends on the type alone. -/
theorem outcome_isSome (h : facts.Listed cfg p) :
    (facts.outcome cfg p).toOption.isSome = decide (p.operationType ≠ .unknown) := by
  rw [← Option.isSome_map (f := fun r : ReversibilityResult => r.classification),
    outcome_class h]
  unfold analyzedClass
  cases p.operationType with
  | delete | update =>
    dsimp only
    split <;> rfl
  | _ => rfl

/-- For DDL and unknown types the outcome depends on nothing else. -/
theorem outcome_of_fixed (hop : p.operationType ∈ [OperationType.ddl, .unknown]) :
    facts.outcome cfg p = facts'.outcome cfg p := by
  unfold ReaderFacts.outcome
  rcases List.mem_pair.mp hop with hop | hop <;> rw [hop] <;> rfl

/-- What the statement alone makes of a contract. -/
def statementOnly (cfg : AnalyzerConfig) (c : HandoffContract) : HandoffContract :=
  (quietFacts (parsed cfg c)).written cfg (parsed cfg c)

/-- The stale fields are all that depend on the replies, and the others have their values
already. -/
structure StaleCover (cfg : AnalyzerConfig) (c : HandoffContract) : Prop where
  covers : ∀ f, DependsOnReplies (parsed cfg c) f → f.name ∈ c.staleFields
  settled : ∀ f, ¬ DependsOnReplies (parsed cfg c) f → f.name ∉ c.staleFields →
    f.get (statementOnly cfg c) = f.get c

/-! ## What does not depend on the replies -/

/-- Without a table nothing is asked, and the facts are those of a reader that is down. -/
theorem written_of_unknown (hfacts : facts.Of cfg reader p) (htable : p.primaryTable = "") :
    facts.written cfg p = (quietFacts p).written cfg p := by
  have hknown : ¬ p.primaryTable ≠ "" := not_not.mpr htable
  have hchanges : ¬ Changes p := fun h => hknown h.1
  have hrows : facts.rows = .int 0 ∧ facts.confidence = .float (.finite 0) := by
    have hrows := hfacts.rows
    unfold countAffectedRows at hrows
    rw [if_pos htable] at hrows
    have hpair := Option.some.inj hrows
    exact ⟨(congrArg Prod.fst hpair).symm, (congrArg Prod.snd hpair).symm⟩
  have hexternal : facts.external = p.externalTriggers := by
    have h := hfacts.external
    rw [if_neg hknown] at h
    exact (Option.some.inj h).symm
  have hcascade : facts.cascade = p.cascade := by
    have h := hfacts.cascade
    rw [if_neg hchanges] at h
    exact (Option.some.inj h).symm
  have hsoft : facts.hasSoftDelete = false := by
    have h := hfacts.hasSoftDelete
    rw [if_neg hchanges] at h
    exact (Option.some.inj h).symm
  have hanalysis : facts.triggerAnalysis = (quietFacts p).triggerAnalysis := by
    have hreply := hfacts.triggerResult
    have h := hfacts.triggerAnalysis
    rw [if_neg hknown] at hreply
    rw [← Option.some.inj hreply] at h
    exact (Option.some.inj h).symm
  have hquiet : (quietFacts p).external = p.externalTriggers ∧
      (quietFacts p).cascade = p.cascade := ⟨if_neg hknown, if_neg hchanges⟩
  have houtcome : facts.outcome cfg p = (quietFacts p).outcome cfg p := by
    unfold ReaderFacts.outcome
    rw [hsoft, hanalysis, hrows.1]
    rfl
  unfold ReaderFacts.written ReaderFacts.reversibility ReaderFacts.reversibilityReason
  rw [houtcome, hrows.1, hrows.2, hexternal, hcascade, hquiet.1, hquiet.2]
  rfl

/-- No extension has to be listed. -/
theorem quietFacts_listed : (quietFacts p).Listed cfg p :=
  ReversibilityRules.classifyReversibility_ne_typeError _ (List.forall_mem_nil _)

/-- A field that does not depend on the replies gets the value that the statement gives it. -/
theorem get_written_of_settled (hfacts : facts.Of cfg reader p) (hlisted : facts.Listed cfg p)
    {f : ContractField} (hsettled : ¬ DependsOnReplies p f) :
    f.get (facts.written cfg p) = f.get ((quietFacts p).written cfg p) := by
  by_cases htable : p.primaryTable = ""
  · rw [written_of_unknown hfacts htable]
  · have hfixed : ¬ (p.primaryTable ≠ "" ∧ p.operationType ∉ [OperationType.ddl, .unknown]) →
        facts.outcome cfg p = (quietFacts p).outcome cfg p := fun h =>
      outcome_of_fixed (not_not.mp fun hop => h ⟨htable, hop⟩)
    have hquiet : (quietFacts p).Listed cfg p := quietFacts_listed
    cases f with
    | intentSummary => exact absurd trivial hsettled
    | estimatedPrimaryRows | rowConfidence | externalTriggers => exact absurd htable hsettled
    | cascade =>
      have hchanges : ¬ Changes p := hsettled
      have hcascade := hfacts.cascade
      rw [if_neg hchanges] at hcascade
      change facts.cascade = (quietFacts p).cascade
      rw [← Option.some.inj hcascade]
      exact (if_neg hchanges).symm
    | reversibility =>
      change some (facts.reversibility cfg p) = some ((quietFacts p).reversibility cfg p)
      unfold ReaderFacts.reversibility
      rw [hfixed hsettled]
    | reversibilityReason =>
      change facts.reversibilityReason cfg p = (quietFacts p).reversibilityReason cfg p
      unfold ReaderFacts.reversibilityReason
      rw [hfixed hsettled]
    | automatedRecoverySql =>
      change ite _ _ _ = ite _ _ _
      rw [outcome_isSome hlisted, outcome_isSome hquiet]
    | permanentComponents =>
      -- a type that is never permanent has no components
      have hop : p.operationType ∈ [OperationType.select, .insert] :=
        not_not.mp fun hop => hsettled ⟨htable, hop⟩
      have hnone : ∀ facts : ReaderFacts, facts.Listed cfg p →
          some (facts.reversibility cfg p) ≠ some .permanent := by
        intro facts hlisted
        rw [reversibility_eq hlisted]
        unfold analyzedClass
        rcases List.mem_pair.mp hop with hop | hop <;> rw [hop] <;> dsimp only <;> split <;> decide
      change AnalyzerTools.identifyPermanentComponents _ _ _ _ _ =
        AnalyzerTools.identifyPermanentComponents _ _ _ _ _
      unfold AnalyzerTools.identifyPermanentComponents
      rw [if_pos (hnone facts hlisted), if_pos (hnone (quietFacts p) hquiet)]
    | _ => rfl

/-! ## What does

A reader that is down and one that reports something for everything leave different values. -/

/-- The facts of a reader that is down. -/
theorem quietFacts_of (p : HandoffContract) :
    (quietFacts p).Of cfg (fun _ _ => .mcpCallError "down") p where
  rows := by
    unfold countAffectedRows
    dsimp only
    split <;> rfl
  triggerResult := by
    unfold quietFacts
    dsimp only
    split <;> rfl
  external := by
    unfold quietFacts
    dsimp only
    split <;> rfl
  cascade := by
    unfold quietFacts
    dsimp only
    split <;> rfl
  hasSoftDelete := by
    split <;> rfl
  triggerAnalysis := by
    unfold quietFacts
    dsimp only
    split <;> rfl

/-- A reader that reports a row, a trigger that calls out, a cascade and a soft-delete column. -/
def busyReader : PostgresTools := fun tool _ =>
  if tool = "estimate_row_count" then
    .result (.obj [("estimated_rows", .int 1), ("confidence", .float (.finite 1))])
  else if tool = "list_triggers" then
    .result (.obj [("triggers", .arr []), ("has_permanent_side_effects", .bool true),
      ("non_transactional_triggers", .arr [.obj [("trigger_name", .str "notify")]])])
  else if tool = "get_fk_graph" then
    .result (.obj [("levels", .arr [.obj [("table_name", .str "items")]])])
  else .result (.obj [("has_soft_delete", .bool true)])

/-- Its facts of a known table. -/
def busyFacts (p : HandoffContract) : ReaderFacts where
  rows := .int 1
  confidence := .float (.finite 1)
  triggerResult := .obj [("triggers", .arr []), ("has_permanent_side_effects", .bool true),
    ("non_transactional_triggers", .arr [.obj [("trigger_name", .str "notify")]])]
  external := [{ triggerName := "notify", event := "UNKNOWN", extension := "unknown"
                 estimatedCalls := some 1, targetEndpoint := none }]
  cascade :=
    if Changes p then
      [{ table := "items", estimatedRows := 0, cascadeAction := "CASCADE", depth := 1 }]
    else p.cascade
  hasSoftDelete := decide (Changes p)
  triggerAnalysis :=
    { table := p.primaryTable, triggers := [], hasPermanentSideEffects := true
      nonTransactionalTriggers := [] }

theorem busyFacts_of (htable : p.primaryTable ≠ "") : (busyFacts p).Of cfg busyReader p where
  rows := by
    unfold countAffectedRows
    rw [if_neg htable]
    rfl
  triggerResult := by
    rw [if_pos htable]
    rfl
  external := by
    rw [if_pos htable]
    rfl
  cascade := by
    unfold busyFacts
    dsimp only
    split <;> rfl
  hasSoftDelete := by
    unfold busyFacts
    dsimp only
    split_ifs with h <;> simp [h]; rfl
  triggerAnalysis := rfl

theorem busyFacts_listed : (busyFacts p).Listed cfg p :=
  ReversibilityRules.classifyReversibility_ne_typeError _ (List.forall_mem_nil _)

/-- The reasons without side effects begin with other letters than the one with them. -/
theorem quiet_reason (hop : p.operationType ∉ [OperationType.ddl, .unknown]) :
    ((quietFacts p).reversibilityReason cfg p).toList.head? ≠ some 'D' := by
  unfold ReaderFacts.reversibilityReason ReaderFacts.outcome
  cases htype : p.operationType with
  | ddl | unknown => exact absurd htype (by rintro h; simp [h] at hop)
  | select =>
    change "Read-only operation; no data modification".toList.head? ≠ some 'D'
    decide
  | insert =>
    change s!"INSERT rows can be deleted by primary key ({(0 : ℤ)} row(s) estimated)".toList.head? ≠
      some 'D'
    decide
  | delete | update =>
    change (ReversibilityResult.reason _).toList.head? ≠ _
    simp only [String.toList_append]
    exact fun h => by cases h

theorem busy_reason (htable : p.primaryTable ≠ "")
    (hop : p.operationType ∉ [OperationType.ddl, .unknown]) :
    ((busyFacts p).reversibilityReason cfg p).toList.head? = some 'D' := by
  have hsoft : p.operationType ∈ [OperationType.delete, .update] →
      (busyFacts p).hasSoftDelete = true := fun h => decide_eq_true ⟨htable, h⟩
  unfold ReaderFacts.reversibilityReason ReaderFacts.outcome
  cases htype : p.operationType with
  | ddl | unknown => exact absurd htype (by rintro h; simp [h] at hop)
  | select | insert =>
    change (ReversibilityResult.reason _).toList.head? = _
    simp only [String.toList_append]
    rfl
  | delete | update =>
    rw [hsoft (by rw [htype]; decide)]
    change (ReversibilityResult.reason _).toList.head? = _
    simp only [String.toList_append]
    rfl

/-- How many components a permanent operation on a known table has. -/
theorem length_permanentComponents {opType : OperationType} {table : String} (htable : table ≠ "")
    {external : List ExternalTrigger} {cascade : List CascadeEntry} :
    (AnalyzerTools.identifyPermanentComponents (some .permanent) opType table external
      cascade).length =
      (if opType = .ddl then 1 else 0) + external.length + 1 + cascade.length := by
  unfold AnalyzerTools.identifyPermanentComponents
  rw [if_neg (not_not.mpr rfl), if_neg htable]
  simp only [List.length_append, List.length_map, List.length_singleton]
  congr 3
  split <;> rfl

/-- What the two leave as class. -/
theorem reversibility_ne
    (hdepends : DependsOnReplies p .reversibility) :
    (quietFacts p).reversibility cfg p ≠ (busyFacts p).reversibility cfg p := by
  obtain ⟨htable, hop⟩ := hdepends
  have hsoft : (busyFacts p).hasSoftDelete =
      decide (p.operationType ∈ [OperationType.delete, .update]) :=
    decide_eq_decide.mpr (and_iff_right htable)
  rw [reversibility_eq quietFacts_listed, reversibility_eq busyFacts_listed, hsoft]
  change (analyzedClass _ false false).getD _ ≠ (analyzedClass _ _ true).getD _
  revert hop
  generalize p.operationType = op
  cases op <;> decide

/-- The components that an analysis with these facts lists. -/
def listedComponents (cfg : AnalyzerConfig) (facts : ReaderFacts) (p : HandoffContract) :
    List String :=
  AnalyzerTools.identifyPermanentComponents (some (facts.reversibility cfg p)) p.operationType
    p.primaryTable facts.external facts.cascade

/-- A permanent change lists its rows, a partial one nothing. -/
theorem listedComponents_ne_of_changes (hchanges : Changes p) :
    (listedComponents cfg (quietFacts p) p).length ≠
      (listedComponents cfg (busyFacts p) p).length := by
  have hsoft : (busyFacts p).hasSoftDelete = true := decide_eq_true hchanges
  have hpermanent : (analyzedClass p.operationType (quietFacts p).hasSoftDelete
      (quietFacts p).triggerAnalysis.hasPermanentSideEffects).getD .permanent = .permanent := by
    rcases List.mem_pair.mp hchanges.2 with h | h <;> rw [h] <;> rfl
  have hpartial : (analyzedClass p.operationType (busyFacts p).hasSoftDelete
      (busyFacts p).triggerAnalysis.hasPermanentSideEffects).getD .permanent =
      .partiallyReversible := by
    rw [hsoft]
    rcases List.mem_pair.mp hchanges.2 with h | h <;> rw [h] <;> rfl
  intro hlength
  unfold listedComponents at hlength
  rw [reversibility_eq quietFacts_listed, reversibility_eq busyFacts_listed, hpermanent, hpartial,
    length_permanentComponents hchanges.1] at hlength
  change _ = 0 at hlength
  omega

/-- The types that are always permanent list one trigger more. -/
theorem listedComponents_ne_of_fixed (htable : p.primaryTable ≠ "")
    (hfixed : p.operationType ∈ [OperationType.ddl, .unknown]) :
    (listedComponents cfg (quietFacts p) p).length ≠
      (listedComponents cfg (busyFacts p) p).length := by
  have hpermanent : ∀ soft effects,
      (analyzedClass p.operationType soft effects).getD .permanent = .permanent := by
    intro soft effects
    rcases List.mem_pair.mp hfixed with h | h <;> rw [h] <;> rfl
  have hchanges : ¬ Changes p := by
    rintro ⟨-, hchange⟩
    revert hfixed hchange
    generalize p.operationType = op
    cases op <;> decide
  have hquiet : (quietFacts p).external = [] := if_pos htable
  have hcascade : (quietFacts p).cascade = p.cascade ∧ (busyFacts p).cascade = p.cascade :=
    ⟨if_neg hchanges, if_neg hchanges⟩
  intro hlength
  unfold listedComponents at hlength
  rw [reversibility_eq quietFacts_listed, reversibility_eq busyFacts_listed, hpermanent,
    hpermanent, length_permanentComponents htable, length_permanentComponents htable, hcascade.1,
    hcascade.2, hquiet] at hlength
  change _ + 0 + 1 + _ = _ + 1 + 1 + _ at hlength
  omega

/-- The two leave different values in every field that depends on the replies. -/
theorem get_written_ne {f : ContractField} (hsummary : f ≠ .intentSummary)
    (hdepends : DependsOnReplies p f) :
    f.get ((quietFacts p).written cfg p) ≠ f.get ((busyFacts p).written cfg p) := by
  cases f with
  | intentSummary => exact absurd rfl hsummary
  | estimatedPrimaryRows => exact fun h : Py.Number.int 0 = .int 1 => by cases h
  | rowConfidence =>
    intro h
    have hconfidence : Py.Float.finite 0 = .finite 1 := Py.Json.float.inj h
    revert hconfidence
    decide
  | externalTriggers =>
    have htable : p.primaryTable ≠ "" := hdepends
    change (quietFacts p).external ≠ (busyFacts p).external
    unfold quietFacts busyFacts
    dsimp only
    rw [if_pos htable]
    exact (List.cons_ne_nil _ _).symm
  | cascade =>
    have hchanges : Changes p := hdepends
    change (quietFacts p).cascade ≠ (busyFacts p).cascade
    unfold quietFacts busyFacts
    dsimp only
    rw [if_pos hchanges, if_pos hchanges]
    exact (List.cons_ne_nil _ _).symm
  | reversibility => exact fun h => reversibility_ne hdepends (Option.some.inj h)
  | reversibilityReason =>
    obtain ⟨htable, hop⟩ := hdepends
    exact fun h => quiet_reason hop ((congrArg (·.toList.head?) h).trans (busy_reason htable hop))
  | permanentComponents =>
    obtain ⟨htable, hop⟩ := hdepends
    refine fun h => absurd (congrArg List.length h) ?_
    by_cases hchanges : Changes p
    · exact listedComponents_ne_of_changes hchanges
    · refine listedComponents_ne_of_fixed htable ?_
      have hchange : p.operationType ∉ [OperationType.delete, .update] := fun h =>
        hchanges ⟨htable, h⟩
      revert hop hchange
      generalize p.operationType = op
      cases op <;> decide
  | _ => exact absurd hdepends id

/-! ## The analysis of a contract -/

/-- An analysis that is not skipped writes the facts of the replies, and a summary. -/
theorem analyze_spec {reply : LlmReply} {now : Time} {c c' : HandoffContract}
    (hskips : skips c = false) (h : analyze cfg reader reply now c = some c') :
    ∃ facts : ReaderFacts, facts.Of cfg reader (parsed cfg c) ∧
      facts.Listed cfg (parsed cfg c) ∧
      ∀ f : ContractField, f ≠ .intentSummary → f ≠ .workflowProvenance →
        f.get c' = f.get (facts.written cfg (parsed cfg c)) := by
  obtain ⟨facts, written, entry, hfacts, hwrite, rfl⟩ := facts_of_analyze hskips h
  have hlisted := ReaderFacts.listed_of_write hwrite
  refine ⟨facts, hfacts, hlisted, fun f hsummary hprovenance => ?_⟩
  rw [← Option.some.inj (hwrite.symm.trans (ReaderFacts.write_of_listed hlisted))]
  cases f with
  | intentSummary => exact absurd rfl hsummary
  | workflowProvenance => exact absurd rfl hprovenance
  | _ => rfl

/-- Replies with facts give a contract with these and the summary of the LLM. -/
theorem exists_analyze {facts : ReaderFacts} {c : HandoffContract} (hskips : skips c = false)
    (hfacts : facts.Of cfg reader (parsed cfg c)) (hlisted : facts.Listed cfg (parsed cfg c))
    (reply : LlmReply) (now : Time) :
    ∃ c', analyze cfg reader reply now c = some c' ∧
      c'.intentSummary = getIntentSummary cfg reply (facts.written cfg (parsed cfg c)) ∧
      ∀ f : ContractField, f ≠ .intentSummary → f ≠ .workflowProvenance →
        f.get c' = f.get (facts.written cfg (parsed cfg c)) := by
  have hgather := (gatherFacts_of_facts hfacts).trans (ReaderFacts.write_of_listed hlisted)
  generalize facts.written cfg (parsed cfg c) = written at hgather ⊢
  unfold analyze
  rw [hskips, if_neg Bool.false_ne_true, hgather]
  refine ⟨_, rfl, rfl, fun f hsummary hprovenance => ?_⟩
  cases f with
  | intentSummary => exact absurd rfl hsummary
  | workflowProvenance => exact absurd rfl hprovenance
  | _ => rfl

/-- A reply with a summary. -/
def summaryReply (summary : String) : LlmReply :=
  some [{ type := "tool_use", name := intentSummaryToolName
          input := [("intent_summary", .str summary)] }]

theorem getIntentSummary_summaryReply {summary : String} (h : summary ≠ "") (c : HandoffContract) :
    getIntentSummary cfg (summaryReply summary) c = .str summary := by
  have hsummary : summaryOf (summaryReply summary) = some (.str summary) := by
    unfold summaryOf summaryReply
    simp [Py.Dict.getD, Py.Json.truthy, h]
  rw [getIntentSummary, hsummary]
  rfl

/-! ## Selectivity -/

theorem get_statementOnly_provenance (c : HandoffContract) :
    ContractField.workflowProvenance.get (statementOnly cfg c) =
      ContractField.workflowProvenance.get c := by
  have hparsed : (parsed cfg c).workflowProvenance = c.workflowProvenance := by
    unfold parsed
    generalize AnalyzerTools.parseSqlIntent cfg c.rawSql = parse
    generalize AnalyzerTools.classifyOperationType cfg c.rawSql = opType
    rfl
  unfold statementOnly
  generalize parsed cfg c = p at hparsed ⊢
  exact hparsed

/-- With the fields covered no other field changes. -/
theorem touchesOnlyStale_of_cover {c : HandoffContract} (h : StaleCover cfg c) :
    TouchesOnlyStale cfg c := by
  intro reader reply now c' hanalyze
  refine ⟨fun f hf => ?_, (analyze_owned hanalyze).provenance⟩
  rw [List.mem_append, not_or, List.mem_singleton] at hf
  obtain ⟨hstale, hprovenance⟩ := hf
  cases hskips : skips c with
  | true =>
    rw [analyze_of_skips hskips] at hanalyze
    rw [Option.some.inj hanalyze]
  | false =>
    obtain ⟨facts, hfacts, hlisted, hget⟩ := analyze_spec hskips hanalyze
    have hdepends : ¬ DependsOnReplies (parsed cfg c) f := fun h' => hstale (h.covers f h')
    have hsummary : f ≠ .intentSummary := by
      rintro rfl
      exact hdepends trivial
    rw [hget f hsummary (by rintro rfl; exact hprovenance rfl),
      get_written_of_settled hfacts hlisted hdepends]
    exact h.settled f hdepends hstale

/-- A field that is not stale is the same for all replies, so none of these depends on them. -/
theorem cover_of_touchesOnlyStale {c : HandoffContract} (hskips : skips c = false)
    (h : TouchesOnlyStale cfg c) : StaleCover cfg c := by
  obtain ⟨c₁, h₁, hsummary₁, hget₁⟩ := exists_analyze hskips (quietFacts_of (parsed cfg c))
    quietFacts_listed (summaryReply "one") 0
  obtain ⟨c₂, h₂, hsummary₂, -⟩ := exists_analyze hskips (quietFacts_of (parsed cfg c))
    quietFacts_listed (summaryReply "two") 0
  have hkept : ∀ f : ContractField, f.name ∉ c.staleFields → f ≠ .workflowProvenance →
      ∀ reader reply now c', analyze cfg reader reply now c = some c' → f.get c' = f.get c := by
    intro f hstale hprovenance reader reply now c' hanalyze
    refine (h reader reply now c' hanalyze).1 f ?_
    rw [List.mem_append, not_or, List.mem_singleton]
    refine ⟨hstale, ?_⟩
    revert hprovenance
    cases f <;> decide
  constructor
  · intro f hdepends
    by_contra hstale
    by_cases hsummary : f = .intentSummary
    · subst hsummary
      have heq : c₁.intentSummary = c₂.intentSummary :=
        (hkept _ hstale (by decide) _ _ _ _ h₁).trans (hkept _ hstale (by decide) _ _ _ _ h₂).symm
      rw [hsummary₁, hsummary₂, getIntentSummary_summaryReply (by decide),
        getIntentSummary_summaryReply (by decide)] at heq
      exact absurd (Py.Json.str.inj heq) (by decide)
    · have hprovenance : f ≠ .workflowProvenance := by
        rintro rfl
        exact hdepends
      have htable : (parsed cfg c).primaryTable ≠ "" := by
        cases f with
        | intentSummary => exact absurd rfl hsummary
        | estimatedPrimaryRows | rowConfidence | externalTriggers => exact hdepends
        | cascade | reversibility | reversibilityReason | permanentComponents => exact hdepends.1
        | _ => exact absurd hdepends id
      obtain ⟨c₃, h₃, -, hget₃⟩ := exists_analyze hskips (busyFacts_of htable) busyFacts_listed none 0
      have hne := @get_written_ne cfg _ f hsummary hdepends
      refine hne ?_
      rw [← hget₁ f hsummary hprovenance, ← hget₃ f hsummary hprovenance,
        hkept f hstale hprovenance _ _ _ _ h₁, hkept f hstale hprovenance _ _ _ _ h₃]
  · intro f hdepends hstale
    by_cases hprovenance : f = .workflowProvenance
    · rw [hprovenance]
      exact get_statementOnly_provenance c
    · have hsummary : f ≠ .intentSummary := by
        rintro rfl
        exact hdepends trivial
      rw [← hkept f hstale hprovenance _ _ _ _ h₁, hget₁ f hsummary hprovenance, statementOnly]

/-- **Only stale fields change if the analysis is skipped, or all fields that depend on the replies
are stale** and the others have the values that the statement gives them. -/
theorem touchesOnlyStale_iff (c : HandoffContract) :
    TouchesOnlyStale cfg c ↔ skips c = true ∨ StaleCover cfg c := by
  constructor
  · intro h
    cases hskips : skips c with
    | true => exact .inl rfl
    | false => exact .inr (cover_of_touchesOnlyStale hskips h)
  · rintro (hskips | hcover)
    · intro reader reply now c' hanalyze
      rw [analyze_of_skips hskips] at hanalyze
      obtain rfl := Option.some.inj hanalyze
      exact ⟨.refl _ c, List.prefix_rfl⟩
    · exact touchesOnlyStale_of_cover hcover

/-- A second round for the row count of a `DELETE`. -/
def secondRound : HandoffContract :=
  { orderContract "DELETE FROM orders WHERE id = 1" with
    intentSummary := .str "Delete one order"
    reanalysisCount := 1
    staleFields := ["estimated_primary_rows"] }

/-- Only the row count is stale, and the summary that the reviewer has seen is written again. -/
theorem summary_rewritten :
    ¬ ∀ (cfg : AnalyzerConfig) (c : HandoffContract), needsSelectiveReanalysis c = true →
      TouchesOnlyStale cfg c := by
  intro hall
  have hreturns : (analyze .ascii (fun _ _ => .mcpCallError "down") none 0 secondRound).map
      (·.intentSummary.str?) = some (some "DELETE ~0 row(s) from 'orders' WHERE id = 1") := by decide
  obtain ⟨c', h, hsummary⟩ := Option.map_eq_some_iff.mp hreturns
  have hkept : c'.intentSummary = .str "Delete one order" :=
    (hall .ascii secondRound (by decide) _ _ _ _ h).1 .intentSummary (by decide)
  rw [hkept] at hsummary
  exact absurd hsummary (by decide)

end AnalyzerAgent
