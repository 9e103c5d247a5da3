import ContraGate.ReaderReplies
import ContraGate.ReversibilityTable

/-!
# The analysis with a healthy reader

With a healthy reader `analyze` always returns, and what it writes is a function of the statement
and the database: `Detected` says which.
-/

/-- `round(confidence * 0.8, 4)` of a finite number is finite. -/
def CascadeArith.KeepsFinite (arith : CascadeArith) : Prop :=
  ∀ q, ∃ p, arith.degrade (.finite q) = .finite p

namespace CascadeTracer

variable {arith : CascadeArith} {conn : CascadeCatalog} {maxDepth : ℕ}

/-- All confidences of a trace are finite. -/
theorem trace_confidence (hfinite : arith.KeepsFinite) {table : String} {rows : ℤ} {q : ℚ}
    {depth n : ℕ} {path : List String} (hn : depth + n = maxDepth + 1) :
    ∀ lvl ∈ (trace arith conn maxDepth table rows (.finite q) depth path {}).levels,
      ∃ p, lvl.confidence = .finite p := by
  induction n generalizing table rows q depth path with
  | zero =>
    rw [trace_of_gt _ _ _ _ (by omega)]
    intro lvl hlvl
    cases hlvl
  | succ n ih =>
    rw [trace_empty (by omega), TraceState.appendAll_levels]
    intro lvl hlvl
    obtain ⟨child, -, hvisit⟩ := List.mem_flatMap.mp hlvl
    unfold visit at hvisit
    split at hvisit
    · cases hvisit
    -- the level of the child, or one of those below it
    · obtain ⟨p, hp⟩ := hfinite q
      rcases List.mem_append.mp hvisit with hhead | hbelow
      · obtain rfl := List.mem_singleton.mp hhead
        exact ⟨p, hp⟩
      · have hconfidence : (levelOf arith conn table rows (.finite q) depth child).confidence =
            .finite p := hp
        unfold below at hbelow
        rw [hconfidence] at hbelow
        exact ih (by omega) lvl hbelow

end CascadeTracer

namespace ReaderTools

open AnalyzerAgent

variable (acfg : AnalyzerConfig) (cfg : ReaderConfig) (db : ReaderDatabase)

/-- The graph that `get_fk_graph` returns to the analyzer. -/
def fkGraph (table : String) : CascadeGraph :=
  CascadeTracer.traceCascades cfg.arith db.catalog table none

/-- The non-transactional triggers that `list_triggers` returns. -/
def nonTransactional (table : String) : List TriggerInfo :=
  (TriggerDetector.detectTriggers cfg.toTriggerText db.toTriggerCatalog
    table).nonTransactionalTriggers

/-- The triggers that `list_triggers` returns. -/
def detectedTriggers (table : String) : List TriggerInfo :=
  (TriggerDetector.detectTriggers cfg.toTriggerText db.toTriggerCatalog table).triggers

/-- The facts that the analysis learns about a parsed contract. -/
structure Detected (c : HandoffContract) (facts : ReaderFacts) : Prop where
  of : facts.Of acfg (reader cfg db) c
  cascade : facts.cascade =
    if Changes c then (fkGraph cfg db c.primaryTable).levels.map entryOf else c.cascade
  unknown : c.primaryTable = "" → facts.external = c.externalTriggers
  external : c.primaryTable ≠ "" →
    AnalyzerTools.estimateApiFanout ((nonTransactional cfg db c.primaryTable).map
      (externalOf (eventsOf (detectedTriggers cfg db c.primaryTable)))) facts.rows =
        some facts.external
  sideEffects : c.primaryTable ≠ "" → nonTransactional cfg db c.primaryTable ≠ [] →
    facts.triggerAnalysis.hasPermanentSideEffects = true
  extensions : ReversibilityRules.DeclaredExtensions facts.triggerAnalysis

variable {acfg cfg db} {c : HandoffContract} {facts : ReaderFacts}

theorem traceFkGraph_reader (hfinite : cfg.arith.KeepsFinite) (table : String) :
    traceFkGraph (reader cfg db) table = some (fkGraph cfg db table).toJson := by
  obtain ⟨q, hq⟩ := RowEstimator.estimateRows_confidence db.toTableStatistics table none
  have hlevels : ∀ lvl ∈ (fkGraph cfg db table).levels, ∃ p, lvl.confidence = .finite p := by
    unfold fkGraph CascadeTracer.traceCascades
    dsimp only [Option.getD_none, ReaderDatabase.catalog]
    rw [hq]
    exact CascadeTracer.trace_confidence (n := 5) hfinite rfl
  have hreply : reader cfg db "get_fk_graph" [("table", .str table)] =
      .result (fkGraph cfg db table).toJson :=
    reader_getFkGraph.trans (replyOf_of_encodable (encodable_graph hlevels))
  unfold traceFkGraph callTool
  rw [hreply]

/-- The facts are always found. -/
theorem exists_detected (acfg : AnalyzerConfig) (hfinite : cfg.arith.KeepsFinite)
    (db : ReaderDatabase) (c : HandoffContract) : ∃ facts, Detected acfg cfg db c facts := by
  obtain ⟨rows, confidence, hrows⟩ := countAffectedRows_reader cfg db c.primaryTable c.condition
  have hcascade : (if Changes c then
      (traceFkGraph (reader cfg db) c.primaryTable).bind (AnalyzerTools.buildCascadeEntries acfg)
      else some c.cascade) =
      some (if Changes c then (fkGraph cfg db c.primaryTable).levels.map entryOf
        else c.cascade) := by
    split
    · rw [traceFkGraph_reader hfinite, Option.bind_some, buildCascadeEntries_graph]
    · rfl
  have hsoft : (if Changes c then AnalyzerAgent.checkSoftDelete (reader cfg db) c.primaryTable
      else some false) =
      some (if Changes c then (db.softDeleteColumn c.primaryTable).isSome else false) := by
    split
    · exact checkSoftDelete_reader
    · rfl
  by_cases htable : c.primaryTable = ""
  -- no table, no triggers
  · refine ⟨⟨.int rows, confidence, .obj [], c.externalTriggers, _, _, _⟩,
      ⟨⟨hrows, by simp [htable], by simp [htable], hcascade, hsoft, rfl⟩, rfl, fun _ => rfl,
        fun h => absurd htable h, fun h => absurd htable h, ?_⟩⟩
    intro t ht
    cases ht
  · set detected := TriggerDetector.detectTriggers cfg.toTriggerText db.toTriggerCatalog
      c.primaryTable with hdetected
    have hfrom : FromDetector detected := fromDetector_detectTriggers _ _ _
    have hanalysis := buildTriggerAnalysis_toJson hfrom c.primaryTable
    have hexternal : (AnalyzerTools.buildExternalTriggers detected.toJson).bind (fun external =>
            AnalyzerTools.estimateApiFanout external (.int rows)) =
        some (((nonTransactional cfg db c.primaryTable).map
          (externalOf (eventsOf detected.triggers))).map fun t =>
            { t with estimatedCalls := some rows }) := by
      rw [buildExternalTriggers_toJson hfrom, Option.bind_some, AnalyzerTools.estimateApiFanout_int]
      rfl
    refine ⟨⟨.int rows, confidence, _, ((nonTransactional cfg db c.primaryTable).map
        (externalOf (eventsOf detected.triggers))).map fun t =>
          { t with estimatedCalls := some rows }, _, _, _⟩,
      { of := ⟨hrows, ?_, ?_, hcascade, hsoft, hanalysis⟩
        cascade := rfl
        unknown := fun h => absurd h htable
        external := fun _ => AnalyzerTools.estimateApiFanout_int _ _
        sideEffects := fun _ hne => ?_
        extensions := ?_ }⟩
    · rw [if_pos htable]
      exact detectTriggers_reader
    · rw [if_pos htable]
      exact hexternal
    · have hflag : detected.hasPermanentSideEffects = true := by
        simpa [hdetected, nonTransactional, TriggerDetector.detectTriggers] using hne
      simp [hflag]
    · intro t ht
      obtain ⟨t', ht', rfl⟩ := List.mem_map.mp (List.mem_filter.mp ht).1
      obtain ⟨ext, hext⟩ := (hfrom.declared t' ht').nonTransactionalExtension
      show t'.nonTransactionalExtension.isText = true
      rw [hext]
      cases ext <;> rfl

/-- What the analysis has written: the facts, and a class that depends on them. -/
structure Wrote (acfg : AnalyzerConfig) (p : HandoffContract) (facts : ReaderFacts)
    (c : HandoffContract) : Prop where
  primaryTable : c.primaryTable = p.primaryTable
  rows : c.estimatedPrimaryRows = facts.rows
  cascade : c.cascade = facts.cascade
  external : c.externalTriggers = facts.external
  reversibility : (facts.write acfg p).map (·.reversibility) = some c.reversibility

/-- Declared extensions can be listed, so there is something to write. -/
theorem exists_write (acfg : AnalyzerConfig) (p : HandoffContract)
    (h : ReversibilityRules.DeclaredExtensions facts.triggerAnalysis) :
    ∃ written, facts.write acfg p = some written := by
  have hlisted : ReversibilityRules.classifyReversibility acfg.texts p.operationType.value
      p.primaryTable facts.hasSoftDelete facts.triggerAnalysis false none facts.rows ≠
        .error .typeError :=
    ReversibilityRules.classifyReversibility_ne_typeError acfg.texts h
  unfold ReaderFacts.write writeReversibility
  dsimp only
  generalize ReversibilityRules.classifyReversibility acfg.texts p.operationType.value
    p.primaryTable facts.hasSoftDelete facts.triggerAnalysis false none facts.rows = outcome at *
  match outcome, hlisted with
  | .ok _, _ | .error (.valueError _), _ => exact ⟨_, rfl⟩
  | .error .typeError, hlisted => exact absurd rfl hlisted

theorem wrote_write {p written : HandoffContract} (h : facts.write acfg p = some written) :
    Wrote acfg p facts written := by
  obtain ⟨classified, hclassified, heq⟩ := Option.bind_eq_some_iff.mp h
  obtain ⟨_, _, _, rfl⟩ := exists_of_writeReversibility _ hclassified
  obtain rfl := Option.some.inj heq
  exact ⟨rfl, rfl, rfl, rfl, by rw [h]; rfl⟩

/-- An analysis that is not skipped returns what the facts say. -/
theorem analyze_reader (acfg : AnalyzerConfig) (hfinite : cfg.arith.KeepsFinite)
    (db : ReaderDatabase) (reply : LlmReply) (now : Time) {contract : HandoffContract}
    (hskips : skips contract = false) :
    ∃ facts c', Detected acfg cfg db (parsed acfg contract) facts ∧
      analyze acfg (reader cfg db) reply now contract = some c' ∧
      Wrote acfg (parsed acfg contract) facts c' := by
  obtain ⟨facts, hfacts⟩ := exists_detected acfg hfinite db (parsed acfg contract)
  obtain ⟨written, hwritten⟩ := exists_write acfg (parsed acfg contract) hfacts.extensions
  have hgather := (gatherFacts_of_facts hfacts.of).trans hwritten
  have hwrote := wrote_write hwritten
  unfold analyze
  rw [if_neg (by simp [hskips]), hgather, Option.map_some]
  refine ⟨facts, _, hfacts, rfl, ?_⟩
  -- the summary and the provenance are other fields
  exact ⟨hwrote.primaryTable, hwrote.rows, hwrote.cascade, hwrote.external, hwrote.reversibility⟩

/-- For an analyzed table the rows in the contract are those of the conditioned estimate. -/
theorem analyze_rows (hfinite : cfg.arith.KeepsFinite) {reply : LlmReply} {now : Time}
    {contract c' : HandoffContract} {q : ℚ} (hskips : skips contract = false)
    (htable : (parsed acfg contract).primaryTable ≠ "")
    (hage : (RowEstimator.fetchStats db.toTableStatistics
      (parsed acfg contract).primaryTable).2 = some (.finite q))
    (h : analyze acfg (reader cfg db) reply now contract = some c') :
    c'.estimatedPrimaryRows =
      .int (RowEstimator.estimateRows db.toTableStatistics (parsed acfg contract).primaryTable
        (orNone (parsed acfg contract).condition)).estimatedRows := by
  obtain ⟨facts, c'', hfacts, hanalyze, hwrote⟩ :=
    analyze_reader acfg hfinite db reply now hskips
  obtain rfl := Option.some.inj (hanalyze.symm.trans h)
  have hrows := hfacts.of.rows
  have hwritten := hwrote.rows
  -- what is read off the statement is never evaluated here
  clear hwrote hanalyze h hfacts
  generalize parsed acfg contract = p at *
  rw [countAffectedRows_of_analyzed htable hage] at hrows
  rw [hwritten]
  exact (congrArg Prod.fst (Option.some.inj hrows)).symm

end ReaderTools
