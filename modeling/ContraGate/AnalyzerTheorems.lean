import ContraGate.Analyzer

/-!
# What the analysis writes

The steps before the LLM are taken apart once: what they learn from the reader is `ReaderFacts`,
and `ReaderFacts.write` puts it into the contract. The proofs about the analysis use
`facts_of_gatherFacts` and `gatherFacts_of_facts` and do not look inside `gatherFacts`.
-/

namespace AnalyzerAgent

/-- A branch on the way to a continuation, as one computation before it. -/
theorem ite_bind {α β : Type} (p : Prop) [Decidable p] (a b : Option α) (f : α → Option β) :
    (if p then a >>= f else b >>= f) = (if p then a else b).bind f := by
  split <;> rfl

theorem ite_bind_bind {α β γ : Type} (p : Prop) [Decidable p] (a : Option γ) (g : γ → Option α)
    (b : Option α) (f : α → Option β) :
    (if p then a >>= fun x => g x >>= f else b >>= f) =
      (if p then a.bind g else b).bind f := by
  split
  · exact (Option.bind_assoc a g f).symm
  · rfl

theorem bind_of_eq_some {α β : Type} {x : Option α} {a : α} (h : x = some a)
    (f : α → Option β) : x.bind f = f a := by
  rw [h, Option.bind_some]

variable (cfg : AnalyzerConfig) (reader : PostgresTools)

/-- Steps 1 and 2: what is read off the statement. -/
def parsed (contract : HandoffContract) : HandoffContract :=
  { contract with
    operationType := AnalyzerTools.classifyOperationType cfg contract.rawSql
    primaryTable :=
      if (AnalyzerTools.parseSqlIntent cfg contract.rawSql).1 = "" then contract.primaryTable
      else (AnalyzerTools.parseSqlIntent cfg contract.rawSql).1
    condition :=
      if (AnalyzerTools.parseSqlIntent cfg contract.rawSql).2 = "" then contract.condition
      else (AnalyzerTools.parseSqlIntent cfg contract.rawSql).2 }

theorem parsed_operationType (contract : HandoffContract) :
    (parsed cfg contract).operationType =
      AnalyzerTools.classifyOperationType cfg contract.rawSql := by
  unfold parsed
  generalize AnalyzerTools.classifyOperationType cfg contract.rawSql = opType
  rfl

/-- The statement changes rows of a known table. -/
def Changes (c : HandoffContract) : Prop :=
  c.primaryTable ≠ "" ∧ c.operationType ∈ [OperationType.delete, .update]

instance (c : HandoffContract) : Decidable (Changes c) := inferInstanceAs (Decidable (_ ∧ _))

/-- The class, its reason and the recovery SQL are all that step 7 writes. -/
theorem exists_of_writeReversibility {op : OperationType} {softDelete : Bool}
    {analysis : TriggerAnalysis} {c c' : HandoffContract}
    (h : writeReversibility cfg op softDelete analysis c = some c') :
    ∃ reversibility reversibilityReason automatedRecoverySql,
      c' = { c with reversibility, reversibilityReason, automatedRecoverySql } := by
  unfold writeReversibility at h
  split at h
  case h_3 => cases h
  all_goals
    obtain rfl := Option.some.inj h
    exact ⟨_, _, _, rfl⟩

/-- What steps 3 to 7 learn from the reader. -/
structure ReaderFacts where
  rows : Py.Number
  confidence : Py.Json
  triggerResult : Py.Json
  external : List ExternalTrigger
  cascade : List CascadeEntry
  hasSoftDelete : Bool
  triggerAnalysis : TriggerAnalysis

namespace ReaderFacts

/-- The facts are those that the reader's replies to the calls for a parsed contract give. -/
structure Of (facts : ReaderFacts) (c : HandoffContract) : Prop where
  rows : countAffectedRows reader c.primaryTable c.condition = some (facts.rows, facts.confidence)
  triggerResult :
    (if c.primaryTable ≠ "" then detectTriggers reader c.primaryTable else some (.obj [])) =
      some facts.triggerResult
  external :
    (if c.primaryTable ≠ "" then
      (AnalyzerTools.buildExternalTriggers facts.triggerResult).bind fun external =>
        AnalyzerTools.estimateApiFanout external facts.rows
    else some c.externalTriggers) = some facts.external
  cascade :
    (if Changes c then
      (traceFkGraph reader c.primaryTable).bind (AnalyzerTools.buildCascadeEntries cfg)
    else some c.cascade) = some facts.cascade
  hasSoftDelete :
    (if Changes c then checkSoftDelete reader c.primaryTable else some false) =
      some facts.hasSoftDelete
  triggerAnalysis :
    AnalyzerTools.buildTriggerAnalysisFromMcp c.primaryTable facts.triggerResult =
      some facts.triggerAnalysis

/-- What the parsed contract becomes, unless the classification raises. -/
def write (facts : ReaderFacts) (c : HandoffContract) : Option HandoffContract := do
  let written ← writeReversibility cfg c.operationType facts.hasSoftDelete facts.triggerAnalysis
    { c with
      estimatedPrimaryRows := facts.rows
      rowConfidence := facts.confidence
      externalTriggers := facts.external
      cascade := facts.cascade }
  some { written with
    permanentComponents :=
      AnalyzerTools.identifyPermanentComponents written.reversibility c.operationType
        written.primaryTable written.externalTriggers written.cascade }

end ReaderFacts

variable {cfg reader}

/-- The steps before the LLM, taken apart. -/
theorem facts_of_gatherFacts {contract c : HandoffContract}
    (h : gatherFacts cfg reader contract = some c) :
    ∃ facts : ReaderFacts, facts.Of cfg reader (parsed cfg contract) ∧
      facts.write cfg (parsed cfg contract) = some c := by
  unfold gatherFacts at h
  unfold parsed
  -- what is read off the statement is never evaluated here
  generalize AnalyzerTools.parseSqlIntent cfg contract.rawSql = parse at h ⊢
  generalize AnalyzerTools.classifyOperationType cfg contract.rawSql = opType at h ⊢
  obtain ⟨table, condition⟩ := parse
  obtain ⟨⟨rows, confidence⟩, hrows, h⟩ := Option.bind_eq_some_iff.mp h
  obtain ⟨triggerResult, htriggers, h⟩ := Option.bind_eq_some_iff.mp ((ite_bind _ _ _ _).symm.trans h)
  obtain ⟨external, hexternal, h⟩ := Option.bind_eq_some_iff.mp ((ite_bind _ _ _ _).symm.trans h)
  obtain ⟨cascade, hcascade, h⟩ :=
    Option.bind_eq_some_iff.mp ((ite_bind_bind _ _ _ _ _).symm.trans h)
  obtain ⟨hasSoftDelete, hsoft, h⟩ :=
    Option.bind_eq_some_iff.mp ((ite_bind _ _ _ _).symm.trans h)
  obtain ⟨triggerAnalysis, hanalysis, h⟩ := Option.bind_eq_some_iff.mp h
  exact ⟨⟨rows, confidence, triggerResult, external, cascade, hasSoftDelete, triggerAnalysis⟩,
    ⟨hrows, htriggers, hexternal, hcascade, hsoft, hanalysis⟩, h⟩

/-- On replies that give the facts the steps come to what is written. -/
theorem gatherFacts_of_facts {contract : HandoffContract} {facts : ReaderFacts}
    (h : facts.Of cfg reader (parsed cfg contract)) :
    gatherFacts cfg reader contract = facts.write cfg (parsed cfg contract) := by
  obtain ⟨hrows, htriggers, hexternal, hcascade, hsoft, hanalysis⟩ := h
  unfold gatherFacts
  unfold parsed at *
  generalize AnalyzerTools.parseSqlIntent cfg contract.rawSql = parse at *
  generalize AnalyzerTools.classifyOperationType cfg contract.rawSql = opType at *
  obtain ⟨table, condition⟩ := parse
  refine (bind_of_eq_some hrows _).trans ?_
  refine (ite_bind _ _ _ _).trans ((bind_of_eq_some htriggers _).trans ?_)
  refine (ite_bind _ _ _ _).trans ((bind_of_eq_some hexternal _).trans ?_)
  refine (ite_bind_bind _ _ _ _ _).trans ((bind_of_eq_some hcascade _).trans ?_)
  refine (ite_bind _ _ _ _).trans ((bind_of_eq_some hsoft _).trans ?_)
  exact (bind_of_eq_some hanalysis _).trans rfl

/-- A skipped analysis returns the contract as it is. -/
theorem analyze_of_skips {reply : LlmReply} {now : Time} {contract : HandoffContract}
    (hskips : skips contract = true) : analyze cfg reader reply now contract = some contract := by
  unfold analyze
  rw [if_pos hskips]

/-- An analysis that is not skipped and returns: the facts, with the summary of the LLM and an
entry in the provenance. -/
theorem facts_of_analyze {reply : LlmReply} {now : Time} {contract c : HandoffContract}
    (hskips : skips contract = false) (h : analyze cfg reader reply now contract = some c) :
    ∃ (facts : ReaderFacts) (written : HandoffContract) (entry : ProvenanceEntry),
      facts.Of cfg reader (parsed cfg contract) ∧
      facts.write cfg (parsed cfg contract) = some written ∧
      c = { written with
        intentSummary := getIntentSummary cfg reply written
        workflowProvenance := written.workflowProvenance ++ [entry] } := by
  unfold analyze at h
  rw [hskips, if_neg Bool.false_ne_true] at h
  obtain ⟨written, hwritten, rfl⟩ := Option.map_eq_some_iff.mp h
  obtain ⟨facts, hfacts, hwrite⟩ := facts_of_gatherFacts hwritten
  exact ⟨facts, written, _, hfacts, hwrite, rfl⟩

end AnalyzerAgent
