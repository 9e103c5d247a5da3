import ContraGate.AnalyzerTheorems
import ContraGate.ContextSim
import ContraGate.ContractAgent

/-!
# No agent reads the decision

A decision can be written to the contract while an agent waits for a server. It does not matter when
that is: what an agent makes of a contract with a decision in it is what it makes of the contract
without, and the decision in it.
-/

namespace HandoffContract

/-- The contract with these decision fields. -/
def decided (c : HandoffContract) (d : DecisionFields) : HandoffContract :=
  { c with toDecisionFields := d }

@[simp] theorem decided_decided (c : HandoffContract) (d d' : DecisionFields) :
    (c.decided d).decided d' = c.decided d' := rfl

@[simp] theorem decided_self (c : HandoffContract) : c.decided c.toDecisionFields = c := rfl

end HandoffContract

/-! ## The Analyzer Agent -/

namespace AnalyzerAgent

variable {cfg : AnalyzerConfig} {reader : PostgresTools}

theorem parsed_decided (c : HandoffContract) (d : DecisionFields) :
    parsed cfg (c.decided d) = (parsed cfg c).decided d := by
  unfold parsed HandoffContract.decided
  generalize AnalyzerTools.parseSqlIntent cfg c.rawSql = parse
  generalize AnalyzerTools.classifyOperationType cfg c.rawSql = opType
  rfl

theorem writeReversibility_decided (op : OperationType) (softDelete : Bool)
    (analysis : TriggerAnalysis) (c : HandoffContract) (d : DecisionFields) :
    writeReversibility cfg op softDelete analysis (c.decided d) =
      (writeReversibility cfg op softDelete analysis c).map fun c' => c'.decided d := by
  unfold writeReversibility
  dsimp only [HandoffContract.decided]
  split <;> rfl

theorem write_decided (facts : ReaderFacts) (c : HandoffContract) (d : DecisionFields) :
    facts.write cfg (c.decided d) = (facts.write cfg c).map fun c' => c'.decided d := by
  have hwritten := @writeReversibility_decided cfg c.operationType facts.hasSoftDelete
    facts.triggerAnalysis
    { c with
      estimatedPrimaryRows := facts.rows
      rowConfidence := facts.confidence
      externalTriggers := facts.external
      cascade := facts.cascade } d
  unfold ReaderFacts.write
  dsimp only [HandoffContract.decided, Option.bind_eq_bind] at hwritten ⊢
  rw [hwritten, Option.bind_map, Option.map_bind]
  rfl

theorem ReaderFacts.Of.decided {facts : ReaderFacts} {c : HandoffContract}
    (h : facts.Of cfg reader c) (d : DecisionFields) : facts.Of cfg reader (c.decided d) :=
  ⟨h.rows, h.triggerResult, h.external, h.cascade, h.hasSoftDelete, h.triggerAnalysis⟩

/-- The facts that are gathered are gathered with any decision. -/
theorem gatherFacts_decided_of_some {c c' : HandoffContract} (d : DecisionFields)
    (h : gatherFacts cfg reader c = some c') :
    gatherFacts cfg reader (c.decided d) = some (c'.decided d) := by
  obtain ⟨facts, hof, hwrite⟩ := facts_of_gatherFacts h
  have hof' : facts.Of cfg reader (parsed cfg (c.decided d)) := by
    rw [parsed_decided]
    exact hof.decided d
  rw [gatherFacts_of_facts hof', parsed_decided, write_decided, hwrite, Option.map_some]

theorem gatherFacts_decided (c : HandoffContract) (d : DecisionFields) :
    gatherFacts cfg reader (c.decided d) =
      (gatherFacts cfg reader c).map fun c' => c'.decided d := by
  cases h : gatherFacts cfg reader c with
  | some c' => exact gatherFacts_decided_of_some d h
  | none =>
    -- what the other contract gives, this one gives with its own decision
    cases h' : gatherFacts cfg reader (c.decided d) with
    | none => rfl
    | some c' =>
      have hback := gatherFacts_decided_of_some c.toDecisionFields h'
      rw [HandoffContract.decided_decided, HandoffContract.decided_self, h] at hback
      cases hback

theorem analyze_decided (reply : LlmReply) (now : Time) (c : HandoffContract)
    (d : DecisionFields) :
    analyze cfg reader reply now (c.decided d) =
      (analyze cfg reader reply now c).map fun c' => c'.decided d := by
  have hskips : skips (c.decided d) = skips c := rfl
  unfold analyze
  rw [hskips, gatherFacts_decided]
  split
  · rfl
  · rw [Option.map_map, Option.map_map]
    rfl

end AnalyzerAgent

/-! ## The Context and Simulation Agent -/

theorem SandboxClient.applyToContract_decided (c : HandoffContract) (result : SimulationResult)
    (d : DecisionFields) :
    SandboxClient.applyToContract (c.decided d) result =
      (SandboxClient.applyToContract c result).decided d := by
  unfold SandboxClient.applyToContract
  dsimp only [HandoffContract.decided]
  split <;> rfl

theorem ContextSimAgent.run_decided (memory : MemoryTools) (first second : SandboxTools)
    (now : Time) (c : HandoffContract) (d : DecisionFields) :
    run memory first second now (c.decided d) = (run memory first second now c).decided d := by
  have hsimulation : runSimulationWithRetry first second (c.decided d) =
      runSimulationWithRetry first second c := rfl
  have hretrieval : RetrievalClient.applyToContract (c.decided d)
      (RetrievalClient.retrieve memory (c.decided d)) =
        (RetrievalClient.applyToContract c (RetrievalClient.retrieve memory c)).decided d := rfl
  unfold run
  dsimp only
  rw [hsimulation, hretrieval, SandboxClient.applyToContract_decided]
  generalize SandboxClient.applyToContract
    (RetrievalClient.applyToContract c (RetrievalClient.retrieve memory c))
    (runSimulationWithRetry first second c) = written
  dsimp only [HandoffContract.decided]
  by_cases hinsert : written.operationType = .insert ∧ written.simulationExecuted = true
  · simp only [hinsert, and_self, if_true, HandoffContract.addProvenance]
  · simp only [hinsert, if_false, HandoffContract.addProvenance]

/-! ## The Contract Agent -/

theorem ContractAgent.run_decided (formats : ContractFormats) (first second : LlmReply)
    (hex : String) (now : Time) (c : HandoffContract) (d : DecisionFields) :
    run formats first second hex now (c.decided d) =
      (run formats first second hex now c).map fun c' => c'.decided d := by
  have hrisk : RiskRules.classifyRisk (c.decided d) = RiskRules.classifyRisk c := rfl
  unfold run assemble
  rw [hrisk]
  cases RiskRules.classifyRisk c with
  | none => rfl
  | some risk =>
    obtain ⟨riskTier, riskScore⟩ := risk
    have hprose : getContractProse formats first second
        (classify riskTier riskScore (c.decided d)) =
          getContractProse formats first second (classify riskTier riskScore c) := rfl
    have hdocument (prose : ContractProse) : ContractBuilder.buildApprovalContract formats
        (classify riskTier riskScore (c.decided d)) riskTier riskScore
          (classify riskTier riskScore (c.decided d)).rollbackPlan prose hex now =
        ContractBuilder.buildApprovalContract formats (classify riskTier riskScore c) riskTier
          riskScore (classify riskTier riskScore c).rollbackPlan prose hex now := rfl
    dsimp only [Option.bind_eq_bind, Option.bind_some]
    rw [hprose, hdocument]
    cases ContractBuilder.buildApprovalContract formats (classify riskTier riskScore c) riskTier
      riskScore (classify riskTier riskScore c).rollbackPlan
      (getContractProse formats first second (classify riskTier riskScore c)) hex now <;> rfl
