import ContraGate.AnalyzerTheorems
import ContraGate.ContextSim
import ContraGate.ContractAgent
import ContraGate.ReversibilityTable

/-!
# Statements that are not recognised

A statement that the analyzer takes for DDL, or cannot place, is treated as one that cannot be
undone, whatever the servers and the LLM reply: for DDL `classify_reversibility` says so, and for
an unknown type it raises and the analyzer falls back to `PERMANENT`. The class alone then fixes
the tier, the missing rollback plan and the acknowledgement that the reviewer has to give.
-/

/-- What the two agents behind the analysis meet: servers, replies of the LLM, readings of the
clock and the random part of the approval id. -/
structure LaterAgents where
  memory : MemoryTools
  firstAttempt : SandboxTools
  secondAttempt : SandboxTools
  simulatedAt : Time
  formats : ContractFormats
  prose : LlmReply
  proseAgain : LlmReply
  hex : String
  assembledAt : Time

namespace LaterAgents

variable (later : LaterAgents) (analyzed : HandoffContract)

/-- What the Context and Simulation Agent hands on. -/
def simulated : HandoffContract :=
  ContextSimAgent.run later.memory later.firstAttempt later.secondAttempt later.simulatedAt analyzed

/-- What the Contract Agent returns, with the document that it assembles. -/
def result : Option (HandoffContract × ApprovalContract) :=
  ContractAgent.assemble later.formats later.prose later.proseAgain later.hex later.assembledAt
    (later.simulated analyzed)

end LaterAgents

/-- What the three agents leave behind for an operation that cannot be undone. -/
structure FailsClosed (formats : ContractFormats) (c : HandoffContract)
    (document : ApprovalContract) : Prop where
  reversibility : c.reversibility = some .permanent
  riskTier : c.riskTier = some .fullContract
  rollbackPlan : c.rollbackPlan = none
  assembled : c.approvalContractJson = formats.dumpJson document
  acknowledgement : document.requiresPermanentAcknowledgement = true
  documentTier : document.riskTier = "FULL_CONTRACT"

/-! ## The analyzer -/

namespace AnalyzerAgent

variable {cfg : AnalyzerConfig} {reader : PostgresTools}

/-- The class of a type as the analyzer asks for it, without a point-in-time recovery; `none` is
an exception. -/
def analyzedClass (opType : OperationType) (hasSoftDelete effects : Bool) :
    Option ReversibilityClass :=
  match opType with
  | .ddl => some .permanent
  | .unknown => none
  | .delete | .update =>
    if hasSoftDelete then some (if effects then .partiallyReversible else .reversibleAutomated)
    else some .permanent
  | .select | .insert => some (if effects then .partiallyReversible else .reversibleAutomated)

theorem classification_eq {texts : Py.ValueText} {opType : OperationType} {table : String}
    {hasSoftDelete : Bool} {triggerAnalysis : TriggerAnalysis} {rows : Py.Number}
    (hlisted : ReversibilityRules.classifyReversibility texts opType.value table hasSoftDelete
      triggerAnalysis false none rows ≠ .error .typeError) :
    (ReversibilityRules.classifyReversibility texts opType.value table hasSoftDelete triggerAnalysis
        false none rows).toOption.map (·.classification) =
      analyzedClass opType hasSoftDelete triggerAnalysis.hasPermanentSideEffects := by
  have hwindow : ¬ ReversibilityRules.InvalidWindow false none := by decide
  by_cases hddl : opType.value ∈ ReversibilityRules.ddlOperations
  · rw [ReversibilityRules.classification_of_ddl _ hwindow hddl]
    cases opType with
    | ddl => rfl
    | _ => exact absurd hddl (by decide)
  · rw [ReversibilityRules.classifyReversibility_of_change _ hwindow hddl hlisted,
      ReversibilityRules.databaseChange_eq]
    -- the types of DDL aside, the class depends on the kind of the type
    generalize triggerAnalysis.hasPermanentSideEffects = effects
    cases opType with
    | ddl => exact absurd (by decide) hddl
    | _ => cases effects <;> cases hasSoftDelete <;> decide

theorem writeReversibility_eq {opType : OperationType} {hasSoftDelete : Bool}
    {triggerAnalysis : TriggerAnalysis} {c written : HandoffContract}
    (h : writeReversibility cfg opType hasSoftDelete triggerAnalysis c = some written) :
    written.reversibility =
      some ((analyzedClass opType hasSoftDelete
        triggerAnalysis.hasPermanentSideEffects).getD .permanent) := by
  have hclass := @classification_eq cfg.texts opType c.primaryTable hasSoftDelete triggerAnalysis
    c.estimatedPrimaryRows
  unfold writeReversibility at h
  generalize ReversibilityRules.classifyReversibility cfg.texts opType.value c.primaryTable
    hasSoftDelete triggerAnalysis false none c.estimatedPrimaryRows = result at h hclass
  match result, h with
  | .ok _, h | .error (.valueError _), h =>
    obtain rfl := Option.some.inj h
    rw [← hclass nofun]
    rfl

/-- An analysis that is not skipped writes the class of the statement. -/
theorem analyze_permanent {reply : LlmReply} {now : Time} {c analyzed : HandoffContract}
    (hop : AnalyzerTools.classifyOperationType cfg c.rawSql ∈ [OperationType.unknown, .ddl])
    (hskips : skips c = false) (h : analyze cfg reader reply now c = some analyzed) :
    analyzed.reversibility = some .permanent := by
  obtain ⟨facts, written, entry, -, hwrite, rfl⟩ := facts_of_analyze hskips h
  rw [← parsed_operationType] at hop
  generalize parsed cfg c = p at hop hwrite
  obtain ⟨classified, hclassified, hwrite⟩ := Option.bind_eq_some_iff.mp hwrite
  obtain rfl := Option.some.inj hwrite
  refine (writeReversibility_eq hclassified).trans ?_
  rcases List.mem_pair.mp hop with hop | hop <;> rw [hop] <;> rfl

end AnalyzerAgent

/-! ## The other two agents -/

theorem ContextSimAgent.run_reversibility (memory : MemoryTools) (first second : SandboxTools)
    (now : Time) (c : HandoffContract) :
    (ContextSimAgent.run memory first second now c).reversibility = c.reversibility := by
  unfold ContextSimAgent.run SandboxClient.applyToContract
  dsimp only
  split_ifs <;> rfl

/-- What the class decides in the Contract Agent. -/
theorem ContractAgent.assemble_of_permanent {formats : ContractFormats} {first second : LlmReply}
    {hex : String} {now : Time} {c c' : HandoffContract} {document : ApprovalContract}
    (h : c.reversibility = some .permanent)
    (hassembled : ContractAgent.assemble formats first second hex now c = some (c', document)) :
    FailsClosed formats c' document := by
  obtain ⟨riskTier, riskScore, hrisk, hdocument, rfl⟩ := assemble_eq_some_iff.mp hassembled
  obtain ⟨-, heq⟩ := RiskRules.classifyRisk_eq_some_iff.mp hrisk
  obtain ⟨rfl, rfl⟩ := Prod.mk.inj heq
  have htier := RiskRules.applyTierRules_of_permanent h (RiskRules.computeRiskScore c)
  obtain ⟨_, _, -, -, rfl⟩ := ContractBuilder.buildApprovalContract_eq_some hdocument
  refine ⟨h, congrArg some htier, ?_, rfl, decide_eq_true h, congrArg RiskTier.value htier⟩
  change ContractBuilder.deriveRollbackPlan _ = none
  unfold ContractBuilder.deriveRollbackPlan
  dsimp only
  rw [h]

/-! ## The agents in a row -/

/-- **A statement that is DDL or not recognised ends as a permanent operation of the highest
tier**, whatever the servers and the LLM reply to the agents. -/
theorem unrecognised_fails_closed {cfg : AnalyzerConfig} {reader : PostgresTools}
    {reply : LlmReply} {analyzedAt : Time} {c analyzed : HandoffContract}
    (hop : AnalyzerTools.classifyOperationType cfg c.rawSql ∈ [OperationType.unknown, .ddl])
    (hskips : AnalyzerAgent.skips c = false)
    (h : AnalyzerAgent.analyze cfg reader reply analyzedAt c = some analyzed)
    (later : LaterAgents) {c' : HandoffContract} {document : ApprovalContract}
    (hlater : later.result analyzed = some (c', document)) :
    FailsClosed later.formats c' document := by
  have hclass := AnalyzerAgent.analyze_permanent hop hskips h
  refine ContractAgent.assemble_of_permanent ?_ hlater
  rw [LaterAgents.simulated, ContextSimAgent.run_reversibility, hclass]

/-- `EXPLAIN` is no operation that the analyzer knows. -/
def explainContract : HandoffContract where
  operationId := "cg_1"
  tenantId := "demo_tenant"
  submittedBy := "agent"
  sourceType := .externalAgent
  submissionTimestamp := 0
  rawSql := "EXPLAIN ANALYZE DELETE FROM users"

/-- All servers and the LLM are down. -/
def nothingAnswers (formats : ContractFormats) : LaterAgents where
  memory := ⟨fun _ _ _ => .error "down", fun _ _ => .error "down", fun _ => .error "down"⟩
  firstAttempt _ _ := .otherError
  secondAttempt _ _ := .otherError
  simulatedAt := 0
  formats
  prose := none
  proseAgain := none
  hex := ""
  assembledAt := 0

theorem unrecognised_fails_closed_explain :
    ∃ analyzed c' document,
      AnalyzerAgent.analyze .ascii (fun _ _ => .mcpCallError "down") none 0 explainContract =
        some analyzed ∧
      (nothingAnswers .plain).result analyzed = some (c', document) ∧
      FailsClosed .plain c' document := by
  have hreturns : ((AnalyzerAgent.analyze .ascii (fun _ _ => .mcpCallError "down") none 0
      explainContract).bind (nothingAnswers .plain).result).isSome = true := by decide
  obtain ⟨⟨c', document⟩, h⟩ := Option.isSome_iff_exists.mp hreturns
  obtain ⟨analyzed, hanalyzed, hlater⟩ := Option.bind_eq_some_iff.mp h
  exact ⟨analyzed, c', document, hanalyzed, hlater,
    unrecognised_fails_closed (by decide) (by decide) hanalyzed (nothingAnswers .plain) hlater⟩
