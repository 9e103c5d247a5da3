import ContraGate.Library.PyNumber

/-!
# The HandoffContract schema (`orchestrator/handoff_schema.py`)

The contract is one record in the source, with its fields grouped under comment headings.
Here every heading is a structure of its own and `HandoffContract` extends them all, so the
field names stay flat and a group can be copied or compared as a whole. The group that the
approval protocol is about, `# Human Review` in the source, is `DecisionFields`.

Times are integers (microseconds since the epoch). A field that is assigned from a server's reply
without validation holds what the reply has there: a number, or any JSON value.
-/

/-- A `datetime` in UTC. -/
abbrev Time := ℤ

inductive OperationType
  | ddl | delete | update | insert | select | unknown
deriving DecidableEq, Repr

inductive ReversibilityClass
  | reversibleAutomated | reversiblePitr | partiallyReversible | permanent
deriving DecidableEq, Repr

inductive RiskTier
  | auto | standard | fullContract
deriving DecidableEq, Repr

inductive ApprovalState
  | pending | approved | rejected | modified | autoRejected | timedOut
deriving DecidableEq, Repr

inductive SourceType
  | internalSystem | externalUserInput | externalAgent
deriving DecidableEq, Repr

/-! ## Entries of the list-valued fields -/

structure CascadeEntry where
  table : String
  estimatedRows : ℤ
  actualRows : Option ℤ := none
  cascadeAction : String
  depth : ℤ

structure ExternalTrigger where
  triggerName : String
  event : String
  extension : String
  estimatedCalls : Option ℤ := none
  targetEndpoint : Option String := none
  sandboxLogEntry : Option String := none

structure HistoricalOperation where
  operationId : String
  intentSummary : String
  tables : List String
  outcome : String
  decisionReason : String
  similarityScore : Py.Float
  jaccardScore : Py.Float
  rerankScore : Py.Float

structure PolicyViolation where
  ruleId : String
  ruleName : String
  severity : String
  description : String

structure ProvenanceEntry where
  agent : String
  fieldWritten : String
  timestamp : Time
  llmInvolved : Bool

/-! ## The groups of fields -/

/-- `# Identity` and `# Raw input`. -/
structure Identity where
  operationId : String
  tenantId : String
  submittedBy : String
  sourceType : SourceType
  submissionTimestamp : Time
  rawSql : String
  rawIntent : Option String := none

/-- `# Analyzer Agent outputs`. -/
structure AnalyzerOutputs where
  intentSummary : Py.Json := .str ""
  operationType : OperationType := .unknown
  primaryTable : String := ""
  condition : String := ""
  estimatedPrimaryRows : Py.Number := .int 0
  rowConfidence : Py.Json := .float (.finite 0)
  cascade : List CascadeEntry := []
  externalTriggers : List ExternalTrigger := []
  reversibility : Option ReversibilityClass := none
  reversibilityReason : String := ""
  automatedRecoverySql : Option String := none
  permanentComponents : List String := []
  promptInjectionRisk : Bool := false

/-- `# Context and Simulation Agent outputs`. -/
structure ContextSimOutputs where
  retrievalAvailable : Bool := true
  historicalPrecedents : List HistoricalOperation := []
  simulationAvailable : Bool := true
  simulationExecuted : Bool := false
  actualPrimaryRows : Option Py.Number := none
  actualCascade : List CascadeEntry := []
  sandboxTriggerLog : Py.Json := .arr []
  simulationTimeout : Bool := false
  sequenceGapWarning : Bool := false

/-- `# Contract Agent outputs`. -/
structure ContractAgentOutputs where
  riskTier : Option RiskTier := none
  riskScore : Py.Float := .finite 0
  intentSummaryProse : String := ""
  rollbackPlan : Option String := none
  contractAssembled : Bool := false
  approvalContractJson : String := ""

/-- `# Policy Gate outputs`. The last three are assigned from the policy server's answer
without validation, so they hold whatever JSON value it sent. -/
structure PolicyGateOutputs where
  policyViolations : List PolicyViolation := []
  autoRejectTriggered : Py.Json := .bool false
  autoRejectReason : Py.Json := .null
  requiredTierFromPolicy : Py.Json := .null

/-- `# Human Review`: the six decision fields. -/
structure DecisionFields where
  approvalState : ApprovalState := .pending
  humanDecision : Option String := none
  decisionReason : Option String := none
  decisionTimestamp : Option Time := none
  approverId : Option String := none
  modificationConstraints : Option String := none
deriving DecidableEq

/-- `# Execution`. -/
structure ExecutionFields where
  executionSuccess : Option Bool := none
  executionTimestamp : Option Time := none
  actualRowsPostExecution : Option ℤ := none
  blastRadiusAccuracyDelta : Option Py.Float := none

/-- `# Provenance`. -/
structure Provenance where
  workflowProvenance : List ProvenanceEntry := []
  reanalysisCount : ℤ := 0
  staleFields : List String := []

/-- The one structured object that flows through the pipeline. -/
structure HandoffContract extends Identity, AnalyzerOutputs, ContextSimOutputs,
  ContractAgentOutputs, PolicyGateOutputs, DecisionFields, ExecutionFields, Provenance

namespace HandoffContract

/-- `HandoffContract.add_provenance`. -/
def addProvenance (c : HandoffContract) (now : Time) (agent fieldWritten : String)
    (llmInvolved : Bool := false) : HandoffContract :=
  { c with
    workflowProvenance :=
      c.workflowProvenance ++ [{ agent, fieldWritten, timestamp := now, llmInvolved }] }

@[simp] theorem addProvenance_toDecisionFields (c : HandoffContract) (now : Time)
    (agent fieldWritten : String) (llm : Bool) :
    (c.addProvenance now agent fieldWritten llm).toDecisionFields = c.toDecisionFields := rfl

@[simp] theorem addProvenance_toIdentity (c : HandoffContract) (now : Time)
    (agent fieldWritten : String) (llm : Bool) :
    (c.addProvenance now agent fieldWritten llm).toIdentity = c.toIdentity := rfl

@[simp] theorem addProvenance_toPolicyGateOutputs (c : HandoffContract) (now : Time)
    (agent fieldWritten : String) (llm : Bool) :
    (c.addProvenance now agent fieldWritten llm).toPolicyGateOutputs = c.toPolicyGateOutputs :=
  rfl

end HandoffContract
