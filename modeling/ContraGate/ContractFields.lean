import ContraGate.HandoffSchema

/-!
# The fields of a contract, by name

The agents own sets of field names (`_ANALYSIS_FIELDS`, `_CONTEXT_SIM_FIELDS`, ..). Here every
field of `HandoffContract` is a value of its own, with its name in the source and its value in a
contract, so that what an agent leaves alone is said of the names.
-/

/-- The fields of `HandoffContract`, in the order of the schema. -/
inductive ContractField
  | operationId | tenantId | submittedBy | sourceType | submissionTimestamp | rawSql | rawIntent
  | intentSummary | operationType | primaryTable | condition | estimatedPrimaryRows | rowConfidence
  | cascade | externalTriggers | reversibility | reversibilityReason | automatedRecoverySql
  | permanentComponents | promptInjectionRisk
  | retrievalAvailable | historicalPrecedents | simulationAvailable | simulationExecuted
  | actualPrimaryRows | actualCascade | sandboxTriggerLog | simulationTimeout | sequenceGapWarning
  | riskTier | riskScore | intentSummaryProse | rollbackPlan | contractAssembled
  | approvalContractJson
  | policyViolations | autoRejectTriggered | autoRejectReason | requiredTierFromPolicy
  | approvalState | humanDecision | decisionReason | decisionTimestamp | approverId
  | modificationConstraints
  | executionSuccess | executionTimestamp | actualRowsPostExecution | blastRadiusAccuracyDelta
  | workflowProvenance | reanalysisCount | staleFields
deriving DecidableEq

namespace ContractField

/-- The name of the field in the source. -/
def name : ContractField → String
  | operationId => "operation_id"
  | tenantId => "tenant_id"
  | submittedBy => "submitted_by"
  | sourceType => "source_type"
  | submissionTimestamp => "submission_timestamp"
  | rawSql => "raw_sql"
  | rawIntent => "raw_intent"
  | intentSummary => "intent_summary"
  | operationType => "operation_type"
  | primaryTable => "primary_table"
  | condition => "condition"
  | estimatedPrimaryRows => "estimated_primary_rows"
  | rowConfidence => "row_confidence"
  | cascade => "cascade"
  | externalTriggers => "external_triggers"
  | reversibility => "reversibility"
  | reversibilityReason => "reversibility_reason"
  | automatedRecoverySql => "automated_recovery_sql"
  | permanentComponents => "permanent_components"
  | promptInjectionRisk => "prompt_injection_risk"
  | retrievalAvailable => "retrieval_available"
  | historicalPrecedents => "historical_precedents"
  | simulationAvailable => "simulation_available"
  | simulationExecuted => "simulation_executed"
  | actualPrimaryRows => "actual_primary_rows"
  | actualCascade => "actual_cascade"
  | sandboxTriggerLog => "sandbox_trigger_log"
  | simulationTimeout => "simulation_timeout"
  | sequenceGapWarning => "sequence_gap_warning"
  | riskTier => "risk_tier"
  | riskScore => "risk_score"
  | intentSummaryProse => "intent_summary_prose"
  | rollbackPlan => "rollback_plan"
  | contractAssembled => "contract_assembled"
  | approvalContractJson => "approval_contract_json"
  | policyViolations => "policy_violations"
  | autoRejectTriggered => "auto_reject_triggered"
  | autoRejectReason => "auto_reject_reason"
  | requiredTierFromPolicy => "required_tier_from_policy"
  | approvalState => "approval_state"
  | humanDecision => "human_decision"
  | decisionReason => "decision_reason"
  | decisionTimestamp => "decision_timestamp"
  | approverId => "approver_id"
  | modificationConstraints => "modification_constraints"
  | executionSuccess => "execution_success"
  | executionTimestamp => "execution_timestamp"
  | actualRowsPostExecution => "actual_rows_post_execution"
  | blastRadiusAccuracyDelta => "blast_radius_accuracy_delta"
  | workflowProvenance => "workflow_provenance"
  | reanalysisCount => "reanalysis_count"
  | staleFields => "stale_fields"

/-- The type of the field. -/
abbrev Value : ContractField → Type
  | .operationId | .tenantId | .submittedBy | .rawSql | .primaryTable | .condition
  | .reversibilityReason | .intentSummaryProse | .approvalContractJson => String
  | .sourceType => SourceType
  | .submissionTimestamp => Time
  | .rawIntent | .automatedRecoverySql | .rollbackPlan | .humanDecision | .decisionReason
  | .approverId | .modificationConstraints => Option String
  | .operationType => OperationType
  | .estimatedPrimaryRows => Py.Number
  | .reanalysisCount => ℤ
  | .riskScore => Py.Float
  | .cascade | .actualCascade => List CascadeEntry
  | .externalTriggers => List ExternalTrigger
  | .reversibility => Option ReversibilityClass
  | .permanentComponents | .staleFields => List String
  | .promptInjectionRisk | .retrievalAvailable | .simulationAvailable | .simulationExecuted
  | .simulationTimeout | .sequenceGapWarning | .contractAssembled => Bool
  | .historicalPrecedents => List HistoricalOperation
  | .actualPrimaryRows => Option Py.Number
  | .actualRowsPostExecution => Option ℤ
  | .riskTier => Option RiskTier
  | .policyViolations => List PolicyViolation
  | .intentSummary | .rowConfidence | .sandboxTriggerLog | .autoRejectTriggered | .autoRejectReason
  | .requiredTierFromPolicy => Py.Json
  | .approvalState => ApprovalState
  | .decisionTimestamp | .executionTimestamp => Option Time
  | .executionSuccess => Option Bool
  | .blastRadiusAccuracyDelta => Option Py.Float
  | .workflowProvenance => List ProvenanceEntry

/-- The value of the field in a contract. -/
def get (c : HandoffContract) : (f : ContractField) → f.Value
  | .operationId => c.operationId
  | .tenantId => c.tenantId
  | .submittedBy => c.submittedBy
  | .sourceType => c.sourceType
  | .submissionTimestamp => c.submissionTimestamp
  | .rawSql => c.rawSql
  | .rawIntent => c.rawIntent
  | .intentSummary => c.intentSummary
  | .operationType => c.operationType
  | .primaryTable => c.primaryTable
  | .condition => c.condition
  | .estimatedPrimaryRows => c.estimatedPrimaryRows
  | .rowConfidence => c.rowConfidence
  | .cascade => c.cascade
  | .externalTriggers => c.externalTriggers
  | .reversibility => c.reversibility
  | .reversibilityReason => c.reversibilityReason
  | .automatedRecoverySql => c.automatedRecoverySql
  | .permanentComponents => c.permanentComponents
  | .promptInjectionRisk => c.promptInjectionRisk
  | .retrievalAvailable => c.retrievalAvailable
  | .historicalPrecedents => c.historicalPrecedents
  | .simulationAvailable => c.simulationAvailable
  | .simulationExecuted => c.simulationExecuted
  | .actualPrimaryRows => c.actualPrimaryRows
  | .actualCascade => c.actualCascade
  | .sandboxTriggerLog => c.sandboxTriggerLog
  | .simulationTimeout => c.simulationTimeout
  | .sequenceGapWarning => c.sequenceGapWarning
  | .riskTier => c.riskTier
  | .riskScore => c.riskScore
  | .intentSummaryProse => c.intentSummaryProse
  | .rollbackPlan => c.rollbackPlan
  | .contractAssembled => c.contractAssembled
  | .approvalContractJson => c.approvalContractJson
  | .policyViolations => c.policyViolations
  | .autoRejectTriggered => c.autoRejectTriggered
  | .autoRejectReason => c.autoRejectReason
  | .requiredTierFromPolicy => c.requiredTierFromPolicy
  | .approvalState => c.approvalState
  | .humanDecision => c.humanDecision
  | .decisionReason => c.decisionReason
  | .decisionTimestamp => c.decisionTimestamp
  | .approverId => c.approverId
  | .modificationConstraints => c.modificationConstraints
  | .executionSuccess => c.executionSuccess
  | .executionTimestamp => c.executionTimestamp
  | .actualRowsPostExecution => c.actualRowsPostExecution
  | .blastRadiusAccuracyDelta => c.blastRadiusAccuracyDelta
  | .workflowProvenance => c.workflowProvenance
  | .reanalysisCount => c.reanalysisCount
  | .staleFields => c.staleFields

/-- The contract with these values. -/
def build (values : (f : ContractField) → f.Value) : HandoffContract where
  operationId := values .operationId
  tenantId := values .tenantId
  submittedBy := values .submittedBy
  sourceType := values .sourceType
  submissionTimestamp := values .submissionTimestamp
  rawSql := values .rawSql
  rawIntent := values .rawIntent
  intentSummary := values .intentSummary
  operationType := values .operationType
  primaryTable := values .primaryTable
  condition := values .condition
  estimatedPrimaryRows := values .estimatedPrimaryRows
  rowConfidence := values .rowConfidence
  cascade := values .cascade
  externalTriggers := values .externalTriggers
  reversibility := values .reversibility
  reversibilityReason := values .reversibilityReason
  automatedRecoverySql := values .automatedRecoverySql
  permanentComponents := values .permanentComponents
  promptInjectionRisk := values .promptInjectionRisk
  retrievalAvailable := values .retrievalAvailable
  historicalPrecedents := values .historicalPrecedents
  simulationAvailable := values .simulationAvailable
  simulationExecuted := values .simulationExecuted
  actualPrimaryRows := values .actualPrimaryRows
  actualCascade := values .actualCascade
  sandboxTriggerLog := values .sandboxTriggerLog
  simulationTimeout := values .simulationTimeout
  sequenceGapWarning := values .sequenceGapWarning
  riskTier := values .riskTier
  riskScore := values .riskScore
  intentSummaryProse := values .intentSummaryProse
  rollbackPlan := values .rollbackPlan
  contractAssembled := values .contractAssembled
  approvalContractJson := values .approvalContractJson
  policyViolations := values .policyViolations
  autoRejectTriggered := values .autoRejectTriggered
  autoRejectReason := values .autoRejectReason
  requiredTierFromPolicy := values .requiredTierFromPolicy
  approvalState := values .approvalState
  humanDecision := values .humanDecision
  decisionReason := values .decisionReason
  decisionTimestamp := values .decisionTimestamp
  approverId := values .approverId
  modificationConstraints := values .modificationConstraints
  executionSuccess := values .executionSuccess
  executionTimestamp := values .executionTimestamp
  actualRowsPostExecution := values .actualRowsPostExecution
  blastRadiusAccuracyDelta := values .blastRadiusAccuracyDelta
  workflowProvenance := values .workflowProvenance
  reanalysisCount := values .reanalysisCount
  staleFields := values .staleFields

@[simp] theorem get_build (values : (f : ContractField) → f.Value) (f : ContractField) :
    f.get (build values) = values f := by
  cases f <;> rfl

/-- No field is left out: a contract is what its fields are. -/
@[simp] theorem build_get (c : HandoffContract) : build (fun f => f.get c) = c := rfl

end ContractField

namespace HandoffContract

/-- At most the fields with these names change. -/
def ChangesOnly (owned : List String) (c c' : HandoffContract) : Prop :=
  ∀ f : ContractField, f.name ∉ owned → f.get c' = f.get c

namespace ChangesOnly

variable {owned : List String} {c c' c'' : HandoffContract}

theorem refl (owned : List String) (c : HandoffContract) : ChangesOnly owned c c :=
  fun _ _ => rfl

theorem trans (h : ChangesOnly owned c c') (h' : ChangesOnly owned c' c'') :
    ChangesOnly owned c c'' :=
  fun f hf => (h' f hf).trans (h f hf)

end ChangesOnly

end HandoffContract
