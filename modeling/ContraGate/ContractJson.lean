import ContraGate.ApprovalContract
import ContraGate.ContractFields
import ContraGate.Library.JsonCodec

/-!
# A contract as JSON (`HandoffContract.model_dump_json`, `HandoffContract.model_validate_json`)

Every field has a codec for its declared type. Dumping writes all fields under their names in the
order of the schema; validating reads them by name, fills in the defaults of fields that are left
out and then runs the model validator on the decision fields.
-/

open Py

/-- `ApprovalState.value`. -/
def ApprovalState.value : ApprovalState → String
  | pending => "PENDING"
  | approved => "APPROVED"
  | rejected => "REJECTED"
  | modified => "MODIFIED"
  | autoRejected => "AUTO_REJECTED"
  | timedOut => "TIMED_OUT"

namespace ContractJson

/-! ## The enumerations -/

def sourceType : JsonCodec SourceType :=
  .choice SourceType.value [.internalSystem, .externalUserInput, .externalAgent] fun a => by
    cases a <;> rfl

def operationType : JsonCodec OperationType :=
  .choice OperationType.value [.ddl, .delete, .update, .insert, .select, .unknown] fun a => by
    cases a <;> rfl

def reversibilityClass : JsonCodec ReversibilityClass :=
  .choice ReversibilityClass.value
    [.reversibleAutomated, .reversiblePitr, .partiallyReversible, .permanent] fun a => by
    cases a <;> rfl

def riskTier : JsonCodec RiskTier :=
  .choice RiskTier.value [.auto, .standard, .fullContract] fun a => by cases a <;> rfl

def approvalState : JsonCodec ApprovalState :=
  .choice ApprovalState.value
    [.pending, .approved, .rejected, .modified, .autoRejected, .timedOut] fun a => by
    cases a <;> rfl

/-! ## Entries of the list-valued fields -/

section Entries

variable (lax : Lax)

abbrev optionalText : JsonCodec (Option String) := .nullable .text fun _ _ => nofun

abbrev optionalInteger : JsonCodec (Option ℤ) := .nullable (.integer lax) fun _ _ => nofun

abbrev optionalBoolean : JsonCodec (Option Bool) := .nullable (.boolean lax) fun _ _ => nofun

abbrev optionalTime : JsonCodec (Option Time) := .nullable (.time lax) fun _ _ => nofun

theorem float_ne_null (x : Py.Float) (hx : (JsonCodec.float lax).Valid x) :
    (JsonCodec.float lax).encode x ≠ .null := by
  cases x with
  | finite q => simp [JsonCodec.float, Json.jsonable]
  | _ => cases hx

abbrev optionalFloat : JsonCodec (Option Py.Float) := .nullable (.float lax) (float_ne_null lax)

def cascadeEntry : JsonCodec CascadeEntry where
  encode e := .obj
    [("table", JsonCodec.text.encode e.table),
      ("estimated_rows", (JsonCodec.integer lax).encode e.estimatedRows),
      ("actual_rows", (optionalInteger lax).encode e.actualRows),
      ("cascade_action", JsonCodec.text.encode e.cascadeAction),
      ("depth", (JsonCodec.integer lax).encode e.depth)]
  decode j := do
    let d ← j.dict?
    let table ← JsonCodec.required d "table" .text
    let estimatedRows ← JsonCodec.required d "estimated_rows" (.integer lax)
    let actualRows ← JsonCodec.withDefault d "actual_rows" (optionalInteger lax) none
    let cascadeAction ← JsonCodec.required d "cascade_action" .text
    let depth ← JsonCodec.required d "depth" (.integer lax)
    some { table, estimatedRows, actualRows, cascadeAction, depth }
  Valid _ := True
  decode_encode _ := by
    simp [Json.dict?, JsonCodec.required, JsonCodec.withDefault, List.lookup_cons,
      JsonCodec.decode_encode]

def externalTrigger : JsonCodec ExternalTrigger where
  encode t := .obj
    [("trigger_name", JsonCodec.text.encode t.triggerName),
      ("event", JsonCodec.text.encode t.event),
      ("extension", JsonCodec.text.encode t.extension),
      ("estimated_calls", (optionalInteger lax).encode t.estimatedCalls),
      ("target_endpoint", optionalText.encode t.targetEndpoint),
      ("sandbox_log_entry", optionalText.encode t.sandboxLogEntry)]
  decode j := do
    let d ← j.dict?
    let triggerName ← JsonCodec.required d "trigger_name" .text
    let event ← JsonCodec.required d "event" .text
    let extension ← JsonCodec.required d "extension" .text
    let estimatedCalls ← JsonCodec.withDefault d "estimated_calls" (optionalInteger lax) none
    let targetEndpoint ← JsonCodec.withDefault d "target_endpoint" optionalText none
    let sandboxLogEntry ← JsonCodec.withDefault d "sandbox_log_entry" optionalText none
    some { triggerName, event, extension, estimatedCalls, targetEndpoint, sandboxLogEntry }
  Valid _ := True
  decode_encode _ := by
    simp [Json.dict?, JsonCodec.required, JsonCodec.withDefault, List.lookup_cons,
      JsonCodec.decode_encode]

def historicalOperation : JsonCodec HistoricalOperation where
  encode o := .obj
    [("operation_id", JsonCodec.text.encode o.operationId),
      ("intent_summary", JsonCodec.text.encode o.intentSummary),
      ("tables", (JsonCodec.list .text).encode o.tables),
      ("outcome", JsonCodec.text.encode o.outcome),
      ("decision_reason", JsonCodec.text.encode o.decisionReason),
      ("similarity_score", (JsonCodec.float lax).encode o.similarityScore),
      ("jaccard_score", (JsonCodec.float lax).encode o.jaccardScore),
      ("rerank_score", (JsonCodec.float lax).encode o.rerankScore)]
  decode j := do
    let d ← j.dict?
    let operationId ← JsonCodec.required d "operation_id" .text
    let intentSummary ← JsonCodec.required d "intent_summary" .text
    let tables ← JsonCodec.required d "tables" (.list .text)
    let outcome ← JsonCodec.required d "outcome" .text
    let decisionReason ← JsonCodec.required d "decision_reason" .text
    let similarityScore ← JsonCodec.required d "similarity_score" (.float lax)
    let jaccardScore ← JsonCodec.required d "jaccard_score" (.float lax)
    let rerankScore ← JsonCodec.required d "rerank_score" (.float lax)
    some { operationId, intentSummary, tables, outcome, decisionReason, similarityScore,
           jaccardScore, rerankScore }
  Valid o := (o.similarityScore.isFinite && o.jaccardScore.isFinite && o.rerankScore.isFinite) = true
  decode_encode {o} h := by
    simp only [Bool.and_eq_true] at h
    simp [Json.dict?, JsonCodec.required, List.lookup_cons, JsonCodec.decode_encode, h]

def policyViolation : JsonCodec PolicyViolation where
  encode v := .obj
    [("rule_id", JsonCodec.text.encode v.ruleId),
      ("rule_name", JsonCodec.text.encode v.ruleName),
      ("severity", JsonCodec.text.encode v.severity),
      ("description", JsonCodec.text.encode v.description)]
  decode j := do
    let d ← j.dict?
    let ruleId ← JsonCodec.required d "rule_id" .text
    let ruleName ← JsonCodec.required d "rule_name" .text
    let severity ← JsonCodec.required d "severity" .text
    let description ← JsonCodec.required d "description" .text
    some { ruleId, ruleName, severity, description }
  Valid _ := True
  decode_encode _ := by
    simp [Json.dict?, JsonCodec.required, List.lookup_cons, JsonCodec.decode_encode]

def provenanceEntry : JsonCodec ProvenanceEntry where
  encode e := .obj
    [("agent", JsonCodec.text.encode e.agent),
      ("field_written", JsonCodec.text.encode e.fieldWritten),
      ("timestamp", (JsonCodec.time lax).encode e.timestamp),
      ("llm_involved", (JsonCodec.boolean lax).encode e.llmInvolved)]
  decode j := do
    let d ← j.dict?
    let agent ← JsonCodec.required d "agent" .text
    let fieldWritten ← JsonCodec.required d "field_written" .text
    let timestamp ← JsonCodec.required d "timestamp" (.time lax)
    let llmInvolved ← JsonCodec.required d "llm_involved" (.boolean lax)
    some { agent, fieldWritten, timestamp, llmInvolved }
  Valid _ := True
  decode_encode _ := by
    simp [Json.dict?, JsonCodec.required, List.lookup_cons, JsonCodec.decode_encode]

end Entries

@[simp] theorem valid_cascadeEntry (lax : Lax) (e : CascadeEntry) :
    (cascadeEntry lax).Valid e := trivial

@[simp] theorem valid_externalTrigger (lax : Lax) (t : ExternalTrigger) :
    (externalTrigger lax).Valid t := trivial

@[simp] theorem valid_policyViolation (v : PolicyViolation) : policyViolation.Valid v := trivial

@[simp] theorem valid_provenanceEntry (lax : Lax) (e : ProvenanceEntry) :
    (provenanceEntry lax).Valid e := trivial

/-! ## The contract -/

/-- The fields, in the order of the schema. -/
def allFields : List ContractField :=
  [.operationId, .tenantId, .submittedBy, .sourceType, .submissionTimestamp, .rawSql, .rawIntent,
   .intentSummary, .operationType, .primaryTable, .condition, .estimatedPrimaryRows,
   .rowConfidence, .cascade, .externalTriggers, .reversibility, .reversibilityReason,
   .automatedRecoverySql, .permanentComponents, .promptInjectionRisk, .retrievalAvailable,
   .historicalPrecedents, .simulationAvailable, .simulationExecuted, .actualPrimaryRows,
   .actualCascade, .sandboxTriggerLog, .simulationTimeout, .sequenceGapWarning, .riskTier,
   .riskScore, .intentSummaryProse, .rollbackPlan, .contractAssembled, .approvalContractJson,
   .policyViolations, .autoRejectTriggered, .autoRejectReason, .requiredTierFromPolicy,
   .approvalState, .humanDecision, .decisionReason, .decisionTimestamp, .approverId,
   .modificationConstraints, .executionSuccess, .executionTimestamp, .actualRowsPostExecution,
   .blastRadiusAccuracyDelta, .workflowProvenance, .reanalysisCount, .staleFields]

theorem mem_allFields (f : ContractField) : f ∈ allFields := by
  cases f <;> decide

theorem nodup_names : (allFields.map ContractField.name).Nodup := by
  decide

/-- The declared type of each field. The fields that are assigned without validation hold whatever
the server sent: a number or any JSON value. -/
def codec (lax : Lax) : (f : ContractField) → JsonCodec f.Value
  | .operationId | .tenantId | .submittedBy | .rawSql | .primaryTable | .condition
  | .reversibilityReason | .intentSummaryProse | .approvalContractJson => .text
  | .intentSummary => .unchecked .text
  | .sourceType => sourceType
  | .submissionTimestamp => .time lax
  | .rawIntent | .automatedRecoverySql | .rollbackPlan | .humanDecision | .decisionReason
  | .approverId | .modificationConstraints => optionalText
  | .operationType => operationType
  | .estimatedPrimaryRows => .uncheckedInteger lax
  | .reanalysisCount => .integer lax
  | .rowConfidence => .unchecked (.float lax)
  | .riskScore => .float lax
  | .cascade | .actualCascade => .list (cascadeEntry lax)
  | .externalTriggers => .list (externalTrigger lax)
  | .reversibility => .nullable reversibilityClass fun _ _ => nofun
  | .permanentComponents | .staleFields => .list .text
  | .promptInjectionRisk | .retrievalAvailable | .simulationAvailable | .simulationExecuted
  | .simulationTimeout | .sequenceGapWarning | .contractAssembled => .boolean lax
  | .historicalPrecedents => .list (historicalOperation lax)
  | .actualPrimaryRows => .nullable (.uncheckedInteger lax) JsonCodec.uncheckedInteger_ne_null
  | .actualRowsPostExecution => optionalInteger lax
  | .sandboxTriggerLog => .unchecked (.list .dict)
  | .riskTier => .nullable riskTier fun _ _ => nofun
  | .policyViolations => .list policyViolation
  | .autoRejectTriggered => .unchecked (.boolean lax)
  | .autoRejectReason | .requiredTierFromPolicy => .unchecked optionalText
  | .approvalState => approvalState
  | .decisionTimestamp | .executionTimestamp => optionalTime lax
  | .executionSuccess => optionalBoolean lax
  | .blastRadiusAccuracyDelta => optionalFloat lax
  | .workflowProvenance => .list (provenanceEntry lax)

/-- The fields without a default. -/
def required : List ContractField := [.operationId, .tenantId, .submittedBy, .sourceType, .rawSql]

/-- The default of a field; `submission_timestamp` is the time at which the contract is built. -/
def default (now : Time) (f : ContractField) : Option f.Value :=
  if f ∈ required then none
  else some (f.get
    { operationId := "", tenantId := "", submittedBy := "", sourceType := .internalSystem,
      submissionTimestamp := now, rawSql := "" })

/-- The schema of a contract. -/
def schema (lax : Lax) (now : Time) : JsonCodec.Fields ContractField ContractField.Value where
  all := allFields
  mem_all := mem_allFields
  name := ContractField.name
  nodup := nodup_names
  codec := codec lax
  default := default now

/-- How a field is written does not depend on what else could be read. -/
theorem encode_codec (lax : Lax) (f : ContractField) :
    (codec lax f).encode = (codec .strict f).encode := by
  cases f <;> rfl

end ContractJson

/-- `validate_decision_reason_length` does not raise: a reason for `APPROVE` or `REJECT` is absent,
empty or at least ten characters long. -/
def DecisionFields.reasonAccepted (fields : DecisionFields) : Bool :=
  !((fields.humanDecision = some "APPROVE" || fields.humanDecision = some "REJECT") &&
    fields.decisionReason.any fun reason => reason != "" && reason.length < 10)

namespace HandoffContract

/-- `contract.model_dump_json()`, as the JSON value of the text. -/
def modelDumpJson (c : HandoffContract) : Json :=
  .obj (ContractJson.allFields.map fun f => (f.name, (ContractJson.codec .strict f).encode (f.get c)))

variable (lax : Lax) (now : Time)

/-- A contract is written as its schema says. -/
theorem modelDumpJson_eq (c : HandoffContract) : c.modelDumpJson =
    (JsonCodec.record (ContractJson.schema lax now)).encode fun f => f.get c := by
  unfold modelDumpJson
  simp only [← ContractJson.encode_codec lax]
  rfl

/-- `HandoffContract.model_validate_json(text)`, for the JSON value of the text; `none` when it
raises. -/
def modelValidateJson (j : Json) : Option HandoffContract := do
  let values ← (JsonCodec.record (ContractJson.schema lax now)).decode j
  let c := ContractField.build values
  if c.reasonAccepted then some c else none

/-- The fields that are assigned without validation hold values of their declared types, and no
number is infinite or `nan`. -/
structure WellTyped (c : HandoffContract) : Prop where
  intentSummary : c.intentSummary.str?.isSome = true
  estimatedPrimaryRows : c.estimatedPrimaryRows.isInt = true
  rowConfidence : c.rowConfidence.isFiniteFloat = true
  historicalPrecedents : ∀ o ∈ c.historicalPrecedents,
    (o.similarityScore.isFinite && o.jaccardScore.isFinite && o.rerankScore.isFinite) = true
  actualPrimaryRows : ∀ rows ∈ c.actualPrimaryRows, rows.isInt = true
  sandboxTriggerLog : c.sandboxTriggerLog.isObjects = true
  riskScore : c.riskScore.isFinite = true
  autoRejectTriggered : ∃ b : Bool, c.autoRejectTriggered = .bool b
  autoRejectReason : c.autoRejectReason.isText = true
  requiredTierFromPolicy : c.requiredTierFromPolicy.isText = true
  blastRadiusAccuracyDelta : ∀ x ∈ c.blastRadiusAccuracyDelta, x.isFinite = true

variable {c : HandoffContract}

/-- A text or `None` in a field that is not checked comes back. -/
theorem valid_unchecked_text {v : Json} (h : v.isText = true) :
    (JsonCodec.unchecked ContractJson.optionalText).Valid v := by
  cases v with
  | null => exact ⟨none, fun _ _ => trivial, rfl, by rw [Json.encodable] <;> nofun⟩
  | str s => exact ⟨some s, fun _ _ => trivial, rfl, by rw [Json.encodable] <;> nofun⟩
  | _ => cases h

theorem WellTyped.valid (h : c.WellTyped) (f : ContractField) :
    (ContractJson.codec lax f).Valid (f.get c) := by
  cases f with
  | intentSummary =>
    obtain ⟨s, hs⟩ := Option.isSome_iff_exists.mp h.intentSummary
    have hsummary := Json.eq_str_of_str? hs
    exact ⟨s, trivial, hsummary, by
      change c.intentSummary.encodable = true
      rw [hsummary, Json.encodable] <;> nofun⟩
  | estimatedPrimaryRows => exact h.estimatedPrimaryRows
  | rowConfidence => exact JsonCodec.valid_unchecked_float lax h.rowConfidence
  | historicalPrecedents => exact h.historicalPrecedents
  | actualPrimaryRows => exact h.actualPrimaryRows
  | sandboxTriggerLog => exact JsonCodec.valid_unchecked_dicts h.sandboxTriggerLog
  | riskScore => exact h.riskScore
  | blastRadiusAccuracyDelta => exact h.blastRadiusAccuracyDelta
  | autoRejectTriggered =>
    obtain ⟨b, hb⟩ := h.autoRejectTriggered
    exact ⟨b, trivial, hb, by
      change c.autoRejectTriggered.encodable = true
      rw [hb, Json.encodable] <;> nofun⟩
  | autoRejectReason => exact valid_unchecked_text h.autoRejectReason
  | requiredTierFromPolicy => exact valid_unchecked_text h.requiredTierFromPolicy
  -- the other fields hold every value of their type
  | rawIntent | automatedRecoverySql | rollbackPlan | humanDecision | decisionReason | approverId
  | modificationConstraints | reversibility | actualRowsPostExecution | riskTier
  | decisionTimestamp | executionTimestamp | executionSuccess => exact fun _ _ => trivial
  | cascade | externalTriggers | permanentComponents | actualCascade | policyViolations
  | workflowProvenance | staleFields => exact fun _ _ => trivial
  | _ => trivial

/-- **A well-typed contract that the validator accepts comes back.** -/
theorem modelValidateJson_modelDumpJson (hc : c.WellTyped) (hreason : c.reasonAccepted = true) :
    modelValidateJson lax now c.modelDumpJson = some c := by
  have hdecode := (JsonCodec.record (ContractJson.schema lax now)).decode_encode
    (a := fun f => f.get c) fun f => hc.valid lax f
  unfold modelValidateJson
  rw [modelDumpJson_eq lax now, hdecode]
  simp only [Option.bind_eq_bind, Option.bind_some, ContractField.build_get, hreason, if_true]

end HandoffContract
