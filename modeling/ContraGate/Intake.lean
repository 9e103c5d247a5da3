import ContraGate.Library.PyText
import ContraGate.WorkflowStore

/-!
# The INTAKE state (`orchestrator/states/intake.py`)

`run_intake` builds the initial contract from a tool-call manifest. It is called twice for
a workflow: once before the record is created, and again by the graph on the same manifest.
-/

/-- Settings and helpers of `run_intake`. -/
structure IntakeConfig where
  /-- `TENANT_ID`. -/
  tenantId : String
  /-- `_detect_operation_type`. -/
  detectOperationType : String → OperationType

namespace Intake

/-- `_detect_source_type`; anything that is no source type is an internal system. -/
def detectSourceType (manifest : Py.Dict) : SourceType :=
  match manifest.getD "source_type" (.str "internal_system") with
  | .str "external_user_input" => .externalUserInput
  | .str "external_agent" => .externalAgent
  | _ => .internalSystem

/-- `manifest.get("sql") or manifest.get("query") or manifest.get("statement")`. -/
def sqlOf (manifest : Py.Dict) : Py.Json :=
  ((manifest.get "sql").or (manifest.get "query")).or (manifest.get "statement")

/-- A field that the contract types as `str | None`. -/
def optionalText : Py.Json → Option (Option String)
  | .null => some none
  | .str s => some (some s)
  | _ => none

/-- `run_intake(manifest)`; `none` when it raises. `generatedId` is the id that
`_generate_operation_id` would draw, used when the manifest has none. A value that is not
the text its field asks for is refused by the contract's validation. -/
def runIntake (cfg : IntakeConfig) (manifest : Py.Dict) (generatedId : String) (now : Time) :
    Option HandoffContract := do
  let rawSql ← (sqlOf manifest).str?
  if Py.isBlank rawSql.toList then none
  let submittedBy ← (manifest.getD "submitted_by" (.str "unknown_agent")).str?
  let tenantId ← (manifest.getD "tenant_id" (.str cfg.tenantId)).str?
  let operationId ← ((manifest.get "operation_id").or (.str generatedId)).str?
  let rawIntent ← optionalText (manifest.get "intent")
  let sourceType := detectSourceType manifest
  let contract : HandoffContract :=
    { operationId, tenantId, submittedBy, sourceType, submissionTimestamp := now, rawSql, rawIntent
      operationType := cfg.detectOperationType rawSql
      promptInjectionRisk := sourceType = .externalUserInput || sourceType = .externalAgent
      approvalState := .pending }
  some (contract.addProvenance now "INTAKE"
    "operation_id,source_type,operation_type,prompt_injection_risk")

variable {cfg : IntakeConfig} {manifest : Py.Dict} {generatedId : String} {now : Time}
  {c : HandoffContract}

/-- What an intake that does not raise has read of the manifest, and the contract that it makes
of it. -/
theorem runIntake_eq_some (h : runIntake cfg manifest generatedId now = some c) :
    ∃ rawSql submittedBy tenantId operationId rawIntent,
      (sqlOf manifest).str? = some rawSql ∧
      Py.isBlank rawSql.toList = false ∧
      (manifest.getD "submitted_by" (.str "unknown_agent")).str? = some submittedBy ∧
      (manifest.getD "tenant_id" (.str cfg.tenantId)).str? = some tenantId ∧
      ((manifest.get "operation_id").or (.str generatedId)).str? = some operationId ∧
      optionalText (manifest.get "intent") = some rawIntent ∧
      c = ({ operationId, tenantId, submittedBy, rawSql, rawIntent
             sourceType := detectSourceType manifest
             submissionTimestamp := now
             operationType := cfg.detectOperationType rawSql
             promptInjectionRisk := detectSourceType manifest = .externalUserInput ||
               detectSourceType manifest = .externalAgent
             approvalState := .pending } : HandoffContract).addProvenance now "INTAKE"
        "operation_id,source_type,operation_type,prompt_injection_risk" := by
  simp only [runIntake, Option.bind_eq_bind, Option.bind_eq_some_iff] at h
  obtain ⟨rawSql, hsql, h⟩ := h
  split at h
  · simp at h
  rename_i hblank
  simp only [Option.some.injEq, Option.bind_eq_some_iff] at h
  obtain ⟨submittedBy, hsubmittedBy, tenantId, htenantId, operationId, hoperationId,
    rawIntent, hintent, rfl⟩ := h
  exact ⟨rawSql, submittedBy, tenantId, operationId, rawIntent, hsql,
    Bool.eq_false_iff.mpr hblank, hsubmittedBy, htenantId, hoperationId, hintent, rfl⟩

/-- A new contract is undecided, and no policy has been applied to it. -/
theorem runIntake_fresh (h : runIntake cfg manifest generatedId now = some c) :
    c.toDecisionFields = {} ∧ c.toPolicyGateOutputs = {} := by
  obtain ⟨_, _, _, _, _, _, _, _, _, _, _, rfl⟩ := runIntake_eq_some h
  exact ⟨rfl, rfl⟩

end Intake
