import ContraGate.Coroutine

/-!
# The EXECUTION state (`orchestrator/states/execution.py`)

`run_execution` reads the record, checks it twice, calls the target and records the result
in the store.
-/

/-- Library functions and settings that `run_execution` uses. -/
structure ExecutionConfig where
  /-- SHA-256 of the canonical JSON text: `_manifest_hash`. -/
  manifestHash : Py.Dict → String
  isoformat : Time → String
  postgresReaderUrl : String

/-- Where `run_execution` is suspended. -/
inductive ExecutionAt
  /-- Before the critical section of `workflow_store.get`. -/
  | start
  /-- `get` has returned this record. -/
  | got (record : Option Ref)
  /-- Waiting for the target. -/
  | calling
  /-- Before the critical section of `set_execution_result`. -/
  | storing (result : Py.Dict)
  /-- After it. -/
  | stored
  | returned
  | raised

/-- What resumes `run_execution`. -/
inductive ExecutionInput
  | resume (now : Time)
  | reply (r : TargetReply) (now : Time)

namespace Execution

variable (cfg : ExecutionConfig)

/-- The stale-state guard passes: no hash is bound, or it is the hash of the rest. -/
def manifestIntact (manifest : Py.Dict) : Bool :=
  match manifest.get "_manifest_hash" with
  | .str hash => hash == "" || hash == cfg.manifestHash (manifest.without "_manifest_hash")
  | other => !other.truthy

/-- The original tool call, taken from the manifest. -/
def toolCall (manifest : Py.Dict) (contract : HandoffContract) : ToolCall where
  targetUrl := manifest.getD "target_mcp_url" (.str cfg.postgresReaderUrl)
  toolName := manifest.getD "tool_name" (.str "execute_query")
  sql := ((manifest.get "sql").or (manifest.get "query")).or (.str contract.rawSql)
  tenantId := contract.tenantId

/-- The result recorded for a call that returned. -/
def succeeded (value : Py.Json) (now : Time) : Py.Dict :=
  [("success", .bool true), ("result", value), ("executed_at", .str (cfg.isoformat now ++ "Z"))]

/-- The result recorded for a call that raised `MCPCallError`. -/
def failed (message : String) (now : Time) : Py.Dict :=
  [("success", .bool false), ("error", .str message),
    ("executed_at", .str (cfg.isoformat now ++ "Z"))]

/-- From the record that `get` returned to the target call: the idempotency check, the
stale-state guard, the call. -/
def checkAndCall (contract : Ref) (m : Memory) (record : WorkflowRecord) (now : Time) :
    Resumed ExecutionAt :=
  let manifest := record.toolCallManifest.getD []
  if record.executionCompleted then
    { mem := m.modifyContract contract fun c => { c with executionSuccess := some true }
      pc := .returned }
  else if manifestIntact cfg manifest then
    { mem := m
      pc := .calling
      events := [.sent (toolCall cfg manifest (m.contracts contract))] }
  else
    { mem := m.modifyContract contract fun c =>
        { c with executionSuccess := some false }.addProvenance now "EXECUTION" "execution_success"
      pc := .returned }

/-- One stretch of `run_execution(contract)`. -/
def runExecution (contract : Ref) (m : Memory) :
    ExecutionAt → ExecutionInput → Option (Resumed ExecutionAt)
  | .start, .resume _ =>
    some { mem := m, pc := .got (WorkflowStore.get m (m.contracts contract).operationId) }
  -- `No workflow record found`
  | .got none, .resume _ => some { mem := m, pc := .raised }
  | .got (some r), .resume now => some (checkAndCall cfg contract m (m.records r) now)
  | .calling, .reply (.result value) now =>
    some
      { mem := m.modifyContract contract fun c =>
          { c with executionSuccess := some true, executionTimestamp := some now }
        pc := .storing (succeeded cfg value now)
        events := [.replied (.result value)] }
  | .calling, .reply (.mcpCallError message) now =>
    some
      { mem := m.modifyContract contract fun c =>
          { c with executionSuccess := some false, executionTimestamp := some now }
        pc := .storing (failed cfg message now)
        events := [.replied (.mcpCallError message)] }
  -- not caught here
  | .calling, .reply .otherError _ =>
    some { mem := m, pc := .raised, events := [.replied .otherError] }
  | .storing result, .resume now =>
    some
      { mem := WorkflowStore.setExecutionResult m (m.contracts contract).operationId result now
        pc := .stored }
  | .stored, .resume now =>
    some
      { mem := m.modifyContract contract fun c =>
          c.addProvenance now "EXECUTION" "execution_success,execution_timestamp"
        pc := .returned }
  | _, _ => none

end Execution
