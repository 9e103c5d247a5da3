import ContraGate.Gateway
import ContraGate.ManifestBinding

/-!
# The proxy with all of its workflows (`proxy/main.py`, `proxy/async_protocol.py`)

Every intercepted call that needs a review gets a record, a background task and a stream of
decisions of its own, but there is one store, one heap and one event loop for all of them. A
`Proxy` is that shared state, and a step of it is a step of any one workflow, or a new call.

A workflow is reached by its approval id only, which `_generate_operation_id` draws.
-/

/-- A workflow, with the objects that were made for it: the record, the contract that the record
was created with, and the contract that the graph works on. -/
structure Workflow where
  approvalId : String
  call : ToolCallManifest
  record : Ref
  initial : Ref
  pipeline : Ref

/-- The manifest that the workflow was submitted with, and runs on. -/
def Workflow.manifest (cfg : ExecutionConfig) (w : Workflow) : Py.Dict :=
  w.call.bound cfg w.approvalId

/-- The state of the proxy. -/
structure Proxy where
  mem : Memory
  /-- The identity of the next contract to be constructed. -/
  nextContract : Ref
  workflows : String → Option Workflow
  tasks : String → TaskAt
  /-- The statuses that endpoints in flight are about to set, for each approval id. -/
  endpoints : String → List WorkflowStatus
  /-- What has happened to each workflow, newest first. -/
  log : String → List Event

/-- One step: a call is intercepted, or something happens to the workflow of an approval id. -/
inductive ProxyAction
  /-- `POST /v1/mcp`; `hex` is what `_generate_operation_id` draws. -/
  | submit (call : ToolCallManifest) (hex : String) (now : Time)
  | workflow (approvalId : String) (a : GatewayAction)

namespace Proxy

variable (cfg : PipelineConfig)

/-- The end of `intercept_tool_call`: the initial contract, the record, the background task. An
intake that raises ends the request; no operation has the id that is drawn. -/
def submit (s : Proxy) (call : ToolCallManifest) (hex : String) (now : Time) : Option Proxy :=
  match Intake.runIntake cfg.toIntakeConfig (call.withHash (cfg.manifestHash call.toDict))
      ("cg_" ++ hex) now with
  | none => some s
  | some c =>
    let w : Workflow :=
      { approvalId := c.operationId, call, record := s.mem.nextRecord
        initial := s.nextContract, pipeline := s.nextContract + 1 }
    if s.mem.store w.approvalId = none then
      some
        { s with
          mem := WorkflowStore.create (s.mem.modifyContract w.initial fun _ => c) w.initial
            (w.manifest cfg.toExecutionConfig) now
          nextContract := s.nextContract + 2
          workflows := Function.update s.workflows w.approvalId (some w)
          tasks := Function.update s.tasks w.approvalId .statusRunning
          log := Function.update s.log w.approvalId [] }
    else none

/-- The background task of a workflow is resumed. -/
def resumeTask (s : Proxy) (approvalId : String) (input : TaskInput) : Option Proxy :=
  (s.workflows approvalId).bind fun w =>
    (Graph.runTask cfg approvalId (w.manifest cfg.toExecutionConfig) w.pipeline s.mem
      (s.tasks approvalId) input).map fun o =>
      { s with
        mem := o.mem
        tasks := Function.update s.tasks approvalId o.pc
        log := Function.update s.log approvalId (o.events ++ s.log approvalId) }

/-- `record_decision`, by a caller that sets no status. -/
def decide (s : Proxy) (approvalId : String) (d : Decision) (now : Time) : Proxy :=
  let result := WorkflowStore.decide s.mem approvalId d now
  { s with
    mem := result.1
    log := Function.update s.log approvalId (result.2 :: s.log approvalId) }

/-- An endpoint: `record_decision`, and if it is accepted the status is to be set. -/
def submitDecision (s : Proxy) (approvalId : String) (d : Decision) (now : Time) : Proxy :=
  let result := WorkflowStore.decide s.mem approvalId d now
  { s with
    mem := result.1
    endpoints := Function.update s.endpoints approvalId
      (if Gateway.accepted result.2 then
        s.endpoints approvalId ++ [Gateway.decisionStatus d.decision]
      else s.endpoints approvalId)
    log := Function.update s.log approvalId (result.2 :: s.log approvalId) }

/-- The proxy, under any calls, decisions and schedules. -/
def machine : Machine Proxy ProxyAction where
  step s
    | .submit call hex now => s.submit cfg call hex now
    | .workflow id (.task input) => s.resumeTask cfg id input
    | .workflow id (.recordDecision d now) => some (s.decide id d now)
    | .workflow id (.postDecision d now) =>
      some (if Gateway.validDecision d then s.submitDecision id d now else s)
    | .workflow id (.viewSubmission approve reason approverId now) =>
      some (if 10 ≤ reason.length then
        s.submitDecision id (Gateway.viewDecision approve reason approverId) now else s)
    | .workflow id (.endpointStatus i now) =>
      ((s.endpoints id)[i]?).map fun status =>
        { s with
          mem := WorkflowStore.updateStatus s.mem id status now
          endpoints := Function.update s.endpoints id ((s.endpoints id).eraseIdx i) }

/-- The proxy has just started: no workflow, no request in flight, and in the store whatever was
loaded, with objects that are already constructed. -/
structure Booted (s : Proxy) : Prop where
  workflows : ∀ id, s.workflows id = none
  endpoints : ∀ id, s.endpoints id = []
  constructed : ∀ id r, s.mem.store id = some r →
    r < s.mem.nextRecord ∧ (s.mem.records r).contract < s.nextContract

/-! ## A concrete proxy, for runs that are evaluated -/

/-- A process that has loaded nothing. -/
def sample : Proxy where
  mem := Memory.blank sampleContract
  nextContract := 0
  workflows _ := none
  tasks _ := .statusRunning
  endpoints _ := []
  log _ := []

theorem sample_booted : sample.Booted where
  workflows _ := rfl
  endpoints _ := rfl
  constructed _ _ h := nomatch h

def sampleCall (sql : String) : ToolCallManifest where
  toolName := .str "execute_query"
  sql := sql
  intent := .null
  submittedBy := "agent"
  sourceType := "external_agent"
  tenantId := "demo_tenant"
  targetMcpUrl := "http://target:8010"

/-- Two calls are intercepted. -/
def twoCalls : List ProxyAction :=
  [.submit (sampleCall "DELETE FROM users WHERE id = 1") "1" 0,
    .submit (sampleCall "DELETE FROM orders WHERE id = 1") "2" 0]

end Proxy
