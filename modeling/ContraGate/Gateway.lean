import ContraGate.Library.Machine
import ContraGate.Graph

/-!
# One workflow: its background task and the decision endpoints
# (`proxy/main.py`, `proxy/async_protocol.py`, `proxy/webhook_handler.py`)

The system is the background task of one record and any number of decisions on its id. An
endpoint that accepts a decision makes a second store call, `update_status`, of its own;
between the two it is in flight.

The contract the record was created with and the one the graph works on are two objects,
`initialContract` and `pipelineContract`.
-/

/-- The state of one workflow. -/
structure Gateway where
  mem : Memory
  task : TaskAt
  /-- The statuses that endpoints in flight are about to set. -/
  endpoints : List WorkflowStatus
  /-- What has happened so far, newest first. -/
  log : List Event

/-- One step: the task goes on, or somebody decides. -/
inductive GatewayAction
  | task (input : TaskInput)
  /-- Any other caller of `record_decision`. -/
  | recordDecision (d : Decision) (now : Time)
  /-- `POST /v1/decisions`. -/
  | postDecision (d : Decision) (now : Time)
  /-- A submitted Slack modal. -/
  | viewSubmission (approve : Bool) (reason approverId : String) (now : Time)
  /-- An endpoint in flight makes its `update_status` call. -/
  | endpointStatus (i : ℕ) (now : Time)

namespace Gateway

/-- The contract object that the record is created with. -/
def initialContract : Ref := 0

/-- The contract object that the graph works on. -/
def pipelineContract : Ref := 1

/-- The decisions that `POST /v1/decisions` accepts. -/
def validDecision (d : Decision) : Bool :=
  10 ≤ d.reason.length && ["APPROVE", "REJECT", "MODIFY", "REQUEST_PREREQUISITE"].contains d.decision

/-- `status_map[decision]` of the endpoints. -/
def decisionStatus : String → WorkflowStatus
  | "APPROVE" => .approved
  | "MODIFY" => .running
  | _ => .rejected

/-- The decision of a Slack modal. -/
def viewDecision (approve : Bool) (reason approverId : String) : Decision where
  decision := if approve then "APPROVE" else "REJECT"
  reason := reason
  approverId := approverId

/-- An event says that a decision was accepted. -/
def accepted : Event → Bool
  | .decided _ (some _) => true
  | _ => false

variable (cfg : PipelineConfig) (approvalId : String) (manifest : Py.Dict)

/-- The intake of the graph either reuses the record's id or draws a fresh one. -/
def FreshId (s : Gateway) (id : String) (now : Time) : Prop :=
  ∀ c, Intake.runIntake cfg.toIntakeConfig manifest id now = some c →
    c.operationId = approvalId ∨ s.mem.store c.operationId = none

instance (s : Gateway) (id : String) (now : Time) :
    Decidable (s.FreshId cfg approvalId manifest id now) :=
  match h : Intake.runIntake cfg.toIntakeConfig manifest id now with
  | none => .isTrue fun c hc => by rw [h] at hc; cases hc
  | some c =>
    decidable_of_iff (c.operationId = approvalId ∨ s.mem.store c.operationId = none)
      ⟨fun hc c' hc' => by rw [h, Option.some.injEq] at hc'; exact hc' ▸ hc, fun hall => hall c h⟩

/-- `record_decision`, by a caller that sets no status. -/
def decide (s : Gateway) (d : Decision) (now : Time) : Gateway :=
  let result := WorkflowStore.decide s.mem approvalId d now
  { s with mem := result.1, log := result.2 :: s.log }

/-- An endpoint: `record_decision`, and if it is accepted the status is to be set. -/
def submit (s : Gateway) (d : Decision) (now : Time) : Gateway :=
  let result := WorkflowStore.decide s.mem approvalId d now
  { s with
    mem := result.1
    endpoints := if accepted result.2 then s.endpoints ++ [decisionStatus d.decision]
      else s.endpoints
    log := result.2 :: s.log }

/-- The task is resumed. -/
def resumeTask (s : Gateway) (input : TaskInput) : Option Gateway :=
  (Graph.runTask cfg approvalId manifest pipelineContract s.mem s.task input).map fun o =>
    { s with mem := o.mem, task := o.pc, log := o.events ++ s.log }

/-- The workflow `approvalId`, submitted with `manifest`. -/
def machine : Machine Gateway GatewayAction where
  step s
    | .task (.generatedId id now) =>
      if s.FreshId cfg approvalId manifest id now then
        s.resumeTask cfg approvalId manifest (.generatedId id now)
      else none
    | .task input => s.resumeTask cfg approvalId manifest input
    | .recordDecision d now => some (s.decide approvalId d now)
    -- an invalid body is answered with an error before the store is called
    | .postDecision d now => some (if validDecision d then s.submit approvalId d now else s)
    | .viewSubmission approve reason approverId now =>
      some (if 10 ≤ reason.length then
        s.submit approvalId (viewDecision approve reason approverId) now else s)
    | .endpointStatus i now =>
      (s.endpoints[i]?).map fun status =>
        { s with
          mem := WorkflowStore.updateStatus s.mem approvalId status now
          endpoints := s.endpoints.eraseIdx i }

/-- The task has been created for a new record, and nobody has decided yet. -/
structure Started (s : Gateway) : Prop where
  record : ∃ r, s.mem.store approvalId = some r ∧ (s.mem.records r).contract = initialContract ∧
    (s.mem.records r).executionCompleted = false
  undecided : (s.mem.contracts initialContract).toDecisionFields = {}
  task : s.task = .statusRunning
  endpoints : s.endpoints = []
  log : s.log = []

/-- `intercept_tool_call` and `start_workflow`: build the initial contract, create the
record, start the task. -/
def submitWorkflow (m : Memory) (generatedId : String) (now : Time) : Option Gateway :=
  (Intake.runIntake cfg.toIntakeConfig manifest generatedId now).map fun c =>
    { mem := WorkflowStore.create (m.modifyContract initialContract fun _ => c) initialContract
        manifest now
      task := .statusRunning
      endpoints := []
      log := [] }

/-! ## A concrete workflow, for runs that are evaluated -/

/-- Settings under which every statement counts as a `DELETE`. -/
def sampleConfig : PipelineConfig where
  manifestHash _ := ""
  isoformat _ := ""
  postgresReaderUrl := "http://contragate-mcp:8010"
  tenantId := "demo_tenant"
  detectOperationType _ := .delete
  explainCost _ := some (.finite 10)
  reviewTimeout := 1800
  feedback _ := none

/-- The workflow of `sampleManifest`, just submitted. -/
def sample : Gateway where
  mem := sampleMemory
  task := .statusRunning
  endpoints := []
  log := []

theorem sample_started : Started "cg_1" sample where
  record := ⟨0, rfl, rfl, rfl⟩
  undecided := rfl
  task := rfl
  endpoints := rfl
  log := rfl

/-- From the start to HUMAN_REVIEW: the policy store is unavailable, so nothing is violated. -/
def toReview : List GatewayAction :=
  [.task (.resume 1), .task (.generatedId "cg_1" 1), .task (.riskGate ⟨.result .null, 1⟩),
    .task (.riskGate ⟨.mcpCallError "", 1⟩), .task (.resume 1), .task (.agentReturns 1),
    .task (.agentReturns 1), .task (.agentReturns 1)]

end Gateway
