import ContraGate.Execution
import ContraGate.HumanReview
import ContraGate.Intake
import ContraGate.RiskGate

/-!
# The graph and the background task that runs it
# (`orchestrator/graph.py`, `_run_pipeline` in `proxy/main.py`, `_run` in `orchestrator/main.py`)

The compiled graph visits `intake`, `risk_gate`, `analysis`, `context_sim`, `contract`,
`human_review`, `execution` and `audit`, with two conditional edges. The background task
sets the status to `RUNNING`, runs the graph, puts the final contract into the store and
maps its approval state to the final status; the proxy's task and the orchestrator's are
the same code. All nodes work on one contract object.

The three agents write their own groups of fields; what they write there is an input, and
so is that a node raises. (The graph runner's own step limit also ends a run in one of the
agent nodes, which only the MODIFY loop can repeat.)
-/

/-- The nodes that are agents. -/
inductive AgentNode
  | analysis | contextSim | contract
deriving DecidableEq

/-- Where `run_audit` is suspended. -/
inductive AuditAt
  /-- In the call of the audit logger. -/
  | logging
  /-- In the call of the memory store. -/
  | remembering

/-- Where the background task is. A node name stands for the node while it runs; a point
named after a store call is before the critical section of that call. -/
inductive TaskAt
  /-- `update_status(RUNNING)`. -/
  | statusRunning
  | intake
  | riskGate (pc : RiskGateAt)
  | routeRiskGate
  | agent (node : AgentNode)
  | humanReview (pc : ReviewPc)
  | routeHumanReview
  | execution (pc : ExecutionAt)
  | audit (pc : AuditAt)
  /-- `update_contract` with the final contract. -/
  | syncContract
  /-- The final approval state is looked up in `state_map`. -/
  | mapStatus
  /-- `update_status` with the mapped status. -/
  | syncStatus (status : WorkflowStatus)
  /-- `update_status(FAILED)`. -/
  | failed
  /-- The task has ended, with this as the status it set last. -/
  | finished (status : WorkflowStatus)

/-- What an agent writes into the contract: fields of its own group, or provenance. -/
inductive AgentWrite
  | analyzer (outputs : AnalyzerOutputs)
  | contextSim (outputs : ContextSimOutputs)
  | contractAgent (outputs : ContractAgentOutputs)
  | provenance (entries : List ProvenanceEntry)

namespace AgentWrite

/-- Which node may make the write. -/
def allowedIn (write : AgentWrite) (node : AgentNode) : Bool :=
  match write with
  | analyzer _ => node = .analysis
  | contextSim _ => node = .contextSim
  | contractAgent _ => node = .contract
  | provenance _ => true

/-- The contract after the write. -/
def apply (write : AgentWrite) (c : HandoffContract) : HandoffContract :=
  match write with
  | analyzer outputs => { c with toAnalyzerOutputs := outputs }
  | contextSim outputs => { c with toContextSimOutputs := outputs }
  | contractAgent outputs => { c with toContractAgentOutputs := outputs }
  | provenance entries => { c with workflowProvenance := c.workflowProvenance ++ entries }

end AgentWrite

/-- What resumes the background task. -/
inductive TaskInput
  | resume (now : Time)
  /-- The id that `_generate_operation_id` would draw. -/
  | generatedId (id : String) (now : Time)
  | riskGate (input : RiskGateInput)
  | agentWrites (write : AgentWrite)
  | agentReturns (now : Time)
  | agentRaises
  | review (input : ReviewInput)
  | execution (input : ExecutionInput)
  | auditReply (reply : TargetReply) (now : Time)

/-- Settings and helpers of the pipeline. -/
structure PipelineConfig extends ExecutionConfig, IntakeConfig, RiskGateConfig where
  reviewTimeout : Time
  /-- `_trigger_feedback_loop_stub`: the accuracy delta and row confidence it writes. -/
  feedback : HandoffContract → Option (Py.Float × Py.Json)

namespace Graph

/-- `state_map.get(final_contract.approval_state, WorkflowStatus.COMPLETED)`. -/
def finalStatus : ApprovalState → WorkflowStatus
  | .approved => .completed
  | .rejected => .rejected
  | .autoRejected => .autoRejected
  | .timedOut => .timedOut
  | .modified => .running
  | .pending => .completed

/-- The edge out of an agent node. -/
def afterAgent (cfg : PipelineConfig) (now : Time) : AgentNode → TaskAt
  | .analysis => .agent .contextSim
  | .contextSim => .agent .contract
  | .contract => .humanReview (HumanReview.enter cfg.reviewTimeout now)

/-- The end of `run_audit`: the feedback loop and the provenance entry. -/
def finishAudit (cfg : PipelineConfig) (now : Time) (c : HandoffContract) : HandoffContract :=
  let c := match cfg.feedback c with
    | some (delta, confidence) =>
      { c with blastRadiusAccuracyDelta := some delta, rowConfidence := confidence }
    | none => c
  c.addProvenance now "AUDIT" "audit_record,memory_write_back"

/-- Where the graph goes when RISK_GATE has returned or raised. -/
def afterRiskGate : RiskGateAt → TaskAt
  | .returned => .routeRiskGate
  | .raised => .failed
  | pc => .riskGate pc

/-- Where the graph goes when HUMAN_REVIEW has returned or raised. -/
def afterHumanReview (pc : ReviewPc) : TaskAt :=
  match pc.point with
  | .returned => .routeHumanReview
  | .raised => .failed
  | _ => .humanReview pc

/-- Where the graph goes when EXECUTION has returned or raised. -/
def afterExecution : ExecutionAt → TaskAt
  | .returned => .audit .logging
  | .raised => .failed
  | pc => .execution pc

/-- A step of a node, as a step of the task. -/
def within {κ : Type} (after : κ → TaskAt) (o : Resumed κ) : Resumed TaskAt :=
  { mem := o.mem, pc := after o.pc, events := o.events }

/-- One stretch of the background task of the record `approvalId`, running the graph on
`manifest` with its contract at `contract`. -/
def runTask (cfg : PipelineConfig) (approvalId : String) (manifest : Py.Dict) (contract : Ref)
    (m : Memory) : TaskAt → TaskInput → Option (Resumed TaskAt)
  | .statusRunning, .resume now =>
    some { mem := WorkflowStore.updateStatus m approvalId .running now, pc := .intake }
  | .intake, .generatedId id now =>
    match Intake.runIntake cfg.toIntakeConfig manifest id now with
    | some c => some { mem := m.modifyContract contract fun _ => c, pc := .riskGate .explaining }
    | none => some { mem := m, pc := .failed }
  | .riskGate pc, .riskGate input =>
    (RiskGate.runRiskGate cfg.toRiskGateConfig contract m pc input).map (within afterRiskGate)
  | .routeRiskGate, .resume _ =>
    match Guards.routeFromRiskGate (m.contracts contract) with
    | .autoReject => some { mem := m, pc := .audit .logging }
    | .autoExecute => some { mem := m, pc := .audit .logging }
    | .fullPipeline => some { mem := m, pc := .agent .analysis }
  | .agent node, .agentWrites write =>
    if write.allowedIn node then
      some { mem := m.modifyContract contract write.apply, pc := .agent node }
    else none
  | .agent node, .agentReturns now => some { mem := m, pc := afterAgent cfg now node }
  | .agent _, .agentRaises => some { mem := m, pc := .failed }
  | .humanReview pc, .review input =>
    (HumanReview.runHumanReview contract m pc input).map (within afterHumanReview)
  | .routeHumanReview, .resume _ =>
    match Guards.routeFromHumanReview (m.contracts contract) with
    | .approved => some { mem := m, pc := .execution .start }
    | .rejected => some { mem := m, pc := .audit .logging }
    | .timedOut => some { mem := m, pc := .audit .logging }
    | .modified => some { mem := m, pc := .agent .analysis }
  | .execution pc, .execution input =>
    (Execution.runExecution cfg.toExecutionConfig contract m pc input).map (within afterExecution)
  -- failed audit and memory calls are logged and the audit goes on
  | .audit _, .auditReply .otherError _ => some { mem := m, pc := .failed }
  | .audit .logging, .auditReply _ _ => some { mem := m, pc := .audit .remembering }
  | .audit .remembering, .auditReply _ now =>
    some { mem := m.modifyContract contract (finishAudit cfg now), pc := .syncContract }
  | .syncContract, .resume now =>
    some { mem := WorkflowStore.updateContract m approvalId contract now, pc := .mapStatus }
  | .mapStatus, .resume _ =>
    some { mem := m, pc := .syncStatus (finalStatus (m.contracts contract).approvalState) }
  | .syncStatus status, .resume now =>
    some { mem := WorkflowStore.updateStatus m approvalId status now, pc := .finished status }
  | .failed, .resume now =>
    some { mem := WorkflowStore.updateStatus m approvalId .failed now, pc := .finished .failed }
  | _, _ => none

end Graph
