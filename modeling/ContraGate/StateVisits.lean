import ContraGate.ExplainResult
import ContraGate.FieldOwnership
import ContraGate.GatewayTheorems

/-!
# Visits of the states of the graph

Every state of the graph is to append an entry of its own to `workflow_provenance` whenever it is
visited. A visit is a stretch of a run, from the entry of the state until the task has left it,
with whatever else happens in between; in a visit of an agent the task writes what the agent's
function computes.
-/

/-- The states of the graph. -/
inductive GraphNode
  | intake | riskGate | agent (node : AgentNode) | humanReview | execution | audit
deriving DecidableEq

/-- The agent under which a state appends its entries. -/
def GraphNode.agentName : GraphNode → String
  | intake => "INTAKE"
  | riskGate => "RISK_GATE"
  | agent .analysis => "ANALYZER_AGENT"
  | agent .contextSim => "CONTEXT_SIM_AGENT"
  | agent .contract => "CONTRACT_AGENT"
  | humanReview => "HUMAN_REVIEW"
  | execution => "EXECUTION"
  | audit => "AUDIT"

namespace TaskAt

/-- The state of the graph that the task is in. -/
def node? : TaskAt → Option GraphNode
  | intake => some .intake
  | riskGate _ => some .riskGate
  | agent node => some (.agent node)
  | humanReview _ => some .humanReview
  | execution _ => some .execution
  | audit _ => some .audit
  | _ => none

/-- The task has just entered a state of the graph. -/
def entering : TaskAt → Bool
  | intake | riskGate .explaining | agent _ | execution .start | audit .logging => true
  | humanReview pc => decide (pc.point = .notifying)
  | _ => false

/-- The task is in a state that has still to append its first entry. For the agents, that depends
on what they have written. -/
def unrecorded : TaskAt → Bool
  | intake | riskGate _ | execution _ | audit _ => true
  | humanReview pc => decide (pc.point = .notifying)
  | _ => false

end TaskAt

/-- Only HUMAN_REVIEW and the agents go on after an entry. -/
theorem TaskAt.review_or_agent {t : TaskAt} {n : GraphNode} (hnode : t.node? = some n)
    (hdone : t.unrecorded = false) : n = .humanReview ∨ ∃ node, n = .agent node := by
  cases t with
  | humanReview pc => exact .inl (Option.some.inj hnode).symm
  | agent node => exact .inr ⟨node, (Option.some.inj hnode).symm⟩
  | intake | riskGate _ | execution _ | audit _ => cases hdone
  | _ => cases hnode

theorem TaskAt.unrecorded_of_agent {t : TaskAt} {node : AgentNode}
    (hnode : t.node? = some (.agent node)) : t.unrecorded = false := by
  cases t with
  | agent node' => rfl
  | _ => cases hnode

/-- An exception has left a state. -/
def TaskAt.isFailed : TaskAt → Bool
  | failed => true
  | _ => false

/-- The entries that an agent's write appends. -/
def AgentWrite.entries : AgentWrite → List ProvenanceEntry
  | provenance entries => entries
  | _ => []

/-- What an agent may write in a visit that finds the contract `c`; `returns` says whether the
visit ends without an exception. An exception leaves an agent before its entry is appended. -/
inductive AgentVisit (analyzer : AnalyzerConfig) (formats : ContractFormats) (c : HandoffContract)
    (writes : List AgentWrite) : AgentNode → Bool → Prop
  | analysis {reader : PostgresTools} {reply : LlmReply} {now : Time} {c' : HandoffContract}
    (h : AnalyzerAgent.analyze analyzer reader reply now c = some c')
    (hwrites : writes.foldl (fun c write => write.apply c) c = c') :
    AgentVisit analyzer formats c writes .analysis true
  | analysisRaises {reader : PostgresTools} {reply : LlmReply} {now : Time}
    (h : AnalyzerAgent.analyze analyzer reader reply now c = none)
    (hwrites : writes.flatMap AgentWrite.entries = []) :
    AgentVisit analyzer formats c writes .analysis false
  | contextSim {memory : MemoryTools} {first second : SandboxTools} {now : Time}
    (hwrites : writes.foldl (fun c write => write.apply c) c =
      ContextSimAgent.run memory first second now c) :
    AgentVisit analyzer formats c writes .contextSim true
  | contract {first second : LlmReply} {hex : String} {now : Time} {c' : HandoffContract}
    (h : ContractAgent.run formats first second hex now c = some c')
    (hwrites : writes.foldl (fun c write => write.apply c) c = c') :
    AgentVisit analyzer formats c writes .contract true
  | contractRaises {first second : LlmReply} {hex : String} {now : Time}
    (h : ContractAgent.run formats first second hex now c = none)
    (hwrites : writes.flatMap AgentWrite.entries = []) :
    AgentVisit analyzer formats c writes .contract false

/-! ## When a visit proceeds to its entry -/

/-- `run_intake` accepts the manifest: the texts it asks for are texts, and the statement is not
blank. -/
structure Intake.Accepts (manifest : Py.Dict) : Prop where
  sql : ∃ rawSql, (sqlOf manifest).str? = some rawSql ∧ Py.isBlank rawSql.toList = false
  submittedBy : ((manifest.getD "submitted_by" (.str "")).str?).isSome
  tenantId : ((manifest.getD "tenant_id" (.str "")).str?).isSome
  operationId : (((manifest.get "operation_id").or (.str "")).str?).isSome
  intent : (optionalText (manifest.get "intent")).isSome

/-- A policy result is an object whose rules are objects of four texts. -/
def RiskGate.PolicyReadable (v : Py.Json) : Prop :=
  ∃ policy, v.dict? = some policy ∧
    (violationsOf (policy.getD "triggered_rules" (.arr []))).isSome = true

/-- A reply is an answer that can be read, or the exception that the states catch. -/
def TargetReply.Usable (readable : Py.Json → Prop) : TargetReply → Prop
  | result v => readable v
  | mcpCallError _ => True
  | otherError => False

namespace Graph

/-- The condition on one step of the task: no exception leaves the state, EXECUTION finds an
operation that is not executed yet, and the analyzer is not told that its fields are fresh. -/
def Proceeds (cfg : PipelineConfig) (manifest : Py.Dict) (contract : Ref) (m : Memory) :
    TaskAt → TaskInput → Prop
  | .intake, .generatedId _ _ => Intake.Accepts manifest
  | .riskGate .explaining, .riskGate input =>
    input.reply.Usable fun v => (cfg.explainCost v).isSome = true
  | .riskGate (.evaluating _), .riskGate input => input.reply.Usable RiskGate.PolicyReadable
  | .agent _, .agentRaises => False
  | .agent .analysis, _ => AnalyzerAgent.skips (m.contracts contract) = false
  | .humanReview _, .review (.notified r _) => r.Usable fun _ => True
  | .execution (.got record), _ =>
    ∃ r, record = some r ∧ (m.records r).executionCompleted = false
  | .execution .calling, .execution (.reply r _) => r.Usable fun _ => True
  | .audit _, .auditReply r _ => r.Usable fun _ => True
  | _, _ => True

end Graph

/-- The provenance of the contract that the graph works on; before INTAKE there is none. -/
def TaskAt.trail (t : TaskAt) (c : HandoffContract) : List ProvenanceEntry :=
  match t with
  | .statusRunning | .intake => []
  | _ => c.workflowProvenance

namespace Gateway

/-- The provenance so far. -/
def trail (s : Gateway) : List ProvenanceEntry := s.task.trail (s.mem.contracts pipelineContract)

/-- The condition on one step of the workflow. Decisions and endpoints are always fine. -/
def Proceeds (cfg : PipelineConfig) (manifest : Py.Dict) (s : Gateway) : GatewayAction → Prop
  | .task input => Graph.Proceeds cfg manifest pipelineContract s.mem s.task input
  | _ => True

/-- The writes that the task makes for an agent. -/
def agentWrites (actions : List GatewayAction) : List AgentWrite :=
  actions.filterMap fun
    | .task (.agentWrites write) => some write
    | _ => none

/-- A visit of a state: the task enters it in `s`, stays in it while `during` happens, and has
left it in `t`. -/
structure Visit (cfg : PipelineConfig) (analyzer : AnalyzerConfig) (formats : ContractFormats)
    (approvalId : String) (manifest : Py.Dict) (n : GraphNode) (s : Gateway)
    (during : List GatewayAction) (t : Gateway) : Prop where
  node : s.task.node? = some n
  entering : s.task.entering = true
  run : (machine cfg approvalId manifest).exec s during = some t
  inside : (machine cfg approvalId manifest).Guarded (fun u _ => u.task.node? = some n) s during
  left : t.task.node? ≠ some n
  agent : ∀ node, n = .agent node →
    AgentVisit analyzer formats (s.mem.contracts pipelineContract) (agentWrites during) node
      (!t.task.isFailed)

/-- The visit returns a contract with an entry of the state itself added to its provenance. -/
def Appends (n : GraphNode) (s t : Gateway) : Prop :=
  t.task.isFailed = false ∧ ∃ added, t.trail = s.trail ++ added ∧ ∃ e ∈ added, e.agent = n.agentName

end Gateway

/-! ## What happens beside the task -/

namespace Memory

/-- No contract gets another provenance. -/
def SameTrails (m m' : Memory) : Prop :=
  ∀ x, (m'.contracts x).toProvenance = (m.contracts x).toProvenance

theorem SameTrails.refl (m : Memory) : SameTrails m m := fun _ => rfl

theorem sameTrails_modifyContract (m : Memory) (c : Ref) {f : HandoffContract → HandoffContract}
    (hf : ∀ x, (f x).toProvenance = x.toProvenance) : SameTrails m (m.modifyContract c f) := by
  intro x
  by_cases hx : x = c
  · subst hx
    rw [modifyContract_self, hf]
  · rw [m.modifyContract_of_ne f hx]

theorem sameTrails_updateStatus (m : Memory) (id : String) (status : WorkflowStatus) (now : Time) :
    SameTrails m (WorkflowStore.updateStatus m id status now) := by
  cases h : m.store id with
  | none =>
    rw [WorkflowStore.updateStatus, h]
    exact .refl m
  | some r =>
    rw [WorkflowStore.updateStatus_eq h]
    exact .refl m

theorem sameTrails_updateContract (m : Memory) (id : String) (contract : Ref) (now : Time) :
    SameTrails m (WorkflowStore.updateContract m id contract now) := by
  cases h : m.store id with
  | none =>
    rw [WorkflowStore.updateContract, h]
    exact .refl m
  | some r =>
    rw [WorkflowStore.updateContract_eq h]
    refine m.sameTrails_modifyContract contract fun x => ?_
    unfold WorkflowStore.merged
    split <;> rfl

theorem sameTrails_setExecutionResult (m : Memory) (id : String) (result : Py.Dict) (now : Time) :
    SameTrails m (WorkflowStore.setExecutionResult m id result now) := by
  cases h : m.store id with
  | none =>
    rw [WorkflowStore.setExecutionResult, h]
    exact .refl m
  | some r =>
    rw [WorkflowStore.setExecutionResult_eq h]
    exact .refl m

theorem sameTrails_decide (m : Memory) (id : String) (d : Decision) (now : Time) :
    SameTrails m (WorkflowStore.decide m id d now).1 := by
  unfold WorkflowStore.decide WorkflowStore.recordDecision
  dsimp only
  split
  · exact .refl m
  · split
    · exact sameTrails_modifyContract m (f := fun c =>
        { c with toDecisionFields := d.write now c.toDecisionFields }) _ fun _ => rfl
    · exact .refl m

end Memory

namespace Gateway

variable {cfg : PipelineConfig} {approvalId : String} {manifest : Py.Dict} {s t : Gateway}
  {a : GatewayAction}

/-- Decisions and endpoints leave the task and every provenance alone. -/
theorem sameTrails_of_other
    (hstep : (machine cfg approvalId manifest).step s a = some t)
    (hother : ∀ input, a ≠ .task input) : t.task = s.task ∧ s.mem.SameTrails t.mem := by
  cases a with
  | task input => exact absurd rfl (hother input)
  | recordDecision d now =>
    obtain rfl := Option.some.inj hstep
    exact ⟨rfl, s.mem.sameTrails_decide _ _ _⟩
  | postDecision d now =>
    obtain rfl := Option.some.inj hstep
    split
    · exact ⟨rfl, s.mem.sameTrails_decide _ _ _⟩
    · exact ⟨rfl, .refl _⟩
  | viewSubmission approve reason approverId now =>
    obtain rfl := Option.some.inj hstep
    split
    · exact ⟨rfl, s.mem.sameTrails_decide _ _ _⟩
    · exact ⟨rfl, .refl _⟩
  | endpointStatus i now =>
    obtain ⟨status, -, rfl⟩ := Option.map_eq_some_iff.mp hstep
    exact ⟨rfl, s.mem.sameTrails_updateStatus _ _ _⟩

end Gateway
