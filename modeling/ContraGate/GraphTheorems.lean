import ContraGate.ExecutionTheorems
import ContraGate.Graph
import ContraGate.HumanReviewTheorems

/-!
# What one stretch of the background task does

`TaskView` is the abstract state of a workflow: the decision state (`View`), whether the
pipeline's contract carries the record's id, whether a hard policy violation was found, and
what the record says about the execution. `TaskStep` lists what a stretch of the task can do
to it, one constructor per stretch, and `runTask_step` says the list is complete. The
invariants of the protocol are proved by cases on it.
-/

/-- The abstract state of one workflow. -/
structure TaskView extends View where
  /-- The pipeline's contract has the id of the record. -/
  linked : Bool
  /-- `auto_reject_triggered` of the pipeline's contract. -/
  triggered : Bool
  /-- `execution_completed` of the record. -/
  executed : Bool
  /-- The record has an execution result with `success: True`. -/
  succeeded : Bool
  /-- The stale-state guard would pass on the record's manifest. -/
  intact : Bool

/-- The stale-state guard passes on the manifest of the record `id`. -/
def Memory.intact (cfg : ExecutionConfig) (m : Memory) (id : String) : Bool :=
  (m.record? id).all fun record =>
    Execution.manifestIntact cfg (record.toolCallManifest.getD [])

/-- The abstract state of the record `id` and the pipeline's contract `c`. -/
def Memory.taskView (cfg : ExecutionConfig) (m : Memory) (id : String) (c : Ref) : TaskView where
  toView := m.view id c
  linked := (m.contracts c).operationId = id
  triggered := (m.contracts c).autoRejectTriggered.truthy
  executed := m.executed id
  succeeded := m.succeeded id
  intact := m.intact cfg id

/-- One stretch of the task, resumed with `input`: from a point, to a view and a point, with
its events. -/
inductive TaskStep (v : TaskView) (input : TaskInput) :
    TaskAt → TaskView → TaskAt → List Event → Prop
  | statusRunning :
    TaskStep v input .statusRunning { v with toView := v.updateStatus .running } .intake []
  | intake (linked : Bool) :
    TaskStep v input .intake { v with toView := v.write {}, linked, triggered := false }
      (.riskGate .explaining) []
  | intakeRaises : TaskStep v input .intake v .failed []
  | riskGate {pc : RiskGateAt} (cost : Py.Float) :
    TaskStep v input (.riskGate pc) v (.riskGate (.evaluating cost)) []
  | riskGateReturns {pc : RiskGateAt} (triggered : Bool) :
    TaskStep v input (.riskGate pc)
      { v with
        toView := v.write
          (if triggered then { v.own with approvalState := .autoRejected } else v.own)
        triggered } .routeRiskGate []
  | riskGateRaises {pc : RiskGateAt} : TaskStep v input (.riskGate pc) v .failed []
  | autoReject (h : v.triggered = true) : TaskStep v input .routeRiskGate v (.audit .logging) []
  | autoExecute (h : v.triggered = false) : TaskStep v input .routeRiskGate v (.audit .logging) []
  | fullPipeline (h : v.triggered = false) :
    TaskStep v input .routeRiskGate v (.agent .analysis) []
  | agent {node : AgentNode} (node' : AgentNode) : TaskStep v input (.agent node) v (.agent node') []
  | agentsDone {node : AgentNode} (deadline : Time) :
    TaskStep v input (.agent node) v (.humanReview ⟨deadline, .notifying⟩) []
  | agentRaises {node : AgentNode} : TaskStep v input (.agent node) v .failed []
  | review {pc pc' : ReviewPc} {w : View} {events : List Event} (hlinked : v.linked = true)
    (h : ReviewStep v.toView pc.point w pc'.point events) :
    TaskStep v input (.humanReview pc) { v with toView := w } (Graph.afterHumanReview pc') events
  /-- The pipeline's contract has an id without a record: only the contract changes. -/
  | reviewUnlinked {pc pc' : ReviewPc} {f : DecisionFields} {events : List Event}
    (hlinked : v.linked = false) (h : ∀ e ∈ events, e = .storeRead ∨ e = .timedOut) :
    TaskStep v input (.humanReview pc) { v with toView := v.write f } (Graph.afterHumanReview pc') events
  | approved (h : v.own.approvalState = .approved) :
    TaskStep v input .routeHumanReview v (.execution .start) []
  | notApproved (h : v.own.approvalState ≠ .approved) (h' : v.own.approvalState ≠ .modified) :
    TaskStep v input .routeHumanReview v (.audit .logging) []
  | modified (h : v.own.approvalState = .modified) :
    TaskStep v input .routeHumanReview v (.agent .analysis) []
  | executionGet (record : Option Ref) :
    TaskStep v input (.execution .start) v (.execution (.got record)) []
  | executionGone : TaskStep v input (.execution (.got none)) v .failed []
  | executionSkipped {r : Ref} (hlinked : v.linked = true) (h : v.executed = true) :
    TaskStep v input (.execution (.got (some r))) v (.audit .logging) []
  | executionAborted {r : Ref} (hlinked : v.linked = true) (h : v.intact = false) :
    TaskStep v input (.execution (.got (some r))) v (.audit .logging) []
  | executionSends {r : Ref} (hlinked : v.linked = true) (h : v.executed = false)
    (call : ToolCall) :
    TaskStep v input (.execution (.got (some r))) v (.execution .calling) [.sent call]
  | executionReplied {result : Py.Dict} (value : Py.Json) (h : Memory.isSuccess result = true) :
    TaskStep v input (.execution .calling) v (.execution (.storing result)) [.replied (.result value)]
  | executionFailed {result : Py.Dict} {message : String} {now : Time}
    (hinput : input = .execution (.reply (.mcpCallError message) now))
    (h : Memory.isSuccess result = false) :
    TaskStep v input (.execution .calling) v (.execution (.storing result))
      [.replied (.mcpCallError message)]
  | executionRaises : TaskStep v input (.execution .calling) v .failed [.replied .otherError]
  | executionStores {result : Py.Dict} (hlinked : v.linked = true) :
    TaskStep v input (.execution (.storing result))
      { v with executed := true, succeeded := Memory.isSuccess result } (.execution .stored) []
  | executionDone : TaskStep v input (.execution .stored) v (.audit .logging) []
  | auditRaises {pc : AuditAt} {now : Time} (hinput : input = .auditReply .otherError now) :
    TaskStep v input (.audit pc) v .failed []
  | auditLogged : TaskStep v input (.audit .logging) v (.audit .remembering) []
  | audited : TaskStep v input (.audit .remembering) v .syncContract []
  | syncContract :
    TaskStep v input .syncContract { v with toView := v.updateContract } .mapStatus []
  | mapStatus :
    TaskStep v input .mapStatus v (.syncStatus (Graph.finalStatus v.own.approvalState)) []
  | syncStatus {status : WorkflowStatus} :
    TaskStep v input (.syncStatus status) { v with toView := v.updateStatus status } (.finished status) []
  | failed : TaskStep v input .failed { v with toView := v.updateStatus .failed } (.finished .failed) []

/-- A record held by an activation of `run_execution` is the one in the store. -/
def ExecutionAt.Fresh (record : Option Ref) : ExecutionAt → Prop
  | got current => current = record
  | calling | storing _ | stored => record ≠ none
  | _ => True

/-- A record held by the task is the one in the store. -/
def TaskAt.Fresh (record : Option Ref) : TaskAt → Prop
  | humanReview pc => pc.point.Fresh record
  | execution pc => pc.Fresh record
  | _ => True

namespace Memory

variable {cfg : ExecutionConfig} {m m' : Memory} {id : String} {c : Ref}

theorem Kept.intact (h : m.Kept m') (id : String) : m'.intact cfg id = m.intact cfg id := by
  unfold Memory.intact Memory.record?
  rw [h.store]
  cases m.store id with
  | none => rfl
  | some r => simp [h.manifest]

/-- What the approval protocol does to the abstract state is what it does to the view. -/
theorem Kept.taskView (h : m.Kept m') :
    m'.taskView cfg id c = { m.taskView cfg id c with toView := m'.view id c } := by
  unfold Memory.taskView
  rw [h.executed, h.succeeded, h.intact, h.identity, h.policy]

/-- Assigning the pipeline's contract a new value. -/
theorem taskView_modifyContract (f : HandoffContract → HandoffContract) :
    (m.modifyContract c f).taskView cfg id c =
      { m.taskView cfg id c with
        toView := (m.view id c).write (f (m.contracts c)).toDecisionFields
        linked := (f (m.contracts c)).operationId = id
        triggered := (f (m.contracts c)).autoRejectTriggered.truthy } := by
  unfold Memory.taskView
  rw [view_modifyContract, modifyContract_self]
  rfl

/-- Writing other fields of the pipeline's contract. -/
theorem taskView_modifyContract_other (f : HandoffContract → HandoffContract)
    (hf : ∀ x, (f x).toDecisionFields = x.toDecisionFields ∧ (f x).toIdentity = x.toIdentity ∧
      (f x).toPolicyGateOutputs = x.toPolicyGateOutputs) :
    (m.modifyContract c f).taskView cfg id c = m.taskView cfg id c := by
  rw [(m.kept_modifyContract c f (fun x => (hf x).2.1) fun x => (hf x).2.2).taskView,
    view_modifyContract_other f fun x => (hf x).1]
  rfl

end Memory

namespace RiskGate

/-- What a policy result leaves in the contract: it is auto-rejected exactly when the
result has a hard violation. -/
theorem applyPolicyResult_spec {cost : Py.Float} {policyResult : Py.Json} {now : Time}
    {c c' : HandoffContract} (h : applyPolicyResult cost policyResult now c = some c') :
    c'.toIdentity = c.toIdentity ∧
      c'.toDecisionFields = if c'.autoRejectTriggered.truthy then
        { c.toDecisionFields with approvalState := .autoRejected } else c.toDecisionFields := by
  simp only [applyPolicyResult, Option.bind_eq_bind, Option.bind_eq_some_iff,
    Option.some.injEq] at h
  obtain ⟨policy, -, violations, -, rfl⟩ := h
  split <;> split <;> simp_all

/-- What a stretch of `run_risk_gate` can do: wait on, raise, or return with the policy
applied. -/
def Outcome (contract : Ref) (m : Memory) (o : Resumed RiskGateAt) : Prop :=
  o.events = [] ∧
    ((o.mem = m ∧ ((∃ cost, o.pc = .evaluating cost) ∨ o.pc = .raised)) ∨
      (o.pc = .returned ∧ ∃ c : HandoffContract, o.mem = m.modifyContract contract (fun _ => c) ∧
        c.toIdentity = (m.contracts contract).toIdentity ∧
        c.toDecisionFields = if c.autoRejectTriggered.truthy then
          { (m.contracts contract).toDecisionFields with approvalState := .autoRejected }
        else (m.contracts contract).toDecisionFields))

theorem apply_outcome (contract : Ref) (m : Memory) (cost : Py.Float) (policyResult : Py.Json)
    (now : Time) : Outcome contract m (runRiskGate.apply contract m cost policyResult now) := by
  unfold runRiskGate.apply
  split
  · rename_i c hc
    obtain ⟨hid, hdecision⟩ := applyPolicyResult_spec hc
    exact ⟨rfl, .inr ⟨rfl, c, rfl, hid, hdecision⟩⟩
  · exact ⟨rfl, .inl ⟨rfl, .inr rfl⟩⟩

theorem runRiskGate_outcome {cfg : RiskGateConfig} {contract : Ref} {m : Memory} {pc : RiskGateAt}
    {input : RiskGateInput} {o : Resumed RiskGateAt}
    (h : runRiskGate cfg contract m pc input = some o) : Outcome contract m o := by
  unfold runRiskGate at h
  split at h
  · split at h <;> obtain rfl := Option.some.inj h
    · exact ⟨rfl, .inl ⟨rfl, .inl ⟨_, rfl⟩⟩⟩
    · exact ⟨rfl, .inl ⟨rfl, .inr rfl⟩⟩
  · obtain rfl := Option.some.inj h
    exact ⟨rfl, .inl ⟨rfl, .inl ⟨_, rfl⟩⟩⟩
  · obtain rfl := Option.some.inj h
    exact apply_outcome ..
  · obtain rfl := Option.some.inj h
    exact apply_outcome ..
  · obtain rfl := Option.some.inj h
    exact ⟨rfl, .inl ⟨rfl, .inr rfl⟩⟩
  · obtain rfl := Option.some.inj h
    exact ⟨rfl, .inl ⟨rfl, .inr rfl⟩⟩
  · cases h

end RiskGate

namespace Execution

variable {cfg : ExecutionConfig} {id : String} {contract r : Ref} {m : Memory}
  {pc : ExecutionAt} {input : ExecutionInput} {o : Resumed ExecutionAt}

/-- Recording a result in the record changes only what the record says about it. -/
theorem setExecutionResult_taskView (h : m.store id = some r) (result : Py.Dict) (now : Time) :
    (WorkflowStore.setExecutionResult m id result now).taskView cfg id contract =
      { m.taskView cfg id contract with
        executed := true, succeeded := Memory.isSuccess result } := by
  have hsame := m.sameDecisions_setExecutionResult id result now
  have hstore : (WorkflowStore.setExecutionResult m id result now).store id = some r := by
    simp [h]
  unfold Memory.taskView
  rw [Memory.view_sameDecisions hsame, hsame.identity, hsame.policy,
    WorkflowStore.setExecutionResult_executed (by simp [h])]
  have hafter := Memory.record?_of_store hstore
  rw [show (WorkflowStore.setExecutionResult m id result now).records r = _ by
    rw [WorkflowStore.setExecutionResult_eq h, Memory.modifyRecord_self]] at hafter
  simp [Memory.succeeded, Memory.intact, Memory.record?_of_store h, hafter]

/-- The checks before the call: the operation has been executed, the manifest has been changed, or
the call is sent. -/
theorem checkAndCall_taskStep (hrecord : m.store id = some r)
    (hlinked : (m.contracts contract).operationId = id) (now : Time) :
    TaskStep (m.taskView cfg id contract) (.execution (.resume now)) (.execution (.got (some r)))
      ((checkAndCall cfg contract m (m.records r) now).mem.taskView cfg id contract)
      (Graph.afterExecution (checkAndCall cfg contract m (m.records r) now).pc)
      (checkAndCall cfg contract m (m.records r) now).events := by
  have hcompleted : m.executed id = (m.records r).executionCompleted :=
    Memory.executed_of_store hrecord
  have hintact : m.intact cfg id = manifestIntact cfg ((m.records r).toolCallManifest.getD []) := by
    simp [Memory.intact, Memory.record?_of_store hrecord]
  unfold checkAndCall
  dsimp only
  split
  · rename_i hdone
    dsimp only
    rw [Memory.taskView_modifyContract_other]
    · exact .executionSkipped (decide_eq_true hlinked) (hcompleted.trans hdone)
    · exact fun _ => ⟨rfl, rfl, rfl⟩
  · rename_i hdone
    split
    · exact .executionSends (decide_eq_true hlinked) (hcompleted.trans (by simpa using hdone)) _
    · rename_i hstale
      dsimp only
      rw [Memory.taskView_modifyContract_other]
      · exact .executionAborted (decide_eq_true hlinked) (hintact.trans (by simpa using hstale))
      · exact fun _ => ⟨rfl, rfl, rfl⟩

/-- The target has answered, or the call has failed. -/
theorem reply_taskStep {reply : TargetReply} {now : Time}
    (h : runExecution cfg contract m .calling (.reply reply now) = some o) :
    TaskStep (m.taskView cfg id contract) (.execution (.reply reply now)) (.execution .calling)
      (o.mem.taskView cfg id contract) (Graph.afterExecution o.pc) o.events := by
  cases reply with
  | result value =>
    obtain rfl := Option.some.inj h
    dsimp only
    rw [Memory.taskView_modifyContract_other]
    · exact .executionReplied value rfl
    · exact fun _ => ⟨rfl, rfl, rfl⟩
  | mcpCallError message =>
    obtain rfl := Option.some.inj h
    dsimp only
    rw [Memory.taskView_modifyContract_other]
    · exact .executionFailed rfl rfl
    · exact fun _ => ⟨rfl, rfl, rfl⟩
  | otherError =>
    obtain rfl := Option.some.inj h
    exact .executionRaises

/-- A stretch of `run_execution`, as a stretch of the task. A record it holds is that of the
workflow, because the pipeline's contract has either the workflow's id or one without a
record. -/
theorem runExecution_taskStep (hrecord : m.store id = some r)
    (hlink : (m.contracts contract).operationId = id ∨
      m.store (m.contracts contract).operationId = none)
    (hfresh : pc.Fresh (m.store (m.contracts contract).operationId))
    (h : runExecution cfg contract m pc input = some o) :
    TaskStep (m.taskView cfg id contract) (.execution input) (.execution pc)
      (o.mem.taskView cfg id contract) (Graph.afterExecution o.pc) o.events := by
  have hid (hsome : m.store (m.contracts contract).operationId ≠ none) :
      (m.contracts contract).operationId = id := hlink.resolve_right hsome
  cases input with
  | reply reply now =>
    cases pc with
    | calling => exact reply_taskStep h
    | got record => cases record <;> cases h
    | _ => cases h
  | resume now =>
    cases pc with
    | start =>
      obtain rfl := Option.some.inj h
      exact .executionGet _
    | got record =>
      cases record with
      | none =>
        obtain rfl := Option.some.inj h
        exact .executionGone
      | some q =>
        -- the record that was found is that of the workflow
        have hq : some q = m.store (m.contracts contract).operationId := hfresh
        have hlinked := hid (by simp [← hq])
        obtain rfl : q = r := by
          rw [hlinked, hrecord] at hq
          exact Option.some.inj hq
        obtain rfl := Option.some.inj h
        exact checkAndCall_taskStep hrecord hlinked now
    | storing result =>
      -- the result is stored under the id of the contract, which is that of the workflow
      obtain rfl := Option.some.inj h
      have hlinked := hid hfresh
      dsimp only
      rw [hlinked, setExecutionResult_taskView hrecord]
      exact .executionStores (decide_eq_true hlinked)
    | stored =>
      obtain rfl := Option.some.inj h
      dsimp only
      rw [Memory.taskView_modifyContract_other]
      · exact .executionDone
      · exact fun _ => ⟨rfl, rfl, rfl⟩
    | calling | returned | raised => cases h

end Execution

/-- The graph has built its contract, and the final status is not set. -/
def TaskAt.built : TaskAt → Bool
  | statusRunning | intake | failed | finished _ => false
  | _ => true

namespace Graph

variable {cfg : PipelineConfig} {approvalId : String} {manifest : Py.Dict} {contract r : Ref}
  {m : Memory} {t : TaskAt} {input : TaskInput} {o : Resumed TaskAt}

/-- The pipeline's contract has the id of the record, or one without a record. -/
def Linked (approvalId : String) (contract : Ref) (m : Memory) (t : TaskAt) : Prop :=
  t.built = true → (m.contracts contract).operationId = approvalId ∨
    m.store (m.contracts contract).operationId = none

/-- A stretch of `run_human_review`, as a stretch of the task. -/
theorem runHumanReview_taskStep {cfg : ExecutionConfig} {pc : ReviewPc} {input : ReviewInput}
    {o : Resumed ReviewPc}
    (hlink : (m.contracts contract).operationId = approvalId ∨
      m.store (m.contracts contract).operationId = none)
    (hfresh : pc.point.Fresh (m.store (m.contracts contract).operationId))
    (h : HumanReview.runHumanReview contract m pc input = some o) :
    TaskStep (m.taskView cfg approvalId contract) (.review input) (.humanReview pc)
      (o.mem.taskView cfg approvalId contract) (afterHumanReview o.pc) o.events := by
  have hkept := HumanReview.runHumanReview_kept h
  rw [hkept.taskView]
  by_cases hid : (m.contracts contract).operationId = approvalId
  · rw [hid] at hfresh
    obtain ⟨hstep, -⟩ := HumanReview.runHumanReview_step hid hfresh h
    exact .review (decide_eq_true hid) hstep
  · have hnone := hlink.resolve_left hid
    rw [hnone] at hfresh
    obtain ⟨f, hf⟩ := HumanReview.runHumanReview_of_no_record rfl hnone h hfresh
    obtain ⟨hstep, -⟩ := HumanReview.runHumanReview_step rfl (hnone ▸ hfresh) h
    rw [hf, Memory.view_modifyContract]
    exact .reviewUnlinked (decide_eq_false hid) hstep.events

/-- A stretch of the task from a point, as a step of the abstract state. -/
def IsTaskStep (cfg : PipelineConfig) (approvalId : String) (contract : Ref) (m : Memory)
    (t : TaskAt) (input : TaskInput) (o : Resumed TaskAt) : Prop :=
  TaskStep (m.taskView cfg.toExecutionConfig approvalId contract) input t
    (o.mem.taskView cfg.toExecutionConfig approvalId contract) o.pc o.events

theorem taskView_updateStatus (status : WorkflowStatus) (now : Time) :
    (WorkflowStore.updateStatus m approvalId status now).taskView cfg.toExecutionConfig approvalId
      contract = { m.taskView cfg.toExecutionConfig approvalId contract with
        toView := (m.view approvalId contract).updateStatus status } := by
  rw [(m.kept_updateStatus approvalId status now).taskView, Memory.view_updateStatus]

/-- INTAKE builds a contract, or raises. -/
theorem intake_taskStep
    (h : runTask cfg approvalId manifest contract m .intake input = some o) :
    IsTaskStep cfg approvalId contract m .intake input o := by
  cases input with
  | generatedId id now =>
    simp only [runTask] at h
    split at h
    · rename_i c hc
      obtain rfl := Option.some.inj h
      obtain ⟨hdecision, hpolicy⟩ := Intake.runIntake_fresh hc
      unfold IsTaskStep
      dsimp only
      rw [Memory.taskView_modifyContract, hdecision, hpolicy]
      exact .intake _
    · obtain rfl := Option.some.inj h
      exact .intakeRaises
  | _ => cases h

/-- RISK_GATE goes on, raises or returns. -/
theorem riskGate_taskStep {pc : RiskGateAt}
    (h : runTask cfg approvalId manifest contract m (.riskGate pc) input = some o) :
    IsTaskStep cfg approvalId contract m (.riskGate pc) input o := by
  cases input with
  | riskGate input =>
    obtain ⟨o', ho', rfl⟩ := Option.map_eq_some_iff.mp h
    obtain ⟨hevents, hcase⟩ := RiskGate.runRiskGate_outcome ho'
    unfold IsTaskStep within
    rw [hevents]
    rcases hcase with ⟨hmem, ⟨cost, hpc⟩ | hpc⟩ | ⟨hpc, c, hmem, hid, hdecision⟩
    · rw [hmem, hpc]
      exact .riskGate cost
    · rw [hmem, hpc]
      exact .riskGateRaises
    · rw [hmem, hpc, Memory.taskView_modifyContract, hid, hdecision]
      exact .riskGateReturns _
  | _ => cases h

/-- The edge out of RISK_GATE. -/
theorem routeRiskGate_taskStep
    (h : runTask cfg approvalId manifest contract m .routeRiskGate input = some o) :
    IsTaskStep cfg approvalId contract m .routeRiskGate input o := by
  cases input with
  | resume now =>
    simp only [runTask, Guards.routeFromRiskGate] at h
    by_cases htriggered : (m.contracts contract).autoRejectTriggered.truthy
    · rw [if_pos htriggered] at h
      obtain rfl := Option.some.inj h
      exact .autoReject htriggered
    · have huntriggered : (m.contracts contract).autoRejectTriggered.truthy = false := by
        simpa using htriggered
      rw [if_neg htriggered] at h
      by_cases hfast : Guards.isFastPath (m.contracts contract)
      · rw [if_pos hfast] at h
        obtain rfl := Option.some.inj h
        exact .autoExecute huntriggered
      · rw [if_neg hfast] at h
        obtain rfl := Option.some.inj h
        exact .fullPipeline huntriggered
  | _ => cases h

/-- The agents write, return or raise. -/
theorem agent_taskStep {node : AgentNode}
    (h : runTask cfg approvalId manifest contract m (.agent node) input = some o) :
    IsTaskStep cfg approvalId contract m (.agent node) input o := by
  cases input with
  | agentWrites write =>
    simp only [runTask] at h
    split at h
    · obtain rfl := Option.some.inj h
      unfold IsTaskStep
      dsimp only
      rw [Memory.taskView_modifyContract_other]
      · exact .agent node
      · intro x
        cases write <;> exact ⟨rfl, rfl, rfl⟩
    · cases h
  | agentReturns now =>
    obtain rfl := Option.some.inj h
    cases node with
    | analysis => exact .agent .contextSim
    | contextSim => exact .agent .contract
    | contract => exact .agentsDone _
  | agentRaises =>
    obtain rfl := Option.some.inj h
    exact .agentRaises
  | _ => cases h

/-- The edge out of HUMAN_REVIEW. -/
theorem routeHumanReview_taskStep
    (h : runTask cfg approvalId manifest contract m .routeHumanReview input = some o) :
    IsTaskStep cfg approvalId contract m .routeHumanReview input o := by
  cases input with
  | resume now =>
    simp only [runTask, Guards.routeFromHumanReview] at h
    cases hstate : (m.contracts contract).approvalState <;> rw [hstate] at h <;>
      obtain rfl := Option.some.inj h
    case approved => exact .approved hstate
    case modified => exact .modified hstate
    all_goals
      exact .notApproved (by simp [Memory.taskView, hstate]) (by simp [Memory.taskView, hstate])
  | _ => cases h

/-- The two calls of AUDIT. -/
theorem audit_taskStep {pc : AuditAt}
    (h : runTask cfg approvalId manifest contract m (.audit pc) input = some o) :
    IsTaskStep cfg approvalId contract m (.audit pc) input o := by
  have hremembered {reply : TargetReply} {now : Time} :
      IsTaskStep cfg approvalId contract m (.audit .remembering) (.auditReply reply now)
        { mem := m.modifyContract contract (finishAudit cfg now), pc := .syncContract } := by
    unfold IsTaskStep
    dsimp only
    rw [Memory.taskView_modifyContract_other]
    · exact .audited
    · intro x
      unfold finishAudit
      split <;> exact ⟨rfl, rfl, rfl⟩
  cases input with
  | auditReply reply now =>
    cases reply with
    | otherError =>
      obtain rfl : _ = o := Option.some.inj (by cases pc <;> exact h)
      exact .auditRaises rfl
    | result value | mcpCallError message =>
      cases pc with
      | logging =>
        obtain rfl := Option.some.inj h
        exact .auditLogged
      | remembering =>
        obtain rfl := Option.some.inj h
        exact hremembered
  | _ => cases pc <;> cases h

/-- Every stretch of the background task is a `TaskStep`. -/
theorem runTask_taskStep (hrecord : m.store approvalId = some r)
    (hlink : Linked approvalId contract m t)
    (hfresh : t.Fresh (m.store (m.contracts contract).operationId))
    (h : runTask cfg approvalId manifest contract m t input = some o) :
    TaskStep (m.taskView cfg.toExecutionConfig approvalId contract) input t
      (o.mem.taskView cfg.toExecutionConfig approvalId contract) o.pc o.events := by
  cases t with
  | intake => exact intake_taskStep h
  | riskGate pc => exact riskGate_taskStep h
  | routeRiskGate => exact routeRiskGate_taskStep h
  | agent node => exact agent_taskStep h
  | humanReview pc =>
    cases input with
    | review input =>
      obtain ⟨o', ho', rfl⟩ := Option.map_eq_some_iff.mp h
      exact runHumanReview_taskStep (hlink rfl) hfresh ho'
    | _ => cases h
  | routeHumanReview => exact routeHumanReview_taskStep h
  | execution pc =>
    cases input with
    | execution input =>
      obtain ⟨o', ho', rfl⟩ := Option.map_eq_some_iff.mp h
      exact Execution.runExecution_taskStep hrecord (hlink rfl) hfresh ho'
    | _ => cases h
  | audit pc => exact audit_taskStep h
  | finished status => cases input <;> cases h
  -- the writes of the background task before and after the graph
  | statusRunning | syncStatus _ | failed =>
    cases input with
    | resume now =>
      obtain rfl := Option.some.inj h
      dsimp only
      rw [taskView_updateStatus]
      constructor
    | _ => cases h
  | syncContract =>
    cases input with
    | resume now =>
      obtain rfl := Option.some.inj h
      dsimp only
      rw [(m.kept_updateContract approvalId contract now).taskView, Memory.view_updateContract]
      exact .syncContract
    | _ => cases h
  | mapStatus =>
    cases input with
    | resume now =>
      obtain rfl := Option.some.inj h
      exact .mapStatus
    | _ => cases h

/-- The intake leaves the contract that `run_intake` has built. -/
theorem runTask_intake {id : String} {now : Time}
    (h : runTask cfg approvalId manifest contract m .intake (.generatedId id now) = some o) :
    o.pc = .failed ∨ ∃ c, Intake.runIntake cfg.toIntakeConfig manifest id now = some c ∧
      o.mem.contracts contract = c := by
  simp only [runTask] at h
  split at h
  · rename_i c hc
    obtain rfl := Option.some.inj h
    exact .inr ⟨c, hc, by simp⟩
  · obtain rfl := Option.some.inj h
    exact .inl rfl

/-! ## What a stretch of the task leaves alone -/

/-- `run_execution` holds on to the record it found. -/
theorem runExecution_fresh {cfg : ExecutionConfig} {pc : ExecutionAt} {input : ExecutionInput}
    {o : Resumed ExecutionAt}
    (hfresh : pc.Fresh (m.store (m.contracts contract).operationId))
    (h : Execution.runExecution cfg contract m pc input = some o) :
    o.pc.Fresh (m.store (m.contracts contract).operationId) := by
  unfold Execution.runExecution at h
  split at h
  case h_3 q now =>
    obtain rfl := Option.some.inj h
    have hq : some q = m.store (m.contracts contract).operationId := hfresh
    unfold Execution.checkAndCall
    dsimp only
    split
    · trivial
    · split
      · exact fun hnone => by rw [hnone] at hq; cases hq
      · trivial
  case h_9 => cases h
  all_goals
    obtain rfl := Option.some.inj h
    first
    | exact hfresh
    | trivial

theorem afterHumanReview_fresh {pc : ReviewPc} {record : Option Ref}
    (h : pc.point.Fresh record) : (afterHumanReview pc).Fresh record := by
  obtain ⟨deadline, point⟩ := pc
  cases point <;> exact h

theorem afterExecution_fresh {pc : ExecutionAt} {record : Option Ref} (h : pc.Fresh record) :
    (afterExecution pc).Fresh record := by
  cases pc <;> exact h

/-- No stretch of the task creates a record, and only the intake gives the pipeline's
contract an identity. -/
theorem runTask_frame (h : runTask cfg approvalId manifest contract m t input = some o) :
    o.mem.store = m.store ∧
      (t = .intake ∨ (o.mem.contracts contract).toIdentity = (m.contracts contract).toIdentity) := by
  have hkept {m' : Memory} (hm : m.Kept m') : m'.store = m.store ∧
      (t = .intake ∨ (m'.contracts contract).toIdentity = (m.contracts contract).toIdentity) :=
    ⟨hm.store, .inr (hm.identity contract)⟩
  unfold runTask at h
  split at h
  case h_1 | h_16 | h_17 =>
    obtain rfl := Option.some.inj h
    exact hkept (m.kept_updateStatus _ _ _)
  -- INTAKE puts a new contract in place
  case h_2 =>
    split at h <;> obtain rfl := Option.some.inj h <;> exact ⟨rfl, .inl rfl⟩
  -- RISK_GATE writes its results to the contract
  case h_3 =>
    obtain ⟨o', ho', rfl⟩ := Option.map_eq_some_iff.mp h
    obtain ⟨-, ⟨hmem, -⟩ | ⟨-, c, hmem, hid, -⟩⟩ := RiskGate.runRiskGate_outcome ho'
    · simp [within, hmem]
    · simp [within, hmem, hid]
  case h_4 =>
    split at h <;> obtain rfl := Option.some.inj h <;> exact hkept (.refl m)
  -- an agent writes its own fields
  case h_5 node write =>
    split at h
    · obtain rfl := Option.some.inj h
      refine hkept (m.kept_modifyContract contract _ ?_ ?_) <;> intro x <;> cases write <;> rfl
    · cases h
  case h_8 =>
    obtain ⟨o', ho', rfl⟩ := Option.map_eq_some_iff.mp h
    exact hkept (HumanReview.runHumanReview_kept ho')
  case h_9 =>
    split at h <;> obtain rfl := Option.some.inj h <;> exact hkept (.refl m)
  case h_10 =>
    obtain ⟨o', ho', rfl⟩ := Option.map_eq_some_iff.mp h
    have hframe := Execution.runExecution_frame ho'
    exact ⟨hframe.store, .inr (hframe.identity contract)⟩
  case h_13 now _ =>
    obtain rfl := Option.some.inj h
    refine hkept (m.kept_modifyContract contract _ ?_ ?_) <;> intro x <;> unfold finishAudit <;>
      split <;> rfl
  case h_14 =>
    obtain rfl := Option.some.inj h
    exact hkept (m.kept_updateContract _ _ _)
  case h_18 => cases h
  all_goals
    obtain rfl := Option.some.inj h
    exact hkept (.refl m)

/-- The task holds on to the record it found. -/
theorem runTask_fresh (hfresh : t.Fresh (m.store (m.contracts contract).operationId))
    (h : runTask cfg approvalId manifest contract m t input = some o) :
    o.pc.Fresh (o.mem.store (o.mem.contracts contract).operationId) := by
  have hframe := runTask_frame h
  unfold runTask at h
  split at h
  -- only HUMAN_REVIEW and EXECUTION hold a record across a stretch
  case h_8 =>
    obtain ⟨o', ho', rfl⟩ := Option.map_eq_some_iff.mp h
    obtain ⟨hstore, hintake | hid⟩ := hframe
    · cases hintake
    rw [hstore, hid]
    exact afterHumanReview_fresh (HumanReview.runHumanReview_step rfl hfresh ho').fresh
  case h_10 =>
    obtain ⟨o', ho', rfl⟩ := Option.map_eq_some_iff.mp h
    obtain ⟨hstore, hintake | hid⟩ := hframe
    · cases hintake
    rw [hstore, hid]
    exact afterExecution_fresh (runExecution_fresh hfresh ho')
  -- the other nodes hold none
  case h_3 pc _ =>
    obtain ⟨o', ho', rfl⟩ := Option.map_eq_some_iff.mp h
    unfold within afterRiskGate
    split <;> trivial
  case h_2 | h_4 | h_9 =>
    split at h <;> obtain rfl := Option.some.inj h <;> trivial
  case h_5 =>
    split at h
    · obtain rfl := Option.some.inj h
      trivial
    · cases h
  case h_6 node _ =>
    obtain rfl := Option.some.inj h
    cases node <;> trivial
  case h_18 => cases h
  all_goals
    obtain rfl := Option.some.inj h
    trivial

end Graph
