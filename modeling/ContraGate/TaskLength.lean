import ContraGate.Graph
import ContraGate.Library.Potential
import ContraGate.Pipeline

/-!
# How far the background task is from its end

`TaskAt.left` counts how many stretches a task has before it that is not sent back by a MODIFY. It
needs the clock, since the deadline is what ends the polling. Every stretch comes nearer to the end
(`Graph.runTask_left`), and wherever the task waits it can be resumed (`Graph.exists_runTask`).
-/

open Machine

/-- `POLL_INTERVAL_SECONDS`. -/
def HumanReview.pollInterval : Time := 5000000

theorem HumanReview.pollInterval_pos : 0 < HumanReview.pollInterval := by decide

/-! ## The time of a stretch -/

/-- When the review is resumed. -/
def ReviewInput.time : ReviewInput → Time
  | notified _ now | resume now => now

/-- When the execution is resumed. -/
def ExecutionInput.time : ExecutionInput → Time
  | resume now | reply _ now => now

/-- When the task is resumed; an agent that writes goes on. -/
def TaskInput.time : TaskInput → Option Time
  | resume now | generatedId _ now | agentReturns now | auditReply _ now => some now
  | riskGate input => some input.now
  | review input => some input.time
  | execution input => some input.time
  | agentWrites _ | agentRaises => none

/-- When the task is resumed, or a node returns with what its agent has done. -/
def PipelineAction.time : PipelineAction → Option Time
  | agent _ now => some now
  | other (.task input) => input.time
  | other _ => none

/-- The earliest time of the next stretch, after one at `resumed`: `asyncio.sleep` takes its
time. -/
def TaskAt.due (t : TaskAt) (resumed : Time) : Time :=
  match t with
  | humanReview ⟨_, .sleeping⟩ => resumed + HumanReview.pollInterval
  | _ => resumed

/-! ## What a task has before it -/

/-- How many stretches the review has before it, without those of the polling. -/
def ReviewAt.stretches : ReviewAt → ℕ
  | notifying => 6
  | firstGet => 5
  | firstGot _ => 4
  | resetContract | mergeContract _ | persistContract | sleeping => 3
  | resetStatus | mergeStatus _ | persistStatus | pollGot _ => 2
  | merged | waiting => 1
  | returned | raised => 0

/-- How many stretches the execution has before it. -/
def ExecutionAt.stretches : ExecutionAt → ℕ
  | start => 5
  | got _ => 4
  | calling => 3
  | storing _ => 2
  | stored => 1
  | returned | raised => 0

/-- How many stretches the task has before it, without those of the polling. -/
def TaskAt.stretches : TaskAt → ℕ
  | statusRunning => 26
  | intake => 25
  | riskGate .explaining => 24
  | riskGate (.evaluating _) => 23
  | riskGate .returned | riskGate .raised | routeRiskGate => 22
  | agent .analysis => 21
  | agent .contextSim => 20
  | agent .contract => 19
  | humanReview pc => 12 + pc.point.stretches
  | routeHumanReview => 11
  | execution pc => 5 + pc.stretches
  | audit .logging => 5
  | audit .remembering => 4
  | syncContract => 3
  | mapStatus => 2
  | syncStatus _ | failed => 1
  | finished _ => 0

/-- How often a review polls at most. -/
def PipelineConfig.polls (cfg : PipelineConfig) : ℕ :=
  rounds HumanReview.pollInterval 0 cfg.reviewTimeout

/-- How often the task polls before it ends. -/
def TaskAt.polls (cfg : PipelineConfig) (resumed : Time) : TaskAt → ℕ
  | statusRunning | intake | riskGate _ | routeRiskGate | agent _ => cfg.polls
  | humanReview pc => rounds HumanReview.pollInterval ((humanReview pc).due resumed) pc.deadline
  | _ => 0

/-- How many stretches the task has before it. -/
def TaskAt.left (cfg : PipelineConfig) (resumed : Time) (t : TaskAt) : ℕ :=
  t.stretches + 3 * t.polls cfg resumed

section Left

variable {cfg : PipelineConfig} {approvalId : String} {manifest : Py.Dict} {contract : Ref}
  {m : Memory} {resumed now : Time}

/-- A review that begins has all its polls before it. -/
theorem TaskAt.left_enter (now : Time) :
    (humanReview (HumanReview.enter cfg.reviewTimeout now)).left cfg now = 18 + 3 * cfg.polls := by
  simp only [left, stretches, polls, due, HumanReview.enter, ReviewAt.stretches, rounds_add,
    PipelineConfig.polls]

/-- Where the graph goes from a point of the review. -/
theorem TaskAt.left_afterHumanReview (cfg : PipelineConfig) (now : Time) (pc : ReviewPc) :
    (Graph.afterHumanReview pc).left cfg now ≤
      12 + pc.point.stretches +
        3 * rounds HumanReview.pollInterval ((humanReview pc).due now) pc.deadline := by
  obtain ⟨deadline, point⟩ := pc
  cases point <;> simp [Graph.afterHumanReview, left, stretches, polls] <;> omega

theorem TaskAt.due_of_ne {pc : ReviewPc} (h : pc.point ≠ .sleeping) :
    (humanReview pc).due now = now := by
  obtain ⟨deadline, point⟩ := pc
  cases point <;> first | rfl | exact absurd rfl h

theorem TaskAt.due_of_sleeping {pc : ReviewPc} (h : pc.point = .sleeping) :
    (humanReview pc).due now = now + HumanReview.pollInterval := by
  obtain ⟨deadline, point⟩ := pc
  obtain rfl : point = .sleeping := h
  rfl

/-- A stretch of the review comes nearer to its end, or begins to wait before the deadline. -/
theorem HumanReview.runHumanReview_point {pc : ReviewPc} {input : ReviewInput}
    {o : Resumed ReviewPc} (h : runHumanReview contract m pc input = some o) :
    o.pc.deadline = pc.deadline ∧
      (o.pc.point.stretches < pc.point.stretches ∧ o.pc.point ≠ .sleeping ∨
        pc.point = .waiting ∧ o.pc.point = .sleeping ∧ input.time < pc.deadline) := by
  obtain ⟨deadline, point⟩ := pc
  unfold runHumanReview at h
  dsimp only at h
  split at h
  -- at the test of the loop
  case h_13 now =>
    split at h
    · rename_i hlt
      obtain rfl := Option.some.inj h
      exact ⟨rfl, .inr ⟨rfl, rfl, hlt⟩⟩
    · obtain rfl := Option.some.inj h
      exact ⟨rfl, .inl ⟨by simp [ReviewAt.stretches], by simp⟩⟩
  case h_2 | h_7 | h_16 =>
    split at h <;> obtain rfl := Option.some.inj h <;>
      exact ⟨rfl, .inl ⟨by simp [ReviewAt.stretches], by simp⟩⟩
  case h_17 => cases h
  all_goals
    obtain rfl := Option.some.inj h
    exact ⟨rfl, .inl ⟨by simp [ReviewAt.stretches], by simp⟩⟩

/-- A stretch of the review, as a stretch of the task. -/
theorem Graph.runHumanReview_left {pc : ReviewPc} {input : ReviewInput} {o : Resumed ReviewPc}
    (h : HumanReview.runHumanReview contract m pc input = some o)
    (hdue : (TaskAt.humanReview pc).due resumed ≤ input.time) :
    (afterHumanReview o.pc).left cfg input.time + 1 ≤
      (TaskAt.humanReview pc).left cfg resumed := by
  obtain ⟨hdeadline, hpoint⟩ := HumanReview.runHumanReview_point h
  have hafter := TaskAt.left_afterHumanReview cfg input.time o.pc
  have hpolls := rounds_le_of_le pc.deadline HumanReview.pollInterval_pos hdue
  rw [hdeadline] at hafter
  simp only [TaskAt.left, TaskAt.stretches, TaskAt.polls] at hafter ⊢
  rcases hpoint with ⟨hlt, hne⟩ | ⟨hwaiting, hsleeping, hbefore⟩
  · rw [TaskAt.due_of_ne hne] at hafter
    omega
  -- the wait is over a round later
  · have hround := rounds_of_lt HumanReview.pollInterval_pos hbefore
    rw [TaskAt.due_of_sleeping hsleeping, hsleeping] at hafter
    rw [hwaiting]
    simp only [ReviewAt.stretches] at hafter ⊢
    omega

theorem RiskGate.runRiskGate_left {pc : RiskGateAt} {input : RiskGateInput}
    {o : Resumed RiskGateAt}
    (h : runRiskGate cfg.toRiskGateConfig contract m pc input = some o) (resumed now : Time) :
    (Graph.afterRiskGate o.pc).left cfg now + 1 ≤ (TaskAt.riskGate pc).left cfg resumed := by
  have happly (cost : Py.Float) (result : Py.Json) (now' : Time) :
      (Graph.afterRiskGate (runRiskGate.apply contract m cost result now').pc).left cfg now + 1 ≤
        (TaskAt.riskGate (.evaluating cost)).left cfg resumed := by
    unfold runRiskGate.apply
    split <;>
      simp only [Graph.afterRiskGate, TaskAt.left, TaskAt.stretches, TaskAt.polls] <;> omega
  unfold runRiskGate at h
  split at h
  case h_1 =>
    split at h <;> obtain rfl := Option.some.inj h <;>
      simp only [Graph.afterRiskGate, TaskAt.left, TaskAt.stretches, TaskAt.polls] <;> omega
  case h_3 | h_4 =>
    obtain rfl := Option.some.inj h
    exact happly ..
  case h_7 => cases h
  all_goals
    obtain rfl := Option.some.inj h
    simp only [Graph.afterRiskGate, TaskAt.left, TaskAt.stretches, TaskAt.polls]
    omega

theorem Execution.runExecution_left {pc : ExecutionAt} {input : ExecutionInput}
    {o : Resumed ExecutionAt}
    (h : runExecution cfg.toExecutionConfig contract m pc input = some o) (resumed now : Time) :
    (Graph.afterExecution o.pc).left cfg now + 1 ≤ (TaskAt.execution pc).left cfg resumed := by
  unfold runExecution at h
  split at h
  case h_3 =>
    obtain rfl := Option.some.inj h
    unfold checkAndCall
    dsimp only
    split_ifs <;> simp [Graph.afterExecution, TaskAt.left, TaskAt.stretches, TaskAt.polls,
      ExecutionAt.stretches]
  case h_9 => cases h
  all_goals
    obtain rfl := Option.some.inj h
    simp [Graph.afterExecution, TaskAt.left, TaskAt.stretches, TaskAt.polls, ExecutionAt.stretches]

theorem Graph.afterAgent_left (node : AgentNode) :
    (afterAgent cfg now node).left cfg now + 1 ≤ (TaskAt.agent node).left cfg resumed := by
  cases node with
  | contract =>
    rw [afterAgent, TaskAt.left_enter]
    simp only [TaskAt.left, TaskAt.stretches, TaskAt.polls]
    omega
  | _ =>
    simp only [afterAgent, TaskAt.left, TaskAt.stretches, TaskAt.polls]
    omega

/-- The edge out of HUMAN_REVIEW. -/
theorem Graph.routeHumanReview_left {input : TaskInput} {o : Resumed TaskAt}
    (h : runTask cfg approvalId manifest contract m .routeHumanReview input = some o) :
    o.pc.left cfg now + 1 ≤ TaskAt.routeHumanReview.left cfg resumed ∨
      (m.contracts contract).approvalState = .modified ∧
        o = { mem := m, pc := .agent .analysis } := by
  cases input with
  | resume now' =>
    simp only [runTask, Guards.routeFromHumanReview] at h
    cases hstate : (m.contracts contract).approvalState <;> rw [hstate] at h <;>
      obtain rfl := Option.some.inj h
    case modified => exact .inr ⟨rfl, rfl⟩
    all_goals exact .inl (by simp [TaskAt.left, TaskAt.stretches, TaskAt.polls,
      ExecutionAt.stretches])
  | _ => cases h

/-- The calls of AUDIT. -/
theorem Graph.audit_left {pc : AuditAt} {input : TaskInput} {o : Resumed TaskAt}
    (h : runTask cfg approvalId manifest contract m (.audit pc) input = some o) :
    o.pc.left cfg now + 1 ≤ (TaskAt.audit pc).left cfg resumed := by
  cases input with
  | auditReply reply now' =>
    cases reply <;> cases pc <;> obtain rfl := Option.some.inj h <;>
      simp [TaskAt.left, TaskAt.stretches, TaskAt.polls]
  | _ => cases pc <;> cases h

/-- **A stretch of the task comes nearer to its end**, unless it is the edge `modified`. -/
theorem Graph.runTask_left {t : TaskAt} {input : TaskInput} {o : Resumed TaskAt}
    (h : runTask cfg approvalId manifest contract m t input = some o)
    (htime : input.time = some now) (hdue : t.due resumed ≤ now) :
    o.pc.left cfg now + 1 ≤ t.left cfg resumed ∨
      t = .routeHumanReview ∧ (m.contracts contract).approvalState = .modified ∧
        o = { mem := m, pc := .agent .analysis } := by
  cases t with
  | intake =>
    cases input with
    | generatedId id now' =>
      simp only [runTask] at h
      split at h <;> obtain rfl := Option.some.inj h <;>
        exact .inl (by simp only [TaskAt.left, TaskAt.stretches, TaskAt.polls]; omega)
    | _ => cases h
  | riskGate pc =>
    cases input with
    | riskGate input =>
      obtain ⟨o', ho', rfl⟩ := Option.map_eq_some_iff.mp h
      exact .inl (RiskGate.runRiskGate_left ho' _ _)
    | _ => cases h
  | routeRiskGate =>
    cases input with
    | resume now' =>
      simp only [runTask] at h
      split at h <;> obtain rfl := Option.some.inj h <;>
        exact .inl (by simp only [TaskAt.left, TaskAt.stretches, TaskAt.polls]; omega)
    | _ => cases h
  | agent node =>
    cases input with
    | agentReturns now' =>
      obtain rfl := Option.some.inj h
      obtain rfl : now' = now := Option.some.inj htime
      exact .inl (afterAgent_left node)
    -- an agent that writes or raises has no time of its own
    | agentWrites | agentRaises => cases htime
    | _ => cases h
  | humanReview pc =>
    cases input with
    | review input =>
      obtain ⟨o', ho', rfl⟩ := Option.map_eq_some_iff.mp h
      obtain rfl := Option.some.inj htime
      exact .inl (runHumanReview_left ho' hdue)
    | _ => cases h
  | routeHumanReview => exact (routeHumanReview_left h).imp_right fun h => ⟨rfl, h⟩
  | execution pc =>
    cases input with
    | execution input =>
      obtain ⟨o', ho', rfl⟩ := Option.map_eq_some_iff.mp h
      exact .inl (Execution.runExecution_left ho' _ _)
    | _ => cases h
  | audit pc => exact .inl (audit_left h)
  | finished status => cases input <;> cases h
  -- the writes of the background task before and after the graph
  | statusRunning =>
    cases input with
    | resume now' =>
      obtain rfl := Option.some.inj h
      exact .inl (by simp only [TaskAt.left, TaskAt.stretches, TaskAt.polls]; omega)
    | _ => cases h
  | syncContract | mapStatus | syncStatus _ | failed =>
    cases input with
    | resume now' =>
      obtain rfl := Option.some.inj h
      exact .inl (by simp [TaskAt.left, TaskAt.stretches, TaskAt.polls])
    | _ => cases h

end Left

/-! ## The task goes on until it ends -/

/-- The task is at a point where it waits. -/
def TaskAt.suspended : TaskAt → Bool
  | riskGate .returned | riskGate .raised => false
  | humanReview ⟨_, .returned⟩ | humanReview ⟨_, .raised⟩ => false
  | execution .returned | execution .raised => false
  | _ => true

section Suspended

variable {cfg : PipelineConfig} {approvalId : String} {manifest : Py.Dict} {contract : Ref}
  {m : Memory} {t : TaskAt} {input : TaskInput} {o : Resumed TaskAt}

theorem Graph.afterRiskGate_suspended (pc : RiskGateAt) : (afterRiskGate pc).suspended = true := by
  cases pc <;> rfl

theorem Graph.afterHumanReview_suspended (pc : ReviewPc) :
    (afterHumanReview pc).suspended = true := by
  obtain ⟨deadline, point⟩ := pc
  cases point <;> rfl

theorem Graph.afterExecution_suspended (pc : ExecutionAt) :
    (afterExecution pc).suspended = true := by
  cases pc <;> rfl

/-- A stretch ends where the task waits. -/
theorem Graph.runTask_suspended
    (h : runTask cfg approvalId manifest contract m t input = some o) :
    o.pc.suspended = true := by
  unfold runTask at h
  split at h
  case h_3 =>
    obtain ⟨o', -, rfl⟩ := Option.map_eq_some_iff.mp h
    exact afterRiskGate_suspended _
  case h_8 =>
    obtain ⟨o', -, rfl⟩ := Option.map_eq_some_iff.mp h
    exact afterHumanReview_suspended _
  case h_10 =>
    obtain ⟨o', -, rfl⟩ := Option.map_eq_some_iff.mp h
    exact afterExecution_suspended _
  case h_2 | h_4 | h_9 => split at h <;> obtain rfl := Option.some.inj h <;> rfl
  case h_5 =>
    split at h
    · obtain rfl := Option.some.inj h
      rfl
    · cases h
  case h_6 node _ =>
    obtain rfl := Option.some.inj h
    cases node <;> rfl
  case h_18 => cases h
  all_goals
    obtain rfl := Option.some.inj h
    rfl

/-- Wherever the review waits, it can be resumed. -/
theorem HumanReview.exists_runHumanReview (contract : Ref) (m : Memory) {pc : ReviewPc}
    (h : (TaskAt.humanReview pc).suspended = true) (now : Time) :
    ∃ input o, input.time = now ∧ runHumanReview contract m pc input = some o := by
  obtain ⟨deadline, point⟩ := pc
  cases point with
  | notifying => exact ⟨.notified .otherError now, _, rfl, rfl⟩
  | firstGot current =>
    cases current with
    | none => exact ⟨.resume now, _, rfl, rfl⟩
    | some r =>
      refine ⟨.resume now, ?_⟩
      simp only [runHumanReview]
      split <;> exact ⟨_, rfl, rfl⟩
  | waiting =>
    refine ⟨.resume now, ?_⟩
    simp only [runHumanReview]
    split <;> exact ⟨_, rfl, rfl⟩
  | pollGot current =>
    cases current with
    | none => exact ⟨.resume now, _, rfl, rfl⟩
    | some r =>
      refine ⟨.resume now, ?_⟩
      simp only [runHumanReview]
      split <;> exact ⟨_, rfl, rfl⟩
  | returned | raised => cases h
  | _ => exact ⟨.resume now, _, rfl, rfl⟩

/-- Wherever the execution waits, it can be resumed. -/
theorem Execution.exists_runExecution (cfg : ExecutionConfig) (contract : Ref) (m : Memory)
    {pc : ExecutionAt} (h : (TaskAt.execution pc).suspended = true) (now : Time) :
    ∃ input o, input.time = now ∧ runExecution cfg contract m pc input = some o := by
  cases pc with
  | got current => cases current <;> exact ⟨.resume now, _, rfl, rfl⟩
  | calling => exact ⟨.reply .otherError now, _, rfl, rfl⟩
  | returned | raised => cases h
  | _ => exact ⟨.resume now, _, rfl, rfl⟩

/-- Wherever the task waits, and not for an agent, it can be resumed. -/
theorem Graph.exists_runTask (cfg : PipelineConfig) (approvalId : String) (manifest : Py.Dict)
    (contract : Ref) (m : Memory) (hsuspended : t.suspended = true)
    (hended : ∀ status, t ≠ .finished status) (hagent : ∀ node, t ≠ .agent node) (id : String)
    (now : Time) : ∃ input o, input.time = some now ∧
      (GatewayAction.task input).ofAgent = false ∧
      (∀ id' now', input = .generatedId id' now' → id' = id ∧ now' = now) ∧
      runTask cfg approvalId manifest contract m t input = some o := by
  cases t with
  | intake =>
    refine ⟨.generatedId id now, ?_⟩
    simp only [runTask]
    split <;> exact ⟨_, rfl, rfl, by rintro _ _ ⟨⟩; exact ⟨rfl, rfl⟩, rfl⟩
  | riskGate pc =>
    cases pc with
    | returned | raised => cases hsuspended
    | _ => exact ⟨.riskGate ⟨.otherError, now⟩, _, rfl, rfl, by rintro _ _ ⟨⟩, rfl⟩
  | routeRiskGate =>
    refine ⟨.resume now, ?_⟩
    simp only [runTask]
    split <;> exact ⟨_, rfl, rfl, by rintro _ _ ⟨⟩, rfl⟩
  | agent node => exact absurd rfl (hagent node)
  | humanReview pc =>
    obtain ⟨input, o, htime, ho⟩ := HumanReview.exists_runHumanReview contract m hsuspended now
    exact ⟨.review input, within afterHumanReview o, congrArg some htime, rfl,
      by rintro _ _ ⟨⟩, by simp only [runTask, ho, Option.map_some]⟩
  | routeHumanReview =>
    refine ⟨.resume now, ?_⟩
    simp only [runTask]
    split <;> exact ⟨_, rfl, rfl, by rintro _ _ ⟨⟩, rfl⟩
  | execution pc =>
    obtain ⟨input, o, htime, ho⟩ :=
      Execution.exists_runExecution cfg.toExecutionConfig contract m hsuspended now
    exact ⟨.execution input, within afterExecution o, congrArg some htime, rfl,
      by rintro _ _ ⟨⟩, by simp only [runTask, ho, Option.map_some]⟩
  | audit pc => exact ⟨.auditReply .otherError now, _, rfl, rfl, by rintro _ _ ⟨⟩, rfl⟩
  | finished status => exact absurd rfl (hended status)
  | _ => exact ⟨.resume now, _, rfl, rfl, by rintro _ _ ⟨⟩, rfl⟩

end Suspended
