import ContraGate.ContractWrites

/-!
# Where an execution result comes from

The result in the record of a workflow was made from a reply of the target, to a call that was
sent; nobody else writes one.
-/

/-- The result was made from a reply of the target. -/
structure RepliedResult (cfg : ExecutionConfig) (log : List Event) (result : Py.Dict) : Prop where
  sent : ∃ call, .sent call ∈ log
  replied :
    (∃ value now, .replied (.result value) ∈ log ∧ result = Execution.succeeded cfg value now) ∨
      ∃ message now, .replied (.mcpCallError message) ∈ log ∧
        result = Execution.failed cfg message now

theorem RepliedResult.mono {cfg : ExecutionConfig} {log : List Event} {result : Py.Dict}
    (h : RepliedResult cfg log result) (events : List Event) :
    RepliedResult cfg (events ++ log) result where
  sent := by
    obtain ⟨call, hcall⟩ := h.sent
    exact ⟨call, List.mem_append_right _ hcall⟩
  replied := by
    rcases h.replied with ⟨value, now, hreply, hresult⟩ | ⟨message, now, hreply, hresult⟩
    · exact .inl ⟨value, now, List.mem_append_right _ hreply, hresult⟩
    · exact .inr ⟨message, now, List.mem_append_right _ hreply, hresult⟩

/-- Only the task itself moves the task. -/
theorem ProtocolStep.task_eq {p q : Protocol} {a : GatewayAction} (h : ProtocolStep p a q)
    (hother : ∀ input, a ≠ .task input) : q.task = p.task := by
  cases h with
  | task => exact absurd rfl (hother _)
  | decide | submit | ignored | endpointStatus => rfl

/-- EXECUTION has a result at hand when the target has just replied. -/
theorem Execution.runExecution_replied {cfg : ExecutionConfig} {contract : Ref} {m : Memory}
    {pc : ExecutionAt} {input : ExecutionInput} {o : Resumed ExecutionAt} {result : Py.Dict}
    (h : runExecution cfg contract m pc input = some o) (hpc : o.pc = .storing result) :
    pc = .calling ∧
      ((∃ value now, o.events = [.replied (.result value)] ∧ result = succeeded cfg value now) ∨
        ∃ message now, o.events = [.replied (.mcpCallError message)] ∧
          result = failed cfg message now) := by
  unfold runExecution at h
  split at h
  case h_4 value now =>
    obtain rfl := Option.some.inj h
    obtain rfl := ExecutionAt.storing.inj hpc
    exact ⟨rfl, .inl ⟨value, now, rfl, rfl⟩⟩
  case h_5 message now =>
    obtain rfl := Option.some.inj h
    obtain rfl := ExecutionAt.storing.inj hpc
    exact ⟨rfl, .inr ⟨message, now, rfl, rfl⟩⟩
  case h_3 r now =>
    obtain rfl := Option.some.inj h
    unfold checkAndCall at hpc
    dsimp only at hpc
    split_ifs at hpc
  case h_9 => cases h
  all_goals
    obtain rfl := Option.some.inj h
    cases hpc

/-- Only HUMAN_REVIEW itself, the routing behind it and the failure follow HUMAN_REVIEW. -/
theorem Graph.afterHumanReview_ne_execution (pc : ReviewPc) (pc' : ExecutionAt) :
    afterHumanReview pc ≠ .execution pc' := by
  unfold afterHumanReview
  split <;> nofun

/-- A stretch that ends in the call sends it. -/
theorem TaskStep.sent_of_calling {v v' : TaskView} {input : TaskInput} {t t' : TaskAt}
    {events : List Event} (h : TaskStep v input t v' t' events)
    (hcalling : t' = .execution .calling) : ∃ call, .sent call ∈ events := by
  cases h with
  | executionSends hlinked hexecuted call => exact ⟨call, List.mem_singleton_self _⟩
  | review | reviewUnlinked => exact absurd hcalling (Graph.afterHumanReview_ne_execution _ _)
  | _ => cases hcalling

/-- A stretch that ends with a result comes from the call. -/
theorem TaskStep.calling_of_storing {v v' : TaskView} {input : TaskInput} {t t' : TaskAt}
    {events : List Event} {result : Py.Dict} (h : TaskStep v input t v' t' events)
    (hstoring : t' = .execution (.storing result)) : t = .execution .calling := by
  cases h with
  | executionReplied | executionFailed => rfl
  | review | reviewUnlinked => exact absurd hstoring (Graph.afterHumanReview_ne_execution _ _)
  | _ => cases hstoring

namespace Gateway

variable {cfg : PipelineConfig} {approvalId : String} {manifest : Py.Dict} {s t : Gateway}
  {a : GatewayAction}

/-- Nothing of the log is lost. -/
theorem machine_log (hstep : (machine cfg approvalId manifest).step s a = some t) :
    ∃ events, t.log = events ++ s.log := by
  cases a with
  | task input =>
    obtain ⟨o, -, rfl⟩ := Option.map_eq_some_iff.mp (resumeTask_of_step hstep).1
    exact ⟨o.events, rfl⟩
  | recordDecision d now =>
    obtain rfl := Option.some.inj hstep
    exact ⟨[_], rfl⟩
  | postDecision d now | viewSubmission approve reason approverId now =>
    obtain rfl := Option.some.inj hstep
    split
    · exact ⟨[_], rfl⟩
    · exact ⟨[], rfl⟩
  | endpointStatus i now =>
    obtain ⟨status, -, rfl⟩ := Option.map_eq_some_iff.mp hstep
    exact ⟨[], rfl⟩

/-- Results of executions come from the target: the one that is stored, and the one at hand. -/
structure TrueResults (cfg : PipelineConfig) (approvalId : String) (s : Gateway) : Prop where
  stored : ∀ r result, s.mem.store approvalId = some r →
    (s.mem.records r).executionResult = some result →
    RepliedResult cfg.toExecutionConfig s.log result
  calling : s.task = .execution .calling → ∃ call, .sent call ∈ s.log
  storing : ∀ result, s.task = .execution (.storing result) →
    RepliedResult cfg.toExecutionConfig s.log result

/-- A stretch of the task. -/
theorem TrueResults.resume {input : TaskInput} (h : s.TrueResults cfg approvalId)
    (hwf : WellFormed approvalId s) (hresume : s.resumeTask cfg approvalId manifest input = some t) :
    (t.task = .execution .calling → ∃ call, .sent call ∈ t.log) ∧
      ∀ result, t.task = .execution (.storing result) →
        RepliedResult cfg.toExecutionConfig t.log result := by
  obtain ⟨o, ho, rfl⟩ := Option.map_eq_some_iff.mp hresume
  obtain ⟨r, hr⟩ := hwf.record
  have htask := Graph.runTask_taskStep hr hwf.link hwf.fresh ho
  refine ⟨fun hcalling => ?_, fun result hstoring => ?_⟩
  · obtain ⟨call, hcall⟩ := htask.sent_of_calling hcalling
    exact ⟨call, List.mem_append_left _ hcall⟩
  · have hcalling := htask.calling_of_storing hstoring
    obtain ⟨call, hcall⟩ := h.calling hcalling
    refine ⟨⟨call, List.mem_append_right _ hcall⟩, ?_⟩
    rw [hcalling] at ho
    cases input with
    | execution input =>
      obtain ⟨o', ho', rfl⟩ := Option.map_eq_some_iff.mp ho
      have hpc : o'.pc = .storing result := by
        simp only [Graph.within] at hstoring
        unfold Graph.afterExecution at hstoring
        split at hstoring
        · cases hstoring
        · cases hstoring
        · exact TaskAt.execution.inj hstoring
      rcases (Execution.runExecution_replied ho' hpc).2 with
        ⟨value, now, hevents, hresult⟩ | ⟨message, now, hevents, hresult⟩
      · exact .inl ⟨value, now, by simp [Graph.within, hevents], hresult⟩
      · exact .inr ⟨message, now, by simp [Graph.within, hevents], hresult⟩
    | _ => cases ho

/-- Every step keeps it. -/
theorem trueResults_step (hwf : WellFormed approvalId s) (h : s.TrueResults cfg approvalId)
    (hstep : (machine cfg approvalId manifest).step s a = some t) :
    t.TrueResults cfg approvalId := by
  have hprotocol := (machine_step hwf hstep).2
  obtain ⟨events, hlog⟩ := machine_log hstep
  have hother (h : ∀ input, a ≠ .task input) : t.task = s.task := hprotocol.task_eq h
  have hstored (r : Ref) (result : Py.Dict) (hr : t.mem.store approvalId = some r)
      (hresult : (t.mem.records r).executionResult = some result) :
      RepliedResult cfg.toExecutionConfig t.log result := by
    rw [machine_store hstep] at hr
    rw [hlog]
    rcases ((machine_memory hwf hstep).2 r).executionResult with hsame | ⟨result', hnew, htask⟩
    · exact (h.stored r result hr (hsame ▸ hresult)).mono events
    · obtain rfl := Option.some.inj (hresult.symm.trans hnew)
      exact (h.storing result htask).mono events
  cases a with
  | task input =>
    obtain ⟨hcalling, hstoring⟩ := h.resume hwf (resumeTask_of_step hstep).1
    exact ⟨hstored, hcalling, hstoring⟩
  -- the other actions leave the task where it is
  | recordDecision | postDecision | viewSubmission | endpointStatus =>
    have htask := hother fun input heq => by cases heq
    refine ⟨hstored, fun hcalling => ?_, fun result hstoring => ?_⟩
    · obtain ⟨call, hcall⟩ := h.calling (htask ▸ hcalling)
      exact ⟨call, hlog ▸ List.mem_append_right _ hcall⟩
    · rw [hlog]
      exact (h.storing result (htask ▸ hstoring)).mono events

/-- Before the task starts there is no result. -/
theorem Started.trueResults (h : Started approvalId s)
    (hnone : ∀ r, s.mem.store approvalId = some r → (s.mem.records r).executionResult = none) :
    s.TrueResults cfg approvalId where
  stored r result hr hresult := by
    rw [hnone r hr] at hresult
    cases hresult
  calling htask := by
    rw [h.task] at htask
    cases htask
  storing result htask := by
    rw [h.task] at htask
    cases htask

end Gateway
