import ContraGate.GatewayTheorems

/-!
# `COMPLETED` means executed

The final status is a function of the approval state alone, so it says `COMPLETED` also when
nothing was executed: on the fast path, after a failed target call, after the stale-state
guard, when the graph works on another id, and when an early APPROVE is merged over an
automatic rejection. `Regular` excludes these five; `completed_executed` says that there are
no others.
-/

/-- The operation was sent, the target call succeeded, and the record says so. -/
structure Performed (v : TaskView) (log : List Event) : Prop where
  sent : ∃ call, .sent call ∈ log
  replied : ∃ value, .replied (.result value) ∈ log
  executed : v.executed = true
  succeeded : v.succeeded = true

/-- Neither the decision state nor later events matter to it. -/
theorem Performed.of_toView {v : TaskView} {log : List Event} (h : Performed v log) (w : View)
    (events : List Event) : Performed { v with toView := w } (events ++ log) where
  sent := by
    obtain ⟨call, hcall⟩ := h.sent
    exact ⟨call, List.mem_append_right _ hcall⟩
  replied := by
    obtain ⟨value, hvalue⟩ := h.replied
    exact ⟨value, List.mem_append_right _ hvalue⟩
  executed := h.executed
  succeeded := h.succeeded

namespace Completed

/-- What each point of the review knows. -/
def ReviewPhase (v : View) : ReviewAt → Prop
  | .mergeContract _ => v.stored = some v.own ∧ v.own.approvalState ≠ .pending
  | .mergeStatus _ | .merged | .returned => v.aliased = true ∧ v.own.approvalState ≠ .pending
  | .resetStatus | .persistStatus | .waiting | .sleeping | .pollGot _ => v.aliased = true
  | _ => True

/-- What each point of the execution knows. -/
def ExecutionPhase (v : TaskView) (log : List Event) : ExecutionAt → Prop
  | .start | .got _ => v.executed = false
  | .calling => ∃ call, .sent call ∈ log
  | .storing result => (∃ call, .sent call ∈ log) ∧ (∃ value, .replied (.result value) ∈ log) ∧
      Memory.isSuccess result = true
  | .stored => Performed v log
  | .returned | .raised => True

/-- What is known when the graph is about to end. -/
structure Concluded (v : TaskView) (log : List Event) : Prop where
  approved : v.own.approvalState = .approved → Performed v log
  pending : v.own.approvalState = .pending → v.aliased = false
  decided : v.own.approvalState ≠ .pending → v.own.approvalState ≠ .autoRejected →
    v.aliased = true

/-- What each point of the task knows. -/
def Phase (v : TaskView) (log : List Event) : TaskAt → Prop
  | .statusRunning | .intake => v.executed = false ∧ v.aliased = false
  | .riskGate _ | .routeRiskGate => v.executed = false ∧ v.aliased = false ∧
      (v.own.approvalState = .pending ∨ v.own.approvalState = .autoRejected)
  | .agent _ => v.executed = false
  | .humanReview pc => v.executed = false ∧ ReviewPhase v.toView pc.point
  | .routeHumanReview => v.executed = false ∧ v.aliased = true ∧ v.own.approvalState ≠ .pending
  | .execution pc => v.aliased = true ∧ v.own.approvalState = .approved ∧ ExecutionPhase v log pc
  | .audit _ | .syncContract => Concluded v log
  | .mapStatus => v.aliased = true ∧ v.own.approvalState ≠ .pending ∧
      (v.own.approvalState = .approved → Performed v log)
  | .syncStatus status | .finished status => status = .completed → Performed v log
  | .failed => True

/-- The invariant. -/
structure Inv (v : TaskView) (t : TaskAt) (log : List Event) : Prop where
  linked : t.built = true → v.linked = true
  phase : Phase v log t

variable {v v' : TaskView} {t t' : TaskAt} {log events : List Event} {input : TaskInput}

/-- What a stretch of the task must not do: build a contract with another id, find the
manifest changed, be told of a failed call, or merge a decision that the graph did not see. -/
structure Regular (v : TaskView) (input : TaskInput) (t : TaskAt) (v' : TaskView)
    (t' : TaskAt) : Prop where
  linked : t = .intake → t'.built = true → v'.linked = true
  intact : ∀ r, t = .execution (.got (some r)) → v.intact = true
  reply : ∀ message now, input ≠ .execution (.reply (.mcpCallError message) now)
  merge : t = .syncContract → ∀ f, v.stored = some f →
    (v.own.approvalState = .autoRejected → f.approvalState ≠ .approved) ∧
      (v.own.approvalState = .pending →
        f.approvalState = .rejected ∨ f.approvalState = .timedOut)

/-- A review stretch keeps what the review knows. -/
theorem reviewPhase_step {v w : View} {p q : ReviewAt} (h : ReviewPhase v p) (hv : v.Coherent)
    (hrecord : v.stored ≠ none) (hstep : ReviewStep v p w q events) : ReviewPhase w q := by
  cases hstep with
  | resetContract | persistContract => exact View.updateContract_aliased hv
  | resetStatus | persistStatus | sleep | pollGet | pollPending | mergeStatus | merged => exact h
  | preRecorded hf hne => exact ⟨by simp [View.write, hf], hne⟩
  | mergeContract =>
    obtain ⟨hstored, hne⟩ := h
    refine ⟨View.updateContract_aliased hv, ?_⟩
    rw [View.updateContract_of_stored hstored]
    simpa using hne
  | timeOut hf => exact ⟨h, by rw [View.write_own, hf]; decide⟩
  | gone hnone => exact absurd hnone hrecord
  | polled hf hne => exact ⟨h, hne⟩
  | failed | notified | reenter | firstGet | undecided => trivial

/-- The merge that `update_contract` makes when the graph has ended. -/
theorem mapStatus_of_concluded (h : Concluded v log) (hv : v.toView.Coherent)
    (hrecord : v.stored ≠ none) (hregular : Regular v input .syncContract v' t') :
    Phase { v with toView := v.toView.updateContract } log .mapStatus := by
  obtain ⟨existing, hstored⟩ := Option.ne_none_iff_exists'.mp hrecord
  obtain ⟨hreject, hpend⟩ := hregular.merge rfl existing hstored
  refine ⟨View.updateContract_aliased hv, ?_⟩
  rw [View.updateContract_of_stored hstored]
  dsimp only
  split
  · rename_i hterm
    -- a terminal decision is merged over the pipeline's contract
    refine ⟨fun hpending => by simp [hpending, ApprovalState.terminal] at hterm, fun happroved => ?_⟩
    have hown : v.own = existing := by
      refine hv.same (h.decided (fun hp => ?_) fun hr => hreject hr happroved) existing hstored
      rcases hpend hp with hf | hf <;> rw [hf] at happroved <;> cases happroved
    exact (h.approved (hown ▸ happroved)).of_toView _ []
  · rename_i hterm
    refine ⟨fun hpending => ?_, fun happroved => ?_⟩
    · rcases hpend hpending with hf | hf <;> simp [hf, ApprovalState.terminal] at hterm
    · exact (h.approved happroved).of_toView _ []

theorem phase_afterHumanReview {pc : ReviewPc} (hexecuted : v.executed = false)
    (h : ReviewPhase v.toView pc.point) : Phase v log (Graph.afterHumanReview pc) := by
  obtain ⟨deadline, point⟩ := pc
  cases point with
  | returned => exact ⟨hexecuted, h.1, h.2⟩
  | raised => trivial
  | _ => exact ⟨hexecuted, h⟩

/-- Every regular stretch of the task keeps what the task knows. -/
theorem phase_taskStep (h : Inv v t log) (hv : v.toView.Coherent) (hrecord : v.stored ≠ none)
    (hregular : Regular v input t v' t') (hstep : TaskStep v input t v' t' events) :
    Phase v' (events ++ log) t' := by
  have hphase := h.phase
  cases hstep with
  | statusRunning => exact hphase
  | intake linked => exact ⟨hphase.1, hphase.2, .inl rfl⟩
  | riskGate => exact hphase
  | riskGateReturns triggered =>
    obtain ⟨hexecuted, haliased, hown⟩ := hphase
    refine ⟨hexecuted, haliased, ?_⟩
    cases triggered with
    | false => exact hown
    | true => exact .inr rfl
  | intakeRaises | riskGateRaises | agentRaises | executionGone | executionRaises | auditRaises =>
    trivial
  -- neither route leads over an approval
  | autoReject | autoExecute =>
    obtain ⟨hexecuted, haliased, hown⟩ := hphase
    refine ⟨fun happroved => ?_, fun _ => haliased, fun hpending hrejected => ?_⟩
    · rcases hown with hown | hown <;> rw [hown] at happroved <;> cases happroved
    · rcases hown with hown | hown
      · exact absurd hown hpending
      · exact absurd hown hrejected
  | fullPipeline => exact hphase.1
  | agent => exact hphase
  | agentsDone => exact ⟨hphase, trivial⟩
  | review hlinked hreview =>
    exact phase_afterHumanReview hphase.1 (reviewPhase_step hphase.2 hv hrecord hreview)
  -- the id was set in the intake, so the review has the record
  | reviewUnlinked hunlinked =>
    have hlinked := h.linked rfl
    rw [hunlinked] at hlinked
    cases hlinked
  | approved hown => exact ⟨hphase.2.1, hown, hphase.1⟩
  | notApproved hown =>
    obtain ⟨-, haliased, hpending⟩ := hphase
    exact ⟨fun happroved => absurd happroved hown, fun hp => absurd hp hpending,
      fun _ _ => haliased⟩
  | modified => exact hphase.1
  | executionGet => exact hphase
  -- nothing was executed before
  | executionSkipped _ hexecuted =>
    have hfirst : v.executed = false := hphase.2.2
    rw [hexecuted] at hfirst
    cases hfirst
  | executionAborted _ hchanged =>
    have hintact := hregular.intact _ rfl
    rw [hchanged] at hintact
    cases hintact
  | executionSends _ _ call => exact ⟨hphase.1, hphase.2.1, call, List.mem_cons_self ..⟩
  | executionReplied value hsuccess =>
    obtain ⟨haliased, hown, call, hsent⟩ := hphase
    exact ⟨haliased, hown, ⟨call, List.mem_cons_of_mem _ hsent⟩, ⟨value, List.mem_cons_self ..⟩,
      hsuccess⟩
  | executionFailed hinput => exact absurd hinput (hregular.reply _ _)
  -- here the result becomes that of the record
  | executionStores =>
    obtain ⟨haliased, hown, hsent, hreplied, hsuccess⟩ := hphase
    exact ⟨haliased, hown, hsent, hreplied, rfl, hsuccess⟩
  | executionDone =>
    obtain ⟨haliased, hown, hperformed⟩ := hphase
    refine ⟨fun _ => hperformed, fun hpending => ?_, fun _ _ => haliased⟩
    rw [hown] at hpending
    cases hpending
  | auditLogged | audited => exact hphase
  | syncContract => exact mapStatus_of_concluded hphase hv hrecord hregular
  -- `COMPLETED` is the status of an approved contract, a pending one is excluded
  | mapStatus =>
    obtain ⟨-, hpending, hperformed⟩ := hphase
    intro hcompleted
    cases hown : v.own.approvalState <;> simp_all [Graph.finalStatus]
  | syncStatus => exact fun hcompleted => (hphase hcompleted).of_toView _ []
  | failed => exact nofun

/-- Only the intake changes the id of the contract. -/
theorem linked_taskStep (h : Inv v t log) (hregular : Regular v input t v' t')
    (hstep : TaskStep v input t v' t' events) (hbuilt : t'.built = true) : v'.linked = true := by
  cases hstep with
  | intake linked => exact hregular.linked rfl rfl
  | statusRunning | intakeRaises | riskGateRaises | agentRaises | executionGone | executionRaises
  | auditRaises | syncStatus | failed => cases hbuilt
  | _ => exact h.linked rfl

/-- A decision keeps what the review knows. -/
theorem reviewPhase_decide {v : View} {p : ReviewAt} (h : ReviewPhase v p) (hv : v.Coherent)
    (d : Decision) (now : Time) : ReviewPhase (v.decide d now).1 p := by
  have haliased := v.decide_aliased d now
  cases p with
  | mergeContract pre =>
    obtain ⟨hstored, hne⟩ := h
    rw [View.decide_of_decided fun f hf => by
      rw [hstored, Option.some.injEq] at hf
      exact hf ▸ hne]
    exact ⟨hstored, hne⟩
  | mergeStatus | merged | returned =>
    refine ⟨haliased.trans h.1, ?_⟩
    rw [View.decide_own hv fun _ => h.2]
    exact h.2
  | resetStatus | persistStatus | waiting | sleeping | pollGot => exact haliased.trans h
  | _ => trivial

theorem Concluded.of_toView (h : Concluded v log) {w : View} (hown : w.own = v.own)
    (haliased : w.aliased = v.aliased) (events : List Event) :
    Concluded { v with toView := w } (events ++ log) where
  approved happroved := (h.approved (hown ▸ happroved)).of_toView w events
  pending hpending := haliased.trans (h.pending (hown ▸ hpending))
  decided hpending hrejected := haliased.trans (h.decided (hown ▸ hpending) (hown ▸ hrejected))

/-- A decision keeps what the execution knows: it leaves the record's results alone. -/
theorem executionPhase_decide {w : View} {pc : ExecutionAt} (h : ExecutionPhase v log pc)
    (e : Event) : ExecutionPhase { v with toView := w } (e :: log) pc := by
  cases pc with
  | start | got => exact h
  | calling =>
    obtain ⟨call, hsent⟩ := h
    exact ⟨call, List.mem_cons_of_mem _ hsent⟩
  | storing result =>
    obtain ⟨⟨call, hsent⟩, ⟨value, hreplied⟩, hsuccess⟩ := h
    exact ⟨⟨call, List.mem_cons_of_mem _ hsent⟩, ⟨value, List.mem_cons_of_mem _ hreplied⟩, hsuccess⟩
  | stored => exact Performed.of_toView h w [e]
  | returned | raised => trivial

/-- A decision keeps the invariant: where the pipeline's contract matters, the decision
either is refused or does not reach it. -/
theorem Inv.decide (h : Inv v t log) (hv : v.toView.Coherent) (d : Decision) (now : Time) :
    Inv { v with toView := (v.toView.decide d now).1 } t
      (.decided d (v.toView.decide d now).2 :: log) where
  linked := h.linked
  phase := by
    have hphase := h.phase
    have haliased := v.toView.decide_aliased d now
    have hown (hne : v.aliased = true → v.own.approvalState ≠ .pending) :
        (v.toView.decide d now).1.own = v.own := View.decide_own hv hne d now
    cases t with
    | statusRunning | intake => exact ⟨hphase.1, haliased.trans hphase.2⟩
    | riskGate | routeRiskGate =>
      obtain ⟨hexecuted, hfalse, hstate⟩ := hphase
      refine ⟨hexecuted, haliased.trans hfalse, ?_⟩
      dsimp only
      rwa [hown (by simp [hfalse])]
    | agent => exact hphase
    | humanReview pc => exact ⟨hphase.1, reviewPhase_decide hphase.2 hv d now⟩
    | routeHumanReview =>
      obtain ⟨hexecuted, htrue, hstate⟩ := hphase
      refine ⟨hexecuted, haliased.trans htrue, ?_⟩
      dsimp only
      rwa [hown fun _ => hstate]
    | execution pc =>
      obtain ⟨htrue, hstate, hpc⟩ := hphase
      refine ⟨haliased.trans htrue, ?_, executionPhase_decide hpc _⟩
      dsimp only
      rwa [hown fun _ => by rw [hstate]; decide]
    -- a pending contract is no longer shared here, so no decision reaches it
    | audit | syncContract =>
      refine Concluded.of_toView hphase (hown fun htrue hpending => ?_) haliased [_]
      rw [hphase.pending hpending] at htrue
      cases htrue
    | mapStatus =>
      obtain ⟨htrue, hstate, hperformed⟩ := hphase
      refine ⟨haliased.trans htrue, ?_, fun happroved => ?_⟩
      · dsimp only
        rwa [hown fun _ => hstate]
      · dsimp only at happroved
        rw [hown fun _ => hstate] at happroved
        exact (hperformed happroved).of_toView _ [_]
    | syncStatus | finished => exact fun hcompleted => (hphase hcompleted).of_toView _ [_]
    | failed => trivial

/-- An endpoint's status keeps the invariant. -/
theorem Inv.updateStatus (h : Inv v t log) (status : WorkflowStatus) :
    Inv { v with toView := v.toView.updateStatus status } t log where
  linked := h.linked
  phase := by
    have hphase := h.phase
    cases t with
    | humanReview pc =>
      obtain ⟨deadline, point⟩ := pc
      exact ⟨hphase.1, by cases point <;> exact hphase.2⟩
    | execution pc =>
      refine ⟨hphase.1, hphase.2.1, ?_⟩
      cases pc with
      | stored => exact Performed.of_toView hphase.2.2 _ []
      | _ => exact hphase.2.2
    | audit | syncContract =>
      exact Concluded.of_toView (w := v.toView.updateStatus status) hphase rfl rfl []
    | mapStatus =>
      exact ⟨hphase.1, hphase.2.1, fun happroved => (hphase.2.2 happroved).of_toView _ []⟩
    | syncStatus | finished => exact fun hcompleted => (hphase hcompleted).of_toView _ []
    | _ => exact hphase

/-- Every regular step of the protocol keeps the invariant. -/
theorem inv_protocolStep {p q : Protocol} {a : GatewayAction} (h : Inv p.view p.task p.log)
    (hv : p.view.toView.Coherent) (hrecord : p.view.stored ≠ none)
    (hregular : ∀ input, a = .task input → Regular p.view input p.task q.view q.task)
    (hstep : ProtocolStep p a q) : Inv q.view q.task q.log := by
  cases hstep with
  | task htask =>
    have hr := hregular _ rfl
    exact ⟨linked_taskStep h hr htask, phase_taskStep h hv hrecord hr htask⟩
  | decide d now | submit d now => exact h.decide hv d now
  | ignored => exact h
  | endpointStatus => exact h.updateStatus _

end Completed

namespace Gateway

variable (cfg : PipelineConfig) (approvalId : String) (manifest : Py.Dict)

/-- The record says that the operation was executed and succeeded, and in this run it was
sent to the target and the call returned. -/
def Executed (s : Gateway) : Prop :=
  s.mem.executed approvalId = true ∧ s.mem.succeeded approvalId = true ∧
    (∃ call, .sent call ∈ s.log) ∧ ∃ value, .replied (.result value) ∈ s.log

/-- Whenever the task ends by setting `COMPLETED`, the operation was executed. -/
def CompletedExecuted (s : Gateway) : Prop :=
  s.task = .finished .completed → s.Executed approvalId

/-! ## A failed call -/

/-- An early APPROVE, and what the target answers. -/
def approvedCall (reply : TargetReply) : List GatewayAction :=
  toReview ++
    [.postDecision (sampleDecision "APPROVE") 2, .endpointStatus 0 2,
      .task (.review (.notified (.result .null) 3)), .task (.review (.resume 3)),
      .task (.review (.resume 3)), .task (.review (.resume 3)), .task (.review (.resume 3)),
      .task (.review (.resume 3)), .task (.resume 3), .task (.execution (.resume 3)),
      .task (.execution (.resume 3)), .task (.execution (.reply reply 4)),
      .task (.execution (.resume 4)), .task (.execution (.resume 4)),
      .task (.auditReply (.result .null) 4), .task (.auditReply (.result .null) 4),
      .task (.resume 4), .task (.resume 4), .task (.resume 4)]

/-- What a call that the target refuses leaves behind. -/
theorem failedCall_run :
    ∃ t, (machine sampleConfig "cg_1" sampleManifest).exec sample
        (approvedCall (.mcpCallError "relation \"t\" does not exist")) = some t ∧
      t.task = .finished .completed ∧ t.mem.executed "cg_1" = true ∧
      t.mem.succeeded "cg_1" = false :=
  ⟨_, rfl, rfl, rfl, rfl⟩

/-- The status is `COMPLETED`, and the recorded result says `success: False`. -/
theorem completed_after_failed_call :
    ¬ ∀ actions t,
      (machine sampleConfig "cg_1" sampleManifest).exec sample actions = some t →
        t.CompletedExecuted "cg_1" := by
  intro hlaw
  obtain ⟨t, hrun, hcompleted, -, hfailed⟩ := failedCall_run
  obtain ⟨-, hsucceeded, -⟩ := hlaw _ t hrun hcompleted
  rw [hfailed] at hsucceeded
  cases hsucceeded

/-! ## The runs in which it holds -/

/-- The five ways to `COMPLETED` without an execution are not taken: the graph builds its
contract under the record's id, the stale-state guard passes, the target call does not raise
`MCPCallError`; and when the graph has ended, an automatic rejection does not meet an
approved stored contract, and an undecided contract (the fast path) meets a stored contract
that is rejected or timed out. -/
def Regular (s : Gateway) : GatewayAction → Prop
  | .task (.generatedId id now) =>
    ∀ c, Intake.runIntake cfg.toIntakeConfig manifest id now = some c → c.operationId = approvalId
  | .task input =>
    (∀ r, s.task = .execution (.got (some r)) →
      s.mem.intact cfg.toExecutionConfig approvalId = true) ∧
    (∀ message now, input ≠ .execution (.reply (.mcpCallError message) now)) ∧
    (s.task = .syncContract → ∀ f, s.mem.decision? approvalId = some f →
      ((s.mem.contracts pipelineContract).approvalState = .autoRejected →
        f.approvalState ≠ .approved) ∧
      ((s.mem.contracts pipelineContract).approvalState = .pending →
        f.approvalState = .rejected ∨ f.approvalState = .timedOut))
  | _ => True

variable {cfg approvalId manifest} {s t : Gateway} {a : GatewayAction}
  {actions : List GatewayAction}

/-- A regular step of the workflow is regular in the protocol. -/
theorem regular_resumeTask {input : TaskInput}
    (hregular : s.Regular cfg approvalId manifest (.task input))
    (hstep : s.resumeTask cfg approvalId manifest input = some t) :
    Completed.Regular (s.abstract cfg approvalId).view input s.task
      (t.abstract cfg approvalId).view t.task := by
  obtain ⟨o, ho, rfl⟩ := Option.map_eq_some_iff.mp hstep
  cases input with
  | generatedId id now =>
    obtain hintake : s.task = .intake := by
      cases htask : s.task <;> rw [htask] at ho <;> first | rfl | simp [Graph.runTask] at ho
    rw [hintake] at ho ⊢
    refine ⟨fun _ hbuilt => ?_, by rintro _ ⟨⟩, by rintro _ _ ⟨⟩, by rintro ⟨⟩⟩
    rcases Graph.runTask_intake ho with hfailed | ⟨c, hc, hmem⟩
    · rw [hfailed] at hbuilt
      cases hbuilt
    · have hid := hregular c hc
      rw [← hmem] at hid
      exact decide_eq_true hid
  | _ =>
    obtain ⟨hintact, hreply, hmerge⟩ := hregular
    refine ⟨fun hintake => ?_, hintact, hreply, hmerge⟩
    rw [hintake] at ho
    simp [Graph.runTask] at ho

/-- A workflow starts before everything the invariant speaks about. -/
theorem Started.completed (h : Started approvalId s) :
    Completed.Inv (s.abstract cfg approvalId).view s.task s.log where
  linked hbuilt := by simp [h.task, TaskAt.built] at hbuilt
  phase := by
    obtain ⟨r, hr, hcontract, hexecuted⟩ := h.record
    rw [h.task]
    refine ⟨(Memory.executed_of_store hr).trans hexecuted, ?_⟩
    show (s.mem.view approvalId pipelineContract).aliased = false
    rw [Memory.view_of_store hr, hcontract]
    rfl

/-- **`COMPLETED` means executed**, in every run whose steps are all regular: when the task
ends by setting it, the operation was sent to the target, the call succeeded, and the record
says so. -/
theorem completed_executed (h : Started approvalId s)
    (hregular : (machine cfg approvalId manifest).Guarded (Regular cfg approvalId manifest) s
      actions)
    (hrun : (machine cfg approvalId manifest).exec s actions = some t) :
    t.CompletedExecuted approvalId := by
  intro hcompleted
  have hstep (s : Gateway) (a : GatewayAction) (t : Gateway) (hwf : WellFormed approvalId s)
      (hI : Completed.Inv (s.abstract cfg approvalId).view s.task s.log)
      (hG : s.Regular cfg approvalId manifest a)
      (hst : (machine cfg approvalId manifest).step s a = some t)
      (hprotocol : ProtocolStep (s.abstract cfg approvalId) a (t.abstract cfg approvalId)) :
      Completed.Inv (t.abstract cfg approvalId).view t.task t.log := by
    obtain ⟨r, hr⟩ := hwf.record
    have hrecord : (s.mem.view approvalId pipelineContract).stored ≠ none := by
      rw [Memory.view_of_store hr]
      simp
    refine Completed.inv_protocolStep hI (s.mem.view_coherent _ _) hrecord ?_ hprotocol
    rintro input rfl
    exact regular_resumeTask hG (resumeTask_of_step hst).1
  have hinv := (exec_protocol (I := fun p => Completed.Inv p.view p.task p.log) hstep
    h.wellFormed h.completed hregular hrun).2
  have hphase : Completed.Phase (t.abstract cfg approvalId).view t.log t.task := hinv.phase
  rw [hcompleted] at hphase
  obtain ⟨hsent, hreplied, hexecuted, hsucceeded⟩ := hphase rfl
  exact ⟨hexecuted, hsucceeded, hsent, hreplied⟩

/-- The same run with a call that returns is regular. -/
theorem succeedingCall_regular :
    (machine sampleConfig "cg_1" sampleManifest).Guarded
      (Regular sampleConfig "cg_1" sampleManifest) sample (approvedCall (.result .null)) := by
  refine Machine.guarded_cons _ rfl ⟨nofun, nofun, nofun⟩ ?_
  refine Machine.guarded_cons _ rfl (fun c hc => (Option.some.inj hc) ▸ rfl) ?_
  iterate 6 refine Machine.guarded_cons _ rfl ⟨nofun, nofun, nofun⟩ ?_
  iterate 2 refine Machine.guarded_cons _ rfl trivial ?_
  iterate 8 refine Machine.guarded_cons _ rfl ⟨nofun, nofun, nofun⟩ ?_
  -- the stale-state guard
  refine Machine.guarded_cons _ rfl ⟨fun _ _ => rfl, nofun, nofun⟩ ?_
  iterate 5 refine Machine.guarded_cons _ rfl ⟨nofun, nofun, nofun⟩ ?_
  -- the merge: both contracts are approved
  refine Machine.guarded_cons _ rfl ⟨nofun, nofun, fun _ _ _ => ⟨nofun, nofun⟩⟩ ?_
  iterate 2 refine Machine.guarded_cons _ rfl ⟨nofun, nofun, nofun⟩ ?_
  trivial

theorem completed_executed_approved :
    ∃ t, (machine sampleConfig "cg_1" sampleManifest).exec sample
        (approvedCall (.result .null)) = some t ∧
      t.task = .finished .completed ∧ t.CompletedExecuted "cg_1" := by
  have hrun : (machine sampleConfig "cg_1" sampleManifest).exec sample
      (approvedCall (.result .null)) = some _ := rfl
  exact ⟨_, hrun, rfl, completed_executed sample_started succeedingCall_regular hrun⟩

end Gateway