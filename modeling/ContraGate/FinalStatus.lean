import ContraGate.GatewayTheorems

/-!
# After the last `update_status` of the task

A final status is absorbing if no endpoint can touch the record any more: decisions are
refused, and no endpoint is between its `record_decision` and its `update_status` with
another status. Neither follows from the code: a task that fails leaves the contract
`PENDING`, and an endpoint in flight sets its status whenever it comes to it.
-/

/-- The status that the task sets last. -/
def TaskAt.lastStatus : TaskAt → Option WorkflowStatus
  | syncStatus status => some status
  | failed => some .failed
  | _ => none

namespace Gateway

variable (cfg : PipelineConfig) (approvalId : String) (manifest : Py.Dict)

/-- The status of the record. -/
def status? (s : Gateway) : Option WorkflowStatus :=
  (s.mem.record? approvalId).map (·.status)

/-- Whatever happens from here on, the status and the decision fields stay as they are and
every decision is refused. -/
def Absorbing (s : Gateway) : Prop :=
  ∀ actions t, (machine cfg approvalId manifest).exec s actions = some t →
    t.status? approvalId = s.status? approvalId ∧
      t.mem.decision? approvalId = s.mem.decision? approvalId ∧
      ∃ newer, t.log = newer ++ s.log ∧ ∀ e ∈ newer, accepted e = false

/-- The stored contract is decided, and every endpoint in flight is about to set the status
that the task sets. -/
def Settled (s : Gateway) (status : WorkflowStatus) : Prop :=
  (∀ f, s.mem.decision? approvalId = some f → f.approvalState ≠ .pending) ∧
    ∀ e ∈ s.endpoints, e = status

/-! ## A final status that is overwritten -/

/-- The policy call fails with an error that nothing catches, so the task ends as `FAILED`. -/
def failing : List GatewayAction :=
  [.task (.resume 1), .task (.generatedId "cg_1" 1), .task (.riskGate ⟨.otherError, 1⟩)]

/-- The contract is still `PENDING` then: an APPROVE is accepted, and the endpoint changes
the status to `APPROVED`. -/
theorem failed_overwritten :
    ∃ s t u,
      (machine sampleConfig "cg_1" sampleManifest).exec sample failing = some s ∧
      s.task.lastStatus = some .failed ∧
      (machine sampleConfig "cg_1" sampleManifest).step s (.task (.resume 1)) = some t ∧
      t.status? "cg_1" = some .failed ∧
      (machine sampleConfig "cg_1" sampleManifest).exec t
        [.postDecision (sampleDecision "APPROVE") 2, .endpointStatus 0 2] = some u ∧
      u.status? "cg_1" = some .approved ∧ u.log.map accepted = [true] ∧
      ¬ t.Absorbing sampleConfig "cg_1" sampleManifest := by
  refine ⟨_, _, _, rfl, rfl, rfl, rfl, rfl, rfl, rfl, fun habsorbing => ?_⟩
  obtain ⟨hstatus, -⟩ := habsorbing
    [.postDecision (sampleDecision "APPROVE") 2, .endpointStatus 0 2] _ rfl
  have hne : (some WorkflowStatus.approved) ≠ some .failed := by decide
  exact hne hstatus

/-! ## When it is absorbing -/

variable {cfg approvalId manifest} {s₀ s t : Gateway} {actions : List GatewayAction}
  {status : WorkflowStatus}

/-- What holds from the last `update_status` on, if the workflow was settled before it. -/
structure Final (last : WorkflowStatus) (decision : Option DecisionFields) (before : List Event)
    (p : Protocol) : Prop where
  task : p.task = .finished last
  status : p.view.status = some last
  stored : p.view.stored = decision
  endpoints : ∀ e ∈ p.endpoints, e = last
  log : ∃ newer, p.log = newer ++ before ∧ ∀ e ∈ newer, accepted e = false

variable {decision : Option DecisionFields} {before : List Event} {p q : Protocol}
  {a : GatewayAction}

/-- A decided contract refuses a decision, and nothing changes. -/
theorem Final.refuse (h : Final status decision before p)
    (hdecided : ∀ f, decision = some f → f.approvalState ≠ .pending) (d : Decision) (now : Time) :
    p.view.toView.decide d now = (p.view.toView, none) ∧
      Final status decision before { p with log := .decided d none :: p.log } := by
  refine ⟨View.decide_of_decided (by rw [h.stored]; exact hdecided) d now, ?_⟩
  obtain ⟨newer, hlog, hnewer⟩ := h.log
  refine ⟨h.task, h.status, h.stored, h.endpoints, .decided d none :: newer, ?_, ?_⟩
  · simp [hlog]
  · exact List.forall_mem_cons.mpr ⟨rfl, hnewer⟩

/-- Nothing that can still happen matters. -/
theorem final_step (hdecided : ∀ f, decision = some f → f.approvalState ≠ .pending)
    (h : Final status decision before p) (hstep : ProtocolStep p a q) :
    Final status decision before q := by
  cases hstep with
  | task htask =>
    rw [h.task] at htask
    cases htask
  | decide d now | submit d now =>
    obtain ⟨hrefused, hfinal⟩ := h.refuse hdecided d now
    rw [hrefused]
    exact hfinal
  | ignored => exact h
  | endpointStatus hi =>
    obtain rfl := h.endpoints _ (List.mem_of_getElem? hi)
    refine ⟨h.task, ?_, h.stored, fun e he => h.endpoints e (List.mem_of_mem_eraseIdx he), h.log⟩
    simp [View.updateStatus, h.status]

/-- What the last `update_status` leaves behind. -/
theorem taskStep_last {v v' : TaskView} {input : TaskInput} {t t' : TaskAt} {events : List Event}
    (hlast : t.lastStatus = some status) (h : TaskStep v input t v' t' events) :
    t' = .finished status ∧ v' = { v with toView := v.updateStatus status } ∧ events = [] := by
  cases h with
  | syncStatus | failed =>
    obtain rfl := Option.some.inj hlast
    exact ⟨rfl, rfl, rfl⟩
  | _ => cases hlast

/-- The last `update_status` sets the status and leaves everything else alone. -/
theorem step_last (hwf : WellFormed approvalId s) (hlast : s.task.lastStatus = some status)
    {input : TaskInput}
    (hstep : (machine cfg approvalId manifest).step s (.task input) = some t) :
    t.task = .finished status ∧ t.status? approvalId = some status ∧
      t.mem.decision? approvalId = s.mem.decision? approvalId ∧ t.endpoints = s.endpoints := by
  obtain ⟨hresume, -⟩ := resumeTask_of_step hstep
  obtain ⟨o, ho, rfl⟩ := Option.map_eq_some_iff.mp hresume
  obtain ⟨r, hr⟩ := hwf.record
  obtain ⟨hpc, hview, -⟩ :=
    taskStep_last hlast (Graph.runTask_taskStep hr hwf.link hwf.fresh ho)
  have hstatus : o.mem.view approvalId pipelineContract =
      (s.mem.view approvalId pipelineContract).updateStatus status :=
    congrArg TaskView.toView hview
  refine ⟨hpc, ?_, congrArg View.stored hstatus, rfl⟩
  have hrecord : (s.mem.view approvalId pipelineContract).status =
      some (s.mem.records r).status := by rw [Memory.view_of_store hr]
  calc (o.mem.record? approvalId).map (·.status)
      = ((s.mem.view approvalId pipelineContract).status).map fun _ => status :=
        congrArg View.status hstatus
    _ = some status := by rw [hrecord]; rfl

/-- The last `update_status` of a settled workflow is absorbing. -/
theorem absorbing_of_settled (hsettled : Settled approvalId s status)
    (hwf : WellFormed approvalId s) (hlast : s.task.lastStatus = some status) {input : TaskInput}
    (hstep : (machine cfg approvalId manifest).step s (.task input) = some t) :
    t.Absorbing cfg approvalId manifest := by
  obtain ⟨htask, hstatus, hdecision, hendpoints⟩ := step_last hwf hlast hstep
  have hfinal : Final status (s.mem.decision? approvalId) t.log (t.abstract cfg approvalId) :=
    { task := htask
      status := hstatus
      stored := hdecision
      endpoints := by
        show ∀ e ∈ t.endpoints, e = status
        rw [hendpoints]
        exact hsettled.2
      log := ⟨[], rfl, List.forall_mem_nil _⟩ }
  intro actions u hrun
  obtain ⟨-, hu⟩ := exec_protocol (I := Final status (s.mem.decision? approvalId) t.log)
    (G := fun _ _ => True) (fun _ _ _ _ hI _ _ hst => final_step hsettled.1 hI hst)
    (machine_step hwf hstep).1 hfinal
    (Machine.guarded_of_forall _ (fun _ _ => trivial) _ _) hrun
  exact ⟨hu.status.trans hstatus.symm, hu.stored.trans hdecision.symm, hu.log⟩

/-- While the stored contract is pending, an APPROVE is accepted. -/
theorem decided_of_absorbing (h : t.Absorbing cfg approvalId manifest) (f : DecisionFields)
    (hf : t.mem.decision? approvalId = some f) : f.approvalState ≠ .pending := by
  intro hpending
  obtain ⟨-, hevent⟩ := t.mem.view_decide approvalId pipelineContract (sampleDecision "APPROVE") 0
  rw [View.decide_of_pending hf hpending] at hevent
  obtain ⟨-, -, newer, hlog, hnewer⟩ := h [.recordDecision (sampleDecision "APPROVE") 0] _ rfl
  have hlog' : newer ++ t.log = [.decided (sampleDecision "APPROVE")
      (some ((sampleDecision "APPROVE").write 0 f))] ++ t.log := by
    rw [← hlog, ← hevent]
    rfl
  have haccepted := hnewer _ (List.append_cancel_right hlog' ▸ List.mem_singleton_self _)
  cases haccepted

/-- An endpoint in flight sets its status. -/
theorem endpoints_of_absorbing (h : t.Absorbing cfg approvalId manifest)
    (hwf : WellFormed approvalId t) {e : WorkflowStatus} (he : e ∈ t.endpoints) :
    t.status? approvalId = some e := by
  obtain ⟨i, hi⟩ := List.mem_iff_getElem?.mp he
  have hstep : (machine cfg approvalId manifest).exec t [.endpointStatus i 0] =
      some { t with
        mem := WorkflowStore.updateStatus t.mem approvalId e 0
        endpoints := t.endpoints.eraseIdx i } := by
    simp [Machine.exec, machine, hi]
  obtain ⟨hstatus, -⟩ := h _ _ hstep
  obtain ⟨r, hr⟩ := hwf.record
  rw [← hstatus, status?, Memory.record?_of_store (by simpa using hr),
    WorkflowStore.updateStatus_eq hr]
  simp

/-- **The final status is absorbing exactly when the workflow is settled.** In every run,
after the task's last `update_status` no step changes the status or a decision field and
every decision is refused, if and only if the stored contract was decided before it and
every endpoint in flight is about to set the same status. -/
theorem final_status_absorbing_iff (h : Started approvalId s₀)
    (hrun : (machine cfg approvalId manifest).exec s₀ actions = some s)
    (hlast : s.task.lastStatus = some status) {input : TaskInput}
    (hstep : (machine cfg approvalId manifest).step s (.task input) = some t) :
    t.Absorbing cfg approvalId manifest ↔ s.Settled approvalId status := by
  have hwf : WellFormed approvalId s :=
    (machine cfg approvalId manifest).exec_preserves
      (fun _ _ _ hwf hst => (machine_step hwf hst).1) h.wellFormed hrun
  obtain ⟨-, hstatus, hdecision, hendpoints⟩ := step_last hwf hlast hstep
  refine ⟨fun habsorbing => ⟨fun f hf => ?_, fun e he => ?_⟩,
    fun hsettled => absorbing_of_settled hsettled hwf hlast hstep⟩
  · exact decided_of_absorbing habsorbing f (hdecision.trans hf)
  · rw [← hendpoints] at he
    have := endpoints_of_absorbing habsorbing (machine_step hwf hstep).1 he
    rw [hstatus, Option.some.injEq] at this
    exact this.symm

/-- A run that is settled: the review times out. -/
def timingOut : List GatewayAction :=
  toReview ++
    [.task (.review (.notified (.result .null) 1)), .task (.review (.resume 1)),
      .task (.review (.resume 1)), .task (.review (.resume 1)), .task (.review (.resume 1)),
      .task (.review (.resume 9000)), .task (.resume 9000), .task (.auditReply (.result .null) 9000),
      .task (.auditReply (.result .null) 9000), .task (.resume 9000), .task (.resume 9000)]

/-- What that run leaves behind. -/
theorem timingOut_run :
    ∃ s t, (machine sampleConfig "cg_1" sampleManifest).exec sample timingOut = some s ∧
      s.task.lastStatus = some .timedOut ∧
      (machine sampleConfig "cg_1" sampleManifest).step s (.task (.resume 9001)) = some t ∧
      (s.mem.decision? "cg_1").map (·.approvalState) = some .timedOut ∧ s.endpoints = [] :=
  ⟨_, _, rfl, rfl, rfl, rfl, rfl⟩

theorem final_status_absorbing_timed_out :
    ∃ s t, (machine sampleConfig "cg_1" sampleManifest).exec sample timingOut = some s ∧
      (machine sampleConfig "cg_1" sampleManifest).step s (.task (.resume 9001)) = some t ∧
      t.Absorbing sampleConfig "cg_1" sampleManifest := by
  obtain ⟨s, t, hrun, hlast, hstep, hdecision, hendpoints⟩ := timingOut_run
  refine ⟨s, t, hrun, hstep,
    (final_status_absorbing_iff sample_started hrun hlast hstep).mpr ⟨fun f hf => ?_, ?_⟩⟩
  · rw [hf, Option.map_some, Option.some.injEq] at hdecision
    rw [hdecision]
    decide
  · rw [hendpoints]
    exact List.forall_mem_nil _

end Gateway
