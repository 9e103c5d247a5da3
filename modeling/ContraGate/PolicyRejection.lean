import ContraGate.FinalStatus

/-!
# A hard policy rejection

The rejection is written to the pipeline's contract, while a human decides the contract in
the store. When the graph has ended the two are merged, and a terminal human decision wins:
an early APPROVE turns the rejection into `COMPLETED`. `rejection_final` says when it is
final after all.
-/

namespace Gateway

variable (cfg : PipelineConfig) (approvalId : String) (manifest : Py.Dict)

/-- RISK_GATE has just set `auto_reject_triggered`. -/
def RejectionTriggered (s : Gateway) : Prop :=
  s.task = .routeRiskGate ∧ (s.mem.contracts pipelineContract).autoRejectTriggered.truthy = true

/-- The stored contract and the status both say `AUTO_REJECTED`. -/
def AutoRejected (s : Gateway) : Prop :=
  (s.mem.decision? approvalId).map (·.approvalState) = some .autoRejected ∧
    s.status? approvalId = some .autoRejected

/-- Whenever the background task has finished, the rejection stands. -/
def RejectionStands (s : Gateway) : Prop :=
  ∀ status, s.task = .finished status → s.AutoRejected approvalId

/-! ## An overruled rejection -/

/-- An APPROVE is accepted while the policy store is still being asked. -/
def earlyApprove : List GatewayAction :=
  [.task (.resume 1), .task (.generatedId "cg_1" 1), .postDecision (sampleDecision "APPROVE") 1,
    .endpointStatus 0 1, .task (.riskGate ⟨.result .null, 2⟩),
    .task (.riskGate ⟨.result (.obj [("has_hard_violation", .bool true)]), 2⟩)]

/-- The rest of the task: the audit, the merge, the final status. -/
def auditAndFinish : List GatewayAction :=
  [.task (.resume 3), .task (.auditReply (.result .null) 3), .task (.auditReply (.result .null) 3),
    .task (.resume 3), .task (.resume 3), .task (.resume 3)]

theorem earlyApprove_run :
    ∃ s t, (machine sampleConfig "cg_1" sampleManifest).exec sample earlyApprove = some s ∧
      s.RejectionTriggered ∧
      (machine sampleConfig "cg_1" sampleManifest).exec s auditAndFinish = some t ∧
      t.task = .finished .completed ∧ t.status? "cg_1" = some .completed :=
  ⟨_, _, rfl, ⟨rfl, rfl⟩, rfl, rfl, rfl⟩

/-- The policy has rejected the operation, and its status is `COMPLETED`. -/
theorem rejection_overruled :
    ¬ ∀ before s after t,
      (machine sampleConfig "cg_1" sampleManifest).exec sample before = some s →
      s.RejectionTriggered →
      (machine sampleConfig "cg_1" sampleManifest).exec s after = some t →
        t.RejectionStands "cg_1" := by
  intro hlaw
  obtain ⟨s, t, hbefore, htriggered, hafter, hdone, hstatus⟩ := earlyApprove_run
  obtain ⟨-, hrejected⟩ := hlaw _ s _ t hbefore htriggered hafter _ hdone
  rw [hstatus] at hrejected
  cases hrejected

/-! ## When it stands -/

/-- The audit does not raise; when the graph has ended, the stored contract carries no
terminal human decision; and when the final status is set, no endpoint is in flight. -/
def Uncontested (s : Gateway) : GatewayAction → Prop
  | .task input =>
    (∀ now, input ≠ .auditReply .otherError now) ∧
    (s.task = .syncContract → ∀ f, s.mem.decision? approvalId = some f →
      f.approvalState.terminal = false) ∧
    (∀ status, s.task = .syncStatus status → s.endpoints = [])
  | _ => True

/-- What each point of the rest of the task knows. -/
def RejectionPhase (v : TaskView) (endpoints : List WorkflowStatus) : TaskAt → Prop
  | .routeRiskGate => v.triggered = true ∧ v.own.approvalState = .autoRejected
  | .audit _ | .syncContract => v.own.approvalState = .autoRejected
  | .mapStatus => v.own.approvalState = .autoRejected ∧ v.stored = some v.own
  | .syncStatus status => status = .autoRejected ∧
      ∃ f, v.stored = some f ∧ f.approvalState = .autoRejected
  | .finished _ => v.status = some .autoRejected ∧ endpoints = [] ∧
      ∃ f, v.stored = some f ∧ f.approvalState = .autoRejected
  | _ => False

variable {cfg approvalId manifest} {s₀ s t : Gateway} {a : GatewayAction} {p q : Protocol}
  {v v' : TaskView} {task task' : TaskAt} {endpoints : List WorkflowStatus} {events : List Event}
  {before after : List GatewayAction}

/-- An uncontested stretch of the task keeps what is known. -/
theorem rejectionPhase_taskStep {input : TaskInput} (h : RejectionPhase v endpoints task)
    (hrecord : v.stored ≠ none ∧ v.status ≠ none)
    (hreply : ∀ now, input ≠ .auditReply .otherError now)
    (hmerge : task = .syncContract → ∀ f, v.stored = some f → f.approvalState.terminal = false)
    (hflight : ∀ status, task = .syncStatus status → endpoints = [])
    (hstep : TaskStep v input task v' task' events) : RejectionPhase v' endpoints task' := by
  cases hstep with
  | autoReject => exact h.2
  -- the other two edges need a gate that was not triggered
  | autoExecute huntriggered | fullPipeline huntriggered =>
    have htriggered : v.triggered = true := h.1
    rw [huntriggered] at htriggered
    cases htriggered
  | auditLogged | audited => exact h
  | auditRaises hinput => exact absurd hinput (hreply _)
  -- the stored contract is not decided, so the rejected one replaces it
  | syncContract =>
    obtain ⟨existing, hstored⟩ := Option.ne_none_iff_exists'.mp hrecord.1
    have hown : v.own.approvalState = .autoRejected := h
    have hterm := hmerge rfl existing hstored
    show v.updateContract.own.approvalState = _ ∧ v.updateContract.stored = some v.updateContract.own
    rw [View.updateContract_of_stored hstored]
    simpa [hterm] using hown
  | mapStatus =>
    obtain ⟨hown, hstored⟩ := h
    exact ⟨by rw [hown]; rfl, _, hstored, hown⟩
  | @syncStatus status =>
    obtain ⟨rfl, hstored⟩ := h
    obtain ⟨old, hstatus⟩ := Option.ne_none_iff_exists'.mp hrecord.2
    exact ⟨by simp [View.updateStatus, hstatus], hflight _ rfl, hstored⟩
  | _ => exact h.elim

/-- A decision does not reach a rejected contract; once it is stored, it is refused. -/
theorem rejectionPhase_decide (h : RejectionPhase v endpoints task) (hv : v.toView.Coherent)
    (d : Decision) (now : Time) (more : List WorkflowStatus) :
    RejectionPhase { v with toView := (v.toView.decide d now).1 }
      (if (v.toView.decide d now).2.isSome then endpoints ++ more else endpoints) task := by
  have hown (hrejected : v.own.approvalState = .autoRejected) :
      (v.toView.decide d now).1.own = v.own :=
    View.decide_own hv (fun _ => by rw [hrejected]; decide) d now
  have hrefused {f : DecisionFields} (hf : v.stored = some f)
      (hrejected : f.approvalState = .autoRejected) :
      v.toView.decide d now = (v.toView, none) := by
    refine View.decide_of_decided (fun g hg => ?_) d now
    rw [hf, Option.some.injEq] at hg
    rw [← hg, hrejected]
    decide
  -- before the contract is stored the decision misses it, afterwards it is refused
  cases task with
  | routeRiskGate =>
    refine ⟨h.1, ?_⟩
    dsimp only
    rw [hown h.2]
    exact h.2
  | audit | syncContract =>
    show (v.toView.decide d now).1.own.approvalState = _
    rw [hown h]
    exact h
  | mapStatus =>
    rw [hrefused h.2 h.1]
    exact h
  | syncStatus =>
    obtain ⟨f, hf, hrejected⟩ := h.2
    rw [hrefused hf hrejected]
    exact h
  | finished =>
    obtain ⟨f, hf, hrejected⟩ := h.2.2
    rw [hrefused hf hrejected]
    exact h
  | _ => exact h.elim

/-- An uncontested step keeps what is known. -/
theorem rejectionPhase_protocolStep (h : RejectionPhase p.view p.endpoints p.task)
    (hv : p.view.toView.Coherent) (hrecord : p.view.stored ≠ none ∧ p.view.status ≠ none)
    (hguard : ∀ input, a = .task input →
      (∀ now, input ≠ .auditReply .otherError now) ∧
      (p.task = .syncContract → ∀ f, p.view.stored = some f → f.approvalState.terminal = false) ∧
      ∀ status, p.task = .syncStatus status → p.endpoints = [])
    (hstep : ProtocolStep p a q) : RejectionPhase q.view q.endpoints q.task := by
  cases hstep with
  | task htask =>
    obtain ⟨hreply, hmerge, hflight⟩ := hguard _ rfl
    exact rejectionPhase_taskStep h hrecord hreply hmerge hflight htask
  | decide d now =>
    have := rejectionPhase_decide h hv d now []
    simpa using this
  | submit d now => exact rejectionPhase_decide h hv d now _
  | ignored => exact h
  | @endpointStatus i _ status hi =>
    cases htask : p.task <;> rw [htask] at h <;> try exact h
    -- after the end no endpoint is in flight
    rw [h.2.1] at hi
    cases hi

/-- RISK_GATE sets both: the contract is rejected when `auto_reject_triggered` is set. -/
theorem taskStep_routeRiskGate {input : TaskInput} (hstep : TaskStep v input task v' task' events)
    (hroute : task' = .routeRiskGate) (htriggered : v'.triggered = true) :
    v'.own.approvalState = .autoRejected := by
  have hreview (pc : ReviewPc) : Graph.afterHumanReview pc ≠ .routeRiskGate := by
    obtain ⟨deadline, point⟩ := pc
    cases point <;> simp [Graph.afterHumanReview]
  cases hstep with
  | riskGateReturns triggered =>
    dsimp only at htriggered ⊢
    rw [htriggered]
    rfl
  | review | reviewUnlinked => exact absurd hroute (hreview _)
  | _ => cases hroute

/-- At the edge out of RISK_GATE a contract is rejected if the policy says so. -/
def RejectedOnTrigger (p : Protocol) : Prop :=
  p.task = .routeRiskGate → p.view.triggered = true → p.view.own.approvalState = .autoRejected

theorem rejectedOnTrigger_protocolStep (h : RejectedOnTrigger p) (hv : p.view.toView.Coherent)
    (hstep : ProtocolStep p a q) : RejectedOnTrigger q := by
  cases hstep with
  | task htask => exact taskStep_routeRiskGate htask
  | decide d now | submit d now =>
    intro hroute htriggered
    have hrejected := h hroute htriggered
    dsimp only
    rw [View.decide_own hv fun _ => by rw [hrejected]; decide]
    exact hrejected
  | ignored | endpointStatus => exact h

/-- **A hard policy rejection is final**, in every run that is uncontested from RISK_GATE on:
once the task has finished, the stored contract and the status are `AUTO_REJECTED`. -/
theorem rejection_final (h : Started approvalId s₀)
    (hbefore : (machine cfg approvalId manifest).exec s₀ before = some s)
    (htriggered : s.RejectionTriggered)
    (hguard : (machine cfg approvalId manifest).Guarded (Uncontested approvalId) s after)
    (hafter : (machine cfg approvalId manifest).exec s after = some t) :
    t.RejectionStands approvalId := by
  have hstart : RejectedOnTrigger (s₀.abstract cfg approvalId) := fun hroute => by
    rw [abstract, h.task] at hroute
    cases hroute
  obtain ⟨hwf, hrejected⟩ := exec_protocol (G := fun _ _ => True)
    (fun s _ _ _ hI _ _ hst => rejectedOnTrigger_protocolStep hI (s.mem.view_coherent _ _) hst)
    h.wellFormed hstart (Machine.guarded_of_forall _ (fun _ _ => trivial) _ _) hbefore
  -- from the trigger on
  have hphase : RejectionPhase (s.abstract cfg approvalId).view s.endpoints s.task := by
    rw [htriggered.1]
    exact ⟨htriggered.2, hrejected htriggered.1 htriggered.2⟩
  have hfinal := (exec_protocol (I := fun p => RejectionPhase p.view p.endpoints p.task)
    (fun s a t hwf hI hG _ hst => ?_) hwf hphase hguard hafter).2
  · intro status hdone
    have hphase : RejectionPhase (t.abstract cfg approvalId).view t.endpoints t.task := hfinal
    rw [hdone] at hphase
    obtain ⟨hstatus, -, f, hf, hrejected⟩ := hphase
    have hstored : t.mem.decision? approvalId = some f := hf
    exact ⟨by rw [hstored, Option.map_some, hrejected], hstatus⟩
  · obtain ⟨r, hr⟩ := hwf.record
    refine rejectionPhase_protocolStep hI (s.mem.view_coherent _ _) ?_ ?_ hst
    · show (s.mem.view approvalId pipelineContract).stored ≠ none ∧
        (s.mem.view approvalId pipelineContract).status ≠ none
      rw [Memory.view_of_store hr]
      simp
    · rintro input rfl
      exact hG

/-- The same rejection, with nobody deciding. -/
def rejectedByPolicy : List GatewayAction :=
  [.task (.resume 1), .task (.generatedId "cg_1" 1), .task (.riskGate ⟨.result .null, 2⟩),
    .task (.riskGate ⟨.result (.obj [("has_hard_violation", .bool true)]), 2⟩)]

theorem rejection_final_undecided :
    ∃ s t, (machine sampleConfig "cg_1" sampleManifest).exec sample rejectedByPolicy = some s ∧
      (machine sampleConfig "cg_1" sampleManifest).exec s auditAndFinish = some t ∧
      t.task = .finished .autoRejected ∧ t.RejectionStands "cg_1" := by
  have hbefore : (machine sampleConfig "cg_1" sampleManifest).exec sample rejectedByPolicy =
      some _ := rfl
  refine ⟨_, _, hbefore, rfl, rfl, rejection_final sample_started hbefore ⟨rfl, rfl⟩
    (?_ : (machine sampleConfig "cg_1" sampleManifest).Guarded _ _ auditAndFinish) rfl⟩
  iterate 3 refine Machine.guarded_cons _ rfl ⟨nofun, nofun, nofun⟩ ?_
  refine Machine.guarded_cons _ rfl ⟨nofun, fun _ f hf => Option.some.inj hf ▸ rfl, nofun⟩ ?_
  refine Machine.guarded_cons _ rfl ⟨nofun, nofun, nofun⟩ ?_
  exact Machine.guarded_cons _ rfl ⟨nofun, nofun, fun _ _ => rfl⟩ trivial

end Gateway
