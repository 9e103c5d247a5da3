import ContraGate.ContractWrites

/-!
# The decision fields agree with the approval state

`Agrees` says which decision goes with which approval state. `record_decision` writes the two
together, and wherever HUMAN_REVIEW and the store copy a decision they copy both. What separates
them are the two places in which HUMAN_REVIEW writes the state alone: the reset after a MODIFY, and
a timeout that meets a decision which the loop has not read. `decisions_agree` says that the fields
agree up to the first such step, and that each such step breaks them.
-/

/-- Which decision goes with which approval state. -/
structure DecisionFields.Agrees (f : DecisionFields) : Prop where
  undecided : f.approvalState = .pending ∨ f.approvalState = .timedOut ∨
    f.approvalState = .autoRejected → f.humanDecision = none
  approved : f.approvalState = .approved ↔ f.humanDecision = some "APPROVE"
  modified : f.approvalState = .modified ↔ f.humanDecision = some "MODIFY"
  rejected : f.approvalState = .rejected ↔
    f.humanDecision = some "REJECT" ∨ f.humanDecision = some "REQUEST_PREREQUISITE"

namespace DecisionFields.Agrees

variable {f : DecisionFields}

/-- Without a decision every state of the pipeline's own will do. -/
theorem of_none (hdecision : f.humanDecision = none)
    (hstate : f.approvalState = .pending ∨ f.approvalState = .timedOut ∨
      f.approvalState = .autoRejected) : f.Agrees := by
  constructor
  · exact fun _ => hdecision
  all_goals
    rw [hdecision]
    rcases hstate with h | h | h <;> simp [h]

/-- What an endpoint lets through. -/
theorem write {d : Decision} (hd : ["APPROVE", "REJECT", "MODIFY", "REQUEST_PREREQUISITE"].contains
    d.decision = true) (now : Time) (f : DecisionFields) : (d.write now f).Agrees := by
  have hcases : d.decision = "APPROVE" ∨ d.decision = "REJECT" ∨ d.decision = "MODIFY" ∨
      d.decision = "REQUEST_PREREQUISITE" := by simpa using hd
  obtain ⟨decision, reason, approverId, constraints⟩ := d
  rcases hcases with rfl | rfl | rfl | rfl <;>
    constructor <;> simp [Decision.write, Decision.state]

end DecisionFields.Agrees

/-- The caller of `record_decision` is one of the endpoints. -/
def GatewayAction.viaEndpoint : GatewayAction → Bool
  | .recordDecision _ _ => false
  | _ => true

/-- A decision that comes through an endpoint is one of the four. -/
theorem GatewayAction.known_of_decision? {a : GatewayAction} {d : Decision} {now : Time}
    (ha : a.viaEndpoint = true) (hd : a.decision? = some (d, now)) :
    ["APPROVE", "REJECT", "MODIFY", "REQUEST_PREREQUISITE"].contains d.decision = true := by
  cases a with
  | task input => cases hd
  | recordDecision d now => cases ha
  | postDecision d now =>
    simp only [GatewayAction.decision?, Option.ite_none_right_eq_some] at hd
    obtain ⟨hvalid, heq⟩ := hd
    obtain ⟨rfl, rfl⟩ := Prod.mk.inj (Option.some.inj heq)
    exact (Bool.and_eq_true_iff.mp hvalid).2
  | viewSubmission approve reason approverId now =>
    simp only [GatewayAction.decision?, Option.ite_none_right_eq_some] at hd
    obtain ⟨-, heq⟩ := hd
    obtain ⟨rfl, rfl⟩ := Prod.mk.inj (Option.some.inj heq)
    cases approve <;> simp [Gateway.viewDecision]
  | endpointStatus i now => cases hd

namespace Gateway

/-- HUMAN_REVIEW is about to write the approval state alone, over a decision. -/
def overwritesDecision (s : Gateway) : GatewayAction → Bool
  | .task (.review input) =>
    let contract := s.mem.contracts pipelineContract
    match s.task, input with
    | .humanReview _, .notified .otherError _ => false
    -- the re-entry after a MODIFY resets the state
    | .humanReview pc, .notified _ _ => pc.point = .notifying && contract.approvalState = .modified
    -- the deadline has passed, and a decision has come in since the last poll
    | .humanReview pc, .resume now =>
      pc.point = .waiting && pc.deadline ≤ now && contract.humanDecision.isSome
    | _, _ => false
  | _ => false

/-- The stored contract and the pipeline's own have matching decision fields. -/
def DecisionsAgree (approvalId : String) : Gateway → Prop :=
  Holds approvalId fun c => c.toDecisionFields.Agrees

/-! ## Up to the policy gate -/

/-- Until the policy is applied, nobody has the pipeline's contract to decide on it. -/
def BeforePolicy (v : View) : TaskAt → Prop
  | .statusRunning | .intake => v.aliased = false
  | .riskGate _ => v.aliased = false ∧ v.own.approvalState = .pending
  | _ => True

theorem beforePolicy_taskStep {v v' : TaskView} {t t' : TaskAt} {input : TaskInput}
    {events : List Event} (h : BeforePolicy v.toView t)
    (hstep : TaskStep v input t v' t' events) : BeforePolicy v'.toView t' := by
  cases hstep with
  | statusRunning | riskGate => exact h
  | intake linked => exact ⟨h, rfl⟩
  | review | reviewUnlinked =>
    unfold Graph.afterHumanReview
    split <;> trivial
  | _ => trivial

/-- A decision on another object leaves the pipeline's contract as it is. -/
theorem beforePolicy_decide {v : View} {t : TaskAt} (h : BeforePolicy v t) (hv : v.Coherent)
    (d : Decision) (now : Time) : BeforePolicy (v.decide d now).1 t := by
  cases t with
  | statusRunning => exact (v.decide_aliased d now).trans h
  | intake => exact (v.decide_aliased d now).trans h
  | riskGate pc =>
    obtain ⟨haliased, hpending⟩ := h
    refine ⟨(v.decide_aliased d now).trans haliased, ?_⟩
    rw [View.decide_own hv (fun h => by rw [haliased] at h; cases h)]
    exact hpending
  | _ => trivial

theorem beforePolicy_protocolStep {p q : Protocol} {a : GatewayAction}
    (h : BeforePolicy p.view.toView p.task) (hv : p.view.toView.Coherent)
    (hstep : ProtocolStep p a q) : BeforePolicy q.view.toView q.task := by
  cases hstep with
  | task htask => exact beforePolicy_taskStep h htask
  | decide d now | submit d now => exact beforePolicy_decide h hv d now
  | ignored => exact h
  | endpointStatus =>
    dsimp only
    cases hp : p.task <;> rw [hp] at h <;> exact h

/-! ## Every run -/

variable {cfg : PipelineConfig} {approvalId : String} {manifest : Py.Dict} {s t : Gateway}
  {a : GatewayAction} {actions : List GatewayAction}

/-- The policy gate rejects a contract that nobody has decided. -/
theorem agrees_policy {cost : Py.Float} {v : Py.Json} {now : Time} {c c' : HandoffContract}
    (hc : c.toDecisionFields.Agrees) (hpending : c.approvalState = .pending)
    (h : RiskGate.applyPolicyResult cost v now c = some c') : c'.toDecisionFields.Agrees := by
  rw [(RiskGate.applyPolicyResult_spec h).2]
  split
  · exact .of_none (hc.undecided (.inl hpending)) (.inr (.inr rfl))
  · exact hc

/-- Every write to a contract, unless it is one of the two. -/
theorem agrees_write {x : Ref} {c' : HandoffContract} (hagree : s.DecisionsAgree approvalId)
    (hphase : BeforePolicy (s.mem.view approvalId pipelineContract) s.task)
    (hend : a.viaEndpoint = true) (hkept : s.overwritesDecision a = false)
    (hx : x = pipelineContract ∨ a.decision?.isSome = true)
    (hc : (s.mem.contracts x).toDecisionFields.Agrees)
    (hw : ContractWrite cfg manifest (s.mem.contract? approvalId) s.task a (s.mem.contracts x) c') :
    c'.toDecisionFields.Agrees := by
  have hown (hnone : a.decision? = none) : x = pipelineContract :=
    hx.resolve_right (by simp [hnone])
  cases hw with
  | policy ht h =>
    obtain rfl := hown rfl
    rw [ht] at hphase
    exact agrees_policy hc hphase.2 h
  | noPolicy ht h =>
    obtain rfl := hown rfl
    rw [ht] at hphase
    exact agrees_policy hc hphase.2 h
  | @agent _ write _ _ _ => cases write <;> exact hc
  | @reenter pc r now _ ht hpoint hreply hstate =>
    obtain rfl := hown rfl
    cases r with
    | otherError => exact absurd rfl hreply
    | _ => simp [overwritesDecision, ht, hpoint, hstate] at hkept
  | merge _ _ hf => exact (hagree.stored _ hf :)
  | polled _ _ hf => exact (hagree.stored _ hf :)
  | @timeOut pc now _ ht hpoint hdeadline =>
    obtain rfl := hown rfl
    simp only [overwritesDecision, ht, hpoint, hdeadline, decide_true, Bool.true_and,
      Option.isSome_eq_false_iff, Option.isNone_iff_eq_none] at hkept
    exact .of_none hkept (.inr (.inl rfl))
  | update hf =>
    unfold WorkflowStore.merged
    split
    · exact (hagree.stored _ hf :)
    · exact hc
  | audited =>
    unfold Graph.finishAudit
    dsimp only
    split <;> exact hc
  | decide hd => exact .write (a.known_of_decision? hend hd) _ _
  | _ => exact hc

/-- One step keeps the fields in agreement, unless it is one of the two. -/
theorem agrees_step (hwf : WellFormed approvalId s) (hagree : s.DecisionsAgree approvalId)
    (hphase : BeforePolicy (s.mem.view approvalId pipelineContract) s.task)
    (hend : a.viaEndpoint = true) (hkept : s.overwritesDecision a = false)
    (hstep : (machine cfg approvalId manifest).step s a = some t) : t.DecisionsAgree approvalId := by
  refine hagree.step hwf (fun id now c hc => ?_)
    (fun x c' hx hc hw => agrees_write hagree hphase hend hkept hx hc hw) hstep
  rw [(Intake.runIntake_fresh hc).1]
  exact .of_none rfl (.inl rfl)

/-- The reset after a MODIFY. -/
theorem runTask_reset {m : Memory} {pc : ReviewPc} {r : TargetReply} {now : Time}
    {o : Resumed TaskAt} (hpoint : pc.point = .notifying) (hreply : r ≠ .otherError)
    (hstate : (m.contracts pipelineContract).approvalState = .modified)
    (h : Graph.runTask cfg approvalId manifest pipelineContract m (.humanReview pc)
      (.review (.notified r now)) = some o) :
    o.pc.built = true ∧ (o.mem.contracts pipelineContract).toDecisionFields =
      { (m.contracts pipelineContract).toDecisionFields with approvalState := .pending } := by
  have hrun : HumanReview.runHumanReview pipelineContract m pc (.notified r now) = some
      { mem := m.modifyContract pipelineContract fun c =>
          { c.addProvenance now "HUMAN_REVIEW" "approval_notification_sent" with
            approvalState := .pending }
        pc := { pc with point := .resetContract } } := by
    cases r with
    | otherError => exact absurd rfl hreply
    | _ => simp [HumanReview.runHumanReview, hpoint, hstate, HandoffContract.addProvenance]
  simp only [Graph.runTask, hrun, Option.map_some, Option.some.injEq] at h
  rw [← h]
  exact ⟨rfl, by simp [Graph.within]⟩

/-- The timeout. -/
theorem runTask_timeOut {m : Memory} {pc : ReviewPc} {now : Time} {o : Resumed TaskAt}
    (hpoint : pc.point = .waiting) (hdeadline : pc.deadline ≤ now)
    (h : Graph.runTask cfg approvalId manifest pipelineContract m (.humanReview pc)
      (.review (.resume now)) = some o) :
    o.pc.built = true ∧ o.mem.contracts pipelineContract =
      HumanReview.addReviewProvenance now
        (HumanReview.timeOut now (m.contracts pipelineContract)) := by
  have hrun : HumanReview.runHumanReview pipelineContract m pc (.resume now) = some
      { mem := m.modifyContract pipelineContract fun c =>
          HumanReview.addReviewProvenance now (HumanReview.timeOut now c)
        pc := { pc with point := .returned }
        events := [.timedOut] } := by
    simp [HumanReview.runHumanReview, hpoint, Int.not_lt.mpr hdeadline]
  simp only [Graph.runTask, hrun, Option.map_some, Option.some.injEq] at h
  rw [← h]
  exact ⟨rfl, by simp [Graph.within]⟩

/-- Each of the two writes leaves a decision with a state it does not belong to. -/
theorem not_agree_of_overwrites (hagree : s.DecisionsAgree approvalId)
    (hover : s.overwritesDecision a = true)
    (hstep : (machine cfg approvalId manifest).step s a = some t) :
    ¬ t.DecisionsAgree approvalId := by
  cases a with
  | task input =>
    cases input with
    | review input =>
      obtain ⟨o, ho, rfl⟩ := Option.map_eq_some_iff.mp (resumeTask_of_step hstep).1
      unfold overwritesDecision at hover
      dsimp only at hover
      split at hover
      · cases hover
      case h_2 pc r now hreply htask =>
        obtain ⟨hpoint, hstate⟩ : pc.point = .notifying ∧
            (s.mem.contracts pipelineContract).approvalState = .modified := by simpa using hover
        have hdecision := (hagree.pipeline (by rw [htask]; rfl)).modified.mp hstate
        rw [htask] at ho
        obtain ⟨hbuilt, hown⟩ := runTask_reset hpoint hreply hstate ho
        intro hafter
        have hnone := (hafter.pipeline hbuilt).undecided
        simp [hown, hdecision] at hnone
      case h_3 pc now htask =>
        obtain ⟨⟨hpoint, hdeadline⟩, hdecision⟩ : (pc.point = .waiting ∧ pc.deadline ≤ now) ∧
            (s.mem.contracts pipelineContract).humanDecision.isSome = true := by simpa using hover
        rw [htask] at ho
        obtain ⟨hbuilt, hown⟩ := runTask_timeOut hpoint hdeadline ho
        intro hafter
        have hnone := (hafter.pipeline hbuilt).undecided
        dsimp only at hnone
        rw [hown] at hnone
        have hnone := hnone (.inr (.inl rfl))
        have hkeeps : (s.mem.contracts pipelineContract).humanDecision = none := hnone
        rw [hkeeps] at hdecision
        cases hdecision
      · cases hover
    | _ => cases hover
  | _ => cases hover

/-- A workflow starts without a decision. -/
theorem Started.decisionsAgree (h : Started approvalId s) : s.DecisionsAgree approvalId where
  stored := by
    obtain ⟨r, hr, hcontract, -⟩ := h.record
    rw [Memory.contract?_of_store hr, hcontract]
    rintro c ⟨⟩
    rw [h.undecided]
    exact .of_none rfl (.inl rfl)
  pipeline hbuilt := by
    rw [h.task] at hbuilt
    cases hbuilt

/-- The record starts with a contract of its own. -/
theorem Started.beforePolicy (h : Started approvalId s) :
    BeforePolicy (s.mem.view approvalId pipelineContract) s.task := by
  obtain ⟨r, hr, hcontract, -⟩ := h.record
  rw [h.task, Memory.view_of_store hr, hcontract]
  rfl

/-- **The decision fields agree with the approval state**, in the stored contract and in the
pipeline's, after every run in which HUMAN_REVIEW never overwrites a decision; and the first step
that does breaks them. -/
theorem decisions_agree (h : Started approvalId s)
    (hend : ∀ a ∈ actions, a.viaEndpoint = true)
    (hkept : (machine cfg approvalId manifest).Guarded
      (fun s a => s.overwritesDecision a = false) s actions)
    (hrun : (machine cfg approvalId manifest).exec s actions = some t) :
    t.DecisionsAgree approvalId ∧
      ∀ a u, a.viaEndpoint = true → (machine cfg approvalId manifest).step t a = some u →
        (u.DecisionsAgree approvalId ↔ t.overwritesDecision a = false) := by
  have hguard := (machine cfg approvalId manifest).guarded_and
    ((machine cfg approvalId manifest).guarded_of_mem (fun a ha _ => hend a ha) s) hkept
  obtain ⟨hwf, hagree, hphase⟩ := (machine cfg approvalId manifest).exec_invariant
    (I := fun s => WellFormed approvalId s ∧ s.DecisionsAgree approvalId ∧
      BeforePolicy (s.mem.view approvalId pipelineContract) s.task)
    (fun s a t hs hG hstep => by
      obtain ⟨hwf, hagree, hphase⟩ := hs
      obtain ⟨hwf', hprotocol⟩ := machine_step hwf hstep
      exact ⟨hwf', agrees_step hwf hagree hphase hG.1 hG.2 hstep,
        beforePolicy_protocolStep hphase (s.mem.view_coherent _ _) hprotocol⟩)
    ⟨h.wellFormed, h.decisionsAgree, h.beforePolicy⟩ hguard hrun
  refine ⟨hagree, fun a u ha hstep => ⟨fun hu => ?_, fun hkeeps => ?_⟩⟩
  · by_contra hover
    exact not_agree_of_overwrites hagree (eq_true_of_ne_false hover) hstep hu
  · exact agrees_step hwf hagree hphase ha hkeeps hstep

/-- A first review, up to its loop. -/
def firstReview : List GatewayAction :=
  toReview ++
    [.task (.review (.notified (.result .null) 1)), .task (.review (.resume 1)),
      .task (.review (.resume 1)), .task (.review (.resume 1)), .task (.review (.resume 1))]

/-- An APPROVE that the next poll reads. -/
def approvedReview : List GatewayAction :=
  firstReview ++
    [.postDecision (sampleDecision "APPROVE") 2, .endpointStatus 0 2, .task (.review (.resume 3)),
      .task (.review (.resume 3)), .task (.review (.resume 3))]

theorem decisions_agree_approved :
    ∃ t, (machine sampleConfig "cg_1" sampleManifest).exec sample approvedReview = some t ∧
      (t.mem.contracts pipelineContract).approvalState = .approved ∧
      (t.DecisionsAgree "cg_1" ∧ ∀ a u, a.viaEndpoint = true →
        (machine sampleConfig "cg_1" sampleManifest).step t a = some u →
          (u.DecisionsAgree "cg_1" ↔ t.overwritesDecision a = false)) := by
  have hrun : (machine sampleConfig "cg_1" sampleManifest).exec sample approvedReview = some _ :=
    rfl
  exact ⟨_, hrun, rfl, decisions_agree sample_started (by decide)
    (Machine.guarded_of_guardedBy _ rfl) hrun⟩

/-- A MODIFY, and a second review that nobody answers. -/
def modifiedThenTimedOut : List GatewayAction :=
  firstReview ++
    [.postDecision (sampleDecision "MODIFY") 2, .endpointStatus 0 2, .task (.review (.resume 3)),
      .task (.review (.resume 3)), .task (.review (.resume 3)), .task (.resume 3),
      .task (.agentReturns 3), .task (.agentReturns 3), .task (.agentReturns 3),
      .task (.review (.notified (.result .null) 3)), .task (.review (.resume 3)),
      .task (.review (.resume 3)), .task (.review (.resume 2000)), .task (.resume 2000)]

/-- The audit finds a timeout with the decision MODIFY. -/
theorem modify_audited_as_timeout :
    ∃ t, (machine sampleConfig "cg_1" sampleManifest).exec sample modifiedThenTimedOut = some t ∧
      t.task = .audit .logging ∧
      (t.mem.contracts pipelineContract).approvalState = .timedOut ∧
      (t.mem.contracts pipelineContract).humanDecision = some "MODIFY" :=
  ⟨_, rfl, rfl, rfl, rfl⟩

theorem decisions_disagree :
    ¬ ∀ (actions : List GatewayAction) (t : Gateway),
      (∀ a ∈ actions, a.viaEndpoint = true) →
      (machine sampleConfig "cg_1" sampleManifest).exec sample actions = some t →
      t.DecisionsAgree "cg_1" := by
  intro hclaim
  obtain ⟨t, hrun, htask, hstate, hdecision⟩ := modify_audited_as_timeout
  have hagree := (hclaim _ t (by decide) hrun).pipeline (by rw [htask]; rfl)
  rw [hagree.undecided (.inr (.inl hstate))] at hdecision
  cases hdecision

end Gateway
