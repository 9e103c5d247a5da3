import ContraGate.GatewayTheorems

/-!
# No execution without a standing approval

The decision travels from the stored contract to the pipeline's copy of it by polling, by
the early-decision branch, by aliasing and by `update_contract`. `Backed` relates the two
copies to the log: an approved stored contract has a standing approval, and an approved copy
belongs to an approved stored contract. Every stretch of the task keeps it, and so does
every decision.
-/

namespace Event

/-- The event takes an approval back: it is another accepted decision, or a timeout. -/
def Revokes : Event → Prop
  | decided _ (some _) | timedOut => True
  | _ => False

end Event

/-- An accepted APPROVE, with no accepted decision and no timeout after it. -/
def StandingApproval (log : List Event) : Prop :=
  ∃ newer d w older, log = newer ++ .decided d (some w) :: older ∧ d.decision = "APPROVE" ∧
    ∀ e ∈ newer, ¬ e.Revokes

/-- Every call to the target was made under a standing approval. -/
def CallsApproved (log : List Event) : Prop :=
  ∀ newer call older, log = newer ++ .sent call :: older → StandingApproval older

theorem standingApproval_append {log events : List Event} (h : StandingApproval log)
    (hevents : ∀ e ∈ events, ¬ e.Revokes) : StandingApproval (events ++ log) := by
  obtain ⟨newer, d, w, older, rfl, hd, hnewer⟩ := h
  refine ⟨events ++ newer, d, w, older, by simp, hd, fun e he => ?_⟩
  rcases List.mem_append.mp he with he | he
  · exact hevents e he
  · exact hnewer e he

theorem callsApproved_nil : CallsApproved [] := by
  intro newer call older h
  simp at h

/-- A call under a standing approval may be added. -/
theorem callsApproved_sent {log : List Event} (h : CallsApproved log) (hlog : StandingApproval log)
    (call : ToolCall) : CallsApproved (.sent call :: log) := by
  intro newer call' older heq
  rcases List.cons_eq_append_iff.mp heq with ⟨rfl, hcons⟩ | ⟨newer', rfl, hlog'⟩
  · cases hcons
    exact hlog
  · exact h newer' call' older hlog'

theorem standingApproval_cons {log : List Event} {e : Event} (h : StandingApproval log)
    (he : ¬ e.Revokes) : StandingApproval (e :: log) :=
  standingApproval_append h (List.forall_mem_singleton.mpr he)

/-- Events that are not calls may be added. -/
theorem callsApproved_append {log events : List Event} (h : CallsApproved log)
    (hevents : ∀ e ∈ events, e.isSent = false) : CallsApproved (events ++ log) := by
  induction events with
  | nil => exact h
  | cons e events ih =>
    intro newer call older heq
    rcases List.cons_eq_append_iff.mp heq with ⟨rfl, hcons⟩ | ⟨newer', rfl, hlog⟩
    · cases hcons
      exact absurd (hevents _ (List.mem_cons_self ..)) (by simp [Event.isSent])
    · exact ih (fun e' he' => hevents e' (List.mem_cons_of_mem _ he')) newer' call older hlog

/-- An approved stored contract has a standing approval. -/
def StoredBacked (v : View) (log : List Event) : Prop :=
  ∀ f, v.stored = some f → f.approvalState = .approved → StandingApproval log

/-- Both copies of the decision are backed by the log. -/
structure Backed (v : View) (log : List Event) : Prop where
  stored : StoredBacked v log
  own : v.own.approvalState = .approved →
    ∃ f, v.stored = some f ∧ f.approvalState = .approved

section View

variable {v : View} {log events : List Event}

theorem StoredBacked.append (h : StoredBacked v log) (hevents : ∀ e ∈ events, ¬ e.Revokes) :
    StoredBacked v (events ++ log) :=
  fun f hf happroved => standingApproval_append (h f hf happroved) hevents

theorem Backed.append (h : Backed v log) (hevents : ∀ e ∈ events, ¬ e.Revokes) :
    Backed v (events ++ log) :=
  ⟨h.stored.append hevents, h.own⟩

/-- An approved copy was approved. -/
theorem Backed.approved (h : Backed v log) (hown : v.own.approvalState = .approved) :
    StandingApproval log := by
  obtain ⟨f, hf, happroved⟩ := h.own hown
  exact h.stored f hf happroved

/-- The pipeline writes a state that is no approval. -/
theorem StoredBacked.write (h : StoredBacked v log) {f : DecisionFields}
    (hf : f.approvalState ≠ .approved) : StoredBacked (v.write f) log := by
  intro g hg happroved
  unfold View.write at hg
  dsimp only at hg
  split at hg
  · obtain ⟨-, -, rfl⟩ := Option.map_eq_some_iff.mp hg
    exact absurd happroved hf
  · exact h g hg happroved

theorem StoredBacked.backed_write (h : StoredBacked v log) {f : DecisionFields}
    (hf : f.approvalState ≠ .approved) : Backed (v.write f) log :=
  ⟨h.write hf, fun hown => absurd hown hf⟩

/-- The pipeline takes over the stored decision. -/
theorem Backed.write_stored (h : Backed v log) {f : DecisionFields} (hf : v.stored = some f) :
    Backed (v.write f) log := by
  have hstored : (v.write f).stored = some f := by simp [View.write, hf]
  refine ⟨fun g hg happroved => ?_, fun hown => ⟨f, hstored, hown⟩⟩
  rw [hstored, Option.some.injEq] at hg
  exact h.stored f hf (hg ▸ happroved)

/-- `update_contract` stores an approval only where there was one. -/
theorem Backed.updateContract (h : Backed v log) : Backed v.updateContract log := by
  cases hs : v.stored with
  | none => rwa [View.updateContract_of_none hs]
  | some existing =>
    rw [View.updateContract_of_stored hs]
    have hmerged : (if existing.approvalState.terminal then existing else v.own).approvalState =
        .approved → StandingApproval log := by
      split
      · exact h.stored existing hs
      · exact h.approved
    refine ⟨fun f hf happroved => ?_, fun hown => ⟨_, rfl, hown⟩⟩
    exact hmerged ((Option.some.inj hf).symm ▸ happroved)

/-- A timeout leaves no approval, in a stored contract that is the pipeline's own. -/
theorem backed_timeOut (haliased : v.aliased = true) {f : DecisionFields}
    (hf : f.approvalState = .timedOut) : Backed (v.write f) log := by
  refine ⟨fun g hg happroved => ?_, fun hown => ?_⟩
  · rw [View.write, haliased] at hg
    obtain ⟨-, -, rfl⟩ := Option.map_eq_some_iff.mp hg
    rw [hf] at happroved
    cases happroved
  · rw [View.write_own, hf] at hown
    cases hown

/-- An accepted decision is either the standing approval or no approval at all. -/
theorem standingApproval_decided (d : Decision) (now : Time) (f : DecisionFields)
    (happroved : (d.write now f).approvalState = .approved) :
    StandingApproval (.decided d (some (d.write now f)) :: log) := by
  rw [Decision.write_approvalState, Decision.state_eq_approved] at happroved
  exact ⟨[], d, _, log, rfl, happroved, List.forall_mem_nil _⟩

theorem StoredBacked.decide (h : StoredBacked v log) (d : Decision) (now : Time) :
    StoredBacked (v.decide d now).1 (.decided d (v.decide d now).2 :: log) := by
  by_cases hdecided : ∀ f, v.stored = some f → f.approvalState ≠ .pending
  · rw [View.decide_of_decided hdecided]
    exact fun f hf happroved => standingApproval_cons (h f hf happroved) id
  · push Not at hdecided
    obtain ⟨f, hf, hpending⟩ := hdecided
    rw [View.decide_of_pending hf hpending]
    intro g hg happroved
    obtain rfl := Option.some.inj hg
    exact standingApproval_decided d now f happroved

/-- A decision keeps both copies backed: it is accepted only while neither is approved. -/
theorem Backed.decide (h : Backed v log) (d : Decision) (now : Time) :
    Backed (v.decide d now).1 (.decided d (v.decide d now).2 :: log) := by
  refine ⟨h.stored.decide d now, ?_⟩
  by_cases hdecided : ∀ f, v.stored = some f → f.approvalState ≠ .pending
  · rw [View.decide_of_decided hdecided]
    exact h.own
  · push Not at hdecided
    obtain ⟨f, hf, hpending⟩ := hdecided
    rw [View.decide_of_pending hf hpending]
    intro hown
    refine ⟨_, rfl, ?_⟩
    dsimp only at hown
    split at hown
    · exact hown
    · obtain ⟨g, hg, happroved⟩ := h.own hown
      rw [hf, Option.some.injEq] at hg
      rw [← hg, hpending] at happroved
      cases happroved

end View

/-- The graph has not built its contract yet. -/
def TaskAt.early : TaskAt → Bool
  | statusRunning | intake => true
  | _ => false

/-- The review has put its own contract into the store. -/
def ReviewAt.installed : ReviewAt → Bool
  | resetStatus | persistStatus | waiting | sleeping | pollGot _ => true
  | _ => false

namespace StandingApproval

/-- What each point of the task knows about its own contract. -/
def Phase (v : View) : TaskAt → Prop
  | .humanReview pc => pc.point.installed = true → v.aliased = true
  | .execution _ => v.own.approvalState = .approved
  | _ => True

/-- The invariant: the calls so far were approved, and the decisions are backed. Before the
intake the pipeline's contract is no contract yet, one without a record is never executed,
and nothing is executed after the graph has ended. -/
structure Inv (v : TaskView) (t : TaskAt) (log : List Event) : Prop where
  calls : CallsApproved log
  stored : t.early = true → StoredBacked v.toView log
  backed : t.built = true → v.linked = true → Backed v.toView log ∧ Phase v.toView t

variable {v v' : TaskView} {t t' : TaskAt} {log events : List Event} {input : TaskInput}

/-- A stretch that leaves the contract backed, and calls nobody. -/
theorem Inv.of_backed (h : Inv v t log) (hearly : t'.early = false)
    (hevents : ∀ e ∈ events, e.isSent = false)
    (hbacked : t'.built = true → v'.linked = true →
      Backed v'.toView (events ++ log) ∧ Phase v'.toView t') :
    Inv v' t' (events ++ log) where
  calls := callsApproved_append h.calls hevents
  stored hcontra := by rw [hearly] at hcontra; cases hcontra
  backed := hbacked

/-- A stretch that changes nothing of the decision state, and calls nobody. -/
theorem Inv.goto (h : Inv v t log) (hbuilt : t.built = true) (hearly : t'.early = false)
    (hevents : ∀ e ∈ events, e.isSent = false ∧ ¬ e.Revokes)
    (hphase : Phase v.toView t → Phase v.toView t') : Inv v t' (events ++ log) := by
  refine h.of_backed hearly (fun e he => (hevents e he).1) fun _ hlinked => ?_
  obtain ⟨hbacked, hp⟩ := h.backed hbuilt hlinked
  exact ⟨hbacked.append fun e he => (hevents e he).2, hphase hp⟩

theorem early_afterHumanReview (pc : ReviewPc) : (Graph.afterHumanReview pc).early = false := by
  unfold Graph.afterHumanReview
  split <;> rfl

theorem phase_afterHumanReview {w : View} {pc : ReviewPc}
    (h : pc.point.installed = true → w.aliased = true) :
    Phase w (Graph.afterHumanReview pc) := by
  obtain ⟨deadline, point⟩ := pc
  cases point <;> first | exact h | trivial

/-- A review stretch keeps both copies backed. -/
theorem backed_reviewStep {v w : View} {p q : ReviewAt} (h : Backed v log) (hv : v.Coherent)
    (hphase : p.installed = true → v.aliased = true) (hstep : ReviewStep v p w q events) :
    Backed w (events ++ log) ∧ (q.installed = true → w.aliased = true) := by
  have hread : ∀ e ∈ [Event.storeRead], ¬ e.Revokes := by simp [Event.Revokes]
  cases hstep with
  | reenter hown => exact ⟨h.stored.backed_write (by simp), nofun⟩
  | resetContract | persistContract =>
    exact ⟨h.updateContract, fun _ => View.updateContract_aliased hv⟩
  | mergeContract => exact ⟨h.updateContract, nofun⟩
  | firstGet => exact ⟨h.append hread, nofun⟩
  | preRecorded hf => exact ⟨h.write_stored hf, nofun⟩
  | polled hf => exact ⟨h.write_stored hf, nofun⟩
  | timeOut hf => exact ⟨backed_timeOut (hphase rfl) hf, nofun⟩
  | pollGet => exact ⟨h.append hread, hphase⟩
  | failed | notified | undecided | merged | gone => exact ⟨h, nofun⟩
  | sleep | pollPending => exact ⟨h, hphase⟩
  | resetStatus | persistStatus => exact ⟨⟨h.stored, h.own⟩, fun _ => hphase rfl⟩
  | mergeStatus => exact ⟨⟨h.stored, h.own⟩, nofun⟩

/-- Every stretch of the task keeps the invariant. -/
theorem inv_taskStep (h : Inv v t log) (hv : v.toView.Coherent)
    (hstep : TaskStep v input t v' t' events) : Inv v' t' (events ++ log) := by
  have hnone : ∀ e ∈ ([] : List Event), e.isSent = false ∧ ¬ e.Revokes := by simp
  have hcalls : ∀ e ∈ ([] : List Event), e.isSent = false := by simp
  have hreplied (reply : TargetReply) :
      ∀ e ∈ [Event.replied reply], e.isSent = false ∧ ¬ e.Revokes := by
    simp [Event.isSent, Event.Revokes]
  cases hstep with
  | statusRunning => exact ⟨h.calls, fun _ => h.stored rfl, nofun⟩
  -- a new contract is pending, so nothing has to back it
  | intake linked =>
    refine h.of_backed rfl hcalls fun _ _ => ⟨?_, trivial⟩
    exact (h.stored rfl).backed_write (by simp)
  | intakeRaises => exact h.of_backed rfl hcalls nofun
  | riskGateReturns triggered =>
    refine h.of_backed rfl hcalls fun _ hlinked => ⟨?_, trivial⟩
    obtain ⟨hbacked, -⟩ := h.backed rfl hlinked
    split
    · exact hbacked.stored.backed_write (by simp)
    · rwa [View.write_self hv]
  | agentsDone => exact h.goto rfl rfl hnone fun _ => nofun
  | riskGate | riskGateRaises | autoReject | autoExecute | fullPipeline | agent | agentRaises
  | notApproved | modified | executionGone | executionSkipped | executionAborted | executionDone
  | auditRaises | auditLogged | audited | mapStatus =>
    exact h.goto rfl rfl hnone fun _ => trivial
  | review hlinked hreview =>
    refine h.of_backed (early_afterHumanReview _) (fun e he => ?_) fun _ _ => ?_
    · rcases hreview.events e he with rfl | rfl <;> rfl
    · obtain ⟨hbacked, hp⟩ := h.backed rfl hlinked
      obtain ⟨hbacked', hp'⟩ := backed_reviewStep hbacked hv hp hreview
      exact ⟨hbacked', phase_afterHumanReview hp'⟩
  | reviewUnlinked hunlinked hevents =>
    refine h.of_backed (early_afterHumanReview _) (fun e he => ?_) fun _ hlinked => ?_
    · rcases hevents e he with rfl | rfl <;> rfl
    · exact absurd (hunlinked.symm.trans hlinked) (by simp)
  | approved hown => exact h.goto rfl rfl hnone fun _ => hown
  | executionGet => exact h.goto rfl rfl hnone fun hp => hp
  -- the call is sent under the approval that the store still holds
  | executionSends hlinked _ call =>
    obtain ⟨hbacked, happroved⟩ := h.backed rfl hlinked
    have hstanding : StandingApproval log := hbacked.approved happroved
    refine ⟨callsApproved_sent h.calls hstanding call, nofun, fun _ _ => ⟨?_, happroved⟩⟩
    exact hbacked.append (List.forall_mem_singleton.mpr id)
  | executionReplied | executionFailed => exact h.goto rfl rfl (hreplied _) fun hp => hp
  | executionRaises => exact h.goto rfl rfl (hreplied _) fun _ => trivial
  | executionStores hlinked =>
    refine h.of_backed rfl hcalls fun _ _ => ?_
    exact h.backed rfl hlinked
  | syncContract =>
    refine h.of_backed rfl hcalls fun _ hlinked => ⟨?_, trivial⟩
    exact (h.backed rfl hlinked).1.updateContract
  | syncStatus | failed => exact h.of_backed rfl hcalls nofun

/-- A decision keeps what the task knows: an approved contract is not pending. -/
theorem phase_decide {v : View} (h : Backed v log) (hp : Phase v t) (d : Decision) (now : Time) :
    Phase (v.decide d now).1 t := by
  by_cases hdecided : ∀ f, v.stored = some f → f.approvalState ≠ .pending
  · rwa [View.decide_of_decided hdecided]
  -- an undecided contract, so the task is not past its approval
  · push Not at hdecided
    obtain ⟨f, hf, hpending⟩ := hdecided
    rw [View.decide_of_pending hf hpending]
    cases t with
    | execution pc =>
      obtain ⟨g, hg, happroved⟩ := h.own hp
      rw [hf, Option.some.injEq] at hg
      rw [← hg, hpending] at happroved
      cases happroved
    | _ => exact hp

/-- A decision keeps the invariant. -/
theorem Inv.decide (h : Inv v t log) (d : Decision) (now : Time) :
    Inv { v with toView := (v.toView.decide d now).1 } t
      (.decided d (v.toView.decide d now).2 :: log) where
  calls := callsApproved_append h.calls (List.forall_mem_singleton.mpr rfl)
  stored hearly := (h.stored hearly).decide d now
  backed hbuilt hlinked := by
    obtain ⟨hbacked, hp⟩ := h.backed hbuilt hlinked
    exact ⟨hbacked.decide d now, phase_decide hbacked hp d now⟩

/-- An endpoint's status keeps the invariant. -/
theorem Inv.updateStatus (h : Inv v t log) (status : WorkflowStatus) :
    Inv { v with toView := v.toView.updateStatus status } t log where
  calls := h.calls
  stored := h.stored
  backed hbuilt hlinked := by
    obtain ⟨⟨hstored, hown⟩, hp⟩ := h.backed hbuilt hlinked
    exact ⟨⟨hstored, hown⟩, by cases t <;> exact hp⟩

/-- Every step of the protocol keeps the invariant. -/
theorem inv_protocolStep {p q : Protocol} {a : GatewayAction} (h : Inv p.view p.task p.log)
    (hv : p.view.toView.Coherent) (hstep : ProtocolStep p a q) : Inv q.view q.task q.log := by
  cases hstep with
  | task htask => exact inv_taskStep h hv htask
  | decide d now | submit d now => exact h.decide d now
  | ignored => exact h
  | endpointStatus => exact h.updateStatus _

end StandingApproval

namespace Gateway

variable {cfg : PipelineConfig} {approvalId : String} {manifest : Py.Dict} {s t : Gateway}
  {actions : List GatewayAction}

/-- A workflow starts without a decision. -/
theorem Started.standingApproval (h : Started approvalId s) :
    StandingApproval.Inv (s.abstract cfg approvalId).view s.task s.log where
  calls := by rw [h.log]; exact callsApproved_nil
  stored _ := by
    obtain ⟨r, hr, hcontract, -⟩ := h.record
    intro f hf happroved
    have hstored : (s.mem.view approvalId pipelineContract).stored =
        some (s.mem.contracts initialContract).toDecisionFields := by
      rw [Memory.view_of_store hr, hcontract]
    obtain rfl := Option.some.inj (hstored.symm.trans hf)
    rw [h.undecided] at happroved
    cases happroved
  backed hbuilt := by simp [h.task, TaskAt.built] at hbuilt

/-- **No execution without a standing approval.** In every run of a workflow, whatever the
servers answer and whatever is decided when, each call to the target comes after an accepted
APPROVE, with no accepted decision and no timeout in between. -/
theorem sent_has_standing_approval (h : Started approvalId s)
    (hrun : (machine cfg approvalId manifest).exec s actions = some t) : CallsApproved t.log := by
  have hinv := exec_protocol (I := fun p => StandingApproval.Inv p.view p.task p.log)
    (G := fun _ _ => True)
    (fun s _ _ _ hI _ _ hstep => StandingApproval.inv_protocolStep hI (s.mem.view_coherent _ _) hstep)
    h.wellFormed h.standingApproval (Machine.guarded_of_forall _ (fun _ _ => trivial) _ _) hrun
  exact hinv.2.calls

/-- The APPROVE comes while the review is polling. -/
def approved : List GatewayAction :=
  toReview ++
    [.task (.review (.notified (.result .null) 1)), .task (.review (.resume 1)),
      .task (.review (.resume 1)), .task (.review (.resume 1)), .task (.review (.resume 1)),
      .postDecision (sampleDecision "APPROVE") 2, .endpointStatus 0 2,
      .task (.review (.resume 3)), .task (.review (.resume 3)), .task (.review (.resume 3)),
      .task (.resume 3), .task (.execution (.resume 3)), .task (.execution (.resume 3))]

theorem sent_has_standing_approval_polled :
    ∃ t, (machine sampleConfig "cg_1" sampleManifest).exec sample approved = some t ∧
      (∃ call older, t.log = .sent call :: older) ∧ CallsApproved t.log := by
  have hrun : (machine sampleConfig "cg_1" sampleManifest).exec sample approved = some _ := rfl
  exact ⟨_, hrun, ⟨_, _, rfl⟩, sent_has_standing_approval sample_started hrun⟩

end Gateway
