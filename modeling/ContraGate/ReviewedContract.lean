import ContraGate.AssembledContract
import ContraGate.ExecutionResults

/-!
# What is executed is what was shown

Whoever reviews an operation reads the contract from `GET /v1/approvals/{id}/contract`, and decides
later. Until the review begins, the store holds the contract of the intake, which nobody has
assembled. From then on it holds the one that the pipeline works on, and that one is pending only
while the review waits for a decision. So a response with an assembled and pending contract comes
from such a moment (`mayCall_of_shown`). What it says of the operation is what will be executed, unless a
MODIFY is accepted in between (`executes_as_shown`).
-/

namespace HandoffContract

theorem SameFindings.trans {c c' c'' : HandoffContract} (h : SameFindings c c')
    (h' : SameFindings c' c'') : SameFindings c c'' where
  identity := h'.identity.trans h.identity
  analyzer := h'.analyzer.trans h.analyzer
  contextSim := h'.contextSim.trans h.contextSim
  contractAgent := h'.contractAgent.trans h.contractAgent
  policy := h'.policy.trans h.policy

end HandoffContract

/-! ## When the stored contract is pending -/

/-- The review has put its contract into the store, and nobody has decided. -/
def ReviewAt.deciding : ReviewAt → Bool
  | resetContract | resetStatus | persistStatus | waiting | sleeping | pollGot _ => true
  | _ => false

/-- An earlier decision is about to be put into the store. -/
def ReviewAt.merging : ReviewAt → Bool
  | mergeContract _ => true
  | _ => false

/-- A stretch of the review leaves a stored contract pending only if it waits for a decision. -/
theorem ReviewStep.deciding {v w : View} {p q : ReviewAt} {events : List Event}
    (h : ReviewStep v p w q events) (hstored : v.stored ≠ none)
    (hpending : v.aliased = true → v.own.approvalState = .pending → p.deciding = true)
    (hmerging : p.merging = true → v.own.approvalState ≠ .pending) :
    (w.aliased = true → w.own.approvalState = .pending → q.deciding = true) ∧
      (q.merging = true → w.own.approvalState ≠ .pending) := by
  cases h with
  | failed | notified | firstGet | undecided | merged | mergeStatus =>
    refine ⟨fun haliased hown => ?_, fun h => by cases h⟩
    cases hpending haliased hown
  | reenter | resetContract | resetStatus | persistContract | persistStatus | sleep | pollGet
  | pollPending => exact ⟨fun _ _ => rfl, fun h => by cases h⟩
  | preRecorded hf hne => exact ⟨fun _ hown => absurd hown hne, fun _ => hne⟩
  | mergeContract =>
    refine ⟨fun _ hown => ?_, fun h => by cases h⟩
    obtain ⟨existing, hexisting⟩ := Option.ne_none_iff_exists'.mp hstored
    rw [View.updateContract_of_stored hexisting] at hown
    dsimp only at hown
    split at hown
    · rename_i hterminal
      rw [hown] at hterminal
      cases hterminal
    · exact absurd hown (hmerging rfl)
  | timeOut hf =>
    refine ⟨fun _ hown => ?_, fun h => by cases h⟩
    rw [View.write_own, hf] at hown
    cases hown
  | gone hnone => exact absurd hnone hstored
  | polled hf hne => exact ⟨fun _ hown => absurd hown hne, fun h => by cases h⟩

/-- What is known of the stored contract, at every point of the task. -/
structure Offered (v : TaskView) (t : TaskAt) : Prop where
  early : t.early = true → v.aliased = false
  linked : v.aliased = true → t.mayCall = true → v.linked = true
  pending : v.aliased = true → v.own.approvalState = .pending → t.mayCall = true →
    ∃ pc, t = .humanReview pc ∧ pc.point.deciding = true
  merging : v.linked = true → ∀ pc, t = .humanReview pc → pc.point.merging = true →
    v.own.approvalState ≠ .pending

namespace Offered

variable {v v' : TaskView} {t t' : TaskAt} {events : List Event} {input : TaskInput}

/-- The target is not called any more. -/
theorem of_done (hearly : t.early = false) (hdone : t.mayCall = false) : Offered v t where
  early h := by rw [hearly] at h; cases h
  linked _ h := by rw [hdone] at h; cases h
  pending _ _ h := by rw [hdone] at h; cases h
  merging := by
    rintro - pc rfl
    cases hdone

/-- The store holds another contract. -/
theorem of_unaliased (haliased : v.aliased = false)
    (hmerging : v.linked = true → ∀ pc, t ≠ .humanReview pc) : Offered v t where
  early _ := haliased
  linked h := by rw [haliased] at h; cases h
  pending h := by rw [haliased] at h; cases h
  merging hlinked pc heq := absurd heq (hmerging hlinked pc)

/-- The task goes on to a point that is not in the review. -/
theorem goto (h : Offered v t) (ht : ∀ pc, t ≠ .humanReview pc) (ht' : ∀ pc, t' ≠ .humanReview pc)
    (hearly : t'.early = false) (hmay : t'.mayCall = true → t.mayCall = true)
    (hown : v'.own.approvalState = .pending → v.own.approvalState = .pending)
    (haliased : v'.aliased = v.aliased) (hlinked : v'.linked = v.linked) : Offered v' t' where
  early h := by rw [hearly] at h; cases h
  linked halias hmay' := by
    rw [hlinked]
    exact h.linked (haliased ▸ halias) (hmay hmay')
  pending halias hpending hmay' := by
    obtain ⟨pc, rfl, -⟩ := h.pending (haliased ▸ halias) (hown hpending) (hmay hmay')
    exact absurd rfl (ht pc)
  merging _ pc hpc := absurd hpc (ht' pc)

/-- A stretch of the review. -/
theorem review {pc pc' : ReviewPc} {w : View} (h : Offered v (.humanReview pc))
    (hstored : v.stored ≠ none) (hlinked : v.linked = true)
    (hreview : ReviewStep v.toView pc.point w pc'.point events) :
    Offered { v with toView := w } (Graph.afterHumanReview pc') := by
  obtain ⟨hpending, hmerging⟩ := hreview.deciding hstored
    (fun haliased hown => by
      obtain ⟨_, heq, hdeciding⟩ := h.pending haliased hown rfl
      obtain rfl := TaskAt.humanReview.inj heq
      exact hdeciding)
    (h.merging hlinked pc rfl)
  constructor
  · intro hearly
    rw [StandingApproval.early_afterHumanReview] at hearly
    cases hearly
  · exact fun _ _ => hlinked
  · intro haliased hown _
    have hdeciding := hpending haliased hown
    refine ⟨pc', ?_, hdeciding⟩
    unfold Graph.afterHumanReview
    split
    · rename_i hreturned
      rw [hreturned] at hdeciding
      cases hdeciding
    · rename_i hraised
      rw [hraised] at hdeciding
      cases hdeciding
    · rfl
  · intro _ pc'' heq hmerge
    unfold Graph.afterHumanReview at heq
    split at heq
    · cases heq
    · cases heq
    · obtain rfl := TaskAt.humanReview.inj heq
      exact hmerging hmerge

/-- Every stretch of the task keeps it. -/
theorem taskStep (h : Offered v t) (hstored : v.stored ≠ none)
    (hstep : TaskStep v input t v' t' events) : Offered v' t' := by
  have hsame (ht : ∀ pc, t ≠ .humanReview pc) (ht' : ∀ pc, t' ≠ .humanReview pc)
      (hearly : t'.early = false) (hmay : t'.mayCall = true → t.mayCall = true)
      (hv : v' = v) : Offered v' t' :=
    h.goto ht ht' hearly hmay (fun hown => hv ▸ hown) (by rw [hv]) (by rw [hv])
  cases hstep with
  | statusRunning =>
    have hunaliased : v.aliased = false := h.early rfl
    exact of_unaliased hunaliased fun _ _ heq => by cases heq
  | intake linked =>
    have hunaliased : v.aliased = false := h.early rfl
    exact of_unaliased hunaliased fun _ _ heq => by cases heq
  | riskGateReturns triggered =>
    refine h.goto (fun _ heq => by cases heq) (fun _ heq => by cases heq) rfl (fun _ => rfl)
      (fun hown => ?_) rfl rfl
    dsimp only [View.write_own] at hown
    split at hown
    · cases hown
    · exact hown
  | agentsDone deadline =>
    constructor
    · intro hearly
      cases hearly
    · exact fun haliased _ => h.linked haliased rfl
    · intro haliased hown _
      obtain ⟨_, heq, -⟩ := h.pending haliased hown rfl
      cases heq
    · intro _ pc heq hmerging
      obtain rfl := TaskAt.humanReview.inj heq
      cases hmerging
  | review hlinked hreview => exact h.review hstored hlinked hreview
  | reviewUnlinked hunlinked hevents =>
    -- a stored contract of the pipeline has the id of the record
    have hunaliased : v.aliased = false := by
      cases haliased : v.aliased with
      | false => rfl
      | true => exact absurd (hunlinked.symm.trans (h.linked haliased rfl)) (by simp)
    refine of_unaliased hunaliased fun hlinked => ?_
    rw [hunlinked] at hlinked
    cases hlinked
  | executionStores hlinked =>
    exact h.goto (fun _ heq => by cases heq) (fun _ heq => by cases heq) rfl (fun hmay => by cases hmay)
      id rfl rfl
  | intakeRaises | riskGateRaises | autoReject | autoExecute | agentRaises | notApproved
  | executionGone | executionSkipped | executionAborted | executionSends | executionReplied
  | executionFailed | executionRaises | executionDone | auditRaises | auditLogged | audited
  | syncContract | mapStatus | syncStatus | failed => exact of_done rfl rfl
  | riskGate | fullPipeline | agent | approved | modified | executionGet =>
    exact hsame (fun _ heq => by cases heq) (fun _ heq => by cases heq) rfl (fun _ => rfl) rfl

/-- A decision keeps it: what has been decided is not pending. -/
theorem decide (h : Offered v t) (d : Decision) (now : Time) :
    Offered { v with toView := (v.toView.decide d now).1 } t := by
  by_cases hdecided : ∀ f, v.stored = some f → f.approvalState ≠ .pending
  · rw [View.decide_of_decided hdecided]
    exact h
  · push Not at hdecided
    obtain ⟨f, hf, hpending⟩ := hdecided
    have hnew : (d.write now f).approvalState ≠ .pending := Decision.state_ne_pending d.decision
    rw [View.decide_of_pending hf hpending]
    refine ⟨h.early, h.linked, fun haliased hown => ?_, fun hlinked pc hpc hmerging => ?_⟩
    · dsimp only at haliased hown
      rw [if_pos haliased] at hown
      exact absurd hown hnew
    · dsimp only
      split
      · exact hnew
      · exact h.merging hlinked pc hpc hmerging

/-- Every step of the protocol keeps it. -/
theorem protocolStep {p q : Protocol} {a : GatewayAction} (h : Offered p.view p.task)
    (hstored : p.view.stored ≠ none) (hstep : ProtocolStep p a q) : Offered q.view q.task := by
  cases hstep with
  | task htask => exact h.taskStep hstored htask
  | decide d now | submit d now => exact h.decide d now
  | ignored => exact h
  | endpointStatus => exact ⟨h.early, h.linked, h.pending, h.merging⟩

end Offered

namespace Gateway

variable {cfg : PipelineConfig} {approvalId : String} {manifest : Py.Dict} {s t u : Gateway}
  {a : GatewayAction}

theorem Started.offered (h : Started approvalId s) :
    Offered (s.abstract cfg approvalId).view s.task := by
  obtain ⟨r, hr, hcontract, -⟩ := h.record
  refine Offered.of_unaliased ?_ fun _ pc heq => ?_
  · show (s.mem.view approvalId pipelineContract).aliased = false
    rw [Memory.view_of_store hr, hcontract]
    rfl
  · rw [h.task] at heq
    cases heq

theorem offered_exec {actions : List GatewayAction} (cfg : PipelineConfig)
    (hstarted : Started approvalId s)
    (hrun : (machine cfg approvalId manifest).exec s actions = some t) :
    WellFormed approvalId t ∧ Offered (t.abstract cfg approvalId).view t.task :=
  exec_protocol (I := fun p => Offered p.view p.task) (G := fun _ _ => True)
    (fun _ _ _ hwf hI _ _ hstep => hI.protocolStep hwf.stored_ne_none hstep)
    hstarted.wellFormed hstarted.offered (Machine.guarded_of_forall _ (fun _ _ => trivial) _ _) hrun

end Gateway

/-! ## From the review to the target -/

/-- Nobody comes back to the call. -/
theorem ProtocolStep.mayCall_eq_false {p q : Protocol} {a : GatewayAction}
    (hstep : ProtocolStep p a q) (h : p.task.mayCall = false) : q.task.mayCall = false := by
  cases hstep with
  | task htask =>
    rcases htask.calls with ⟨-, hback⟩ | ⟨-, hcall, -⟩
    · exact Bool.eq_false_iff.mpr fun hmay => absurd (hback hmay) (by simp [h])
    · rw [h] at hcall
      cases hcall
  | _ => exact h

/-- A task that calls may call. -/
theorem ProtocolStep.mayCall_of_sent {p q : Protocol} {a : GatewayAction} {call : ToolCall}
    (hstep : ProtocolStep p a q) (hsent : q.log = .sent call :: p.log) : p.task.mayCall = true := by
  cases hstep with
  | @task _ _ _ events htask =>
    have hevents : events = [.sent call] := List.append_cancel_right hsent
    rcases htask.calls with ⟨hnone, -⟩ | ⟨-, hmay, -⟩
    · rw [hevents] at hnone
      cases hnone
    · exact hmay
  | decide | submit => simp at hsent
  | ignored | endpointStatus => exact absurd hsent (List.cons_ne_self _ _).symm

/-- No MODIFY is accepted. -/
def NoModify (events : List Event) : Prop :=
  ∀ d written, .decided d (some written) ∈ events → d.decision ≠ "MODIFY"

/-- The contract in the store is the pipeline's, behind the agents, and nobody wants it modified. -/
structure Reviewed (v : TaskView) (t : TaskAt) : Prop where
  reviewed : t.reviewed = true
  aliased : v.aliased = true
  linked : v.linked = true
  notModified : v.own.approvalState ≠ .modified

/-- A stretch of the review decides nothing by itself. -/
theorem ReviewStep.notModified {v w : View} {p q : ReviewAt} {events : List Event}
    (h : ReviewStep v p w q events) (hv : v.Coherent) (haliased : v.aliased = true)
    (hown : v.own.approvalState ≠ .modified) :
    w.aliased = true ∧ w.own.approvalState ≠ .modified := by
  have hstored {f : DecisionFields} (hf : v.stored = some f) : f.approvalState ≠ .modified :=
    hv.same haliased f hf ▸ hown
  have hupdate : v.updateContract.aliased = true ∧
      v.updateContract.own.approvalState ≠ .modified := by
    refine ⟨View.updateContract_aliased hv, ?_⟩
    cases hs : v.stored with
    | none => rwa [View.updateContract_of_none hs]
    | some existing =>
      rw [View.updateContract_of_stored hs]
      dsimp only
      split
      · exact hstored hs
      · exact hown
  cases h with
  | reenter hmodified => exact absurd hmodified hown
  | resetContract | mergeContract | persistContract => exact hupdate
  | preRecorded hf | polled hf => exact ⟨haliased, hstored hf⟩
  | timeOut hf =>
    refine ⟨haliased, ?_⟩
    rw [View.write_own, hf]
    simp
  | _ => exact ⟨haliased, hown⟩

namespace Reviewed

variable {v v' : TaskView} {t t' : TaskAt} {events : List Event} {input : TaskInput}

/-- Until the target is called the task goes on with the contract, or gives up. -/
theorem taskStep (h : Reviewed v t) (hv : v.toView.Coherent)
    (hstep : TaskStep v input t v' t' events) (hmay : t'.mayCall = true) : Reviewed v' t' := by
  obtain ⟨hreviewed, haliased, hlinked, hown⟩ := h
  cases hstep with
  | @review pc pc' w _ hlinked hreview =>
    obtain ⟨haliased', hown'⟩ := hreview.notModified hv haliased hown
    refine ⟨?_, haliased', hlinked, hown'⟩
    unfold Graph.afterHumanReview at hmay ⊢
    split at hmay
    · rfl
    · cases hmay
    · rfl
  | reviewUnlinked hunlinked => exact absurd (hunlinked.symm.trans hlinked) (by simp)
  | approved | executionGet => exact ⟨rfl, haliased, hlinked, hown⟩
  | modified hmodified => exact absurd hmodified hown
  | statusRunning | intake | intakeRaises | riskGate | riskGateReturns | riskGateRaises | autoReject
  | autoExecute | fullPipeline | agent | agentsDone | agentRaises => cases hreviewed
  | _ => cases hmay

/-- A decision is no MODIFY. -/
theorem decide (h : Reviewed v t) (d : Decision) (now : Time)
    (hmodify : NoModify [.decided d (v.toView.decide d now).2]) :
    Reviewed { v with toView := (v.toView.decide d now).1 } t := by
  by_cases hdecided : ∀ f, v.stored = some f → f.approvalState ≠ .pending
  · rw [View.decide_of_decided hdecided]
    exact h
  · push Not at hdecided
    obtain ⟨f, hf, hpending⟩ := hdecided
    rw [View.decide_of_pending hf hpending] at hmodify ⊢
    refine ⟨h.reviewed, h.aliased, h.linked, ?_⟩
    dsimp only
    rw [if_pos h.aliased, Decision.write_approvalState, ne_eq, Decision.state_eq_modified]
    exact hmodify d _ (List.mem_singleton_self _)

theorem protocolStep {p q : Protocol} {a : GatewayAction} (h : Reviewed p.view p.task)
    (hv : p.view.toView.Coherent) (hstep : ProtocolStep p a q) (hlog : q.log = events ++ p.log)
    (hmodify : NoModify events) (hmay : q.task.mayCall = true) : Reviewed q.view q.task := by
  cases hstep with
  | task htask => exact h.taskStep hv htask hmay
  | decide d now | submit d now =>
    have happend : [.decided d (p.view.decide d now).2] ++ p.log = events ++ p.log := hlog
    obtain rfl := List.append_cancel_right happend
    exact h.decide d now hmodify
  | ignored => exact h
  | endpointStatus => exact ⟨h.reviewed, h.aliased, h.linked, h.notModified⟩

end Reviewed

/-- A decision assembles nothing. -/
theorem ContractWrite.decided {cfg : PipelineConfig} {manifest : Py.Dict}
    {stored : Option HandoffContract} {t : TaskAt} {a : GatewayAction} {c c' : HandoffContract}
    (h : ContractWrite cfg manifest stored t a c c') (hdecides : a.decision?.isSome = true) :
    c'.contractAssembled = c.contractAssembled := by
  cases h with
  | decide => rfl
  | _ => cases hdecides

namespace Gateway

variable {cfg : PipelineConfig} {approvalId : String} {manifest : Py.Dict} {s t u : Gateway}
  {a : GatewayAction} {c : HandoffContract}

theorem exec_log {actions : List GatewayAction}
    (hrun : (machine cfg approvalId manifest).exec s actions = some t) :
    ∃ events, t.log = events ++ s.log := by
  refine Machine.exec_preserves _ (I := fun u => ∃ events, u.log = events ++ s.log) ?_ ⟨[], rfl⟩ hrun
  rintro u a v ⟨events, hu⟩ hstep
  obtain ⟨newer, hv⟩ := machine_log hstep
  exact ⟨newer ++ events, by rw [hv, hu, List.append_assoc]⟩

/-- A task that may still call could do so before. -/
theorem mayCall_of_exec {actions : List GatewayAction} (hwf : WellFormed approvalId s)
    (hrun : (machine cfg approvalId manifest).exec s actions = some t)
    (hmay : t.task.mayCall = true) : s.task.mayCall = true := by
  by_contra hdone
  have hstart : (s.abstract cfg approvalId).task.mayCall = false := Bool.eq_false_iff.mpr hdone
  have hlast := exec_protocol (I := fun p => p.task.mayCall = false) (G := fun _ _ => True)
    (fun _ _ _ _ hI _ _ hstep => hstep.mayCall_eq_false hI) hwf hstart
    (Machine.guarded_of_forall _ (fun _ _ => trivial) _ _) hrun
  exact absurd hmay (Bool.eq_false_iff.mp hlast.2)

/-- Until the target is called, the contract goes on saying the same. -/
theorem reviewed_exec {actions : List GatewayAction} {newer : List Event}
    (hwf : WellFormed approvalId u) (h : Reviewed (u.abstract cfg approvalId).view u.task)
    (hrun : (machine cfg approvalId manifest).exec u actions = some t)
    (hlog : t.log = newer ++ u.log) (hmodify : NoModify newer) (hmay : t.task.mayCall = true) :
    Reviewed (t.abstract cfg approvalId).view t.task ∧
      (u.mem.contracts pipelineContract).SameFindings (t.mem.contracts pipelineContract) := by
  induction actions generalizing u newer with
  | nil =>
    obtain rfl : u = t := by simpa using hrun
    exact ⟨h, .refl _⟩
  | cons a actions ih =>
    obtain ⟨v, hstep, hrest⟩ := Machine.exec_cons_eq_some _ |>.mp hrun
    obtain ⟨hwf', hprotocol⟩ := machine_step hwf hstep
    obtain ⟨events, hv⟩ := machine_log hstep
    obtain ⟨newer', ht⟩ := exec_log hrest
    obtain rfl : newer = newer' ++ events := by
      rw [ht, hv, ← List.append_assoc] at hlog
      exact (List.append_cancel_right hlog).symm
    have hmayv : v.task.mayCall = true := mayCall_of_exec hwf' hrest hmay
    have hreviewed := h.protocolStep (u.mem.view_coherent _ _) hprotocol hv
      (fun d written hd => hmodify d written (List.mem_append_right _ hd)) hmayv
    obtain ⟨hlast, hsame⟩ := ih hwf' hreviewed hrest ht
      (fun d written hd => hmodify d written (List.mem_append_left _ hd))
    exact ⟨hlast, (Pipeline.sameFindings_step hwf hstep h.reviewed).trans hsame⟩

/-! ## What the store shows -/

/-- The contract that a workflow is submitted with is not assembled. -/
theorem submitWorkflow_unassembled {m : Memory} {generatedId : String} {now : Time}
    (h : submitWorkflow cfg manifest m generatedId now = some s) :
    (s.mem.contracts initialContract).contractAssembled = false := by
  obtain ⟨c, hc, rfl⟩ := Option.map_eq_some_iff.mp h
  obtain ⟨_, _, _, _, _, _, _, _, _, _, _, rfl⟩ := Intake.runIntake_eq_some hc
  simp [WorkflowStore.create, HandoffContract.addProvenance]

/-- The record holds the contract of the intake, which nobody has assembled, or the pipeline's. -/
structure Shows (approvalId : String) (s : Gateway) : Prop where
  initial : (s.mem.contracts initialContract).contractAssembled = false
  contract : ∀ r, s.mem.store approvalId = some r →
    (s.mem.records r).contract = initialContract ∨ (s.mem.records r).contract = pipelineContract

theorem shows_step (hwf : WellFormed approvalId s) (h : s.Shows approvalId)
    (hstep : (machine cfg approvalId manifest).step s a = some t) : t.Shows approvalId := by
  obtain ⟨hcontracts, hrecords⟩ := machine_memory hwf hstep
  constructor
  · cases hcontracts with
    | same hsame => rw [hsame, h.initial]
    | intake ht ha hc hsame =>
      rw [hsame, Function.update_of_ne (by decide)]
      exact h.initial
    | write hx hw hsame =>
      rename_i x c'
      rw [hsame]
      by_cases hinitial : initialContract = x
      · subst hinitial
        rw [Function.update_self]
        exact (hw.decided (hx.resolve_left (by decide))).trans h.initial
      · rw [Function.update_of_ne hinitial]
        exact h.initial
  · intro r hr
    rw [machine_store hstep] at hr
    rcases (hrecords r).contract with hsame | ⟨hown, -⟩
    · rw [hsame]
      exact h.contract r hr
    · exact .inr hown

theorem shows_exec {actions : List GatewayAction} (hstarted : Started approvalId s)
    (hinitial : (s.mem.contracts initialContract).contractAssembled = false)
    (hrun : (machine cfg approvalId manifest).exec s actions = some t) : t.Shows approvalId := by
  have hstart : s.Shows approvalId := by
    refine ⟨hinitial, fun r hr => .inl ?_⟩
    obtain ⟨r', hr', hcontract, -⟩ := hstarted.record
    rw [hr'] at hr
    rwa [← Option.some.inj hr]
  have hlast := Machine.exec_preserves (machine cfg approvalId manifest)
    (I := fun s => WellFormed approvalId s ∧ s.Shows approvalId)
    (fun s a t hs hstep => ⟨(machine_step hs.1 hstep).1, shows_step hs.1 hs.2 hstep⟩)
    ⟨hstarted.wellFormed, hstart⟩ hrun
  exact hlast.2

/-- The store shows an assembled and pending contract only in the review, as long as the target may
still be called. -/
theorem reviewed_of_shown {actions : List GatewayAction} (hstarted : Started approvalId s)
    (hinitial : (s.mem.contracts initialContract).contractAssembled = false)
    (hrun : (machine cfg approvalId manifest).exec s actions = some u)
    (hshown : u.mem.contract? approvalId = some c) (hassembled : c.contractAssembled = true)
    (hpending : c.approvalState = .pending) (hmay : u.task.mayCall = true) :
    Reviewed (u.abstract cfg approvalId).view u.task ∧ u.mem.contracts pipelineContract = c := by
  obtain ⟨hwf, hoffered⟩ := offered_exec cfg hstarted hrun
  have hshows := shows_exec hstarted hinitial hrun
  obtain ⟨r, hr⟩ := hwf.record
  have hcontract : u.mem.contracts (u.mem.records r).contract = c := by
    rw [Memory.contract?_of_store hr] at hshown
    exact Option.some.inj hshown
  have hown : (u.mem.records r).contract = pipelineContract := by
    refine (hshows.contract r hr).resolve_left fun heq => ?_
    rw [← hcontract, heq, hshows.initial] at hassembled
    cases hassembled
  rw [hown] at hcontract
  have haliased : (u.abstract cfg approvalId).view.aliased = true := by
    show (u.mem.view approvalId pipelineContract).aliased = true
    rw [Memory.view_of_store hr, hown]
    rfl
  have hstate : (u.abstract cfg approvalId).view.own.approvalState = .pending := by
    show (u.mem.contracts pipelineContract).approvalState = .pending
    rw [hcontract, hpending]
  obtain ⟨pc, htask, -⟩ := hoffered.pending haliased hstate hmay
  refine ⟨⟨by rw [htask]; rfl, haliased, hoffered.linked haliased hmay, ?_⟩, hcontract⟩
  rw [hstate]
  simp

end Gateway

namespace Pipeline

open Gateway

variable {cfg : PipelineConfig} {agents : AgentSettings} {approvalId : String} {manifest : Py.Dict}
  {s t u v : Gateway} {before after : List PipelineAction}

/-- From the contract that the store shows to the call of the target. -/
theorem reviewed_to_call {a : PipelineAction} {call : ToolCall} {c : HandoffContract}
    {newer : List Event} (hstarted : Started approvalId s)
    (hinitial : (s.mem.contracts initialContract).contractAssembled = false)
    (hbefore : (machine cfg agents approvalId manifest).exec s before = some u)
    (hshown : u.mem.contract? approvalId = some c) (hassembled : c.contractAssembled = true)
    (hpending : c.approvalState = .pending)
    (hafter : (machine cfg agents approvalId manifest).exec u after = some t)
    (hlog : t.log = newer ++ u.log) (hmodify : NoModify newer)
    (hstep : (machine cfg agents approvalId manifest).step t a = some v)
    (hsent : v.log = .sent call :: t.log) :
    u.task.reviewed = true ∧ u.mem.contracts pipelineContract = c ∧
      c.SameFindings (t.mem.contracts pipelineContract) := by
  obtain ⟨actions, hrun, -⟩ := (refines cfg agents approvalId manifest).exec trivial hbefore
  obtain ⟨actions', hrun', -⟩ := (refines cfg agents approvalId manifest).exec trivial hafter
  have hwf := wellFormed_exec hstarted.wellFormed hbefore
  have hwf' := wellFormed_exec hwf hafter
  have hmay : t.task.mayCall = true := by
    rcases step_cases hstep with ⟨_, _, -, -, rfl⟩ | ⟨b, -, -, hb⟩
    · exact absurd hsent (List.cons_ne_self _ _).symm
    · exact (machine_step hwf' hb).2.mayCall_of_sent hsent
  obtain ⟨hreviewed, rfl⟩ := reviewed_of_shown hstarted hinitial hrun hshown hassembled hpending
    (mayCall_of_exec hwf hrun' hmay)
  exact ⟨hreviewed.reviewed, rfl, (reviewed_exec hwf hreviewed hrun' hlog hmodify hmay).2⟩

/-- **What is executed is what was shown.** In every run of the pipeline, whatever the servers and
the LLM reply and whatever is decided when: if the store has shown an assembled and pending contract
and no MODIFY is accepted from then on, a call to the target is made on a contract that says the
same of the operation, and the one that was shown carries the tier, the score, the rollback plan and
the document that the Contract Agent makes of the facts in it. -/
theorem executes_as_shown {a : PipelineAction} {call : ToolCall} {c : HandoffContract}
    {newer : List Event} (hstarted : Started approvalId s)
    (hinitial : (s.mem.contracts initialContract).contractAssembled = false)
    (hbefore : (machine cfg agents approvalId manifest).exec s before = some u)
    (hshown : u.mem.contract? approvalId = some c) (hassembled : c.contractAssembled = true)
    (hpending : c.approvalState = .pending)
    (hafter : (machine cfg agents approvalId manifest).exec u after = some t)
    (hlog : t.log = newer ++ u.log) (hmodify : NoModify newer)
    (hstep : (machine cfg agents approvalId manifest).step t a = some v)
    (hsent : v.log = .sent call :: t.log) :
    c.SameFindings (t.mem.contracts pipelineContract) ∧ c.Assembled agents.formats := by
  obtain ⟨hreviewed, rfl, hsame⟩ := reviewed_to_call hstarted hinitial hbefore hshown hassembled
    hpending hafter hlog hmodify hstep hsent
  exact ⟨hsame, assembled_exec hstarted hbefore hreviewed⟩

/-- The store shows an assembled and pending contract. -/
def showsPending (s : Gateway) : Bool :=
  (s.mem.contract? "cg_1").any fun c => c.contractAssembled && c.approvalState == .pending

/-- The event is no accepted MODIFY. -/
def isNoModify : Event → Bool
  | .decided d (some _) => d.decision != "MODIFY"
  | _ => true

theorem executes_as_shown_approved : ∃ u t v c call,
    (machine sampleConfig sampleAgents "cg_1" sampleManifest).exec sample (approved.take 13) =
        some u ∧
      u.mem.contract? "cg_1" = some c ∧
      (machine sampleConfig sampleAgents "cg_1" sampleManifest).exec u (approved.drop 13) = some t ∧
      (machine sampleConfig sampleAgents "cg_1" sampleManifest).step t
        (.other (.task (.execution (.resume 3)))) = some v ∧ v.log = .sent call :: t.log ∧
      c.SameFindings (t.mem.contracts pipelineContract) ∧ c.Assembled sampleAgents.formats := by
  have hruns : ((machine sampleConfig sampleAgents "cg_1" sampleManifest).exec sample
      (approved.take 13)).any (fun u => showsPending u &&
        ((machine sampleConfig sampleAgents "cg_1" sampleManifest).exec u (approved.drop 13)).any
          fun t => aboutToCall sampleConfig.toExecutionConfig t && t.log.all isNoModify) = true := by
    decide +kernel
  rw [Option.any_eq_true] at hruns
  obtain ⟨u, hbefore, hboth⟩ := hruns
  rw [Bool.and_eq_true, Option.any_eq_true] at hboth
  obtain ⟨hpending, t, hafter, hready⟩ := hboth
  rw [showsPending, Option.any_eq_true] at hpending
  obtain ⟨c, hshown, hc⟩ := hpending
  rw [Bool.and_eq_true, beq_iff_eq] at hc
  rw [Bool.and_eq_true, List.all_eq_true] at hready
  obtain ⟨v, call, hstep, hsent⟩ := step_aboutToCall hready.1 3
  obtain ⟨actions, hrun, -⟩ :=
    (refines sampleConfig sampleAgents "cg_1" sampleManifest).exec trivial hafter
  obtain ⟨newer, hlog⟩ := exec_log hrun
  have hmodify : NoModify newer := fun d written hd => by
    have hmem : .decided d (some written) ∈ t.log := hlog ▸ List.mem_append_left _ hd
    exact bne_iff_ne.mp (hready.2 _ hmem)
  exact ⟨u, t, v, c, call, hbefore, hshown, hafter, hstep, hsent,
    executes_as_shown sample_started rfl hbefore hshown hc.1 hc.2 hafter hlog hmodify hstep hsent⟩

end Pipeline
