import ContraGate.CompletedExecuted
import ContraGate.ModifyRounds
import ContraGate.PipelineTheorems
import ContraGate.TaskLength

/-!
# The background task ends

A workflow waits for people and for servers, it polls, and a MODIFY sends it back to the analysis. A
MODIFY that is accepted is good for one more round, which `modifyAhead` sees in the two contracts,
wherever the decision is on its way. So the stretches of a whole run are bounded (`task_ends`), and
the task stops at its end only.
-/

/-! ## A MODIFY on its way -/

/-- The stored contract has been decided with a MODIFY. -/
def View.storedModified (v : View) : Bool := v.stored.any (·.approvalState = .modified)

/-- A MODIFY is on its way to the end of the review, in one of the two contracts. -/
def ReviewAt.modifyAhead (v : View) : ReviewAt → Bool
  | notifying => !v.aliased && v.storedModified
  | _ => v.storedModified || v.own.approvalState = .modified

/-- The task has a MODIFY before it that it has not gone back for. (A MODIFY that it has gone back
for stays in its own contract, until the review that follows is entered.) -/
def TaskAt.modifyAhead (v : View) : TaskAt → Bool
  | statusRunning | intake | riskGate _ | routeRiskGate | agent _ => !v.aliased && v.storedModified
  | humanReview pc => pc.point.modifyAhead v
  | routeHumanReview => v.storedModified || v.own.approvalState = .modified
  | _ => false

/-- The pipeline's contract has an id without a record, and no MODIFY gets into it. -/
def View.Foreign (v : View) : Prop := v.aliased = false ∧ v.own.approvalState ≠ .modified

/-- What each point of the task knows about a MODIFY in its contract. -/
def TaskAt.ModifyKnown (v : TaskView) : TaskAt → Prop
  | statusRunning | intake => v.aliased = false
  | riskGate _ | routeRiskGate | agent _ => v.linked = false → v.Foreign
  | humanReview pc => (v.linked = false → v.Foreign) ∧
      (v.linked = true → Completed.ReviewPhase v.toView pc.point)
  | routeHumanReview => (v.linked = false → v.Foreign) ∧
      (v.own.approvalState = .modified → v.aliased = true)
  | _ => True

section Ahead

variable {v w : View} {p q : ReviewAt} {events : List Event}

theorem View.Coherent.own_of_storedModified (hv : v.Coherent) (haliased : v.aliased = true)
    (h : v.storedModified = true) : v.own.approvalState = .modified := by
  obtain ⟨f, hf, hmodified⟩ := Option.any_eq_true _ _ |>.mp h
  rw [hv.same haliased f hf]
  exact of_decide_eq_true hmodified

/-- A MODIFY in the store alone is not written by the pipeline. -/
theorem View.storedModified_of_write {f : DecisionFields}
    (h : (!v.aliased && (v.write f).storedModified) = true) :
    (!v.aliased && v.storedModified) = true := by
  cases haliased : v.aliased <;> simp_all [storedModified, write]

/-- What is no MODIFY is not written over one. -/
theorem View.of_write_of_ne {f : DecisionFields} (hf : f.approvalState ≠ .modified)
    (h : ((v.write f).storedModified || f.approvalState = .modified) = true) :
    v.aliased = false ∧ v.storedModified = true := by
  cases haliased : v.aliased <;> cases hs : v.stored <;>
    simp_all [storedModified, write]

/-- `update_contract` brings a MODIFY from the one contract to the other. -/
theorem View.modified_of_updateContract
    (h : (v.updateContract.storedModified || v.updateContract.own.approvalState = .modified) =
      true) : (v.storedModified || v.own.approvalState = .modified) = true := by
  cases hs : v.stored with
  | none => rwa [updateContract_of_none hs] at h
  | some existing =>
    rw [updateContract_of_stored hs] at h
    by_cases hterm : existing.approvalState.terminal = true
    -- a decision that is kept is no MODIFY
    · simp only [storedModified, if_pos hterm, Option.any_some, Bool.or_self,
        decide_eq_true_eq] at h
      rw [h] at hterm
      cases hterm
    · simp only [storedModified, if_neg hterm, Option.any_some, Bool.or_self,
        decide_eq_true_eq] at h
      simp [h]

/-- A stretch of the review takes a MODIFY along, and reads none that is not there. -/
theorem ReviewStep.modifyAhead (h : ReviewStep v p w q events) (hv : v.Coherent)
    (hne : q ≠ .raised) (hq : q.modifyAhead w = true) : p.modifyAhead v = true := by
  have hcopy {f : DecisionFields} (hf : v.stored = some f)
      (h : ((v.write f).storedModified || f.approvalState = .modified) = true) :
      (v.storedModified || v.own.approvalState = .modified) = true := by
    cases haliased : v.aliased <;> simp_all [View.storedModified, View.write]
  cases h with
  | failed => exact absurd rfl hne
  -- on the first entry there can be one in the store alone
  | notified hown =>
    have hstored : v.storedModified = true := by simpa [ReviewAt.modifyAhead, hown] using hq
    have haliased : v.aliased = false := by
      by_contra haliased
      exact hown (hv.own_of_storedModified (by simpa using haliased) hstored)
    simp [ReviewAt.modifyAhead, hstored, haliased]
  -- on a later one it is the MODIFY that the task has gone back for
  | reenter =>
    obtain ⟨haliased, hstored⟩ := View.of_write_of_ne (by simp) hq
    simp [ReviewAt.modifyAhead, haliased, hstored]
  | resetContract | mergeContract | persistContract => exact View.modified_of_updateContract hq
  | preRecorded hf | polled hf => exact hcopy hf hq
  | timeOut hf =>
    obtain ⟨-, hstored⟩ := View.of_write_of_ne (by rw [hf]; simp) hq
    simp [ReviewAt.modifyAhead, hstored]
  | _ => exact hq

/-- Without a record the review reads no MODIFY. -/
theorem ReviewStep.own_of_no_record (h : ReviewStep v p w q events) (hnone : v.stored = none)
    (hmodified : w.own.approvalState = .modified) : v.own.approvalState = .modified := by
  cases h with
  | reenter => cases hmodified
  | resetContract | mergeContract | persistContract =>
    rwa [View.updateContract_of_none hnone] at hmodified
  | preRecorded hf | polled hf => rw [hnone] at hf; cases hf
  | timeOut hf =>
    rw [View.write_own, hf] at hmodified
    cases hmodified
  | _ => exact hmodified

theorem TaskAt.modifyAhead_afterHumanReview {pc : ReviewPc}
    (h : (Graph.afterHumanReview pc).modifyAhead v = true) :
    pc.point ≠ .raised ∧ pc.point.modifyAhead v = true := by
  obtain ⟨deadline, point⟩ := pc
  cases point with
  | raised => cases h
  | _ => exact ⟨by simp, h⟩

/-- Where the pipeline's contract is not the stored one, a MODIFY is in the store. -/
theorem View.Foreign.modifyAhead (h : v.Foreign) : p.modifyAhead v = v.storedModified := by
  cases p <;> simp [ReviewAt.modifyAhead, h.1, h.2]

theorem View.Foreign.write (h : v.Foreign) {f : DecisionFields}
    (hf : f.approvalState ≠ .modified) : (v.write f).Foreign := ⟨h.1, hf⟩

theorem View.Foreign.storedModified_write (h : v.Foreign) (f : DecisionFields) :
    (v.write f).storedModified = v.storedModified := by
  simp [View.storedModified, View.write, h.1]

end Ahead

section Known

variable {v v' : TaskView} {t t' : TaskAt} {input : TaskInput} {events : List Event}

/-- The review of a contract without a record gets no MODIFY. -/
def Unread (v : TaskView) (t : TaskAt) (v' : TaskView) : Prop :=
  ∀ pc, t = .humanReview pc → v.linked = false → v'.own.approvalState = .modified →
    v.own.approvalState = .modified

/-- **A stretch of the task takes a MODIFY along**, and has none before it that is not there. -/
theorem TaskStep.modifyAhead (h : TaskStep v input t v' t' events) (hv : v.toView.Coherent)
    (hknown : t.ModifyKnown v) (hunread : Unread v t v')
    (hahead : t'.modifyAhead v'.toView = true) : t.modifyAhead v.toView = true := by
  cases h with
  | intake | riskGateReturns => exact View.storedModified_of_write hahead
  | review hlinked hreview =>
    obtain ⟨hne, hpoint⟩ := TaskAt.modifyAhead_afterHumanReview hahead
    exact hreview.modifyAhead hv hne hpoint
  | @reviewUnlinked pc pc' f _ hlinked =>
    have hforeign := hknown.1 hlinked
    have hown : f.approvalState ≠ .modified := fun hf => hforeign.2 (hunread pc rfl hlinked hf)
    obtain ⟨-, hpoint⟩ := TaskAt.modifyAhead_afterHumanReview hahead
    rw [(hforeign.write hown).modifyAhead, hforeign.storedModified_write] at hpoint
    exact hforeign.modifyAhead.trans hpoint
  | modified hmodified => simp [TaskAt.modifyAhead, hmodified]
  | intakeRaises | riskGateRaises | autoReject | autoExecute | agentRaises | approved | notApproved
  | executionGet | executionGone | executionSkipped | executionAborted | executionSends
  | executionReplied | executionFailed | executionRaises | executionStores | executionDone
  | auditRaises | auditLogged | audited | syncContract | mapStatus | syncStatus | failed =>
    cases hahead
  | _ => exact hahead

/-- A stretch of the task keeps what it knows. -/
theorem TaskStep.modifyKnown (h : TaskStep v input t v' t' events) (hv : v.toView.Coherent)
    (hrecord : v.stored ≠ none) (hknown : t.ModifyKnown v) (hunread : Unread v t v') :
    t'.ModifyKnown v' := by
  cases h with
  | statusRunning => exact hknown
  | intake => exact fun _ => ⟨hknown, by simp⟩
  | riskGateReturns triggered =>
    intro hlinked
    have hforeign := hknown hlinked
    refine hforeign.write ?_
    split
    · simp
    · exact hforeign.2
  | agentsDone => exact ⟨hknown, fun _ => trivial⟩
  | @review pc pc' w _ hlinked hreview =>
    have hphase := Completed.reviewPhase_step (hknown.2 hlinked) hv hrecord hreview
    have hforeign : v.linked = false → w.Foreign := fun hunlinked => by simp [hlinked] at hunlinked
    obtain ⟨deadline, point⟩ := pc'
    cases point with
    | returned => exact ⟨hforeign, fun _ => hphase.1⟩
    | raised => trivial
    | _ => exact ⟨hforeign, fun _ => hphase⟩
  | @reviewUnlinked pc pc' f _ hlinked =>
    have hforeign := hknown.1 hlinked
    have hown : f.approvalState ≠ .modified := fun hf => hforeign.2 (hunread pc rfl hlinked hf)
    have hforeign' := hforeign.write hown
    obtain ⟨deadline, point⟩ := pc'
    cases point with
    | returned => exact ⟨fun _ => hforeign', fun hmodified => absurd hmodified hown⟩
    | raised => trivial
    | _ => exact ⟨fun _ => hforeign', fun hlinked' => by simp [hlinked] at hlinked'⟩
  | modified => exact hknown.1
  | riskGate | fullPipeline | agent => exact hknown
  | _ => trivial

/-- A decision brings a MODIFY, if it is accepted and is one. -/
theorem TaskAt.modifyAhead_decide {v : View} (d : Decision) (now : Time)
    (h : t.modifyAhead (v.decide d now).1 = true) :
    t.modifyAhead v = true ∨ (v.decide d now).2.isSome = true ∧ d.decision = "MODIFY" := by
  by_cases hdecided : ∀ f, v.stored = some f → f.approvalState ≠ .pending
  · rw [View.decide_of_decided hdecided] at h
    exact .inl h
  push Not at hdecided
  obtain ⟨f, hf, hpending⟩ := hdecided
  rw [View.decide_of_pending hf hpending] at h ⊢
  by_cases hmodify : d.decision = "MODIFY"
  · exact .inr ⟨rfl, hmodify⟩
  -- any other decision takes the place of the one that is there
  have hstate : Decision.state d.decision ≠ .modified := Decision.state_eq_modified.not.mpr hmodify
  refine .inl ?_
  cases t with
  | humanReview pc =>
    obtain ⟨deadline, point⟩ := pc
    cases point <;> cases haliased : v.aliased <;>
      simp_all [modifyAhead, ReviewAt.modifyAhead, View.storedModified]
  | _ => cases haliased : v.aliased <;> simp_all [modifyAhead, View.storedModified]

/-- A decision keeps what the task knows. -/
theorem TaskAt.ModifyKnown.decide (h : t.ModifyKnown v) (hv : v.toView.Coherent) (d : Decision)
    (now : Time) : t.ModifyKnown { v with toView := (v.toView.decide d now).1 } := by
  have haliased := v.toView.decide_aliased d now
  have hown (hfalse : v.aliased = false) : (v.toView.decide d now).1.own = v.own :=
    View.decide_own hv (fun htrue => by simp [hfalse] at htrue) d now
  have hforeign (h : v.linked = false → v.Foreign) (hlinked : v.linked = false) :
      (v.toView.decide d now).1.Foreign :=
    ⟨haliased.trans (h hlinked).1, by rw [hown (h hlinked).1]; exact (h hlinked).2⟩
  cases t with
  | statusRunning | intake => exact haliased.trans h
  | riskGate | routeRiskGate | agent => exact hforeign h
  | humanReview pc =>
    exact ⟨hforeign h.1, fun hlinked => Completed.reviewPhase_decide (h.2 hlinked) hv d now⟩
  | routeHumanReview =>
    refine ⟨hforeign h.1, fun hmodified => haliased.trans ?_⟩
    by_contra hfalse
    rw [Bool.not_eq_true] at hfalse
    dsimp only at hmodified
    rw [hown hfalse] at hmodified
    exact absurd (h.2 hmodified) (by simp [hfalse])
  | _ => trivial

/-- An endpoint's status keeps what the task knows. -/
theorem TaskAt.ModifyKnown.updateStatus (h : t.ModifyKnown v) (status : WorkflowStatus) :
    t.ModifyKnown { v with toView := v.toView.updateStatus status } := by
  cases t with
  | humanReview pc =>
    obtain ⟨deadline, point⟩ := pc
    exact ⟨h.1, fun hlinked => by cases point <;> exact h.2 hlinked⟩
  | _ => exact h

theorem TaskAt.modifyAhead_updateStatus (v : View) (status : WorkflowStatus) :
    t.modifyAhead (v.updateStatus status) = t.modifyAhead v := by
  cases t with
  | humanReview pc =>
    obtain ⟨deadline, point⟩ := pc
    cases point <;> rfl
  | _ => rfl

end Known

/-! ## Runs -/

/-- What an agent does leaves the decision, the identity and the policy result alone. -/
theorem AgentCall.run_kept (agents : AgentSettings) (now : Time) (c : HandoffContract)
    (call : AgentCall) :
    (call.run agents now c).1.toDecisionFields = c.toDecisionFields ∧
      (call.run agents now c).1.toIdentity = c.toIdentity ∧
      (call.run agents now c).1.toPolicyGateOutputs = c.toPolicyGateOutputs := by
  obtain ⟨writes, -, hfold⟩ := call.run_writes agents now c
  rw [← hfold]
  clear hfold
  induction writes generalizing c with
  | nil => exact ⟨rfl, rfl, rfl⟩
  | cons write writes ih =>
    obtain ⟨hdecision, hidentity, hpolicy⟩ := ih (write.apply c)
    rw [List.foldl_cons, hdecision, hidentity, hpolicy]
    cases write <;> exact ⟨rfl, rfl, rfl⟩

namespace Gateway

theorem modifyCount_decided (d : Decision) (w : Option DecisionFields) (log : List Event) :
    modifyCount (.decided d w :: log) =
      modifyCount log + if w.isSome ∧ d.decision = "MODIFY" then 1 else 0 := by
  unfold modifyCount
  rw [List.countP_cons]
  cases w <;> simp

end Gateway

/-- What happens beside the task changes nothing before it, or is an accepted MODIFY. -/
theorem ProtocolStep.modifyPaid {p q : Protocol} {a : GatewayAction} (h : ProtocolStep p a q)
    (hv : p.view.toView.Coherent) (hknown : p.task.ModifyKnown p.view)
    (hbeside : ∀ input, a ≠ .task input) :
    q.task = p.task ∧ p.task.ModifyKnown q.view ∧
      (p.task.modifyAhead q.view.toView).toNat + Gateway.modifyCount p.log ≤
        (p.task.modifyAhead p.view.toView).toNat + Gateway.modifyCount q.log := by
  have hdecide (d : Decision) (now : Time) :
      (p.task.modifyAhead (p.view.toView.decide d now).1).toNat + Gateway.modifyCount p.log ≤
        (p.task.modifyAhead p.view.toView).toNat +
          Gateway.modifyCount (.decided d (p.view.toView.decide d now).2 :: p.log) := by
    rw [Gateway.modifyCount_decided]
    cases hahead : p.task.modifyAhead (p.view.toView.decide d now).1 with
    | false =>
      rw [Bool.toNat_false]
      omega
    | true =>
      rcases TaskAt.modifyAhead_decide d now hahead with hbefore | haccepted
      · rw [hbefore]
        omega
      · rw [if_pos haccepted, Bool.toNat_true]
        omega
  cases h with
  | task => exact absurd rfl (hbeside _)
  | decide d now | submit d now => exact ⟨rfl, hknown.decide hv d now, hdecide d now⟩
  | ignored => exact ⟨rfl, hknown, le_rfl⟩
  | endpointStatus =>
    refine ⟨rfl, hknown.updateStatus _, ?_⟩
    dsimp only
    rw [TaskAt.modifyAhead_updateStatus]

namespace Gateway

variable {cfg : PipelineConfig} {approvalId : String} {manifest : Py.Dict} {s t : Gateway}

/-- The task itself accepts no decision. -/
theorem modifyCount_taskStep {v v' : TaskView} {input : TaskInput} {p q : TaskAt}
    {events : List Event} (h : TaskStep v input p v' q events) (log : List Event) :
    modifyCount (events ++ log) = modifyCount log := by
  have hreview (h : ∀ e ∈ events, e = .storeRead ∨ e = .timedOut) :
      modifyCount (events ++ log) = modifyCount log := by
    unfold modifyCount
    rw [List.countP_append, Nat.add_eq_right, List.countP_eq_zero]
    intro e he
    rcases h e he with rfl | rfl <;> simp
  cases h with
  | review _ hstep => exact hreview hstep.events
  | reviewUnlinked _ hevents => exact hreview hevents
  | _ => rfl

/-- The review reads no MODIFY where the contract has no record. -/
theorem unread_runTask {input : TaskInput} {o : Resumed TaskAt} (hwf : WellFormed approvalId s)
    (h : Graph.runTask cfg approvalId manifest pipelineContract s.mem s.task input = some o) :
    Unread (s.mem.taskView cfg.toExecutionConfig approvalId pipelineContract) s.task
      (o.mem.taskView cfg.toExecutionConfig approvalId pipelineContract) := by
  intro pc htask hlinked
  have hlink := hwf.link
  have hfresh := hwf.fresh
  rw [htask] at h hlink hfresh
  have hid : (s.mem.contracts pipelineContract).operationId ≠ approvalId := of_decide_eq_false hlinked
  have hnone := (hlink rfl).resolve_left hid
  cases input with
  | review input =>
    obtain ⟨o', ho', rfl⟩ := Option.map_eq_some_iff.mp h
    obtain ⟨hstep, -⟩ := HumanReview.runHumanReview_step rfl hfresh ho'
    exact hstep.own_of_no_record (by rw [Memory.view_of_none hnone])
  | _ => simp [Graph.runTask] at h

/-- A stretch that the task can make, as a step of the workflow. -/
theorem step_of_runTask {input : TaskInput} {o : Resumed TaskAt} {id : String} {now : Time}
    (hid : s.FreshId cfg approvalId manifest id now)
    (hfresh : ∀ id' now', input = .generatedId id' now' → id' = id ∧ now' = now)
    (ho : Graph.runTask cfg approvalId manifest pipelineContract s.mem s.task input = some o) :
    (machine cfg approvalId manifest).step s (.task input) =
      some { s with mem := o.mem, task := o.pc, log := o.events ++ s.log } := by
  have hresume : s.resumeTask cfg approvalId manifest input = some _ :=
    Option.map_eq_some_iff.mpr ⟨o, ho, rfl⟩
  cases input with
  | generatedId id' now' =>
    obtain ⟨rfl, rfl⟩ := hfresh id' now' rfl
    exact (if_pos hid).trans hresume
  | _ => exact hresume

/-- What one more round costs: the stretches from the analysis to the edge `modified`. -/
def roundStretches (cfg : PipelineConfig) : ℕ := 11 + 3 * cfg.polls

/-- The stretches that the task has before it, with the round that it has to go back for. -/
def stretchesAhead (cfg : PipelineConfig) (approvalId : String) (s : Gateway × Time) : ℕ :=
  s.1.task.left cfg s.2 + roundStretches cfg *
    (s.1.task.modifyAhead (s.1.mem.view approvalId pipelineContract)).toNat

/-- The rounds that the decisions of the run are good for. -/
def stretchesGranted (cfg : PipelineConfig) (s : Gateway × Time) : ℕ :=
  roundStretches cfg * modifyCount s.1.log

/-- What holds along a run. -/
structure Counted (cfg : PipelineConfig) (approvalId : String) (s : Gateway) : Prop where
  wellFormed : WellFormed approvalId s
  known : s.task.ModifyKnown (s.abstract cfg approvalId).view
  suspended : s.task.suspended = true

/-- A workflow that has just started has one round before it. -/
theorem Started.counted (cfg : PipelineConfig) (h : Started approvalId s) (start : Time) :
    s.Counted cfg approvalId ∧ stretchesAhead cfg approvalId (s, start) = 26 + 3 * cfg.polls := by
  obtain ⟨r, hr, hcontract, -⟩ := h.record
  have hview := Memory.view_of_store (c := pipelineContract) hr
  rw [hcontract, h.undecided] at hview
  have hstored : (s.mem.view approvalId pipelineContract).storedModified = false := by
    rw [hview]
    rfl
  have haliased : (s.mem.view approvalId pipelineContract).aliased = false := by
    rw [hview]
    rfl
  refine ⟨⟨h.wellFormed, by rw [h.task]; exact haliased, by rw [h.task]; rfl⟩, ?_⟩
  simp [stretchesAhead, h.task, TaskAt.left, TaskAt.stretches, TaskAt.polls, TaskAt.modifyAhead,
    hstored]

/-- A stretch of the task is paid for. -/
theorem counted_resumeTask {input : TaskInput} {clock now : Time} (h : s.Counted cfg approvalId)
    (htime : input.time = some now) (hdue : s.task.due clock ≤ now)
    (hstep : (machine cfg approvalId manifest).step s (.task input) = some t) :
    t.Counted cfg approvalId ∧
      1 + stretchesAhead cfg approvalId (t, now) + stretchesGranted cfg (s, clock) ≤
        stretchesAhead cfg approvalId (s, clock) + stretchesGranted cfg (t, now) := by
  obtain ⟨hresume, hfreshId⟩ := resumeTask_of_step hstep
  have hwf := (wellFormed_resumeTask h.wellFormed hfreshId hresume).1
  obtain ⟨o, ho, rfl⟩ := Option.map_eq_some_iff.mp hresume
  obtain ⟨r, hr⟩ := h.wellFormed.record
  have htask := Graph.runTask_taskStep hr h.wellFormed.link h.wellFormed.fresh ho
  have hv := s.mem.view_coherent approvalId pipelineContract
  have hunread := unread_runTask h.wellFormed ho
  have hleft := Graph.runTask_left ho htime hdue
  have hlog := modifyCount_taskStep htask s.log
  refine ⟨⟨hwf, htask.modifyKnown hv h.wellFormed.stored_ne_none h.known hunread,
    Graph.runTask_suspended ho⟩, ?_⟩
  simp only [stretchesAhead, stretchesGranted, hlog]
  rcases hleft with hnearer | ⟨hroute, hmodified, rfl⟩
  · have hahead : (o.pc.modifyAhead (o.mem.view approvalId pipelineContract)).toNat ≤
        (s.task.modifyAhead (s.mem.view approvalId pipelineContract)).toNat :=
      Bool.toNat_le_toNat fun hahead => htask.modifyAhead hv h.known hunread hahead
    have hround := Nat.mul_le_mul_left (roundStretches cfg) hahead
    omega
  -- the edge `modified` is the round that was ahead
  · have haliased : (s.mem.view approvalId pipelineContract).aliased = true := by
      have hknown := h.known
      rw [hroute] at hknown
      exact hknown.2 hmodified
    have hahead : s.task.modifyAhead (s.mem.view approvalId pipelineContract) = true := by
      simp [hroute, TaskAt.modifyAhead, hmodified]
    have hdone : (TaskAt.agent .analysis).modifyAhead (s.mem.view approvalId pipelineContract) =
        false := by simp [TaskAt.modifyAhead, haliased]
    rw [hahead, hdone, hroute]
    simp only [roundStretches, TaskAt.left, TaskAt.stretches, TaskAt.polls, Bool.toNat_true,
      Bool.toNat_false]
    omega

/-- An accepted MODIFY is good for the round that it brings. -/
theorem counted_beside {a : GatewayAction} (h : s.Counted cfg approvalId)
    (hbeside : ∀ input, a ≠ .task input)
    (hstep : (machine cfg approvalId manifest).step s a = some t) (clock : Time) :
    t.Counted cfg approvalId ∧
      stretchesAhead cfg approvalId (t, clock) + stretchesGranted cfg (s, clock) ≤
        stretchesAhead cfg approvalId (s, clock) + stretchesGranted cfg (t, clock) := by
  obtain ⟨hwf, hprotocol⟩ := machine_step h.wellFormed hstep
  have hpaid := hprotocol.modifyPaid (s.mem.view_coherent approvalId pipelineContract) h.known
    hbeside
  obtain ⟨htask, hknown, hahead⟩ := hpaid
  have htask' : t.task = s.task := htask
  refine ⟨⟨hwf, htask' ▸ hknown, htask' ▸ h.suspended⟩, ?_⟩
  have hround : roundStretches cfg *
      ((s.task.modifyAhead (t.mem.view approvalId pipelineContract)).toNat + modifyCount s.log) ≤
      roundStretches cfg * ((s.task.modifyAhead (s.mem.view approvalId pipelineContract)).toNat +
        modifyCount t.log) := Nat.mul_le_mul_left _ hahead
  rw [Nat.mul_add, Nat.mul_add] at hround
  simp only [stretchesAhead, stretchesGranted, htask']
  omega

end Gateway

namespace Pipeline

open Gateway

variable {cfg : PipelineConfig} {agents : AgentSettings} {approvalId : String} {manifest : Py.Dict}
  {s t : Gateway}

/-- The protocol state changes only in where the task is. -/
theorem runNode_view (call : AgentCall) (now : Time) :
    (runNode cfg agents s call now).mem.taskView cfg.toExecutionConfig approvalId
        pipelineContract =
      s.mem.taskView cfg.toExecutionConfig approvalId pipelineContract := by
  obtain ⟨hdecision, hidentity, hpolicy⟩ :=
    call.run_kept agents now (s.mem.contracts pipelineContract)
  have hsame : (s.mem.view approvalId pipelineContract).write
      (s.mem.contracts pipelineContract).toDecisionFields =
        s.mem.view approvalId pipelineContract :=
    View.write_self (s.mem.view_coherent approvalId pipelineContract)
  simp only [runNode]
  rw [Memory.taskView_modifyContract, hdecision, hidentity, hpolicy, hsame]
  rfl

/-- What is ahead of the task stays ahead of it when its agent returns. -/
theorem afterAgent_ahead {node : AgentNode} {v : TaskView} (cfg : PipelineConfig) (now : Time)
    (h : (TaskAt.agent node).ModifyKnown v) :
    (Graph.afterAgent cfg now node).ModifyKnown v ∧
      (Graph.afterAgent cfg now node).suspended = true ∧
      (Graph.afterAgent cfg now node).modifyAhead v.toView =
        (TaskAt.agent node).modifyAhead v.toView := by
  cases node with
  | contract => exact ⟨⟨h, fun _ => trivial⟩, rfl, rfl⟩
  | _ => exact ⟨h, rfl, rfl⟩

/-- A node that runs its agent is nearer to the end of the task. -/
theorem counted_runNode {call : AgentCall} {clock now : Time} (h : s.Counted cfg approvalId)
    (htask : s.task = .agent call.node) (hdue : s.task.due clock ≤ now)
    (hstep : (machine cfg agents approvalId manifest).step s (.agent call now) =
      some (runNode cfg agents s call now)) :
    (runNode cfg agents s call now).Counted cfg approvalId ∧
      1 + stretchesAhead cfg approvalId (runNode cfg agents s call now, now) +
          stretchesGranted cfg (s, clock) ≤
        stretchesAhead cfg approvalId (s, clock) +
          stretchesGranted cfg (runNode cfg agents s call now, now) := by
  have hrun : (machine cfg agents approvalId manifest).exec s [.agent call now] =
      some (runNode cfg agents s call now) :=
    Machine.exec_cons_eq_some _ |>.mpr ⟨_, hstep, rfl⟩
  have hwf := wellFormed_exec h.wellFormed hrun
  have hview : ((runNode cfg agents s call now).abstract cfg approvalId).view =
      (s.abstract cfg approvalId).view := runNode_view call now
  have hsame : (runNode cfg agents s call now).mem.view approvalId pipelineContract =
      s.mem.view approvalId pipelineContract := congrArg TaskView.toView hview
  have hlog : (runNode cfg agents s call now).log = s.log := rfl
  have hknown := h.known
  rw [htask] at hknown
  -- the edge out of the node, or an exception
  have hout : (runNode cfg agents s call now).task = .failed ∨
      (runNode cfg agents s call now).task = Graph.afterAgent cfg now call.node := by
    simp only [runNode]
    split
    · exact .inr rfl
    · exact .inl rfl
  simp only [stretchesAhead, stretchesGranted, hsame, hlog]
  rcases hout with hfailed | hafter
  · refine ⟨⟨hwf, by rw [hfailed]; trivial, by rw [hfailed]; rfl⟩, ?_⟩
    have hleft : 2 ≤ s.task.left cfg clock := by
      rw [htask]
      cases call.node <;> simp only [TaskAt.left, TaskAt.stretches] <;> omega
    rw [hfailed]
    simp only [TaskAt.left, TaskAt.stretches, TaskAt.polls, TaskAt.modifyAhead,
      Bool.toNat_false] at hleft ⊢
    omega
  · obtain ⟨hknown', hsuspended, hahead⟩ := afterAgent_ahead cfg now hknown
    have hreturns : Graph.runTask cfg approvalId manifest pipelineContract s.mem s.task
        (.agentReturns now) =
        some { mem := s.mem, pc := Graph.afterAgent cfg now call.node } := by
      rw [htask]
      rfl
    refine ⟨⟨hwf, by rwa [hafter, hview], by rwa [hafter]⟩, ?_⟩
    rcases Graph.runTask_left hreturns rfl hdue with hnearer | ⟨hroute, -⟩
    · have hahead' : (Graph.afterAgent cfg now call.node).modifyAhead
          (s.mem.view approvalId pipelineContract) =
          (TaskAt.agent call.node).modifyAhead (s.mem.view approvalId pipelineContract) := hahead
      rw [hafter, htask, hahead']
      rw [htask] at hnearer
      dsimp only at hnearer
      omega
    · rw [htask] at hroute
      cases hroute

/-- The workflow with a clock: the task is resumed in the order of the times that it reads, and
after a sleep not before the interval is over. -/
def timed (cfg : PipelineConfig) (agents : AgentSettings) (approvalId : String)
    (manifest : Py.Dict) : Machine (Gateway × Time) PipelineAction :=
  (machine cfg agents approvalId manifest).clocked PipelineAction.time
    fun s resumed => s.task.due resumed

/-- What is not a step of an agent has a time. -/
theorem exists_time {input : TaskInput} (h : (GatewayAction.task input).ofAgent = false) :
    ∃ now, input.time = some now := by
  cases input with
  | agentWrites | agentReturns | agentRaises => cases h
  | _ => exact ⟨_, rfl⟩

/-- Every stretch of the task is paid for. -/
theorem timed_paid : (timed cfg agents approvalId manifest).Paid
    (fun s => s.1.Counted cfg approvalId) (fun a => a.time.isSome) (stretchesAhead cfg approvalId)
    (stretchesGranted cfg) := by
  have hstep {s t : Gateway × Time} {a : PipelineAction} (h : s.1.Counted cfg approvalId)
      (hst : (timed cfg agents approvalId manifest).step s a = some t) :
      t.1.Counted cfg approvalId ∧ (a.time.isSome).toNat + stretchesAhead cfg approvalId t +
        stretchesGranted cfg s ≤ stretchesAhead cfg approvalId s + stretchesGranted cfg t := by
    obtain ⟨s, clock⟩ := s
    obtain ⟨t, clock'⟩ := t
    obtain ⟨hmachine, htime⟩ := Machine.clocked_step hst
    rcases step_cases hmachine with ⟨call, now, rfl, htask, heq⟩ | ⟨b, rfl, hother, hb⟩
    · obtain ⟨hnone, -⟩ | ⟨hnow, hdue⟩ := htime
      · cases hnone
      obtain rfl : now = clock' := Option.some.inj hnow
      obtain rfl : t = runNode cfg agents s call now := heq
      exact counted_runNode h htask hdue hmachine
    · by_cases hbeside : ∀ input, b ≠ .task input
      · have hnotime : (PipelineAction.other b).time = none := by
          cases b with
          | task input => exact absurd rfl (hbeside input)
          | _ => rfl
        obtain ⟨-, hclock⟩ | ⟨hnow, -⟩ := htime
        · obtain rfl : clock' = clock := hclock
          have hpaid := counted_beside h hbeside hb clock'
          rwa [hnotime, Option.isSome_none, Bool.toNat_false, Nat.zero_add]
        · rw [hnotime] at hnow
          cases hnow
      · push Not at hbeside
        obtain ⟨input, rfl⟩ := hbeside
        obtain ⟨now, hinput⟩ := exists_time hother
        have hsome : (PipelineAction.other (.task input)).time = some now := hinput
        obtain ⟨hnone, -⟩ | ⟨hnow, hdue⟩ := htime
        · rw [hsome] at hnone
          cases hnone
        · rw [hsome]
          obtain rfl : now = clock' := Option.some.inj (hsome.symm.trans hnow)
          exact counted_resumeTask h hinput hdue hb
  exact ⟨fun h hst => (hstep h hst).1, fun h hst => (hstep h hst).2⟩

/-- A task that has not ended can be resumed at any time when it is due. -/
theorem exists_step (h : s.task.suspended = true) (hended : ∀ status, s.task ≠ .finished status)
    {id : String} {now : Time} (hid : s.FreshId cfg approvalId manifest id now) :
    ∃ a t, a.time = some now ∧ (machine cfg agents approvalId manifest).step s a = some t := by
  by_cases hagent : ∃ node, s.task = .agent node
  -- whatever the servers and the LLM reply
  · obtain ⟨node, htask⟩ := hagent
    obtain ⟨call, rfl⟩ : ∃ call : AgentCall, call.node = node := by
      cases node with
      | analysis => exact ⟨.runAnalysis (fun _ _ => .mcpCallError "") none {}, rfl⟩
      | contextSim =>
        exact ⟨.runContextSim sampleMemoryTools (fun _ _ => .otherError) fun _ _ => .otherError, rfl⟩
      | contract => exact ⟨.runContract none none "" {}, rfl⟩
    exact ⟨.agent call now, runNode cfg agents s call now, rfl, by simp [machine, htask]⟩
  · push Not at hagent
    obtain ⟨input, o, htime, hother, hfresh, ho⟩ := Graph.exists_runTask cfg approvalId manifest
      pipelineContract s.mem h hended hagent id now
    have hstep := Gateway.step_of_runTask hid hfresh ho
    refine ⟨.other (.task input), _, htime, Eq.trans ?_ hstep⟩
    simp only [machine, hother, Bool.false_eq_true, if_false]

/-- **The background task ends.** In every run, with whatever decisions, replies and orders of
steps, it is resumed at most so often, each MODIFY that is accepted adding a round; and where it
has not ended it can be resumed at any time when it is due. -/
theorem task_ends (h : Started approvalId s) {start clock : Time} {actions : List PipelineAction}
    (hrun : (timed cfg agents approvalId manifest).exec (s, start) actions = some (t, clock)) :
    (actions.countP fun a => a.time.isSome) ≤
        26 + 3 * cfg.polls + (11 + 3 * cfg.polls) * modifyCount t.log ∧
      ∀ now id, t.task.due clock ≤ now → t.FreshId cfg approvalId manifest id now →
        (∃ status, t.task = .finished status) ∨
          ∃ a u, a.time = some now ∧
            (timed cfg agents approvalId manifest).step (t, clock) a = some (u, now) := by
  obtain ⟨hcounted, hbefore⟩ := h.counted cfg start
  have hpaid := timed_paid.exec hcounted hrun
  refine ⟨?_, fun now id hdue hid => ?_⟩
  · have hnone : stretchesGranted cfg (s, start) = 0 := by simp [stretchesGranted, h.log, modifyCount]
    have hgranted : stretchesGranted cfg (t, clock) = (11 + 3 * cfg.polls) * modifyCount t.log := rfl
    omega
  · have ht : t.Counted cfg approvalId := Machine.exec_preserves _
      (fun _ _ _ hs hst => timed_paid.invariant hs hst) hcounted hrun
    by_cases hended : ∃ status, t.task = .finished status
    · exact .inl hended
    · push Not at hended
      obtain ⟨a, u, htime, hstep⟩ := exists_step ht.suspended hended hid
      exact .inr ⟨a, u, htime, Machine.clocked_of_due hstep htime hdue⟩

/-- A MODIFY, and a second review that nobody answers. -/
def modifiedThenExpired : List PipelineAction :=
  toReview ++
    [.other (.task (.review (.notified (.result .null) 1))), .other (.task (.review (.resume 1))),
      .other (.task (.review (.resume 1))), .other (.task (.review (.resume 1))),
      .other (.task (.review (.resume 1))), .other (.task (.review (.resume 1))),
      .other (.postDecision (sampleDecision "MODIFY") 2), .other (.endpointStatus 0 2),
      .other (.task (.review (.resume 5000001))), .other (.task (.review (.resume 5000001))),
      .other (.task (.resume 5000001)),
      .agent (.runAnalysis (fun _ _ => .mcpCallError "") none {}) 5000001,
      .agent (.runContextSim sampleMemoryTools (fun _ _ => .otherError) fun _ _ => .otherError)
        5000001,
      .agent (.runContract none none "1" {}) 5000001,
      .other (.task (.review (.notified (.result .null) 5000001))),
      .other (.task (.review (.resume 5000001))), .other (.task (.review (.resume 5000001))),
      .other (.task (.review (.resume 5001801))), .other (.task (.resume 5001801)),
      .other (.task (.auditReply (.result .null) 5001801)),
      .other (.task (.auditReply (.result .null) 5001801)), .other (.task (.resume 5001801)),
      .other (.task (.resume 5001801)), .other (.task (.resume 5001801))]

/-- The task has ended, after one MODIFY. -/
def endedAfterModify (s : Gateway × Time) : Bool :=
  modifyCount s.1.log = 1 && match s.1.task with
    | .finished .timedOut => true
    | _ => false

theorem task_ends_modified : ∃ s, endedAfterModify s = true ∧
    (timed sampleConfig sampleAgents "cg_1" sampleManifest).exec (sample, 0) modifiedThenExpired =
      some s ∧
    (modifiedThenExpired.countP fun a => a.time.isSome) ≤
      26 + 3 * sampleConfig.polls + (11 + 3 * sampleConfig.polls) * modifyCount s.1.log := by
  have hruns : ((timed sampleConfig sampleAgents "cg_1" sampleManifest).exec (sample, 0)
      modifiedThenExpired).any endedAfterModify = true := by decide +kernel
  obtain ⟨s, hrun, hended⟩ := Option.any_eq_true _ _ |>.mp hruns
  exact ⟨s, hended, hrun, (task_ends sample_started hrun).1⟩

end Pipeline
