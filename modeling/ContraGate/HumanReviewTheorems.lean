import ContraGate.Library.Machine
import ContraGate.HumanReview
import ContraGate.View

/-!
# What one stretch of `run_human_review` does

`ReviewStep` lists what a stretch can do to the view, one constructor per stretch;
`runHumanReview_step` says the list is complete. Proofs about runs go by cases on it.
-/

/-- The record a `get` has returned is the one in the store. -/
def ReviewAt.Fresh (record : Option Ref) : ReviewAt → Prop
  | firstGot current => current = record
  | pollGot current => current = record
  | _ => True

/-- One stretch of the review: from a point, to a view and a point, with its events. -/
inductive ReviewStep (v : View) : ReviewAt → View → ReviewAt → List Event → Prop
  | failed : ReviewStep v .notifying v .raised []
  | notified (hown : v.own.approvalState ≠ .modified) : ReviewStep v .notifying v .firstGet []
  | reenter (hown : v.own.approvalState = .modified) :
    ReviewStep v .notifying (v.write { v.own with approvalState := .pending }) .resetContract []
  | resetContract : ReviewStep v .resetContract v.updateContract .resetStatus []
  | resetStatus : ReviewStep v .resetStatus (v.updateStatus .pendingHumanApproval) .waiting []
  | firstGet (current : Option Ref) :
    ReviewStep v .firstGet v (.firstGot current) [.storeRead]
  | undecided {current : Option Ref}
    (hpending : ∀ f, v.stored = some f → f.approvalState = .pending) :
    ReviewStep v (.firstGot current) v .persistContract []
  | preRecorded {current : Option Ref} {f : DecisionFields} (hf : v.stored = some f)
    (hne : f.approvalState ≠ .pending) :
    ReviewStep v (.firstGot current) (v.write f) (.mergeContract f.approvalState) []
  | mergeContract {pre : ApprovalState} :
    ReviewStep v (.mergeContract pre) v.updateContract (.mergeStatus pre) []
  | mergeStatus {pre : ApprovalState} :
    ReviewStep v (.mergeStatus pre) (v.updateStatus (HumanReview.preStatus pre)) .merged []
  | merged : ReviewStep v .merged v .returned []
  | persistContract : ReviewStep v .persistContract v.updateContract .persistStatus []
  | persistStatus :
    ReviewStep v .persistStatus (v.updateStatus .pendingHumanApproval) .waiting []
  | sleep : ReviewStep v .waiting v .sleeping []
  | timeOut {f : DecisionFields} (hf : f.approvalState = .timedOut) :
    ReviewStep v .waiting (v.write f) .returned [.timedOut]
  | pollGet (record : Option Ref) : ReviewStep v .sleeping v (.pollGot record) [.storeRead]
  | gone (hnone : v.stored = none) : ReviewStep v (.pollGot none) v .returned []
  | pollPending {record : Option Ref} {f : DecisionFields} (hf : v.stored = some f)
    (hpending : f.approvalState = .pending) : ReviewStep v (.pollGot record) v .waiting []
  | polled {record : Option Ref} {f : DecisionFields} (hf : v.stored = some f)
    (hne : f.approvalState ≠ .pending) :
    ReviewStep v (.pollGot record) (v.write f) .returned []

/-- A review stretch reports reads and timeouts only. -/
theorem ReviewStep.events {v v' : View} {p q : ReviewAt} {events : List Event}
    (h : ReviewStep v p v' q events) : ∀ e ∈ events, e = .storeRead ∨ e = .timedOut := by
  cases h <;> simp

namespace HumanReview

variable {contract : Ref} {m : Memory} {pc : ReviewPc} {input : ReviewInput}
  {o : Resumed ReviewPc} {opId : String}

@[simp] theorem copyDecision_toDecisionFields (source c : HandoffContract) :
    (copyDecision source c).toDecisionFields = source.toDecisionFields := rfl

@[simp] theorem addReviewProvenance_toDecisionFields (now : Time) (c : HandoffContract) :
    (addReviewProvenance now c).toDecisionFields = c.toDecisionFields := rfl

/-- The stored contract that a fresh record points to is the one in the view. -/
theorem view_stored_of_fresh (contract : Ref) {r : Ref} (h : some r = m.store opId) :
    (m.view opId contract).stored =
      some (m.contracts (m.records r).contract).toDecisionFields := by
  rw [Memory.view_of_store h.symm]

/-! ## The stretches, point by point -/

/-- What a stretch from a point does to the view, and the record it may have found. -/
structure Stretch (opId : String) (contract : Ref) (m : Memory) (p : ReviewAt)
    (o : Resumed ReviewPc) : Prop where
  step : ReviewStep (m.view opId contract) p (o.mem.view opId contract) o.pc.point o.events
  fresh : o.pc.point.Fresh (m.store opId)

section Points

variable {deadline : Time} (hid : (m.contracts contract).operationId = opId)

include hid

/-- The notification raises something else, or is over; then a modified contract is set back to
pending. -/
theorem stretch_notifying (h : runHumanReview contract m ⟨deadline, .notifying⟩ input = some o) :
    Stretch opId contract m .notifying o := by
  have hover {now : Time}
      (h : runHumanReview contract m ⟨deadline, .notifying⟩ (.notified (.result .null) now) =
        some o) : Stretch opId contract m .notifying o := by
    have hsame : (m.modifyContract contract fun c =>
        c.addProvenance now "HUMAN_REVIEW" "approval_notification_sent").view opId contract =
        m.view opId contract := Memory.view_modifyContract_other _ fun _ => rfl
    simp only [runHumanReview, hid] at h
    rw [Memory.modifyContract_self] at h
    split at h
    · rename_i hmodified
      obtain rfl := Option.some.inj h
      refine ⟨?_, trivial⟩
      dsimp only
      rw [Memory.view_modifyContract, hsame, Memory.modifyContract_self]
      exact .reenter hmodified
    · rename_i hother
      obtain rfl := Option.some.inj h
      refine ⟨?_, trivial⟩
      dsimp only
      rw [hsame]
      exact .notified hother
  cases input with
  | resume now => cases h
  | notified reply now =>
    cases reply with
    | result v => exact hover h
    | mcpCallError message => exact hover h
    | otherError =>
      obtain rfl := Option.some.inj h
      exact ⟨.failed, trivial⟩

/-- `update_contract`, at three points. -/
theorem stretch_updateContract {p q : ReviewAt} {now : Time}
    (hstep : ReviewStep (m.view opId contract) p (m.view opId contract).updateContract q [])
    (hfresh : q.Fresh (m.store opId)) :
    Stretch opId contract m p
      { mem := WorkflowStore.updateContract m (m.contracts contract).operationId contract now
        pc := ⟨deadline, q⟩ } := by
  refine ⟨?_, hfresh⟩
  dsimp only
  rw [hid, Memory.view_updateContract]
  exact hstep

/-- `update_status`, at three points. -/
theorem stretch_updateStatus {p q : ReviewAt} {status : WorkflowStatus} {now : Time}
    (hstep : ReviewStep (m.view opId contract) p ((m.view opId contract).updateStatus status) q [])
    (hfresh : q.Fresh (m.store opId)) :
    Stretch opId contract m p
      { mem := WorkflowStore.updateStatus m (m.contracts contract).operationId status now
        pc := ⟨deadline, q⟩ } := by
  refine ⟨?_, hfresh⟩
  dsimp only
  rw [hid, Memory.view_updateStatus]
  exact hstep

omit hid

/-- What the first `get` has found: no record, a pending contract, or a decision to merge. -/
theorem stretch_firstGot {current : Option Ref} (hfresh : current = m.store opId)
    (h : runHumanReview contract m ⟨deadline, .firstGot current⟩ input = some o) :
    Stretch opId contract m (.firstGot current) o := by
  cases input with
  | notified reply now => cases current <;> cases h
  | resume now =>
    cases current with
    | none =>
      obtain rfl := Option.some.inj h
      have hnone : (m.view opId contract).stored = none := by
        rw [Memory.view_of_none hfresh.symm]
      exact ⟨.undecided (by rw [hnone]; exact fun _ => nofun), trivial⟩
    | some r =>
      have hstored := view_stored_of_fresh contract hfresh
      simp only [runHumanReview] at h
      split at h
      · rename_i hpending
        obtain rfl := Option.some.inj h
        exact ⟨.undecided (by rw [hstored]; rintro f ⟨⟩; exact hpending), trivial⟩
      · rename_i hdecided
        obtain rfl := Option.some.inj h
        refine ⟨?_, trivial⟩
        dsimp only
        rw [Memory.view_modifyContract, copyDecision_toDecisionFields]
        exact .preRecorded hstored hdecided

/-- The test of the loop: sleep, or give up at the deadline. -/
theorem stretch_waiting (h : runHumanReview contract m ⟨deadline, .waiting⟩ input = some o) :
    Stretch opId contract m .waiting o := by
  cases input with
  | notified reply now => cases h
  | resume now =>
    simp only [runHumanReview] at h
    split at h
    · obtain rfl := Option.some.inj h
      exact ⟨.sleep, trivial⟩
    · obtain rfl := Option.some.inj h
      refine ⟨?_, trivial⟩
      dsimp only
      rw [Memory.view_modifyContract]
      exact .timeOut rfl

/-- What a poll has found: the record is gone, its contract is pending, or it is decided. -/
theorem stretch_pollGot {record : Option Ref} (hfresh : record = m.store opId)
    (h : runHumanReview contract m ⟨deadline, .pollGot record⟩ input = some o) :
    Stretch opId contract m (.pollGot record) o := by
  cases input with
  | notified reply now => cases record <;> cases h
  | resume now =>
    cases record with
    | none =>
      obtain rfl := Option.some.inj h
      refine ⟨?_, trivial⟩
      dsimp only
      rw [Memory.view_modifyContract_other _ (addReviewProvenance_toDecisionFields now)]
      exact .gone (by rw [Memory.view_of_none hfresh.symm])
    | some r =>
      have hstored := view_stored_of_fresh contract hfresh
      simp only [runHumanReview] at h
      split at h
      · rename_i hpending
        obtain rfl := Option.some.inj h
        exact ⟨.pollPending hstored hpending, trivial⟩
      · rename_i hdecided
        obtain rfl := Option.some.inj h
        refine ⟨?_, trivial⟩
        dsimp only
        rw [Memory.view_modifyContract, addReviewProvenance_toDecisionFields,
          copyDecision_toDecisionFields]
        exact .polled hstored hdecided

/-- The provenance entry at the end of a merge. -/
theorem stretch_merged {now : Time} :
    Stretch opId contract m .merged
      { mem := m.modifyContract contract (addReviewProvenance now)
        pc := ⟨deadline, .returned⟩ } := by
  refine ⟨?_, trivial⟩
  dsimp only
  rw [Memory.view_modifyContract_other _ (addReviewProvenance_toDecisionFields now)]
  exact .merged

end Points

/-- Every stretch of `run_human_review` is a `ReviewStep` of the view. -/
theorem runHumanReview_step (hid : (m.contracts contract).operationId = opId)
    (hfresh : pc.point.Fresh (m.store opId)) (h : runHumanReview contract m pc input = some o) :
    Stretch opId contract m pc.point o := by
  obtain ⟨deadline, point⟩ := pc
  cases point with
  | notifying => exact stretch_notifying hid h
  | firstGot current => exact stretch_firstGot hfresh h
  | waiting => exact stretch_waiting h
  | pollGot record => exact stretch_pollGot hfresh h
  | returned | raised => cases input <;> cases h
  | _ =>
    -- the others have one stretch each
    cases input with
    | notified reply now => cases h
    | resume now =>
      cases h
      first
      | exact stretch_updateContract hid (by constructor) trivial
      | exact stretch_updateStatus hid (by constructor) trivial
      | exact stretch_merged
      -- a `get` returns the record that is there
      | exact ⟨.firstGet _, congrArg m.store hid⟩
      | exact ⟨.pollGet _, congrArg m.store hid⟩

/-- `run_human_review` writes decision fields and statuses, and nothing else of the record. -/
theorem runHumanReview_kept (h : runHumanReview contract m pc input = some o) :
    m.Kept o.mem := by
  have hwrite (m : Memory) (f : HandoffContract → HandoffContract)
      (hf : ∀ x, (f x).toIdentity = x.toIdentity ∧
        (f x).toPolicyGateOutputs = x.toPolicyGateOutputs) :
      m.Kept (m.modifyContract contract f) :=
    m.kept_modifyContract contract f (fun x => (hf x).1) fun x => (hf x).2
  unfold runHumanReview at h
  dsimp only at h
  split at h
  case h_2 =>
    split at h <;> obtain rfl := Option.some.inj h <;> dsimp only
    · refine (hwrite _ _ fun _ => ?_).trans (hwrite _ _ fun _ => ?_) <;> exact ⟨rfl, rfl⟩
    · refine hwrite _ _ fun _ => ?_
      exact ⟨rfl, rfl⟩
  -- the calls of `update_contract`, then those of `update_status`
  case h_3 | h_8 | h_11 =>
    obtain rfl := Option.some.inj h
    exact m.kept_updateContract _ _ _
  case h_4 | h_9 | h_12 =>
    obtain rfl := Option.some.inj h
    exact m.kept_updateStatus _ _ _
  -- the provenance entries at the end
  case h_10 | h_15 =>
    obtain rfl := Option.some.inj h
    exact hwrite _ _ fun _ => ⟨rfl, rfl⟩
  -- a decision is copied, or nothing is written
  case h_7 | h_13 | h_16 =>
    split at h <;> obtain rfl := Option.some.inj h <;> dsimp only
    all_goals first
    | exact .refl m
    | refine hwrite _ _ fun _ => ?_
      exact ⟨rfl, rfl⟩
  case h_17 => cases h
  all_goals
    obtain rfl := Option.some.inj h
    exact .refl m

/-- With no record under its id, the review writes nothing but its own contract. -/
theorem runHumanReview_of_no_record (hid : (m.contracts contract).operationId = opId)
    (hnone : m.store opId = none) (h : runHumanReview contract m pc input = some o)
    (hfresh : pc.point.Fresh none) :
    ∃ f : HandoffContract → HandoffContract, o.mem = m.modifyContract contract f := by
  have hsame : ∃ f : HandoffContract → HandoffContract, m = m.modifyContract contract f :=
    ⟨fun x => x, by simp⟩
  obtain ⟨deadline, point⟩ := pc
  unfold runHumanReview at h
  simp only [hid] at h
  split at h
  case h_2 =>
    split at h <;> obtain rfl := Option.some.inj h <;> dsimp only
    · exact ⟨_, m.modifyContract_twice contract _ _⟩
    · exact ⟨_, rfl⟩
  -- without a record the store has nothing to update
  case h_3 | h_8 | h_11 =>
    obtain rfl := Option.some.inj h
    simpa [WorkflowStore.updateContract, hnone] using hsame
  case h_4 | h_9 | h_12 =>
    obtain rfl := Option.some.inj h
    simpa [WorkflowStore.updateStatus, hnone] using hsame
  case h_10 | h_15 =>
    obtain rfl := Option.some.inj h
    exact ⟨_, rfl⟩
  case h_13 now =>
    split at h <;> obtain rfl := Option.some.inj h
    · exact hsame
    · exact ⟨fun c => addReviewProvenance now (timeOut now c), rfl⟩
  -- nor can a `get` have found one
  case h_7 | h_16 => simp [ReviewAt.Fresh] at hfresh
  case h_17 => cases h
  all_goals
    obtain rfl := Option.some.inj h
    exact hsame

end HumanReview
