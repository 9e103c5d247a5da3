import ContraGate.WorkflowStoreTheorems

/-!
# The approval protocol, without the heap

What the approval protocol is about is small: the decision fields of the pipeline's own
contract, those of the stored contract, whether the two are one object, and the status.
`View` is that abstract state, with the store operations on it, and each `view_..` theorem
says that an operation of the store does to the memory what its abstract counterpart does
to the view.
-/

/-- The decision state of one workflow: `own` is the contract the pipeline works on,
`stored` the contract in the store (`none`: no record under the id). -/
structure View where
  own : DecisionFields
  stored : Option DecisionFields
  /-- The stored contract is the pipeline's own object. -/
  aliased : Bool
  status : Option WorkflowStatus

namespace View

/-- What holds of the view of any memory: one object has one set of fields, and `aliased`
is vacuous without a record. -/
structure Coherent (v : View) : Prop where
  same : v.aliased = true → ∀ f, v.stored = some f → v.own = f
  absent : v.stored = none → v.aliased = true

/-- Write the pipeline's own decision fields. -/
def write (v : View) (f : DecisionFields) : View :=
  { v with own := f, stored := if v.aliased then v.stored.map fun _ => f else v.stored }

/-- `update_contract` with the pipeline's own contract. -/
def updateContract (v : View) : View :=
  match v.stored with
  | none => v
  | some existing =>
    let f := if existing.approvalState.terminal then existing else v.own
    { v with own := f, stored := some f, aliased := true }

/-- `update_status`. -/
def updateStatus (v : View) (status : WorkflowStatus) : View :=
  { v with status := v.status.map fun _ => status }

/-- `record_decision`, and what it wrote if it was accepted. -/
def decide (v : View) (d : Decision) (now : Time) : View × Option DecisionFields :=
  match v.stored with
  | none => (v, none)
  | some f =>
    if f.approvalState = .pending then
      let g := d.write now f
      ({ v with stored := some g, own := if v.aliased then g else v.own }, some g)
    else (v, none)

@[simp] theorem write_own (v : View) (f : DecisionFields) : (v.write f).own = f := rfl

@[simp] theorem write_aliased (v : View) (f : DecisionFields) :
    (v.write f).aliased = v.aliased := rfl

@[simp] theorem write_status (v : View) (f : DecisionFields) :
    (v.write f).status = v.status := rfl

@[simp] theorem updateStatus_own (v : View) (s : WorkflowStatus) :
    (v.updateStatus s).own = v.own := rfl

@[simp] theorem updateStatus_stored (v : View) (s : WorkflowStatus) :
    (v.updateStatus s).stored = v.stored := rfl

@[simp] theorem updateStatus_aliased (v : View) (s : WorkflowStatus) :
    (v.updateStatus s).aliased = v.aliased := rfl

@[simp] theorem updateContract_status (v : View) : v.updateContract.status = v.status := by
  unfold updateContract
  split <;> rfl

theorem write_self {v : View} (h : v.Coherent) : v.write v.own = v := by
  obtain ⟨own, stored, aliased, status⟩ := v
  cases aliased with
  | false => rfl
  | true =>
    cases stored with
    | none => rfl
    | some f =>
      have : own = f := h.same rfl f rfl
      simp [write, this]

/-- After `update_contract` both contracts are one object. -/
theorem updateContract_of_stored {v : View} {existing : DecisionFields}
    (h : v.stored = some existing) :
    v.updateContract =
      { v with
        own := if existing.approvalState.terminal then existing else v.own
        stored := some (if existing.approvalState.terminal then existing else v.own)
        aliased := true } := by
  unfold updateContract
  rw [h]

theorem updateContract_aliased {v : View} (h : v.Coherent) : v.updateContract.aliased = true := by
  cases hs : v.stored with
  | none => rw [updateContract, hs]; exact h.absent hs
  | some f => rw [updateContract_of_stored hs]

theorem updateContract_of_none {v : View} (h : v.stored = none) : v.updateContract = v := by
  unfold updateContract
  rw [h]

theorem decide_of_pending {v : View} {f : DecisionFields} (h : v.stored = some f)
    (hf : f.approvalState = .pending) (d : Decision) (now : Time) :
    v.decide d now =
      ({ v with
          stored := some (d.write now f)
          own := if v.aliased then d.write now f else v.own }, some (d.write now f)) := by
  unfold decide
  rw [h]
  simp only [hf, if_true]

theorem decide_of_decided {v : View} (h : ∀ f, v.stored = some f → f.approvalState ≠ .pending)
    (d : Decision) (now : Time) : v.decide d now = (v, none) := by
  unfold decide
  split
  · rfl
  · rename_i f hf
    rw [if_neg (h f hf)]

@[simp] theorem decide_aliased (v : View) (d : Decision) (now : Time) :
    (v.decide d now).1.aliased = v.aliased := by
  unfold decide
  split
  · rfl
  · split <;> rfl

/-- A decision reaches the pipeline's contract only while it is stored and pending. -/
theorem decide_own {v : View} (hv : v.Coherent)
    (h : v.aliased = true → v.own.approvalState ≠ .pending) (d : Decision) (now : Time) :
    (v.decide d now).1.own = v.own := by
  by_cases hdecided : ∀ f, v.stored = some f → f.approvalState ≠ .pending
  · rw [decide_of_decided hdecided]
  · push Not at hdecided
    obtain ⟨f, hf, hpending⟩ := hdecided
    rw [decide_of_pending hf hpending]
    cases haliased : v.aliased with
    | false => rfl
    | true => exact absurd (hv.same haliased f hf ▸ hpending) (h haliased)

end View

namespace Memory

variable {m m' : Memory} {id : String} {c : Ref} {now : Time}

/-- The decision state of the record under an id and of the pipeline's contract `c`. -/
def view (m : Memory) (id : String) (c : Ref) : View where
  own := (m.contracts c).toDecisionFields
  stored := m.decision? id
  aliased := (m.record? id).all fun record => record.contract = c
  status := (m.record? id).map (·.status)

@[simp] theorem view_own : (m.view id c).own = (m.contracts c).toDecisionFields := rfl

@[simp] theorem view_stored : (m.view id c).stored = m.decision? id := rfl

theorem view_of_store {r : Ref} (h : m.store id = some r) :
    m.view id c =
      { own := (m.contracts c).toDecisionFields
        stored := some (m.contracts (m.records r).contract).toDecisionFields
        aliased := decide ((m.records r).contract = c)
        status := some (m.records r).status } := by
  simp [view, decision?, contract?_of_store h, record?_of_store h]

theorem view_of_none (h : m.store id = none) :
    m.view id c =
      { own := (m.contracts c).toDecisionFields, stored := none, aliased := true,
        status := none } := by
  simp [view, decision?, contract?, record?, h]

theorem view_coherent (m : Memory) (id : String) (c : Ref) : (m.view id c).Coherent := by
  cases hr : m.store id with
  | none =>
    rw [view_of_none hr]
    exact ⟨fun _ _ => nofun, fun _ => rfl⟩
  | some r =>
    rw [view_of_store hr]
    refine ⟨fun haliased f hf => ?_, nofun⟩
    simp only [decide_eq_true_eq] at haliased
    simpa [haliased] using hf

/-- Nothing of the view has changed. -/
theorem view_sameDecisions (h : m.SameDecisions m') : m'.view id c = m.view id c := by
  cases hr : m.store id with
  | none => rw [view_of_none hr, view_of_none (h.store.symm ▸ hr), h.decision]
  | some r =>
    rw [view_of_store hr, view_of_store (h.store.symm ▸ hr), h.decision, h.contract, h.decision,
      h.status]

/-- The pipeline writes decision fields of its own contract. -/
theorem view_modifyContract (f : HandoffContract → HandoffContract) :
    (m.modifyContract c f).view id c =
      (m.view id c).write (f (m.contracts c)).toDecisionFields := by
  cases hr : m.store id with
  | none =>
    rw [view_of_none hr, view_of_none (by simpa using hr)]
    simp [View.write]
  | some r =>
    rw [view_of_store hr, view_of_store (by simpa using hr)]
    by_cases hc : (m.records r).contract = c
    · subst hc; simp [View.write]
    · simp [View.write, hc, m.modifyContract_of_ne f hc]

@[simp] theorem modifyContract_self_eq (m : Memory) (c : Ref) :
    (m.modifyContract c fun x => x) = m := by
  simp [modifyContract]

@[simp] theorem modifyContract_twice (m : Memory) (c : Ref) (f g) :
    (m.modifyContract c f).modifyContract c g = m.modifyContract c fun x => g (f x) := by
  simp [modifyContract]

/-- The pipeline writes other fields of its own contract. -/
theorem view_modifyContract_other (f : HandoffContract → HandoffContract)
    (hf : ∀ x, (f x).toDecisionFields = x.toDecisionFields) :
    (m.modifyContract c f).view id c = m.view id c := by
  rw [view_modifyContract, hf]
  exact View.write_self (view_coherent m id c)

theorem view_updateContract :
    (WorkflowStore.updateContract m id c now).view id c = (m.view id c).updateContract := by
  cases hr : m.store id with
  | none => simp [WorkflowStore.updateContract, hr, view_of_none hr, View.updateContract]
  | some r =>
    have hr' : (WorkflowStore.updateContract m id c now).store id = some r := by simp [hr]
    rw [view_of_store hr', view_of_store hr, View.updateContract_of_stored rfl,
      WorkflowStore.updateContract_eq hr]
    unfold WorkflowStore.merged
    simp only [modifyRecord_self, modifyRecord_contracts, modifyContract_self,
      modifyContract_records, decide_true]
    split <;> rfl

theorem view_updateStatus (status : WorkflowStatus) :
    (WorkflowStore.updateStatus m id status now).view id c =
      (m.view id c).updateStatus status := by
  cases hr : m.store id with
  | none => simp [WorkflowStore.updateStatus, hr, view_of_none hr, View.updateStatus]
  | some r =>
    have hr' : (WorkflowStore.updateStatus m id status now).store id = some r := by simp [hr]
    rw [view_of_store hr', view_of_store hr, WorkflowStore.updateStatus_eq hr]
    simp [View.updateStatus]

theorem view_decide (m : Memory) (id : String) (c : Ref) (d : Decision) (now : Time) :
    (WorkflowStore.decide m id d now).1.view id c = ((m.view id c).decide d now).1 ∧
      (WorkflowStore.decide m id d now).2 = .decided d ((m.view id c).decide d now).2 := by
  rcases WorkflowStore.decide_cases m id d now with
    ⟨f, hf, hpending, hf', hevent⟩ | ⟨hdecided, hmem, hevent⟩
  · rw [View.decide_of_pending hf hpending]
    refine ⟨?_, hevent⟩
    cases hr : m.store id with
    | none => simp [decision?, contract?, record?, hr] at hf
    | some r =>
      obtain rfl : (m.contracts (m.records r).contract).toDecisionFields = f := by
        simpa [decision?, contract?_of_store hr] using hf
      have hr' : (WorkflowStore.decide m id d now).1.store id = some r := by
        simpa [WorkflowStore.decide] using hr
      rw [view_of_store hr', view_of_store hr]
      simp only [WorkflowStore.decide, WorkflowStore.recordDecision_of_pending hr hpending]
      by_cases hc : (m.records r).contract = c
      · subst hc; simp
      · have hc' : c ≠ (m.records r).contract := fun h => hc h.symm
        simp [hc, Memory.modifyContract_of_ne _ _ hc']
  · rw [View.decide_of_decided hdecided]
    exact ⟨by rw [hmem], hevent⟩

end Memory
