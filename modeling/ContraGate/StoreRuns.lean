import Mathlib.Data.List.Induction
import ContraGate.Library.Machine
import ContraGate.WorkflowStoreTheorems

/-!
# Terminal decisions are immutable in the store

The store on its own: over any sequence of operations on an id a terminal decision is
immutable, and between two `update_contract` calls at most one decision is accepted.
-/

/-- One call on the store. For `update_contract` the caller's object holds any value. -/
inductive StoreOp
  | updateStatus (status : WorkflowStatus)
  | updateContract (contract : Ref) (value : HandoffContract)
  | recordDecision (d : Decision)
  | setExecutionResult (result : Py.Dict)

/-- `op` is an `update_contract` call. -/
def StoreOp.isUpdateContract : StoreOp → Bool
  | updateContract _ _ => true
  | _ => false

/-- The memory, and what the `record_decision` calls so far returned, newest first. -/
structure StoreRun where
  mem : Memory
  returned : List Bool

/-- The store under calls on one id, each made at some time. `update_contract` is not
called with the stored object itself. -/
def storeMachine (id : String) : Machine StoreRun (StoreOp × Time) where
  step s call :=
    match call.1 with
    | .updateStatus status =>
      some { s with mem := WorkflowStore.updateStatus s.mem id status call.2 }
    | .updateContract contract value =>
      if (s.mem.record? id).map (·.contract) = some contract then none
      else
        let mem := s.mem.modifyContract contract fun _ => value
        some { s with mem := WorkflowStore.updateContract mem id contract call.2 }
    | .recordDecision d =>
      let result := WorkflowStore.recordDecision s.mem id d call.2
      some { mem := result.1, returned := result.2 :: s.returned }
    | .setExecutionResult result =>
      some { s with mem := WorkflowStore.setExecutionResult s.mem id result call.2 }

namespace StoreRun

open WorkflowStore

variable {id : String} {s t : StoreRun} {call : StoreOp × Time}

theorem step_recordDecision (d : Decision) (now : Time) :
    (storeMachine id).step s (.recordDecision d, now) =
      some ⟨(recordDecision s.mem id d now).1, (recordDecision s.mem id d now).2 :: s.returned⟩ :=
  rfl

/-- The stored contract does not change when the caller prepares an object of its own. -/
theorem contract?_modifyContract_of_ne {m : Memory} {contract : Ref}
    (h : (m.record? id).map (·.contract) ≠ some contract) (f) :
    (m.modifyContract contract f).contract? id = m.contract? id := by
  cases hr : m.store id with
  | none => simp [Memory.contract?, Memory.record?, hr]
  | some r =>
    have hne : (m.records r).contract ≠ contract := by
      simpa [Memory.record?_of_store hr] using h
    have hstore : (m.modifyContract contract f).store id = some r := by simp [hr]
    rw [Memory.contract?_of_store hr, Memory.contract?_of_store hstore]
    simp [Memory.modifyContract_of_ne m f hne]

/-- One step from a decided contract: `record_decision` is refused, and every operation
other than `update_contract` leaves the decision fields alone. -/
theorem step_of_decided {c : HandoffContract} (hc : s.mem.contract? id = some c)
    (hdecided : c.approvalState ≠ .pending) (hop : call.1.isUpdateContract = false)
    (hstep : (storeMachine id).step s call = some t) :
    t.mem.contract? id = some c ∧
      (t.returned = s.returned ∨ t.returned = false :: s.returned) := by
  obtain ⟨op, now⟩ := call
  cases op with
  | updateStatus status =>
    obtain rfl := Option.some.inj hstep
    exact ⟨by simpa using hc, .inl rfl⟩
  | updateContract contract value => cases hop
  | recordDecision d =>
    rw [step_recordDecision, recordDecision_of_decided hc hdecided d now] at hstep
    obtain rfl := Option.some.inj hstep
    exact ⟨hc, .inr rfl⟩
  | setExecutionResult result =>
    obtain rfl := Option.some.inj hstep
    exact ⟨by simpa using hc, .inl rfl⟩

/-- One step from a terminal decision, any operation. -/
theorem step_of_terminal {c : HandoffContract} (hc : s.mem.contract? id = some c)
    (hterm : c.approvalState.terminal) (hstep : (storeMachine id).step s call = some t) :
    (∃ c', t.mem.contract? id = some c' ∧ c'.toDecisionFields = c.toDecisionFields) ∧
      (t.returned = s.returned ∨ t.returned = false :: s.returned) := by
  have hdecided : c.approvalState ≠ .pending := by
    intro hpending
    simp [hpending, ApprovalState.terminal] at hterm
  cases hop : call.1.isUpdateContract with
  | false =>
    obtain ⟨hc', hret⟩ := step_of_decided hc hdecided hop hstep
    exact ⟨⟨c, hc', rfl⟩, hret⟩
  | true =>
    obtain ⟨op, now⟩ := call
    cases op with
    | updateContract contract value =>
      simp only [storeMachine] at hstep
      split at hstep
      · cases hstep
      · rename_i hne
        obtain rfl := Option.some.inj hstep
        -- the caller's value is ready before the call, and is not the stored object
        have hprepared := (contract?_modifyContract_of_ne hne fun _ => value).trans hc
        exact ⟨⟨_, updateContract_contract? hprepared contract, merged_of_terminal hterm⟩, .inl rfl⟩
    | _ => cases hop

/-- The run version of `step_of_terminal`. -/
theorem exec_of_terminal {ops : List (StoreOp × Time)} {c : HandoffContract}
    (hc : s.mem.contract? id = some c) (hterm : c.approvalState.terminal)
    (hrun : (storeMachine id).exec s ops = some t) :
    (∃ c', t.mem.contract? id = some c' ∧ c'.toDecisionFields = c.toDecisionFields) ∧
      ∃ later, t.returned = later ++ s.returned ∧ ∀ b ∈ later, b = false := by
  refine (storeMachine id).exec_preserves
    (I := fun u => (∃ c', u.mem.contract? id = some c' ∧
        c'.toDecisionFields = c.toDecisionFields) ∧
      ∃ later, u.returned = later ++ s.returned ∧ ∀ b ∈ later, b = false)
    ?_ ⟨⟨c, hc, rfl⟩, [], rfl, by simp⟩ hrun
  rintro u call v ⟨⟨c', hc', hfields⟩, later, hret, hall⟩ hstep
  have hstate : c'.approvalState = c.approvalState :=
    congrArg DecisionFields.approvalState hfields
  obtain ⟨⟨c'', hc'', hfields'⟩, hret'⟩ := step_of_terminal hc' (hstate ▸ hterm) hstep
  refine ⟨⟨c'', hc'', hfields'.trans hfields⟩, ?_⟩
  rcases hret' with hret' | hret'
  · exact ⟨later, by rw [hret', hret], hall⟩
  · exact ⟨false :: later, by rw [hret', hret, List.cons_append], by simpa using hall⟩

/-- Without `update_contract` in between, at most one decision is accepted: the first one
leaves a decided contract behind, and then every further one is refused. -/
theorem exec_accepts_at_most_once {ops : List (StoreOp × Time)}
    (hops : ∀ call ∈ ops, call.1.isUpdateContract = false)
    (hrun : (storeMachine id).exec s ops = some t) :
    ∃ later, t.returned = later ++ s.returned ∧ later.count true ≤ 1 ∧
      (later.count true = 1 →
        ∃ c, t.mem.contract? id = some c ∧ c.approvalState ≠ .pending) := by
  induction ops using List.reverseRecOn generalizing t with
  | nil =>
    obtain rfl : s = t := by simpa using hrun
    exact ⟨[], by simp⟩
  | append_singleton ops call ih =>
    obtain ⟨u, hu, hlast⟩ := (storeMachine id).exec_append_eq_some.mp hrun
    obtain ⟨later, hret, hcount, hdecided⟩ :=
      ih (fun call' hcall => hops call' (List.mem_append_left _ hcall)) hu
    have hop : call.1.isUpdateContract = false := hops call (by simp)
    have hstep : (storeMachine id).step u call = some t := by
      simpa [Machine.exec_cons] using hlast
    -- a decided contract refuses the next decision
    by_cases hone : later.count true = 1
    · obtain ⟨c, hc, hne⟩ := hdecided hone
      obtain ⟨hc', hret' | hret'⟩ := step_of_decided hc hne hop hstep
      · exact ⟨later, by rw [hret', hret], hcount, fun _ => ⟨c, hc', hne⟩⟩
      · exact ⟨false :: later, by rw [hret', hret, List.cons_append], by simpa using hcount,
          fun _ => ⟨c, hc', hne⟩⟩
    · have hzero : later.count true = 0 := by omega
      obtain ⟨op, now⟩ := call
      cases op with
      | updateStatus status =>
        obtain rfl := Option.some.inj hstep
        exact ⟨later, hret, hcount, fun h => absurd h hone⟩
      | updateContract contract value => cases hop
      | setExecutionResult result =>
        obtain rfl := Option.some.inj hstep
        exact ⟨later, hret, hcount, fun h => absurd h hone⟩
      | recordDecision d =>
        rw [step_recordDecision] at hstep
        obtain rfl := Option.some.inj hstep
        -- the first accepted decision decides it
        cases haccepted : (recordDecision u.mem id d now).2 with
        | false =>
          exact ⟨false :: later, by simp [hret], by simpa using hcount,
            fun h => absurd (by simpa using h) hone⟩
        | true =>
          obtain ⟨c, _, hc'⟩ := recordDecision_contract? d haccepted
          exact ⟨true :: later, by simp [hret], by simp [hzero],
            fun _ => ⟨_, hc', Decision.state_ne_pending d.decision⟩⟩

/-- **Terminal decisions are immutable in the store.** Over every sequence of operations
on an id: once the stored contract is approved, rejected or timed out, its decision fields
stay as they are and every later `record_decision` is refused; and in a stretch without
`update_contract` at most one `record_decision` is accepted. -/
theorem terminal_decision_immutable {ops : List (StoreOp × Time)}
    (hrun : (storeMachine id).exec s ops = some t) :
    (∀ c, s.mem.contract? id = some c → c.approvalState.terminal →
      (∃ c', t.mem.contract? id = some c' ∧ c'.toDecisionFields = c.toDecisionFields) ∧
        ∃ later, t.returned = later ++ s.returned ∧ ∀ b ∈ later, b = false) ∧
    ((∀ call ∈ ops, call.1.isUpdateContract = false) →
      ∃ later, t.returned = later ++ s.returned ∧ later.count true ≤ 1) := by
  constructor
  · intro c hc hterm
    exact exec_of_terminal hc hterm hrun
  · intro hops
    obtain ⟨later, hret, hcount, _⟩ := exec_accepts_at_most_once hops hrun
    exact ⟨later, hret, hcount⟩

/-- An approved contract, then the pipeline's pending copy and a late rejection. -/
theorem terminal_decision_immutable_approved :
    let s : StoreRun :=
      ⟨sampleMemory.modifyContract 0 fun c => { c with approvalState := .approved }, []⟩
    let calls : List (StoreOp × Time) :=
      [(.updateContract 1 sampleContract, 6), (.recordDecision (sampleDecision "REJECT"), 7)]
    ∃ t, (storeMachine "cg_1").exec s calls = some t ∧
      (∃ c', t.mem.contract? "cg_1" = some c' ∧ c'.approvalState = .approved) ∧
      t.returned = [false] := by
  intro s calls
  refine ⟨_, rfl, ?_, rfl⟩
  have hrun : (storeMachine "cg_1").exec s calls = some _ := rfl
  obtain ⟨⟨c', hc', hfields⟩, _⟩ :=
    (terminal_decision_immutable hrun).1 { sampleContract with approvalState := .approved } rfl rfl
  exact ⟨c', hc', congrArg DecisionFields.approvalState hfields⟩

end StoreRun
