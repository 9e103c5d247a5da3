import ContraGate.StoreCalls
import ContraGate.WorkflowStoreTheorems

/-!
# The row and the record

`_persist` computes the arguments of an upsert when it has a connection, and upserts land in any
order. A snapshot that was computed early and lands late leaves the row behind the record. If the
last upsert to land is always the one that was computed last, the row has caught up whenever no
upsert is in flight.
-/

namespace StoreSystem

variable (opId : String) (isoformat : Time → String)

/-- The row holds the state of the record. -/
structure Agrees (m : Memory) (r : Ref) (row : WorkflowRow) : Prop where
  status : row.status = (m.records r).status
  contract : row.contract = m.contracts (m.records r).contract
  executionResult : row.executionResult = (m.records r).executionResult
  executionCompleted : row.executionCompleted = (m.records r).executionCompleted

/-- The row of the id holds the state of the record of the id, if there is one. -/
def Caught (s : StoreSystem) : Prop :=
  ∀ r, s.mem.store opId = some r → ∃ row, s.row = some row ∧ Agrees s.mem r row

/-- No upsert is in flight. -/
def Quiet (s : StoreSystem) : Prop := ∀ i, (s.calls i).inFlight = false

/-- A store at rest, with its record in the database. -/
structure AtRest (s : StoreSystem) : Prop where
  idle : ∀ i, s.calls i = .idle
  caught : s.Caught opId
  results : ∀ r, s.mem.store opId = some r → (s.mem.records r).executionResult ≠ some []

/-- The action is no failing upsert. -/
def succeeds : StoreAction → Bool
  | .persistFails _ => false
  | _ => true

/-- Every upsert succeeds. -/
def Succeeds (_ : StoreSystem) (a : StoreAction) : Prop := succeeds a = true

/-- The last upsert in flight may land only if it was computed after all others, and for the
record that is stored; and no execution result is an empty dictionary, which is written as NULL. -/
def InOrder (s : StoreSystem) : StoreAction → Prop
  | .call _ (.setExecutionResult result) _ => result ≠ []
  | .land i => (∀ j, j ≠ i → (s.calls j).inFlight = false) →
      ∃ r notifies row, s.calls i = .upserting r notifies row s.computed ∧
        s.mem.store opId = some r
  | .persistFails _ => False
  | _ => True

/-- The row has caught up whenever no upsert is in flight, if every upsert succeeds. -/
def WritesThrough (s₀ : StoreSystem) : Prop :=
  ∀ actions s, (machine opId isoformat).Guarded Succeeds s₀ actions →
    (machine opId isoformat).exec s₀ actions = some s → s.Quiet → s.Caught opId

/-! ## A decision that is overwritten -/

/-- A store without records. -/
def blank : StoreSystem where
  mem := Memory.blank sampleContract
  calls _ := .idle
  row := none
  computed := 0
  registered := []
  subscribers _ := {}

theorem blank_atRest : blank.AtRest "cg_1" where
  idle _ := rfl
  caught _ h := nomatch h
  results _ h := nomatch h

/-- The upsert of `update_status` is computed before the decision and lands after its upsert. -/
def overtaken : List StoreAction :=
  [.call 0 (.create 0 sampleManifest) 0, .acquire 0, .land 0,
    .call 1 (.updateStatus .pendingHumanApproval) 1, .acquire 1,
    .call 2 (.recordDecision (sampleDecision "APPROVE")) 2, .acquire 2, .land 2, .notify 2,
    .land 1, .notify 1]

/-- `record_decision` has returned `True`, all upserts have landed, and the row is undecided. -/
theorem decision_overwritten :
    ∃ s, (machine "cg_1" fun _ => "").exec blank overtaken = some s ∧ s.Quiet ∧
      (s.mem.decision? "cg_1").map (·.approvalState) = some .approved ∧
      s.row.map (·.contract.approvalState) = some .pending ∧
      ¬ WritesThrough "cg_1" (fun _ => "") blank := by
  have hsucceeds : (machine "cg_1" fun _ => "").Guarded Succeeds blank overtaken := by
    refine Machine.guarded_of_mem _ (fun a ha _ => ?_) blank
    exact List.all_eq_true.mp (rfl : overtaken.all succeeds = true) a ha
  obtain ⟨s, hrun⟩ : ∃ s, (machine "cg_1" fun _ => "").exec blank overtaken = some s := ⟨_, rfl⟩
  have hstate := Option.some.inj hrun
  have hquiet : s.Quiet := by
    intro i
    subst hstate
    -- three calls were made, and they have returned
    by_cases h0 : i = 0
    · subst h0; rfl
    by_cases h1 : i = 1
    · subst h1; rfl
    by_cases h2 : i = 2
    · subst h2; rfl
    simp [setCall, blank, CallAt.inFlight, h0, h1, h2]
  refine ⟨s, hrun, hquiet, ?_, ?_, fun hlaw => ?_⟩
  · subst hstate
    rfl
  · subst hstate
    rfl
  · have hcaught := hlaw _ _ hsucceeds hrun hquiet
    subst hstate
    obtain ⟨row, hrow, hagrees⟩ := hcaught 0 rfl
    cases hrow
    have hstatus := congrArg (·.approvalState) hagrees.contract
    cases hstatus

/-! ## Calls -/

variable {opId isoformat}

theorem next_of_changed {operation : StoreCall} {m : Memory} {now : Time} {r : Ref}
    (h : operation.changed opId m now = some r) :
    operation.next opId m now = .acquiring r operation.notifies := by
  unfold StoreCall.next
  rw [h]

/-- Without a record to change nothing changes. -/
theorem apply_of_unchanged {operation : StoreCall} {m : Memory} {now : Time}
    (h : operation.changed opId m now = none) :
    operation.apply opId m now = m ∧ (operation.next opId m now).inFlight = false := by
  have hnext : (operation.next opId m now).inFlight = false := by
    unfold StoreCall.next
    rw [h]
    cases operation <;> rfl
  refine ⟨?_, hnext⟩
  cases operation with
  | create contract manifest => cases h
  | updateStatus status =>
    unfold StoreCall.apply WorkflowStore.updateStatus
    rw [show m.store opId = none from h]
  | updateContract contract =>
    unfold StoreCall.apply WorkflowStore.updateContract
    rw [show m.store opId = none from h]
  | setExecutionResult result =>
    unfold StoreCall.apply WorkflowStore.setExecutionResult
    rw [show m.store opId = none from h]
  | recordDecision d =>
    cases haccepted : (WorkflowStore.recordDecision m opId d now).2 with
    | false => exact WorkflowStore.recordDecision_refused d haccepted
    | true =>
      -- an accepted decision has a record
      obtain ⟨c, hc, -⟩ := (WorkflowStore.recordDecision_accepted_iff d now).mp haccepted
      have hnone : m.store opId = none := by simpa [StoreCall.changed, haccepted] using h
      simp [Memory.contract?, Memory.record?, hnone] at hc

/-- Only `set_execution_result` writes a result. -/
theorem apply_results {operation : StoreCall} {m : Memory} {now : Time}
    (hallowed : operation.allowed opId m)
    (hresult : ∀ result, operation = .setExecutionResult result → result ≠ [])
    (h : ∀ r, m.store opId = some r → (m.records r).executionResult ≠ some []) (r : Ref)
    (hr : (operation.apply opId m now).store opId = some r) :
    ((operation.apply opId m now).records r).executionResult ≠ some [] := by
  cases operation with
  | create contract manifest =>
    have hid : (m.contracts contract).operationId = opId := hallowed
    have hnew : m.nextRecord = r := by simpa [StoreCall.apply, WorkflowStore.create, hid] using hr
    simp [StoreCall.apply, WorkflowStore.create, ← hnew]
  | updateStatus status =>
    have hstore : m.store opId = some r := by simpa [StoreCall.apply] using hr
    simpa [StoreCall.apply, WorkflowStore.updateStatus_eq hstore] using h r hstore
  | updateContract contract =>
    have hstore : m.store opId = some r := by simpa [StoreCall.apply] using hr
    simpa [StoreCall.apply, WorkflowStore.updateContract_eq hstore] using h r hstore
  | setExecutionResult result =>
    have hstore : m.store opId = some r := by simpa [StoreCall.apply] using hr
    simpa [StoreCall.apply, WorkflowStore.setExecutionResult_eq hstore] using hresult result rfl
  | recordDecision d =>
    have hstore : m.store opId = some r := by simpa [StoreCall.apply] using hr
    by_cases hpending : (m.contracts (m.records r).contract).approvalState = .pending
    · simpa [StoreCall.apply, WorkflowStore.recordDecision_of_pending hstore hpending] using
        h r hstore
    · have hdecided := WorkflowStore.recordDecision_of_decided
        (Memory.contract?_of_store hstore) hpending d now
      simpa [StoreCall.apply, hdecided] using h r hstore

/-! ## The invariant -/

/-- An upsert that was computed last, for the stored record, holds what the record holds now,
unless another call has changed the record and not computed its upsert yet. -/
structure Written (opId : String) (s : StoreSystem) : Prop where
  tickets : ∀ i r notifies row ticket, s.calls i = .upserting r notifies row ticket →
    ticket ≤ s.computed
  latest : (∀ i r notifies, s.calls i ≠ .acquiring r notifies) →
    ∀ i r notifies row, s.calls i = .upserting r notifies row s.computed →
      s.mem.store opId = some r → row = .ofRecord s.mem r
  caught : s.Quiet → s.Caught opId
  results : ∀ r, s.mem.store opId = some r → (s.mem.records r).executionResult ≠ some []

theorem AtRest.written {s : StoreSystem} (h : s.AtRest opId) : s.Written opId where
  tickets i r notifies row ticket hi := by
    rw [h.idle i] at hi
    cases hi
  latest _ i r notifies row hi := by
    rw [h.idle i] at hi
    cases hi
  caught _ := h.caught
  results := h.results

/-- An upsert writes the state of the record, unless the result is an empty dictionary. -/
theorem agrees_upsert {m : Memory} {r : Ref} (old : Option WorkflowRow)
    (hresult : (m.records r).executionResult ≠ some []) :
    Agrees m r (WorkflowRow.upsert old (.ofRecord m r)) := by
  have hrow : Agrees m r (.ofRecord m r) := by
    refine ⟨rfl, rfl, ?_, rfl⟩
    show WorkflowRow.orNull (m.records r).executionResult = (m.records r).executionResult
    cases hr : (m.records r).executionResult with
    | none => rfl
    | some result =>
      cases result with
      | nil => exact absurd hr hresult
      | cons entry entries => rfl
  cases old with
  | none => exact hrow
  | some row => exact ⟨hrow.status, hrow.contract, hrow.executionResult, hrow.executionCompleted⟩

/-- A call in flight keeps the store from being quiet. -/
theorem not_quiet {s : StoreSystem} {i : ℕ} (h : (s.calls i).inFlight = true) : ¬ s.Quiet :=
  fun hquiet => by simpa [h] using hquiet i

theorem setCall_self (s : StoreSystem) (i : ℕ) (pc : CallAt) : (s.setCall i pc).calls i = pc := by
  simp [setCall]

theorem setCall_of_ne (s : StoreSystem) {i j : ℕ} (pc : CallAt) (h : j ≠ i) :
    (s.setCall i pc).calls j = s.calls j := by
  simp [setCall, h]

variable {s t : StoreSystem} {i : ℕ}

/-- What touches no upsert in flight and no record keeps the invariant. -/
theorem Written.congr (h : s.Written opId) (hmem : t.mem = s.mem) (hrow : t.row = s.row)
    (hcomputed : t.computed = s.computed)
    (hcalls : ∀ j, t.calls j = s.calls j ∨
      (t.calls j).inFlight = false ∧ (s.calls j).inFlight = false) : t.Written opId := by
  have hupserting : ∀ {j r notifies row ticket}, t.calls j = .upserting r notifies row ticket →
      s.calls j = .upserting r notifies row ticket := by
    intro j r notifies row ticket hj
    rcases hcalls j with heq | ⟨hnot, -⟩
    · exact heq ▸ hj
    · rw [hj] at hnot
      cases hnot
  refine ⟨?_, ?_, ?_, ?_⟩
  · intro j r notifies row ticket hj
    rw [hcomputed]
    exact h.tickets j r notifies row ticket (hupserting hj)
  · intro hacquiring j r notifies row hj hr
    rw [hmem] at hr ⊢
    refine h.latest ?_ j r notifies row (hcomputed ▸ hupserting hj) hr
    intro k q notifies' hk
    rcases hcalls k with heq | ⟨-, hnot⟩
    · exact hacquiring k q notifies' (heq ▸ hk)
    · rw [hk] at hnot
      cases hnot
  · intro hquiet
    have hs : s.Quiet := by
      intro j
      rcases hcalls j with heq | ⟨-, hnot⟩
      · exact heq ▸ hquiet j
      · exact hnot
    unfold Caught
    rw [hmem, hrow]
    exact h.caught hs
  · rw [hmem]
    exact h.results

/-- A critical section: what it changes is owed to the database. -/
theorem Written.call (h : s.Written opId) {operation : StoreCall} {now : Time}
    (hidle : s.calls i = .idle) (hallowed : operation.allowed opId s.mem)
    (hresult : ∀ result, operation = .setExecutionResult result → result ≠ []) :
    Written opId { s.setCall i (operation.next opId s.mem now) with
      mem := operation.apply opId s.mem now } := by
  cases hchanged : operation.changed opId s.mem now with
  | none =>
    obtain ⟨hmem, hnext⟩ := apply_of_unchanged hchanged
    refine h.congr hmem rfl rfl fun j => ?_
    by_cases hj : j = i
    · subst hj
      exact .inr ⟨by rw [← hnext]; exact congrArg _ (setCall_self s j _), by rw [hidle]; rfl⟩
    · exact .inl (setCall_of_ne s _ hj)
  | some r =>
    rw [next_of_changed hchanged]
    have hi := setCall_self s i (.acquiring r operation.notifies)
    refine ⟨?_, ?_, ?_, apply_results hallowed hresult h.results⟩
    · intro j q notifies row ticket hj
      by_cases hji : j = i
      · subst hji
        cases hi.symm.trans hj
      · exact h.tickets j q notifies row ticket ((setCall_of_ne s _ hji).symm.trans hj)
    · -- the call itself has not computed its upsert
      exact fun hacquiring => absurd hi (hacquiring i r _)
    · exact fun hquiet => absurd hquiet (not_quiet (by
        show ((s.setCall i _).calls i).inFlight = true
        rw [hi]
        rfl))

/-- Computing the arguments: they are the newest, and those of the record now. -/
theorem Written.acquire (h : s.Written opId) {r : Ref} {notifies : Bool}
    (hi : s.calls i = .acquiring r notifies) :
    Written opId
      { s.setCall i (.upserting r notifies (.ofRecord s.mem r) (s.computed + 1)) with
        computed := s.computed + 1 } := by
  have hself := setCall_self s i (.upserting r notifies (.ofRecord s.mem r) (s.computed + 1))
  refine ⟨?_, ?_, ?_, h.results⟩
  · intro j q notifies' row ticket hj
    by_cases hji : j = i
    · subst hji
      cases hself.symm.trans hj
      exact le_rfl
    · have hold := h.tickets j q notifies' row ticket ((setCall_of_ne s _ hji).symm.trans hj)
      exact Nat.le_succ_of_le hold
  · intro _ j q notifies' row hj hq
    by_cases hji : j = i
    · subst hji
      cases hself.symm.trans hj
      rfl
    · -- the other upserts are older
      have hold := h.tickets j q notifies' row _ ((setCall_of_ne s _ hji).symm.trans hj)
      exact absurd hold (Nat.not_succ_le_self _)
  · exact fun hquiet => absurd hquiet (not_quiet (by
      show ((s.setCall i _).calls i).inFlight = true
      rw [hself]
      rfl))

/-- The last upsert to land brings the row up to date. -/
theorem Written.land (h : s.Written opId) {r : Ref} {notifies : Bool} {row : WorkflowRow}
    {ticket : ℕ} (hi : s.calls i = .upserting r notifies row ticket)
    (horder : InOrder opId s (.land i)) :
    Written opId { s.setCall i (.afterPersist notifies) with
      row := some (WorkflowRow.upsert s.row row) } := by
  have hafter : ((s.setCall i (.afterPersist notifies)).calls i).inFlight = false := by
    rw [setCall_self]
    cases notifies <;> rfl
  have hupserting : ∀ {j q notifies' row' ticket'},
      (s.setCall i (.afterPersist notifies)).calls j = .upserting q notifies' row' ticket' →
      s.calls j = .upserting q notifies' row' ticket' := by
    intro j q notifies' row' ticket' hj
    by_cases hji : j = i
    · subst hji
      rw [hj] at hafter
      cases hafter
    · exact (setCall_of_ne s _ hji).symm.trans hj
  refine ⟨fun j q notifies' row' ticket' hj => h.tickets j q notifies' row' ticket' (hupserting hj),
    ?_, ?_, h.results⟩
  · intro hacquiring j q notifies' row' hj hq
    refine h.latest ?_ j q notifies' row' (hupserting hj) hq
    intro k q' notifies'' hk
    by_cases hki : k = i
    · rw [hki, hi] at hk
      cases hk
    · exact hacquiring k q' notifies'' ((setCall_of_ne s _ hki).trans hk)
  · intro hquiet q hq
    have hothers : ∀ j, j ≠ i → (s.calls j).inFlight = false := by
      intro j hj
      have hj' := hquiet j
      rwa [show ({ s.setCall i (.afterPersist notifies) with
        row := some (WorkflowRow.upsert s.row row) } : StoreSystem).calls j = s.calls j from
          setCall_of_ne s _ hj] at hj'
    obtain ⟨r', notifies', row', hi', hr'⟩ := horder hothers
    cases hi.symm.trans hi'
    obtain rfl : r = q := Option.some.inj (hr'.symm.trans hq)
    -- nothing else is in flight, so nothing has changed since the arguments were computed
    have hrow : row = .ofRecord s.mem r := by
      refine h.latest ?_ i r notifies row hi hr'
      intro k q notifies'' hk
      by_cases hki : k = i
      · rw [hki, hi] at hk
        cases hk
      · have hnot := hothers k hki
        rw [hk] at hnot
        cases hnot
    exact ⟨_, rfl, hrow ▸ agrees_upsert s.row (h.results r hr')⟩

/-- Every step in order keeps the invariant. -/
theorem written_step {a : StoreAction} (h : s.Written opId) (horder : InOrder opId s a)
    (hstep : (machine opId isoformat).step s a = some t) : t.Written opId := by
  cases steps_of_step hstep with
  | call hidle hallowed =>
    refine h.call hidle hallowed fun result hresult => ?_
    subst hresult
    exact horder
  | acquire hi => exact h.acquire hi
  | land hi => exact h.land hi horder
  | failsAcquiring
  | failsUpserting => exact horder.elim
  | @notify i hi =>
    refine h.congr rfl rfl rfl fun j => ?_
    by_cases hj : j = i
    · subst hj
      refine .inr ⟨?_, by rw [hi]; rfl⟩
      show ((s.setCall j .returned).calls j).inFlight = false
      rw [setCall_self]
      rfl
    · exact .inl (setCall_of_ne s _ hj)
  | subscribe
  | read
  | unsubscribe => exact h.congr rfl rfl rfl fun _ => .inl rfl

/-- **Write-through, when the last upsert to land is the newest.** In every interleaving of store
calls on the id whose upserts succeed and land so, whenever no upsert is in flight the row holds
the state of the record, and a restart finds the decision that is stored. -/
theorem row_agrees {s₀ : StoreSystem} {actions : List StoreAction} (hrest : s₀.AtRest opId)
    (horder : (machine opId isoformat).Guarded (InOrder opId) s₀ actions)
    (hrun : (machine opId isoformat).exec s₀ actions = some s) (hquiet : s.Quiet) {r : Ref}
    (hr : s.mem.store opId = some r) :
    ∃ row, s.row = some row ∧ Agrees s.mem r row ∧
      s.mem.decision? opId = some row.contract.toDecisionFields := by
  have hwritten := (machine opId isoformat).exec_invariant
    (fun _ _ _ h hG hs => written_step h hG hs) hrest.written horder hrun
  obtain ⟨row, hrow, hagrees⟩ := hwritten.caught hquiet r hr
  refine ⟨row, hrow, hagrees, ?_⟩
  rw [Memory.decision?, Memory.contract?_of_store hr, hagrees.contract]
  rfl

/-- The older upsert lands first. -/
def inTurn : List StoreAction :=
  [.call 0 (.create 0 sampleManifest) 0, .acquire 0, .land 0,
    .call 1 (.updateStatus .pendingHumanApproval) 1, .acquire 1,
    .call 2 (.recordDecision (sampleDecision "APPROVE")) 2, .acquire 2, .land 1, .notify 1,
    .land 2, .notify 2]

theorem row_agrees_in_turn :
    ∃ s row, (machine "cg_1" fun _ => "").exec blank inTurn = some s ∧ s.row = some row ∧
      s.mem.decision? "cg_1" = some row.contract.toDecisionFields := by
  obtain ⟨s, hrun⟩ : ∃ s, (machine "cg_1" fun _ => "").exec blank inTurn = some s := ⟨_, rfl⟩
  have horder : (machine "cg_1" fun _ => "").Guarded (InOrder "cg_1") blank inTurn := by
    refine Machine.guarded_cons _ rfl trivial ?_
    refine Machine.guarded_cons _ rfl trivial ?_
    refine Machine.guarded_cons _ rfl (fun _ => ⟨_, _, _, rfl, rfl⟩) ?_
    refine Machine.guarded_cons _ rfl trivial ?_
    refine Machine.guarded_cons _ rfl trivial ?_
    refine Machine.guarded_cons _ rfl trivial ?_
    refine Machine.guarded_cons _ rfl trivial ?_
    -- the decision is still in flight
    refine Machine.guarded_cons _ rfl (fun h => nomatch h 2 (by decide)) ?_
    refine Machine.guarded_cons _ rfl trivial ?_
    refine Machine.guarded_cons _ rfl (fun _ => ⟨_, _, _, rfl, rfl⟩) ?_
    exact Machine.guarded_cons _ rfl trivial trivial
  have hstate := Option.some.inj hrun
  have hquiet : s.Quiet := by
    intro i
    subst hstate
    by_cases h0 : i = 0
    · subst h0; rfl
    by_cases h1 : i = 1
    · subst h1; rfl
    by_cases h2 : i = 2
    · subst h2; rfl
    simp [setCall, blank, CallAt.inFlight, h0, h1, h2]
  have hstored : s.mem.store "cg_1" = some 0 := by
    subst hstate
    rfl
  obtain ⟨row, hrow, -, hdecision⟩ := row_agrees blank_atRest horder hrun hquiet hstored
  exact ⟨s, row, hrun, hrow, hdecision⟩

end StoreSystem
