import ContraGate.StoreCalls
import ContraGate.WorkflowStoreTheorems

/-!
# Subscribers and the final state

A notification reads the record when it is sent, so it can carry a later state than the one that
caused it, but never an earlier one. Between a change and its notification the subscribers may be
behind; the call that made the change still owes them a notification then.
-/

/-- What the subscriber knows last: the last element of its queue or, if that received nothing,
what it read. -/
def Subscriber.latest (subscriber : Subscriber) : Option Py.Dict :=
  subscriber.received.getLast?.or subscriber.snapshot

namespace StoreAction

/-- The action creates a record. -/
def creates : StoreAction → Bool
  | call _ (.create ..) _ => true
  | _ => false

end StoreAction

namespace StoreSystem

variable (opId : String) (isoformat : Time → String)

/-- What the subscriber knows last, if anything, carries the state of the stored record. -/
def UpToDate (s : StoreSystem) (q : ℕ) : Prop :=
  ∀ r e, s.mem.store opId = some r → (s.subscribers q).latest = some e →
    (s.mem.records r).Carries e

/-- Every registered subscriber is up to date, or some call owes a notification; and who has read
knows something. -/
structure Informed (s : StoreSystem) : Prop where
  upToDate : (∃ i, (s.calls i).owesNotification = true) ∨ ∀ q ∈ s.registered, s.UpToDate opId q
  knows : ∀ q ∈ s.registered, (s.subscribers q).hasRead = true →
    (s.mem.store opId).isSome = true → (s.subscribers q).latest.isSome = true

/-- No call has been made, and nobody has subscribed. -/
structure Silent (s : StoreSystem) : Prop where
  idle : ∀ i, s.calls i = .idle
  registered : s.registered = []

variable {opId isoformat} {s t : StoreSystem} {i : ℕ}

theorem Silent.informed (h : s.Silent) : s.Informed opId where
  upToDate := .inr fun q hq => by
    rw [h.registered] at hq
    cases hq
  knows q hq := by
    rw [h.registered] at hq
    cases hq

/-! ## Steps -/

/-- Without `create` the record of the id stays the same object. -/
theorem apply_store {operation : StoreCall} {m : Memory} {now : Time}
    (h : (StoreAction.call i operation now).creates = false) :
    (operation.apply opId m now).store = m.store := by
  cases operation with
  | create contract manifest => cases h
  | updateStatus | updateContract | setExecutionResult | recordDecision =>
    simp [StoreCall.apply]

/-- A call that owes no notification afterwards changes neither status nor result. -/
theorem apply_quiet {operation : StoreCall} {m : Memory} {now : Time} {r : Ref}
    (hcreate : (StoreAction.call i operation now).creates = false)
    (h : (operation.next opId m now).owesNotification = false) (hr : m.store opId = some r) :
    ((operation.apply opId m now).records r).status = (m.records r).status ∧
      ((operation.apply opId m now).records r).executionResult =
        (m.records r).executionResult := by
  cases operation with
  | create contract manifest => cases hcreate
  | updateStatus status => simp [StoreCall.next, StoreCall.changed, hr, StoreCall.notifies,
      CallAt.owesNotification] at h
  | updateContract contract =>
    simp [StoreCall.apply, WorkflowStore.updateContract_eq hr]
  | setExecutionResult result => simp [StoreCall.next, StoreCall.changed, hr, StoreCall.notifies,
      CallAt.owesNotification] at h
  | recordDecision d =>
    cases haccepted : (WorkflowStore.recordDecision m opId d now).2 with
    | true => simp [StoreCall.next, StoreCall.changed, haccepted, hr, StoreCall.notifies,
        CallAt.owesNotification] at h
    | false =>
      rw [StoreCall.apply, WorkflowStore.recordDecision_refused d haccepted]
      exact ⟨rfl, rfl⟩

/-- The steps that leave the records and the subscribers alone: what a call owes, it still owes. -/
theorem Informed.congr (h : s.Informed opId) (hmem : t.mem = s.mem)
    (hregistered : t.registered = s.registered) (hsubscribers : t.subscribers = s.subscribers)
    (howes : ∀ j, (s.calls j).owesNotification = true → (t.calls j).owesNotification = true) :
    t.Informed opId where
  upToDate := by
    unfold UpToDate
    rw [hmem, hregistered, hsubscribers]
    rcases h.upToDate with ⟨j, hj⟩ | hall
    · exact .inl ⟨j, howes j hj⟩
    · exact .inr hall
  knows := by
    rw [hmem, hregistered, hsubscribers]
    exact h.knows

/-- A change is owed to the subscribers, or there is none that they could see. -/
theorem Informed.call (h : s.Informed opId) {operation : StoreCall} {now : Time}
    (hidle : s.calls i = .idle) (hcreate : (StoreAction.call i operation now).creates = false) :
    Informed opId { s.setCall i (operation.next opId s.mem now) with
      mem := operation.apply opId s.mem now } where
  upToDate := by
    by_cases howes : (operation.next opId s.mem now).owesNotification = true
    · left
      refine ⟨i, ?_⟩
      show ((s.setCall i _).calls i).owesNotification = true
      simpa [setCall] using howes
    · rcases h.upToDate with ⟨j, hj⟩ | hall
      · left
        refine ⟨j, ?_⟩
        have hji : j ≠ i := by
          rintro rfl
          rw [hidle] at hj
          cases hj
        show ((s.setCall i _).calls j).owesNotification = true
        simpa [setCall, hji] using hj
      · right
        intro q hq r e hr he
        rw [apply_store hcreate] at hr
        obtain ⟨hstatus, hresult⟩ := apply_quiet hcreate (Bool.eq_false_iff.mpr howes) hr
        exact (hall q hq r e hr he).congr hstatus hresult
  knows q hq hread hsome := by
    rw [apply_store hcreate] at hsome
    exact h.knows q hq hread hsome

/-- A notification brings everyone up to date. -/
theorem informed_notify (s : StoreSystem) (i : ℕ) :
    Informed opId { s.setCall i .returned with subscribers := s.deliver opId isoformat } where
  upToDate := by
    right
    intro q hq r e hr he
    have hr' : s.mem.store opId = some r := hr
    have hreport : s.report? opId isoformat = some ((s.mem.records r).toStatusResponse isoformat
        (s.mem.contracts (s.mem.records r).contract)) := by
      unfold report?
      rw [hr']
      rfl
    have hq' : q ∈ s.registered := hq
    -- the event is the last element of the queue now
    have hlatest : (s.deliver opId isoformat q).latest = some
        ((s.mem.records r).toStatusResponse isoformat
          (s.mem.contracts (s.mem.records r).contract)) := by
      simp [deliver, hreport, hq', Subscriber.latest]
    obtain rfl := Option.some.inj (hlatest.symm.trans he)
    exact WorkflowRecord.carries_toStatusResponse _ _ _
  knows q hq hread hsome := by
    have hq' : q ∈ s.registered := hq
    obtain ⟨r, hr⟩ := Option.isSome_iff_exists.mp hsome
    have hr' : s.mem.store opId = some r := hr
    simp [deliver, report?, hr', hq', Subscriber.latest]

/-- A new subscriber knows nothing yet. -/
theorem Informed.subscribe (h : s.Informed opId) {q : ℕ} (hq : q ∉ s.registered) :
    Informed opId { s with
      registered := s.registered ++ [q]
      subscribers := Function.update s.subscribers q {} } where
  upToDate := by
    rcases h.upToDate with howes | hall
    · exact .inl howes
    · right
      intro q' hq' r e hr he
      by_cases heq : q' = q
      · subst heq
        simp [Subscriber.latest] at he
      · have hmem : q' ∈ s.registered := by simpa [heq] using hq'
        exact hall q' hmem r e hr (by simpa [heq] using he)
  knows q' hq' hread hsome := by
    by_cases heq : q' = q
    · subst heq
      simp at hread
    · have hmem : q' ∈ s.registered := by simpa [heq] using hq'
      simpa [heq] using h.knows q' hmem (by simpa [heq] using hread) hsome

/-- What a subscriber reads is the state of the record. -/
theorem Informed.read (h : s.Informed opId) {q : ℕ} :
    Informed opId { s with
      subscribers := Function.update s.subscribers q
        { s.subscribers q with hasRead := true, snapshot := s.report? opId isoformat } } where
  upToDate := by
    rcases h.upToDate with howes | hall
    · exact .inl howes
    · right
      intro q' hq' r e hr he
      by_cases heq : q' = q
      · subst heq
        simp only [Function.update_self, Subscriber.latest] at he
        cases hlast : (s.subscribers q').received.getLast? with
        | some last =>
          -- the queue goes before what was read
          rw [hlast] at he
          obtain rfl := Option.some.inj he
          exact hall q' hq' r last hr (by simp [Subscriber.latest, hlast])
        | none =>
          rw [hlast, Option.none_or] at he
          have hr' : s.mem.store opId = some r := hr
          unfold report? at he
          rw [hr'] at he
          obtain rfl := Option.some.inj he
          exact WorkflowRecord.carries_toStatusResponse _ _ _
      · exact hall q' hq' r e hr (by simpa [heq] using he)
  knows q' hq' hread hsome := by
    by_cases heq : q' = q
    · subst heq
      obtain ⟨r, hr⟩ := Option.isSome_iff_exists.mp hsome
      have hr' : s.mem.store opId = some r := hr
      cases hlast : (s.subscribers q').received.getLast? <;>
        simp [Subscriber.latest, report?, hr', hlast]
    · simpa [heq] using h.knows q' hq' (by simpa [heq] using hread) hsome

/-- Every step but `create` keeps the invariant. -/
theorem informed_step {a : StoreAction} (h : s.Informed opId) (hcreate : a.creates = false)
    (hstep : (machine opId isoformat).step s a = some t) : t.Informed opId := by
  -- a call that moves on to its next phase owes what it owed
  have hmoves : ∀ {i : ℕ} {pc : CallAt}, pc.owesNotification = (s.calls i).owesNotification →
      ∀ j, (s.calls j).owesNotification = true →
        ((s.setCall i pc).calls j).owesNotification = true := by
    intro i pc hpc j hj
    by_cases hji : j = i
    · subst hji
      simpa [setCall, hpc] using hj
    · simpa [setCall, hji] using hj
  have hafter : ∀ notifies, (CallAt.afterPersist notifies).owesNotification = notifies := by
    intro notifies
    cases notifies <;> rfl
  cases steps_of_step hstep with
  | call hidle hallowed => exact h.call hidle hcreate
  | acquire hi => exact h.congr rfl rfl rfl (hmoves (by rw [hi]; rfl))
  | land hi
  | failsAcquiring hi
  | failsUpserting hi => exact h.congr rfl rfl rfl (hmoves (by rw [hi, hafter]; rfl))
  | notify hi => exact informed_notify s _
  | subscribe hq => exact h.subscribe hq
  | read hq hread => exact h.read
  | @unsubscribe q =>
    have hkept : ∀ q', q' ∈ s.registered.filter (· ≠ q) → q' ∈ s.registered :=
      fun q' hq' => List.mem_of_mem_filter hq'
    exact
      { upToDate := h.upToDate.imp_right fun hall q' hq' => hall q' (hkept q' hq')
        knows := fun q' hq' => h.knows q' (hkept q' hq') }

/-- **No subscriber misses the final state.** Once all calls have returned, what every registered
subscriber knows last carries the status of the record and, if that status reports one, its
execution result; and a subscriber that has read knows something. -/
theorem subscribers_informed {s₀ : StoreSystem} {actions : List StoreAction} (hsilent : s₀.Silent)
    (hcreate : ∀ a ∈ actions, a.creates = false)
    (hrun : (machine opId isoformat).exec s₀ actions = some s)
    (hreturned : ∀ i, s.calls i = .idle ∨ s.calls i = .returned) {r : Ref}
    (hr : s.mem.store opId = some r) (q : ℕ) (hq : q ∈ s.registered) :
    (∀ e, (s.subscribers q).latest = some e → (s.mem.records r).Carries e) ∧
      ((s.subscribers q).hasRead = true → ∃ e, (s.subscribers q).latest = some e) := by
  have hinformed := (machine opId isoformat).exec_invariant
    (fun _ _ _ h (hG : StoreAction.creates _ = false) hs => informed_step h hG hs) hsilent.informed
    (Machine.guarded_of_mem _ (fun a ha _ => hcreate a ha) s₀) hrun
  constructor
  · intro e he
    rcases hinformed.upToDate with ⟨i, hi⟩ | hall
    · -- a call that has returned owes nothing
      rcases hreturned i with hidle | hdone
      · rw [hidle] at hi
        cases hi
      · rw [hdone] at hi
        cases hi
    · exact hall q hq r e hr he
  · intro hread
    exact Option.isSome_iff_exists.mp (hinformed.knows q hq hread (by rw [hr]; rfl))

/-! ## Two writers -/

/-- The store with the record of the id, before anybody has called. -/
def created : StoreSystem where
  mem := sampleMemory
  calls _ := .idle
  row := none
  computed := 0
  registered := []
  subscribers _ := {}

/-- The subscriber registers between the changes and the notifications, which come in the other
order. -/
def reordered : List StoreAction :=
  [.call 0 (.setExecutionResult [("success", .bool true)]) 1, .acquire 0,
    .call 1 (.updateStatus .completed) 2, .subscribe 7, .acquire 1, .land 1, .read 7, .notify 1,
    .land 0, .notify 0]

theorem subscribers_informed_reordered :
    ∃ s e, (machine "cg_1" fun _ => "").exec created reordered = some s ∧
      (s.subscribers 7).latest = some e ∧ e.get "status" = .str "COMPLETED" ∧
      e.get "execution_result" = .obj [("success", .bool true)] := by
  obtain ⟨s, hrun⟩ : ∃ s, (machine "cg_1" fun _ => "").exec created reordered = some s := ⟨_, rfl⟩
  have hcreate : ∀ a ∈ reordered, a.creates = false := by
    intro a ha
    simpa using List.all_eq_true.mp (rfl : reordered.all (fun a => !a.creates) = true) a ha
  have hstate := Option.some.inj hrun
  have hreturned : ∀ i, s.calls i = .idle ∨ s.calls i = .returned := by
    intro i
    subst hstate
    by_cases h0 : i = 0
    · exact .inr (by subst h0; rfl)
    by_cases h1 : i = 1
    · exact .inr (by subst h1; rfl)
    exact .inl (by simp [setCall, created, h0, h1])
  have hstored : s.mem.store "cg_1" = some 0 := by
    subst hstate
    rfl
  have hregistered : 7 ∈ s.registered := by
    subst hstate
    exact List.mem_singleton.mpr rfl
  obtain ⟨hcarries, hknows⟩ := subscribers_informed ⟨fun _ => rfl, rfl⟩ hcreate hrun hreturned
    hstored 7 hregistered
  obtain ⟨e, he⟩ := hknows (by subst hstate; rfl)
  have hstatus : (s.mem.records 0).status = .completed := by
    subst hstate
    rfl
  have hresult : (s.mem.records 0).resultJson = .obj [("success", .bool true)] := by
    subst hstate
    rfl
  refine ⟨s, e, hrun, he, ?_, ?_⟩
  · rw [(hcarries e he).status, hstatus]
    rfl
  · rw [(hcarries e he).result (by rw [hstatus]; rfl), hresult]

end StoreSystem
