import ContraGate.Library.Machine
import ContraGate.ExecutionTheorems

/-!
# How often the target receives an operation

Any number of activations of `run_execution` for one operation id, against each other and
against the other store operations on that id.

The idempotency flag is read when an activation passes its check and written only after
the target has answered, and `create` replaces the record that carries it. So "at most one
call" is not a law of the code: `sent_twice` is a schedule with two. It is the invariant
`Once`, which every step keeps except the two that `Unraced` excludes.
-/

/-- The shared memory, the activations (all but finitely many never leave `start`), and
what has happened so far, newest first. -/
structure ExecutionSystem where
  mem : Memory
  tasks : ℕ → ExecutionAt
  log : List Event

/-- One step: an activation goes on, its target call succeeds or raises `MCPCallError`, or
somebody else calls the store. -/
inductive ExecutionAction
  | resume (i : ℕ) (now : Time)
  | reply (i : ℕ) (r : Except String Py.Json) (now : Time)
  | create (contract : Ref) (manifest : Py.Dict) (now : Time)
  | updateStatus (status : WorkflowStatus) (now : Time)
  | updateContract (contract : Ref) (now : Time)
  | recordDecision (d : Decision) (now : Time)

namespace ExecutionSystem

open Execution

/-- Every activation is about to start. -/
def initial (m : Memory) : ExecutionSystem where
  mem := m
  tasks _ := .start
  log := []

/-- How often the target has been called. -/
def sends (s : ExecutionSystem) : ℕ := s.log.countP Event.isSent

variable (cfg : ExecutionConfig) (opId : String) (contractOf : ℕ → Ref)

/-- Activation `i`, which works on the contract `contractOf i`, is resumed. -/
def runTask (s : ExecutionSystem) (i : ℕ) (input : ExecutionInput) : Option ExecutionSystem :=
  (runExecution cfg (contractOf i) s.mem (s.tasks i) input).map fun o =>
    { mem := o.mem, tasks := Function.update s.tasks i o.pc, log := o.events ++ s.log }

/-- Activations of `run_execution` for `opId`, among other calls on the same id. -/
def machine : Machine ExecutionSystem ExecutionAction where
  step s
    | .resume i now => s.runTask cfg contractOf i (.resume now)
    | .reply i (.ok value) now => s.runTask cfg contractOf i (.reply (.result value) now)
    | .reply i (.error message) now =>
      s.runTask cfg contractOf i (.reply (.mcpCallError message) now)
    | .create contract manifest now =>
      if (s.mem.contracts contract).operationId = opId then
        some { s with mem := WorkflowStore.create s.mem contract manifest now }
      else none
    | .updateStatus status now =>
      some { s with mem := WorkflowStore.updateStatus s.mem opId status now }
    | .updateContract contract now =>
      some { s with mem := WorkflowStore.updateContract s.mem opId contract now }
    | .recordDecision d now =>
      some { s with mem := (WorkflowStore.recordDecision s.mem opId d now).1 }

/-- At most one call to the target, whatever the schedule. -/
def AtMostOnce (s : ExecutionSystem) : Prop :=
  ∀ actions t, (machine cfg opId contractOf).exec s actions = some t → t.sends ≤ 1

/-! ## Two calls -/

/-- The settings of the evaluated runs; no manifest there carries a hash. -/
def sampleConfig : ExecutionConfig where
  manifestHash _ := ""
  isoformat _ := ""
  postgresReaderUrl := "http://contragate-mcp:8010"

/-- Both activations read the flag before either has called. -/
def overlappingSchedule : List ExecutionAction :=
  [.resume 0 1, .resume 1 1, .resume 0 2, .resume 1 2,
    .reply 0 (.ok .null) 3, .reply 1 (.ok .null) 3,
    .resume 0 4, .resume 1 4, .resume 0 5, .resume 1 5]

/-- Two concurrent activations on a fresh record both reach the target, and both calls
succeed. -/
theorem sent_twice :
    ((machine sampleConfig "cg_1" fun _ => 0).exec (initial sampleMemory)
      overlappingSchedule).map sends = some 2 ∧
    ¬ AtMostOnce sampleConfig "cg_1" (fun _ => 0) (initial sampleMemory) := by
  have hrun : ((machine sampleConfig "cg_1" fun _ => 0).exec (initial sampleMemory)
      overlappingSchedule).map sends = some 2 := rfl
  refine ⟨hrun, fun hlaw => ?_⟩
  obtain ⟨t, ht, hsends⟩ := Option.map_eq_some_iff.mp hrun
  have := hlaw overlappingSchedule t ht
  omega

/-! ## At most one call -/

/-- The two races are absent: an activation passes both checks only when no other one is
between its target call and `set_execution_result` and the record now in the store has not
been executed; and `create` does not replace an executed record. -/
def Unraced (s : ExecutionSystem) : ExecutionAction → Prop
  | .resume i _ =>
    ∀ r, s.tasks i = .got (some r) → (s.mem.records r).executionCompleted = false →
      manifestIntact cfg ((s.mem.records r).toolCallManifest.getD []) = true →
      (∀ j, (s.tasks j).inFlight = false) ∧ s.mem.executed opId = false
  | .create _ _ _ => s.mem.executed opId = false
  | _ => True

/-- Either nothing has been sent; or one call has been, and it is still in flight or the
stored record says so. -/
structure Once (s : ExecutionSystem) : Prop where
  ids : ∀ i, (s.mem.contracts (contractOf i)).toIdentity.operationId = opId
  held : ∀ i r, s.tasks i = .got (some r) → (s.mem.store opId).isSome
  once : s.sends = 0 ∨ s.sends = 1 ∧ (s.mem.store opId).isSome ∧
    (s.mem.executed opId = true ∨ ∃ i, (s.tasks i).inFlight = true)

variable {cfg opId contractOf} {s t : ExecutionSystem} {a : ExecutionAction}

theorem once_initial {m : Memory} (hids : ∀ i, (m.contracts (contractOf i)).operationId = opId) :
    Once opId contractOf (initial m) where
  ids := hids
  held i r h := by cases h
  once := .inl rfl

theorem Once.sends_le (h : Once opId contractOf s) : s.sends ≤ 1 := by
  rcases h.once with h0 | ⟨h1, _⟩ <;> omega

/-- A store operation that keeps identities, the flag and the presence of a record. -/
theorem Once.of_store {m : Memory} (h : Once opId contractOf s)
    (hids : ∀ c, (m.contracts c).toIdentity = (s.mem.contracts c).toIdentity)
    (hstore : (s.mem.store opId).isSome → (m.store opId).isSome)
    (hflag : m.executed opId = s.mem.executed opId) :
    Once opId contractOf { s with mem := m } where
  ids i := by rw [hids]; exact h.ids i
  held i r hi := hstore (h.held i r hi)
  once := by
    rcases h.once with h0 | ⟨h1, hsome, hwhy⟩
    · exact .inl h0
    · exact .inr ⟨h1, hstore hsome, by rwa [hflag]⟩

theorem sends_runTask {i : ℕ} {o : Resumed ExecutionAt} :
    sends { mem := o.mem, tasks := Function.update s.tasks i o.pc, log := o.events ++ s.log } =
      o.events.countP Event.isSent + s.sends :=
  List.countP_append

/-- A step of one activation keeps `Once`. -/
theorem once_runTask {i : ℕ} {input : ExecutionInput} (h : Once opId contractOf s)
    (hguard : ∀ now, input = .resume now → Unraced cfg opId s (.resume i now))
    (hinput : ∀ now, input ≠ .reply .otherError now)
    (hstep : s.runTask cfg contractOf i input = some t) : Once opId contractOf t := by
  obtain ⟨o, ho, rfl⟩ := Option.map_eq_some_iff.mp hstep
  have hframe := runExecution_frame ho
  have hid : (s.mem.contracts (contractOf i)).operationId = opId := h.ids i
  have hheld : ∀ j r, Function.update s.tasks i o.pc j = .got (some r) →
      (o.mem.store opId).isSome := by
    intro j r hj
    rw [hframe.store]
    by_cases hji : j = i
    · subst hji
      have hgot := runExecution_got ho (by simpa using hj)
      rw [hid] at hgot
      simp [hgot]
    · exact h.held j r (by simpa [hji] using hj)
  refine ⟨fun j => by rw [hframe.identity]; exact h.ids j, hheld, ?_⟩
  rw [sends_runTask]
  rcases runExecution_cases ho with
    ⟨r, now, hpc, hresume, hflag, hintact, hout⟩ | ⟨result, now, hpc, hpc', hev, hmem⟩ | hquiet
  · -- the call: nothing was sent before
    obtain ⟨hidle, hnot⟩ := hguard now hresume r hpc hflag hintact
    have hzero : s.sends = 0 := by
      rcases h.once with h0 | ⟨_, _, hdone | ⟨j, hj⟩⟩
      · exact h0
      · rw [hnot] at hdone; cases hdone
      · rw [hidle j] at hj; cases hj
    subst hout
    refine .inr ⟨by rw [hzero]; rfl, h.held i r hpc, .inr ⟨i, ?_⟩⟩
    simp [ExecutionAt.inFlight]
  · -- the result is recorded in whatever record the store now has
    rw [hev, hmem, hid]
    rcases h.once with h0 | ⟨h1, hsome, _⟩
    · exact .inl (by simpa using h0)
    · refine .inr ⟨by simpa using h1, by simpa using hsome, .inl ?_⟩
      exact WorkflowStore.setExecutionResult_executed hsome result now
  · rw [hquiet.events, Nat.zero_add, hquiet.store]
    have hflag : o.mem.executed opId = s.mem.executed opId := by
      unfold Memory.executed Memory.record?
      rw [hquiet.store, hquiet.records]
    rcases h.once with h0 | ⟨h1, hsome, hdone | ⟨j, hj⟩⟩
    · exact .inl h0
    · exact .inr ⟨h1, hsome, .inl (hflag.trans hdone)⟩
    · refine .inr ⟨h1, hsome, .inr ⟨j, ?_⟩⟩
      by_cases hji : j = i
      · subst hji
        rcases hquiet.inFlight with heq | ⟨now, herror⟩
        · simpa [← heq] using hj
        · exact absurd herror (hinput now)
      · simpa [hji] using hj

/-- Every unraced step keeps `Once`. -/
theorem once_step (h : Once opId contractOf s) (hguard : Unraced cfg opId s a)
    (hstep : (machine cfg opId contractOf).step s a = some t) : Once opId contractOf t := by
  cases a with
  | resume i now =>
    refine once_runTask h (fun now' hnow => ?_) (by simp) hstep
    cases hnow
    exact hguard
  | reply i r now =>
    cases r with
    | ok value => exact once_runTask h (by simp) (by simp) hstep
    | error message => exact once_runTask h (by simp) (by simp) hstep
  | create contract manifest now =>
    simp only [machine] at hstep
    split at hstep
    · rename_i hid
      obtain rfl := Option.some.inj hstep
      refine h.of_store (fun _ => rfl) (fun _ => ?_) ?_
      · simp [WorkflowStore.create, hid]
      · -- the new record has not been executed, and neither had the old one
        rw [show s.mem.executed opId = false from hguard]
        simp [WorkflowStore.create, Memory.executed, Memory.record?, hid]
    · cases hstep
  | updateStatus status now =>
    obtain rfl := Option.some.inj hstep
    exact h.of_store (by simp) (by simp) (by simp)
  | updateContract contract now =>
    obtain rfl := Option.some.inj hstep
    exact h.of_store (by simp) (by simp) (by simp)
  | recordDecision d now =>
    obtain rfl := Option.some.inj hstep
    exact h.of_store (by simp) (by simp) (by simp)

/-- **At-most-once execution, without the two races.** In every run of any activations and
store operations whose steps are all unraced, the target is called at most once. -/
theorem sent_at_most_once (m : Memory) (actions : List ExecutionAction)
    (hids : ∀ i, (m.contracts (contractOf i)).operationId = opId)
    (hunraced : (machine cfg opId contractOf).Guarded (Unraced cfg opId) (initial m) actions)
    (hrun : (machine cfg opId contractOf).exec (initial m) actions = some t) : t.sends ≤ 1 :=
  ((machine cfg opId contractOf).exec_invariant (fun _ _ _ h hG hs => once_step h hG hs)
    (once_initial hids) hunraced hrun).sends_le

/-- Two activations, one after the other: the second one is skipped. -/
def sequentialSchedule : List ExecutionAction :=
  [.resume 0 1, .resume 0 2, .reply 0 (.ok .null) 3, .resume 0 4, .resume 1 5, .resume 1 6]

theorem sent_at_most_once_sequential :
    ∃ t, (machine sampleConfig "cg_1" fun _ => 0).exec (initial sampleMemory)
        sequentialSchedule = some t ∧ t.sends ≤ 1 := by
  have hunraced : (machine sampleConfig "cg_1" fun _ => 0).Guarded
      (Unraced sampleConfig "cg_1") (initial sampleMemory) sequentialSchedule := by
    refine Machine.guarded_cons _ rfl (fun r h => nomatch h) ?_
    refine Machine.guarded_cons _ rfl (fun r _ _ _ => ⟨fun j => ?_, rfl⟩) ?_
    · -- only activation 0 has started
      by_cases hj : j = 0 <;> simp [initial, hj, ExecutionAt.inFlight]
    refine Machine.guarded_cons _ rfl trivial ?_
    refine Machine.guarded_cons _ rfl (fun r h => nomatch h) ?_
    refine Machine.guarded_cons _ rfl (fun r h => nomatch h) ?_
    refine Machine.guarded_cons _ rfl (fun r h hflag => ?_) trivial
    -- the record activation 1 has read is executed
    cases h
    cases hflag
  have hrun : (machine sampleConfig "cg_1" fun _ => 0).exec (initial sampleMemory)
      sequentialSchedule = some _ := rfl
  exact ⟨_, hrun, sent_at_most_once sampleMemory _ (fun _ => rfl) hunraced hrun⟩

end ExecutionSystem
