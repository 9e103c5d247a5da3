import ContraGate.Execution
import ContraGate.WorkflowStoreTheorems

/-!
# What one stretch of `run_execution` does

`runExecution_cases` says what a stretch can do and `runExecution_frame` what it leaves
alone. The proofs about runs use these and never look inside `runExecution`.
-/

/-- The target has been called and the result is not yet recorded. -/
def ExecutionAt.inFlight : ExecutionAt → Bool
  | calling | storing _ => true
  | _ => false

namespace Execution

variable {cfg : ExecutionConfig} {contract : Ref} {m : Memory} {pc : ExecutionAt}
  {input : ExecutionInput} {o : Resumed ExecutionAt}

/-- Nothing is sent, and no record changes. -/
structure Quiet (m : Memory) (pc : ExecutionAt) (input : ExecutionInput)
    (o : Resumed ExecutionAt) : Prop where
  store : o.mem.store = m.store
  records : o.mem.records = m.records
  events : o.events.countP Event.isSent = 0
  /-- A call in flight stays in flight, unless the reply is an error nobody catches. -/
  inFlight : pc.inFlight = o.pc.inFlight ∨ ∃ now, input = .reply .otherError now

/-- What one stretch can do: call the target, record the result, or nothing of the kind. -/
theorem runExecution_cases (h : runExecution cfg contract m pc input = some o) :
    (∃ r now, pc = .got (some r) ∧ input = .resume now ∧
      (m.records r).executionCompleted = false ∧
      manifestIntact cfg ((m.records r).toolCallManifest.getD []) = true ∧
      o = { mem := m, pc := .calling, events := [.sent
        (toolCall cfg ((m.records r).toolCallManifest.getD []) (m.contracts contract))] }) ∨
    (∃ result now, pc = .storing result ∧ o.pc = .stored ∧ o.events = [] ∧
      o.mem = WorkflowStore.setExecutionResult m (m.contracts contract).operationId result now) ∨
    Quiet m pc input o := by
  unfold runExecution at h
  split at h
  -- the checks before the call
  case h_3 r now =>
    obtain rfl := Option.some.inj h
    unfold checkAndCall
    dsimp only
    split
    · exact .inr (.inr ⟨rfl, rfl, rfl, .inl rfl⟩)
    · rename_i hcompleted
      split
      · rename_i hintact
        exact .inl ⟨r, now, rfl, rfl, by simpa using hcompleted, hintact, rfl⟩
      · exact .inr (.inr ⟨rfl, rfl, rfl, .inl rfl⟩)
  -- an error that nobody catches
  case h_6 now =>
    obtain rfl := Option.some.inj h
    exact .inr (.inr ⟨rfl, rfl, rfl, .inr ⟨now, rfl⟩⟩)
  case h_7 result now =>
    obtain rfl := Option.some.inj h
    exact .inr (.inl ⟨result, now, rfl, rfl, rfl, rfl⟩)
  case h_9 => cases h
  all_goals
    obtain rfl := Option.some.inj h
    exact .inr (.inr ⟨rfl, rfl, rfl, .inl rfl⟩)

/-- `run_execution` never touches a decision field, a status or which contract is stored. -/
theorem runExecution_frame (h : runExecution cfg contract m pc input = some o) :
    m.SameDecisions o.mem := by
  unfold runExecution at h
  split at h
  case h_3 r now =>
    obtain rfl := Option.some.inj h
    unfold checkAndCall
    dsimp only
    split
    · dsimp only
      refine m.sameDecisions_modifyContract _ _ ?_ ?_ ?_ <;> intro _ <;> rfl
    · split
      · exact .refl m
      · dsimp only
        refine m.sameDecisions_modifyContract _ _ ?_ ?_ ?_ <;> intro _ <;> rfl
  -- the result goes into fields of the record that hold no decision
  case h_7 result now =>
    obtain rfl := Option.some.inj h
    exact m.sameDecisions_setExecutionResult _ _ _
  case h_9 => cases h
  all_goals
    obtain rfl := Option.some.inj h
    dsimp only
    first
    | exact .refl m
    | refine m.sameDecisions_modifyContract _ _ ?_ ?_ ?_ <;> intro _ <;> rfl

/-- A `get` that found a record found it in the store. -/
theorem runExecution_got {r : Ref} (h : runExecution cfg contract m pc input = some o)
    (hgot : o.pc = .got (some r)) : m.store (m.contracts contract).operationId = some r := by
  unfold runExecution at h
  split at h
  case h_1 =>
    obtain rfl := Option.some.inj h
    exact ExecutionAt.got.inj hgot
  case h_3 =>
    obtain rfl := Option.some.inj h
    unfold checkAndCall at hgot
    dsimp only at hgot
    split at hgot
    · cases hgot
    · split at hgot <;> cases hgot
  case h_9 => cases h
  all_goals
    obtain rfl := Option.some.inj h
    cases hgot

end Execution
