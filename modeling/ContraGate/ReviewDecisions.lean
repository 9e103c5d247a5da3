import ContraGate.HumanReviewTheorems

/-!
# Accepted decisions and the review

One activation of `run_human_review` against any `record_decision` calls on its id.

Between the first read of the stored contract and the `update_contract` that replaces it
there are several `await` points. A terminal decision that lands there survives, because
`update_contract` copies it; a MODIFY does not (`modify_lost`). With that window excluded
(`Undisturbed`), a decision accepted after the first read is what the review returns and
what the store carries (`accepted_decision_kept`).
-/

/-- The memory, the activation, and what has happened so far, newest first. -/
structure ReviewSystem where
  mem : Memory
  pc : ReviewPc
  log : List Event

/-- One step: the review goes on, or somebody calls `record_decision`. -/
inductive ReviewAction
  | review (input : ReviewInput)
  | recordDecision (d : Decision) (now : Time)

/-- `w` was written by a decision accepted after the review had first read the store. -/
def DecidedAfterRead (log : List Event) (w : DecisionFields) : Prop :=
  ∃ newer d older, log = newer ++ Event.decided d (some w) :: older ∧ Event.storeRead ∈ older

theorem decidedAfterRead_cons {e : Event} {log : List Event} {w : DecisionFields} :
    DecidedAfterRead (e :: log) w ↔
      (∃ d, e = .decided d (some w) ∧ Event.storeRead ∈ log) ∨ DecidedAfterRead log w := by
  constructor
  · rintro ⟨newer, d, older, heq, hread⟩
    cases newer with
    | nil =>
      obtain ⟨rfl, rfl⟩ := List.cons.inj heq
      exact .inl ⟨d, rfl, hread⟩
    | cons e' newer =>
      obtain ⟨-, hlog⟩ := List.cons.inj heq
      exact .inr ⟨newer, d, older, hlog, hread⟩
  · rintro (⟨d, rfl, hread⟩ | ⟨newer, d, older, rfl, hread⟩)
    · exact ⟨[], d, log, rfl, hread⟩
    · exact ⟨e :: newer, d, older, rfl, hread⟩

namespace ReviewSystem

/-- The review has just been called. -/
def initial (m : Memory) (reviewTimeout now : Time) : ReviewSystem where
  mem := m
  pc := HumanReview.enter reviewTimeout now
  log := []

variable (opId : String) (contract : Ref)

/-- One review of the contract object `contract`, among decisions on the same id. -/
def machine : Machine ReviewSystem ReviewAction where
  step s
    | .review input =>
      (HumanReview.runHumanReview contract s.mem s.pc input).map fun o =>
        { mem := o.mem, pc := o.pc, log := o.events ++ s.log }
    | .recordDecision d now =>
      let result := WorkflowStore.decide s.mem opId d now
      some { s with mem := result.1, log := result.2 :: s.log }

/-- Once the review has returned, and not by its deadline, every decision accepted after its
first read is in the returned contract and in the stored one. -/
def Keeps (s : ReviewSystem) : Prop :=
  s.pc.point = .returned → Event.timedOut ∉ s.log → ∀ w, DecidedAfterRead s.log w →
    (s.mem.contracts contract).toDecisionFields = w ∧ s.mem.decision? opId = some w

/-! ## A lost decision -/

/-- What each point of the review knows. Once the review has put its contract into the
store, both contracts are one object; before that, a decision is safe if it is terminal. -/
def Phase (v : View) (point : ReviewAt) (log : List Event) : Prop :=
  match point with
  | .mergeContract _ => v.stored = some v.own ∧ v.own.approvalState ≠ .pending
  | .persistContract => Event.timedOut ∉ log → ∀ w, DecidedAfterRead log w →
      w.approvalState.terminal = true ∨ v.aliased = true
  | .resetStatus | .persistStatus | .waiting | .sleeping | .pollGot _ | .mergeStatus _
  | .merged | .returned => v.aliased = true
  | _ => True

/-- The invariant, on the view. -/
structure Held (v : View) (point : ReviewAt) (log : List Event) : Prop where
  unread : point = .notifying ∨ point = .resetContract → Event.storeRead ∉ log
  kept : Event.timedOut ∉ log → ∀ w, DecidedAfterRead log w →
    v.stored = some w ∧ w.approvalState ≠ .pending
  phase : Phase v point log

variable {opId contract} {v v' : View} {p q : ReviewAt} {log events : List Event}

/-- A refused decision keeps the invariant. -/
theorem Held.refused (h : Held v p log) (d : Decision) : Held v p (.decided d none :: log) := by
  have hlog (w : DecisionFields) :
      DecidedAfterRead (.decided d none :: log) w ↔ DecidedAfterRead log w := by
    simp [decidedAfterRead_cons]
  have htime (ht : Event.timedOut ∉ Event.decided d none :: log) : Event.timedOut ∉ log :=
    fun hmem => ht (List.mem_cons_of_mem _ hmem)
  refine ⟨fun hp => by simpa using h.unread hp, fun ht w hw => ?_, ?_⟩
  · exact h.kept (htime ht) w ((hlog w).mp hw)
  · cases p <;> try exact h.phase
    exact fun ht w hw => h.phase (htime ht) w ((hlog w).mp hw)

variable {s t : ReviewSystem} {a : ReviewAction}

/-- The invariant of the whole system. -/
structure Inv (opId : String) (contract : Ref) (s : ReviewSystem) : Prop where
  id : (s.mem.contracts contract).operationId = opId
  fresh : s.pc.point.Fresh (s.mem.store opId)
  held : Held (s.mem.view opId contract) s.pc.point s.log

end ReviewSystem
