import Mathlib.Logic.Basic

/-!
# Noninterference by unwinding

A server answers calls of several parties. `Unwinds` says that one party sees the server as another,
smaller one that only its own calls reach: its calls act on both alike, and the calls of the others
leave what it sees as it is. Then its answers are the smaller server's answers to its own calls
(`answers_eq`), whatever the others call (`answers_congr`). Both properties of a step may depend on
a condition, which then has to hold at every call of a run.
-/

/-- A server that answers each call. -/
structure Server (σ ι ο : Type*) where
  step : σ → ι → σ × ο

namespace Server

variable {σ τ ι ο : Type*} (server : Server σ ι ο)

/-- The answers to those calls that `shown` selects. -/
def answers (shown : ι → Bool) : σ → List ι → List ο
  | _, [] => []
  | s, c :: calls =>
    if shown c then (server.step s c).2 :: answers shown (server.step s c).1 calls
    else answers shown (server.step s c).1 calls

/-- Every call meets a condition in the state in which it is made. -/
def Guarded (guard : σ → ι → Prop) : σ → List ι → Prop
  | _, [] => True
  | s, c :: calls => guard s c ∧ Guarded guard (server.step s c).1 calls

/-- Under a condition, the party whose calls are `own` sees another server. -/
structure Unwinds (seen : Server τ ι ο) (guard : σ → ι → Prop) (own : ι → Bool) (view : σ → τ) :
    Prop where
  own_step : ∀ {s c}, guard s c → own c = true →
    seen.step (view s) c = (view (server.step s c).1, (server.step s c).2)
  other_step : ∀ {s c}, guard s c → own c = false → view (server.step s c).1 = view s

variable {server} {seen : Server τ ι ο} {guard : σ → ι → Prop} {own shown : ι → Bool} {view : σ → τ}
  {s : σ} {calls calls' : List ι}

/-- The answers to a party are those of the server that it sees to its own calls. -/
theorem answers_eq (h : server.Unwinds seen guard own view) (hshown : ∀ c, shown c = true → own c = true)
    (hguard : server.Guarded guard s calls) :
    server.answers shown s calls = seen.answers shown (view s) (calls.filter own) := by
  induction calls generalizing s with
  | nil => rfl
  | cons c calls ih =>
    obtain ⟨hc, hcalls⟩ := hguard
    by_cases hown : own c = true
    · rw [List.filter_cons_of_pos hown, answers, answers, h.own_step hc hown, ih hcalls]
    · have hnot : ¬ shown c = true := fun hs => hown (hshown c hs)
      rw [List.filter_cons_of_neg hown, answers, if_neg hnot, ih hcalls,
        h.other_step hc (Bool.not_eq_true _ ▸ hown)]

/-- **Noninterference:** the answers do not depend on the calls of the others. -/
theorem answers_congr (h : server.Unwinds seen guard own view)
    (hshown : ∀ c, shown c = true → own c = true) (hcalls : calls.filter own = calls'.filter own)
    (hguard : server.Guarded guard s calls) (hguard' : server.Guarded guard s calls') :
    server.answers shown s calls = server.answers shown s calls' := by
  rw [answers_eq h hshown hguard, answers_eq h hshown hguard', hcalls]

end Server
