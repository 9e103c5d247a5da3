import Mathlib.Data.Int.Notation
import ContraGate.Library.Machine

/-!
# How long a run can be

A step that counts must be paid for: by a potential of the state that it lowers, or by a credit that
the run is given on the way. `Paid` is the condition on one step, and `Paid.exec` what follows for
a run: it has no more of these steps than the potential it starts with and the credits it is given.

Where a machine waits for a time to pass, the potential needs a clock. `clocked` adds to the state
the time of the last step that has one. A wait that is repeated until a deadline, and that takes no
less than `interval` each time, can be repeated `rounds` times.
-/

namespace Machine

variable {σ α : Type*} (M : Machine σ α)

/-- In the states with `I`, a step that counts is paid for by `potential` or by `credit`. -/
structure Paid (I : σ → Prop) (counts : α → Bool) (potential credit : σ → ℕ) : Prop where
  invariant : ∀ {s a t}, I s → M.step s a = some t → I t
  step : ∀ {s a t}, I s → M.step s a = some t →
    (counts a).toNat + potential t + credit s ≤ potential s + credit t

/-- **The steps of a run that count** are at most the potential it starts with and the credits it is
given. -/
theorem Paid.exec {M : Machine σ α} {I : σ → Prop} {counts : α → Bool} {potential credit : σ → ℕ}
    (h : M.Paid I counts potential credit) {s t : σ} {as : List α} (hs : I s)
    (hrun : M.exec s as = some t) :
    as.countP counts + potential t + credit s ≤ potential s + credit t := by
  induction as generalizing s with
  | nil =>
    obtain rfl : s = t := by simpa using hrun
    simp
  | cons a as ih =>
    obtain ⟨u, hu, ht⟩ := M.exec_cons_eq_some.mp hrun
    have hfirst := h.step hs hu
    have hrest := ih (h.invariant hs hu) ht
    rw [List.countP_cons]
    cases hcounts : counts a <;> rw [hcounts] at hfirst
    · simp only [Bool.toNat_false] at hfirst
      simp only [Bool.false_eq_true, if_false]
      omega
    · simp only [Bool.toNat_true] at hfirst
      simp only [if_true]
      omega

/-- A machine with a clock: a step that has a `time` is not taken before it is `due`, and the
clock shows the time of the last such step. -/
def clocked (time : α → Option ℤ) (due : σ → ℤ → ℤ) : Machine (σ × ℤ) α where
  step s a :=
    match time a with
    | none => (M.step s.1 a).map fun t => (t, s.2)
    | some now => if due s.1 s.2 ≤ now then (M.step s.1 a).map fun t => (t, now) else none

variable {M} {time : α → Option ℤ} {due : σ → ℤ → ℤ}

/-- A step of a machine with a clock. -/
theorem clocked_step {s t : σ × ℤ} {a : α} (h : (M.clocked time due).step s a = some t) :
    M.step s.1 a = some t.1 ∧ (time a = none ∧ t.2 = s.2 ∨
      time a = some t.2 ∧ due s.1 s.2 ≤ t.2) := by
  simp only [clocked] at h
  split at h
  · rename_i hnone
    obtain ⟨u, hu, rfl⟩ := Option.map_eq_some_iff.mp h
    exact ⟨hu, .inl ⟨hnone, rfl⟩⟩
  · rename_i now hnow
    split at h
    · rename_i hdue
      obtain ⟨u, hu, rfl⟩ := Option.map_eq_some_iff.mp h
      exact ⟨hu, .inr ⟨hnow, hdue⟩⟩
    · cases h

/-- A step that is due can be taken. -/
theorem clocked_of_due {s t : σ} {a : α} {clock now : ℤ} (h : M.step s a = some t)
    (htime : time a = some now) (hdue : due s clock ≤ now) :
    (M.clocked time due).step (s, clock) a = some (t, now) := by
  simp [clocked, htime, hdue, h]

/-! ## Waiting until a deadline -/

/-- How often `interval` begins before the deadline. -/
def rounds (interval now deadline : ℤ) : ℕ := ((deadline - now + interval - 1) / interval).toNat

variable {interval now later deadline : ℤ}

/-- Only the time up to the deadline matters. -/
theorem rounds_add (interval now length : ℤ) :
    rounds interval now (now + length) = rounds interval 0 length := by
  have hlength : now + length - now = length - 0 := by omega
  unfold rounds
  rw [hlength]

theorem rounds_le_of_le (deadline : ℤ) (h : 0 < interval) (hle : now ≤ later) :
    rounds interval later deadline ≤ rounds interval now deadline :=
  Int.toNat_le_toNat (Int.ediv_le_ediv h (by omega))

/-- One round passes. -/
theorem rounds_of_lt (h : 0 < interval) (hlt : now < deadline) :
    rounds interval (now + interval) deadline + 1 = rounds interval now deadline := by
  have hsub : deadline - now + interval - 1 =
      deadline - (now + interval) + interval - 1 + 1 * interval := by omega
  have hnonneg : 0 ≤ (deadline - (now + interval) + interval - 1) / interval :=
    Int.ediv_nonneg (by omega) (Int.le_of_lt h)
  unfold rounds
  rw [hsub, Int.add_mul_ediv_right _ _ (Int.ne_of_gt h)]
  omega

end Machine
