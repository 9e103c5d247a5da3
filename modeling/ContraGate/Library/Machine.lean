import Mathlib.Data.List.Basic

/-!
# Machines with partial deterministic steps

A machine has one step function. Whatever the step cannot know by itself (a clock, a
reply, which task is scheduled next) is part of the action, so one action list is one
complete schedule and a run can be evaluated.

* `exec`: run a schedule; `none` when one of its actions is not enabled;
* `Guarded G`: every step of the schedule is taken in a state satisfying `G`;
* `exec_invariant`: what every guarded step preserves, every guarded run preserves.
-/

/-- A step function on states `σ`; the action carries every input of the step. -/
structure Machine (σ α : Type*) where
  step : σ → α → Option σ

namespace Machine

variable {σ α : Type*} (M : Machine σ α)

/-- Run a schedule from a state. -/
def exec : σ → List α → Option σ
  | s, [] => some s
  | s, a :: as => (M.step s a).bind fun t => exec t as

@[simp] theorem exec_nil (s : σ) : M.exec s [] = some s := rfl

theorem exec_cons (s : σ) (a : α) (as : List α) :
    M.exec s (a :: as) = (M.step s a).bind fun t => M.exec t as := rfl

/-- A run of a nonempty schedule is its first step followed by the rest. -/
theorem exec_cons_eq_some {s t : σ} {a : α} {as : List α} :
    M.exec s (a :: as) = some t ↔ ∃ u, M.step s a = some u ∧ M.exec u as = some t := by
  rw [exec_cons, Option.bind_eq_some_iff]

/-- Schedules compose. -/
theorem exec_append_eq_some {s t : σ} {as bs : List α} :
    M.exec s (as ++ bs) = some t ↔ ∃ u, M.exec s as = some u ∧ M.exec u bs = some t := by
  induction as generalizing s with
  | nil => simp
  | cons a as ih =>
    simp only [List.cons_append, exec_cons_eq_some, ih]
    constructor
    · rintro ⟨u, hu, v, hv, ht⟩
      exact ⟨v, ⟨u, hu, hv⟩, ht⟩
    · rintro ⟨v, ⟨u, hu, hv⟩, ht⟩
      exact ⟨u, hu, v, hv, ht⟩

/-- Every step of the run is taken in a state that satisfies `G`. -/
def Guarded (G : σ → α → Prop) : σ → List α → Prop
  | _, [] => True
  | s, a :: as => G s a ∧ ∀ t, M.step s a = some t → Guarded G t as

theorem guarded_cons {G : σ → α → Prop} {s t : σ} {a : α} {as : List α}
    (hstep : M.step s a = some t) (hG : G s a) (h : M.Guarded G t as) :
    M.Guarded G s (a :: as) :=
  ⟨hG, fun u hu => by rw [hstep, Option.some.injEq] at hu; exact hu ▸ h⟩

theorem guarded_cons_iff {G : σ → α → Prop} {s t : σ} {a : α} {as : List α}
    (hstep : M.step s a = some t) :
    M.Guarded G s (a :: as) ↔ G s a ∧ M.Guarded G t as :=
  ⟨fun h => ⟨h.1, h.2 t hstep⟩, fun h => M.guarded_cons hstep h.1 h.2⟩

/-- A guard that always holds. -/
theorem guarded_of_forall {G : σ → α → Prop} (h : ∀ s a, G s a) (s : σ) (as : List α) :
    M.Guarded G s as := by
  induction as generalizing s with
  | nil => trivial
  | cons a as ih => exact ⟨h s a, fun t _ => ih t⟩

/-- A guard that holds of every action of the schedule, in whatever state. -/
theorem guarded_of_mem {G : σ → α → Prop} {as : List α} (h : ∀ a ∈ as, ∀ s, G s a) (s : σ) :
    M.Guarded G s as := by
  induction as generalizing s with
  | nil => trivial
  | cons a as ih =>
    exact ⟨h a List.mem_cons_self s, fun t _ => ih (fun b hb => h b (List.mem_cons_of_mem _ hb)) t⟩

/-- Two guards at once. -/
theorem guarded_and {G H : σ → α → Prop} {s : σ} {as : List α} (hG : M.Guarded G s as)
    (hH : M.Guarded H s as) : M.Guarded (fun s a => G s a ∧ H s a) s as := by
  induction as generalizing s with
  | nil => trivial
  | cons a as ih => exact ⟨⟨hG.1, hH.1⟩, fun t ht => ih (hG.2 t ht) (hH.2 t ht)⟩

/-- A guarded schedule goes on guarded behind what has been run of it. -/
theorem guarded_of_append {G : σ → α → Prop} {s t : σ} {as bs : List α}
    (h : M.Guarded G s (as ++ bs)) (hrun : M.exec s as = some t) : M.Guarded G t bs := by
  induction as generalizing s with
  | nil =>
    obtain rfl : s = t := by simpa using hrun
    exact h
  | cons a as ih =>
    obtain ⟨u, hu, ht⟩ := M.exec_cons_eq_some.mp hrun
    exact ih (h.2 u hu) ht

/-- Guards that agree for the actions of a schedule, in all states with an invariant, agree along
its run. -/
theorem guarded_congr_of_mem {I : σ → Prop} {P : α → Prop} {G H : σ → α → Prop}
    (hstep : ∀ s a t, I s → P a → M.step s a = some t → I t)
    (hGH : ∀ s a, I s → P a → (G s a ↔ H s a)) {s : σ} (hs : I s) {as : List α}
    (hP : ∀ a ∈ as, P a) : M.Guarded G s as ↔ M.Guarded H s as := by
  induction as generalizing s with
  | nil => exact Iff.rfl
  | cons a as ih =>
    obtain ⟨ha, has⟩ := List.forall_mem_cons.mp hP
    refine and_congr (hGH s a hs ha) (forall_congr' fun t => forall_congr' fun ht => ?_)
    exact ih (hstep s a t hs ha ht) has

/-- Guards that agree in all states with an invariant agree along every run. -/
theorem guarded_congr {I : σ → Prop} {G H : σ → α → Prop}
    (hstep : ∀ s a t, I s → M.step s a = some t → I t) (hGH : ∀ s a, I s → (G s a ↔ H s a))
    {s : σ} (hs : I s) (as : List α) : M.Guarded G s as ↔ M.Guarded H s as :=
  M.guarded_congr_of_mem (P := fun _ => True) (fun s a t hs _ => hstep s a t hs)
    (fun s a hs _ => hGH s a hs) hs fun _ _ => trivial

/-- A guard that is decided along the run. -/
def guardedBy (G : σ → α → Bool) : σ → List α → Bool
  | _, [] => true
  | s, a :: as => G s a && (M.step s a).all fun t => guardedBy G t as

theorem guarded_of_guardedBy {G : σ → α → Prop} [∀ s a, Decidable (G s a)] {s : σ} {as : List α}
    (h : M.guardedBy (fun s a => decide (G s a)) s as = true) : M.Guarded G s as := by
  induction as generalizing s with
  | nil => trivial
  | cons a as ih =>
    rw [guardedBy, Bool.and_eq_true, decide_eq_true_eq] at h
    refine ⟨h.1, fun t ht => ih ?_⟩
    rw [ht, Option.all_some] at h
    exact h.2

/-- What every guarded step preserves, every guarded run preserves. -/
theorem exec_invariant {I : σ → Prop} {G : σ → α → Prop}
    (hstep : ∀ s a t, I s → G s a → M.step s a = some t → I t)
    {s t : σ} {as : List α} (hs : I s) (hG : M.Guarded G s as) (hrun : M.exec s as = some t) :
    I t := by
  induction as generalizing s with
  | nil =>
    have : s = t := by simpa using hrun
    exact this ▸ hs
  | cons a as ih =>
    obtain ⟨u, hu, ht⟩ := M.exec_cons_eq_some.mp hrun
    exact ih (hstep s a u hs hG.1 hu) (hG.2 u hu) ht

/-- `exec_invariant` for runs without a guard. -/
theorem exec_preserves {I : σ → Prop} (hstep : ∀ s a t, I s → M.step s a = some t → I t)
    {s t : σ} {as : List α} (hs : I s) (hrun : M.exec s as = some t) : I t :=
  M.exec_invariant (G := fun _ _ => True) (fun s a t h _ => hstep s a t h) hs
    (M.guarded_of_forall (fun _ _ => trivial) s as) hrun

end Machine
