import Mathlib.Data.List.Induction
import ContraGate.Library.Machine

/-!
# A machine as one of its components sees it

Several components share one machine. `Component` says that one of them sees it as a machine of its
own: a step that is addressed to the component is a step of the smaller machine, and any other step
leaves what the component sees as it is. Then every run of the large machine is, as the component
sees it, the run of the small one on the actions addressed to it (`exec`), whatever the others do
(`exec_congr`).

A component may come into being during a run. `exec_changes` finds the step that brings it, and
`Visits` is about the states on the way.

`Refines` is for a machine with larger steps: each of them is a run of the other machine, and the
two runs look the same to an observer of some of the actions.
-/

namespace Machine

variable {σ α τ β γ : Type*}

/-- What does not hold at the start of a run but at its end begins with one of the steps. -/
theorem exec_changes (M : Machine σ α) {P : σ → Prop} {s t : σ} {as : List α} (hs : ¬ P s)
    (ht : P t) (hrun : M.exec s as = some t) :
    ∃ before a after u v, as = before ++ a :: after ∧ M.exec s before = some u ∧
      M.step u a = some v ∧ M.exec v after = some t ∧ ¬ P u ∧ P v := by
  induction as generalizing s with
  | nil =>
    obtain rfl : s = t := by simpa using hrun
    exact absurd ht hs
  | cons a as ih =>
    obtain ⟨v, hv, hrest⟩ := M.exec_cons_eq_some.mp hrun
    by_cases hPv : P v
    · exact ⟨[], a, as, s, v, rfl, rfl, hv, hrest, hs, hPv⟩
    · obtain ⟨before, b, after, u, v', rfl, hu, hv', hafter, hPu, hPv'⟩ := ih hPv hrest
      exact ⟨a :: before, b, after, u, v', rfl, M.exec_cons_eq_some.mpr ⟨v, hv, hu⟩, hv', hafter,
        hPu, hPv'⟩

/-- A weaker guard. -/
theorem guarded_mono (M : Machine σ α) {G H : σ → α → Prop} (h : ∀ s a, G s a → H s a) {s : σ}
    {as : List α} (hG : M.Guarded G s as) : M.Guarded H s as := by
  induction as generalizing s with
  | nil => trivial
  | cons a as ih => exact ⟨h s a hG.1, fun t ht => ih (hG.2 t ht)⟩

/-- A beginning of a guarded schedule is guarded. -/
theorem guarded_of_append_left (M : Machine σ α) {G : σ → α → Prop} {s : σ} {as bs : List α}
    (h : M.Guarded G s (as ++ bs)) : M.Guarded G s as := by
  induction as generalizing s with
  | nil => trivial
  | cons a as ih => exact ⟨h.1, fun t ht => ih (h.2 t ht)⟩

/-- The run of a schedule passes through the state. -/
def Visits (M : Machine σ α) (s : σ) (as : List α) (u : σ) : Prop :=
  ∃ before after, as = before ++ after ∧ M.exec s before = some u

/-- A longer run passes through the same states. -/
theorem Visits.append {M : Machine σ α} {s u : σ} {as : List α} (h : M.Visits s as u)
    (bs : List α) : M.Visits s (as ++ bs) u := by
  obtain ⟨before, after, rfl, hu⟩ := h
  exact ⟨before, after ++ bs, List.append_assoc .., hu⟩

theorem visits_of_exec {M : Machine σ α} {s t : σ} {as : List α} (h : M.exec s as = some t) :
    M.Visits s as t := ⟨as, [], (List.append_nil as).symm, h⟩

/-- What holds at the start, with the run behind it, and is kept by every step that a run makes. -/
theorem exec_history (M : Machine σ α) {I : List α → σ → Prop} {s t : σ} {as : List α}
    (hs : I [] s)
    (hstep : ∀ as a u v, M.exec s as = some u → I as u → M.step u a = some v → I (as ++ [a]) v)
    (hrun : M.exec s as = some t) : I as t := by
  induction as using List.reverseRecOn generalizing t with
  | nil =>
    obtain rfl : s = t := by simpa using hrun
    exact hs
  | append_singleton as a ih =>
    obtain ⟨u, hu, ht⟩ := M.exec_append_eq_some.mp hrun
    obtain ⟨v, hv, hnil⟩ := M.exec_cons_eq_some.mp ht
    obtain rfl : v = t := by simpa using hnil
    exact hstep as a u v hu (ih hu) hv

/-- Every step of a run is taken in a state that the run passes through. -/
theorem guarded_visits (M : Machine σ α) (s : σ) (as : List α) :
    M.Guarded (fun u _ => M.Visits s as u) s as := by
  have hrest (before rest : List α) (u : σ) (has : as = before ++ rest)
      (hu : M.exec s before = some u) : M.Guarded (fun u _ => M.Visits s as u) u rest := by
    induction rest generalizing before u with
    | nil => trivial
    | cons a rest ih =>
      refine ⟨⟨before, a :: rest, has, hu⟩, fun v hv => ih (before ++ [a]) v (by simp [has]) ?_⟩
      exact M.exec_append_eq_some.mpr ⟨u, hu, by simp [exec_cons, hv]⟩
  exact hrest [] as s rfl rfl

/-- In the states with `I`, the component sees `M` as `N`: the state through `view`, and of the
actions those that `seen` hands on. -/
structure Component (M : Machine σ α) (N : Machine τ β) (I : σ → Prop) (view : σ → τ)
    (seen : α → Option β) : Prop where
  invariant : ∀ {s a t}, I s → M.step s a = some t → I t
  own_step : ∀ {s a t b}, I s → M.step s a = some t → seen a = some b →
    N.step (view s) b = some (view t)
  other_step : ∀ {s a t}, I s → M.step s a = some t → seen a = none → view t = view s

namespace Component

variable {M : Machine σ α} {N : Machine τ β} {I : σ → Prop} {view : σ → τ} {seen : α → Option β}
  {s s' t t' : σ} {as as' : List α}

/-- The run of the component is the run on its own actions. -/
theorem exec (h : M.Component N I view seen) (hs : I s) (hrun : M.exec s as = some t) :
    N.exec (view s) (as.filterMap seen) = some (view t) := by
  induction as generalizing s with
  | nil =>
    obtain rfl : s = t := by simpa using hrun
    rfl
  | cons a as ih =>
    obtain ⟨u, hu, ht⟩ := M.exec_cons_eq_some.mp hrun
    have hrest := ih (h.invariant hs hu) ht
    cases hseen : seen a with
    | none => rwa [List.filterMap_cons_none hseen, ← h.other_step hs hu hseen]
    | some b =>
      rw [List.filterMap_cons_some hseen, N.exec_cons_eq_some]
      exact ⟨view u, h.own_step hs hu hseen, hrest⟩

/-- **Noninterference:** what a component sees depends on its own actions alone. -/
theorem exec_congr (h : M.Component N I view seen) (hs : I s) (hs' : I s')
    (hview : view s = view s') (has : as.filterMap seen = as'.filterMap seen)
    (hrun : M.exec s as = some t) (hrun' : M.exec s' as' = some t') : view t = view t' := by
  have hown := h.exec hs hrun
  rw [hview, has, h.exec hs' hrun'] at hown
  exact (Option.some.inj hown).symm

end Component

/-! ## Larger steps -/

/-- In the states with `I`, every step of `M` is a run of `N`, on which the same can be observed. -/
structure Refines (M : Machine σ α) (N : Machine τ β) (I : σ → Prop) (view : σ → τ)
    (label : α → List γ) (observed : β → Option γ) : Prop where
  invariant : ∀ {s a t}, I s → M.step s a = some t → I t
  run : ∀ {s a t}, I s → M.step s a = some t →
    ∃ bs, N.exec (view s) bs = some (view t) ∧ bs.filterMap observed = label a

/-- Every run of `M` is a run of `N`, on which the same can be observed. -/
theorem Refines.exec {M : Machine σ α} {N : Machine τ β} {I : σ → Prop} {view : σ → τ}
    {label : α → List γ} {observed : β → Option γ} (h : M.Refines N I view label observed)
    {s t : σ} {as : List α} (hs : I s) (hrun : M.exec s as = some t) :
    ∃ bs, N.exec (view s) bs = some (view t) ∧ bs.filterMap observed = as.flatMap label := by
  induction as generalizing s with
  | nil =>
    obtain rfl : s = t := by simpa using hrun
    exact ⟨[], rfl, rfl⟩
  | cons a as ih =>
    obtain ⟨u, hu, ht⟩ := M.exec_cons_eq_some.mp hrun
    obtain ⟨bs, hbs, hlabel⟩ := h.run hs hu
    obtain ⟨bs', hbs', hlabels⟩ := ih (h.invariant hs hu) ht
    refine ⟨bs ++ bs', N.exec_append_eq_some.mpr ⟨_, hbs, hbs'⟩, ?_⟩
    rw [List.filterMap_append, hlabel, hlabels, List.flatMap_cons]

end Machine
