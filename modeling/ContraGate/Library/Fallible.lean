import Mathlib.Data.List.Basic

/-!
# Computations that may fail

What is known of the parts of a computation in `Except` or `Option` that has succeeded.
-/

namespace Fallible

variable {ε α β : Type}

/-- A computation that succeeds runs its first part with success. -/
theorem bind_eq_ok {x : Except ε α} {f : α → Except ε β} {b : β} :
    x >>= f = .ok b ↔ ∃ a, x = .ok a ∧ f a = .ok b := by
  cases x with
  | error e => exact ⟨nofun, fun ⟨_, h, _⟩ => nomatch h⟩
  | ok a => exact ⟨fun h => ⟨a, rfl, h⟩, fun ⟨_, ha, h⟩ => Except.ok.inj ha ▸ h⟩

/-- It succeeds if and only if both parts do. -/
theorem bind_isOk_iff {x : Except ε α} {f : α → Except ε β} :
    (∃ b, x >>= f = .ok b) ↔ ∃ a, x = .ok a ∧ ∃ b, f a = .ok b := by
  simp only [bind_eq_ok]
  exact ⟨fun ⟨b, a, ha, hb⟩ => ⟨a, ha, b, hb⟩, fun ⟨a, ha, b, hb⟩ => ⟨b, a, ha, hb⟩⟩

/-! ## One item after the other -/

theorem mapM_isOk_iff {f : α → Except ε β} {items : List α} :
    (∃ values, items.mapM f = .ok values) ↔ ∀ item ∈ items, ∃ value, f item = .ok value := by
  induction items with
  | nil => exact iff_of_true ⟨[], rfl⟩ (List.forall_mem_nil _)
  | cons item items ih =>
    simp only [List.mapM_cons, bind_eq_ok, List.forall_mem_cons, ← ih]
    constructor
    · rintro ⟨_, value, hvalue, values, hvalues, -⟩
      exact ⟨⟨value, hvalue⟩, values, hvalues⟩
    · rintro ⟨⟨value, hvalue⟩, values, hvalues⟩
      exact ⟨value :: values, value, hvalue, values, hvalues, rfl⟩

theorem mapM_eq_ok {f : α → Except ε β} {g : α → β} (hf : ∀ a b, f a = .ok b → b = g a)
    {items : List α} {values : List β} (h : items.mapM f = .ok values) : values = items.map g := by
  induction items generalizing values with
  | nil => exact (Except.ok.inj h).symm
  | cons item items ih =>
    simp only [List.mapM_cons, bind_eq_ok] at h
    obtain ⟨b, hb, bs, hbs, h⟩ := h
    rw [← Except.ok.inj h, List.map_cons, hf item b hb, ih hbs]

/-- Items that can all be read. -/
theorem mapM_of_forall {read : α → Option β} {value : α → β} {items : List α}
    (h : ∀ item ∈ items, read item = some (value item)) :
    items.mapM read = some (items.map value) := by
  induction items with
  | nil => rfl
  | cons item items ih =>
    have hitem := h item List.mem_cons_self
    have hitems := ih fun i hi => h i (List.mem_cons_of_mem _ hi)
    rw [List.mapM_cons, hitem, hitems]
    rfl

theorem exists_of_mem_mapM {f : α → Option β} {items : List α} {values : List β}
    (h : items.mapM f = some values) {b : β} (hb : b ∈ values) : ∃ a ∈ items, f a = some b := by
  induction items generalizing values with
  | nil =>
    obtain rfl := Option.some.inj h
    cases hb
  | cons a items ih =>
    simp only [List.mapM_cons, Option.bind_eq_bind, Option.bind_eq_some_iff] at h
    obtain ⟨b', hb', rest, hrest, h⟩ := h
    obtain rfl := Option.some.inj h
    rcases List.mem_cons.mp hb with rfl | hb
    · exact ⟨a, List.mem_cons_self, hb'⟩
    · obtain ⟨a', ha', hfa'⟩ := ih hrest hb
      exact ⟨a', List.mem_cons_of_mem a ha', hfa'⟩

end Fallible
