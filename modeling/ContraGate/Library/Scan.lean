import Mathlib.Data.List.Basic
import Mathlib.Data.List.ReduceOption

/-!
# Scanning from left to right

* `Scanner`: one item at a time is read off the front of a list; the items are the output.
* `Pattern`: a pattern that is matched at the front of a text, and `Pattern.sub`, which
  replaces its matches from left to right (`re.sub` of a pattern that matches no empty text).
* `Pattern.Quiet`: no match starts in a stretch of text, so `sub` leaves it alone.
* `Capture`: a pattern with a group, and `Capture.findAll`, the group of each match from left
  to right (`re.finditer`).
* `cut`: the first occurrence of a text in another.
-/

/-- Reads one item off the front of a nonempty list. -/
structure Scanner (α β : Type*) where
  next : α → List α → β × List α
  next_length : ∀ a as, (next a as).2.length ≤ as.length

namespace Scanner

variable {α β : Type*} (S : Scanner α β)

/-- Read at most `n` items. -/
def runN : ℕ → List α → List β
  | _, [] => []
  | 0, _ => []
  | n + 1, a :: as => (S.next a as).1 :: runN n (S.next a as).2

/-- Read the whole list. -/
def run (s : List α) : List β := S.runN s.length s

/-- No more items are read than there are elements. -/
theorem runN_of_le {n m : ℕ} {s : List α} (hn : s.length ≤ n) (hm : s.length ≤ m) :
    S.runN n s = S.runN m s := by
  induction n generalizing m s with
  | zero =>
    have hs : s = [] := List.length_eq_zero_iff.mp (by omega)
    subst hs
    cases m <;> rfl
  | succ n ih =>
    cases s with
    | nil => cases m <;> rfl
    | cons a as =>
      cases m with
      | zero => simp at hm
      | succ m =>
        have hlen := S.next_length a as
        simp only [List.length_cons] at hn hm
        simp only [runN]
        rw [ih (m := m) (by omega) (by omega)]

@[simp] theorem run_nil : S.run [] = [] := rfl

theorem run_cons (a : α) (as : List α) :
    S.run (a :: as) = (S.next a as).1 :: S.run (S.next a as).2 := by
  have hlen := S.next_length a as
  show (S.next a as).1 :: S.runN as.length (S.next a as).2 = _
  rw [S.runN_of_le hlen (Nat.le_refl _)]
  rfl

/-- Induction along the items read. -/
theorem induct {P : List α → Prop} (nil : P []) (cons : ∀ a as, P (S.next a as).2 → P (a :: as))
    (s : List α) : P s := by
  induction hn : s.length using Nat.strongRecOn generalizing s with
  | _ n ih =>
    cases s with
    | nil => exact nil
    | cons a as =>
      have hlen := S.next_length a as
      simp only [List.length_cons] at hn
      exact cons a as (ih _ (by omega) _ rfl)

end Scanner

/-- A pattern: what is left of a text after a match at its front. No match is empty. -/
structure Pattern (α : Type*) where
  rest? : List α → Option (List α)
  rest_length : ∀ s r, rest? s = some r → r.length < s.length

namespace Pattern

variable {α : Type*} (p : Pattern α) (repl : List α)

/-- One step of `sub`: a match is replaced, an element that starts no match is kept. -/
def scanner : Scanner α (List α) where
  next a as :=
    match p.rest? (a :: as) with
    | some r => (repl, r)
    | none => ([a], as)
  next_length a as := by
    split
    · rename_i r hr
      have hlen := p.rest_length _ r hr
      simp only [List.length_cons] at hlen
      dsimp only
      omega
    · exact Nat.le_refl _

/-- Replace the matches of `p`, from left to right. -/
def sub (s : List α) : List α := ((p.scanner repl).run s).flatten

@[simp] theorem sub_nil : p.sub repl [] = [] := rfl

theorem sub_of_match {a : α} {as r : List α} (h : p.rest? (a :: as) = some r) :
    p.sub repl (a :: as) = repl ++ p.sub repl r := by
  unfold sub
  rw [Scanner.run_cons]
  simp only [scanner, h, List.flatten_cons]

theorem sub_of_no_match {a : α} {as : List α} (h : p.rest? (a :: as) = none) :
    p.sub repl (a :: as) = a :: p.sub repl as := by
  unfold sub
  rw [Scanner.run_cons]
  simp only [scanner, h, List.flatten_cons, List.singleton_append]

/-- No match starts in `t`, when `t` is followed by `after`. -/
def Quiet (t after : List α) : Prop :=
  ∀ u v, t = u ++ v → v ≠ [] → p.rest? (v ++ after) = none

variable {p repl} {t after : List α}

theorem quiet_nil : p.Quiet [] after := by
  intro u v h hv
  exact absurd (List.append_eq_nil_iff.mp h.symm).2 hv

theorem quiet_cons {a : α} :
    p.Quiet (a :: t) after ↔ p.rest? (a :: (t ++ after)) = none ∧ p.Quiet t after := by
  constructor
  · intro h
    refine ⟨h [] (a :: t) rfl (List.cons_ne_nil _ _), fun u v hu hv => ?_⟩
    exact h (a :: u) v (by rw [hu]; rfl) hv
  · rintro ⟨hhead, htail⟩ u v hu hv
    rcases List.cons_eq_append_iff.mp hu with ⟨rfl, rfl⟩ | ⟨u', rfl, hu'⟩
    · exact hhead
    · exact htail u' v hu' hv

instance decidableQuiet [DecidableEq α] : (t : List α) → Decidable (p.Quiet t after)
  | [] => .isTrue quiet_nil
  | _ :: t =>
    have := decidableQuiet t
    decidable_of_iff _ quiet_cons.symm

/-- A stretch of characters that start no match at all. -/
theorem quiet_of_forall (h : ∀ a ∈ t, ∀ s, p.rest? (a :: s) = none) : p.Quiet t after := by
  induction t with
  | nil => exact quiet_nil
  | cons a t ih =>
    refine quiet_cons.mpr ⟨h a (List.mem_cons_self ..) _, ih fun b hb => ?_⟩
    exact h b (List.mem_cons_of_mem _ hb)

/-- A stretch in which no match starts is kept. -/
theorem sub_append_of_quiet (h : p.Quiet t after) :
    p.sub repl (t ++ after) = t ++ p.sub repl after := by
  induction t with
  | nil => rfl
  | cons a t ih =>
    obtain ⟨hhead, htail⟩ := quiet_cons.mp h
    rw [List.cons_append, sub_of_no_match p repl hhead, ih htail, List.cons_append]

end Pattern

/-- A pattern with a group: what the group takes in a match at the front of a text, and what
is left of the text. No match is empty. -/
structure Capture (α β : Type*) where
  match? : List α → Option (β × List α)
  match_length : ∀ s b r, match? s = some (b, r) → r.length < s.length

namespace Capture

variable {α β : Type*} (p : Capture α β)

/-- One step of `findAll`: over a match, or over an element that starts none. -/
def scanner : Scanner α (Option β) where
  next a as :=
    match p.match? (a :: as) with
    | some (b, r) => (some b, r)
    | none => (none, as)
  next_length a as := by
    split
    · rename_i b r hr
      have hlen := p.match_length _ b r hr
      simp only [List.length_cons] at hlen
      dsimp only
      omega
    · exact Nat.le_refl _

/-- The groups of the matches, from left to right. -/
def findAll (s : List α) : List β := (p.scanner.run s).reduceOption

@[simp] theorem findAll_nil : p.findAll [] = [] := rfl

variable {p}

theorem findAll_of_match {a : α} {as r : List α} {b : β}
    (h : p.match? (a :: as) = some (b, r)) : p.findAll (a :: as) = b :: p.findAll r := by
  unfold findAll
  rw [Scanner.run_cons]
  simp only [scanner, h, List.reduceOption_cons_of_some]

theorem findAll_of_no_match {a : α} {as : List α} (h : p.match? (a :: as) = none) :
    p.findAll (a :: as) = p.findAll as := by
  unfold findAll
  rw [Scanner.run_cons]
  simp only [scanner, h, List.reduceOption_cons_of_none]

end Capture

/-! ## The first occurrence of a text -/

section Cut

variable {α : Type*} [DecidableEq α] (pat : List α)

/-- The text before the first occurrence of `pat`, and the text after it. -/
def cut : List α → Option (List α × List α)
  | [] => if pat = [] then some ([], []) else none
  | a :: as =>
    if pat.isPrefixOf (a :: as) then some ([], (a :: as).drop pat.length)
    else (cut as).map fun r => (a :: r.1, r.2)

variable {pat}

theorem cut_eq {s before after : List α} (h : cut pat s = some (before, after)) :
    s = before ++ pat ++ after := by
  induction s generalizing before with
  | nil =>
    simp only [cut] at h
    split at h
    · rename_i hpat
      simp only [Option.some.injEq, Prod.mk.injEq] at h
      simp [hpat, ← h.1, ← h.2]
    · cases h
  | cons a as ih =>
    simp only [cut] at h
    split at h
    · rename_i hprefix
      simp only [Option.some.injEq, Prod.mk.injEq] at h
      obtain ⟨rfl, rfl⟩ := h
      obtain ⟨t, ht⟩ := List.isPrefixOf_iff_prefix.mp hprefix
      rw [← ht]
      simp
    · obtain ⟨r, hr, heq⟩ := Option.map_eq_some_iff.mp h
      simp only [Prod.mk.injEq] at heq
      obtain ⟨rfl, rfl⟩ := heq
      rw [ih hr]
      rfl

/-- There is an occurrence exactly when `pat` is a part of the text. -/
theorem cut_isSome_iff {s : List α} : (cut pat s).isSome = true ↔ pat <:+: s := by
  induction s with
  | nil =>
    rw [cut, List.infix_nil]
    split_ifs with hpat <;> simp [hpat]
  | cons a as ih =>
    rw [cut, List.infix_cons_iff, ← List.isPrefixOf_iff_prefix]
    split_ifs with hfront
    · simp [hfront]
    · simp [hfront, ih]

theorem cut_length {s : List α} {r : List α × List α} (h : cut pat s = some r) :
    r.2.length ≤ s.length := by
  have heq := cut_eq (Prod.eta r ▸ h : cut pat s = some (r.1, r.2))
  have hlen := congrArg List.length heq
  simp only [List.length_append] at hlen
  omega

end Cut
