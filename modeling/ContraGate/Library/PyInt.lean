import Mathlib.Data.Nat.Digits.Defs
import ContraGate.Library.PyText

/-!
# `int(text)`

White space around it, a sign, digits with single underscores between them. Which characters
beyond ASCII are decimal digits is a parameter.
-/

namespace Py

variable (wide : Char → Option ℕ)

/-- The decimal digit that a character stands for. -/
def digitChar? (c : Char) : Option Char :=
  if c.isDigit then some c else if c.toNat < 128 then none else (wide c).map Nat.digitChar

/-- Digits, with single underscores between them. -/
def intDigits : List Char → Option (List Char)
  | [] => none
  | [c] => (digitChar? wide c).map ([·])
  | c :: '_' :: cs => (digitChar? wide c).bind fun d => (intDigits cs).map (d :: ·)
  | c :: c' :: cs => (digitChar? wide c).bind fun d => (intDigits (c' :: cs)).map (d :: ·)

/-- The number that the digits name; longer ones are refused. -/
def natOf? (cs : List Char) : Option ℕ :=
  (intDigits wide cs).bind fun ds =>
    if ds.length ≤ 4300 then some (Nat.ofDigitChars 10 ds 0) else none

/-- `int(text)`; `none` when it raises `ValueError`. -/
def int? (text : List Char) : Option ℤ :=
  match strip text with
  | '-' :: cs => (natOf? wide cs).map fun n : ℕ => -(n : ℤ)
  | '+' :: cs => (natOf? wide cs).map fun n : ℕ => (n : ℤ)
  | cs => (natOf? wide cs).map fun n : ℕ => (n : ℤ)

example : int? (fun _ => none) " -1_000 ".toList = some (-1000) := by decide

variable {wide} {c : Char} {cs text : List Char}

/-- Only underscores, digits and characters beyond ASCII stand between digits. -/
theorem mem_intDigits {ds : List Char} (h : intDigits wide cs = some ds) :
    ∀ c ∈ cs, c = '_' ∨ c.isDigit = true ∨ 128 ≤ c.toNat := by
  have hdigit {c d : Char} (hc : digitChar? wide c = some d) :
      c = '_' ∨ c.isDigit = true ∨ 128 ≤ c.toNat := by
    unfold digitChar? at hc
    split_ifs at hc with h₁ h₂
    · exact .inr (.inl h₁)
    · exact .inr (.inr (by omega))
  induction cs using intDigits.induct generalizing ds with
  | case1 => exact List.forall_mem_nil _
  | case2 c =>
    obtain ⟨d, hc, -⟩ := Option.map_eq_some_iff.mp h
    exact List.forall_mem_singleton.mpr (hdigit hc)
  | case3 c cs ih =>
    obtain ⟨d, hc, hrest⟩ := Option.bind_eq_some_iff.mp h
    obtain ⟨ds', hds', -⟩ := Option.map_eq_some_iff.mp hrest
    exact List.forall_mem_cons.mpr ⟨hdigit hc, List.forall_mem_cons.mpr ⟨.inl rfl, ih hds'⟩⟩
  | case4 c c' cs hne ih =>
    rw [intDigits] at h
    · obtain ⟨d, hc, hrest⟩ := Option.bind_eq_some_iff.mp h
      obtain ⟨ds', hds', -⟩ := Option.map_eq_some_iff.mp hrest
      exact List.forall_mem_cons.mpr ⟨hdigit hc, ih hds'⟩
    · exact hne

/-- There is no colon in the text of a number. -/
theorem colon_notMem {n : ℤ} (h : int? wide text = some n) : ':' ∉ text := by
  intro hmem
  have hdigits {cs : List Char} {n : ℕ} (hn : natOf? wide cs = some n) : ':' ∉ cs := by
    intro hcolon
    obtain ⟨ds, hds, -⟩ := Option.bind_eq_some_iff.mp hn
    rcases mem_intDigits hds _ hcolon with heq | hdigit | hlarge
    · cases heq
    · cases hdigit
    · exact absurd hlarge (by decide)
  have hstrip : ':' ∈ strip text := (mem_strip_iff (by decide)).mpr hmem
  unfold int? at h
  split at h
  · rename_i cs heq
    obtain ⟨m, hm, -⟩ := Option.map_eq_some_iff.mp h
    rw [heq] at hstrip
    exact hdigits hm (by simpa using hstrip)
  · rename_i cs heq
    obtain ⟨m, hm, -⟩ := Option.map_eq_some_iff.mp h
    rw [heq] at hstrip
    exact hdigits hm (by simpa using hstrip)
  · obtain ⟨m, hm, -⟩ := Option.map_eq_some_iff.mp h
    exact hdigits hm hstrip

/-- ASCII digits stand for themselves. -/
theorem intDigits_self (hne : cs ≠ []) (h : ∀ c ∈ cs, c.isDigit = true) :
    intDigits wide cs = some cs := by
  induction cs with
  | nil => exact absurd rfl hne
  | cons c cs ih =>
    obtain ⟨hc, hcs⟩ := List.forall_mem_cons.mp h
    have hdigit : digitChar? wide c = some c := if_pos hc
    cases cs with
    | nil => rw [intDigits, hdigit]; rfl
    | cons c' cs =>
      have hne' : c' ≠ '_' := by
        rintro rfl
        exact absurd (hcs '_' List.mem_cons_self) (by decide)
      rw [intDigits, hdigit, Option.bind_some, ih (List.cons_ne_nil _ _) hcs]
      · rfl
      · rintro rfl
        exact hne' rfl

/-- A digit is no white space. -/
theorem isSpace_of_isDigit (h : c.isDigit = true) : isSpace c = false := by
  simp only [Char.isDigit, Bool.and_eq_true, decide_eq_true_eq] at h
  have h₁ : 48 ≤ c.toNat := h.1
  have h₂ : c.toNat ≤ 57 := h.2
  unfold isSpace
  simp only [Bool.or_eq_false_iff, Bool.and_eq_false_iff, beq_eq_false_iff_ne,
    decide_eq_false_iff_not]
  omega

/-- The digits of a number name it, if they name anything. -/
theorem int?_toDigits {n : ℕ} {m : ℤ} (h : int? wide (Nat.toDigits 10 n) = some m) : m = n := by
  have hdigit : ∀ c ∈ Nat.toDigits 10 n, c.isDigit = true := fun c hc =>
    Nat.isDigit_of_mem_toDigits (by decide) (by decide) hc
  have hstrip : strip (Nat.toDigits 10 n) = Nat.toDigits 10 n := by
    have htrimmed := trimmed_of_forall fun c hc => isSpace_of_isDigit (hdigit c hc)
    unfold strip
    rw [htrimmed.front, htrimmed.back]
  have hvalue {k : ℕ} (hk : natOf? wide (Nat.toDigits 10 n) = some k) : k = n := by
    rw [natOf?, intDigits_self Nat.toDigits_ne_nil hdigit, Option.bind_some,
      Option.ite_none_right_eq_some, Nat.ofDigitChars_ten_toDigits] at hk
    exact (Option.some.inj hk.2).symm
  unfold int? at h
  rw [hstrip] at h
  split at h
  · rename_i cs heq
    exact absurd (hdigit '-' (by rw [heq]; exact List.mem_cons_self)) (by decide)
  · rename_i cs heq
    exact absurd (hdigit '+' (by rw [heq]; exact List.mem_cons_self)) (by decide)
  · obtain ⟨k, hk, rfl⟩ := Option.map_eq_some_iff.mp h
    rw [hvalue hk]

end Py
