import Mathlib.Algebra.Order.Field.Basic
import Mathlib.Algebra.Order.Field.Rat
import Mathlib.Data.Rat.Defs
import Mathlib.Tactic.FieldSimp
import Mathlib.Tactic.Linarith
import Mathlib.Tactic.Ring

/-!
# The numbers in a JSON text

A `JsonNumber` is a number as it is written: digits, decimals after a point, a power of ten. Its
text determines it (`text_append_inj`), and so does what it stands for if it is one of those that Python
writes: `ofInt` is `repr` of an `int` and `Decimal.repr` that of a `float`, which is given by the
shortest decimal that names it.
-/

namespace Py

/-- A number as it stands in a text. -/
structure JsonNumber where
  negative : Bool
  /-- The digits before the point. -/
  whole : List Char
  /-- The digits after the point, which is there when one of them is. -/
  decimals : List Char
  exponent : Option ℤ
  isDigit_whole : ∀ c ∈ whole, c.isDigit = true
  isDigit_decimals : ∀ c ∈ decimals, c.isDigit = true

namespace JsonNumber

theorem ext_iff' {n m : JsonNumber} : n = m ↔ n.negative = m.negative ∧ n.whole = m.whole ∧
    n.decimals = m.decimals ∧ n.exponent = m.exponent := by
  cases n
  cases m
  simp

/-! ## The text -/

/-- The power of ten, with a sign and at least two digits. -/
def exponentText (e : ℤ) : List Char :=
  'e' :: (if e < 0 then '-' else '+') ::
    (List.replicate (2 - (Nat.toDigits 10 e.natAbs).length) '0' ++ Nat.toDigits 10 e.natAbs)

def signText (negative : Bool) : List Char := if negative then ['-'] else []

def decimalsText (decimals : List Char) : List Char :=
  if decimals = [] then [] else '.' :: decimals

def text (n : JsonNumber) : List Char :=
  signText n.negative ++ (n.whole ++ (decimalsText n.decimals ++ n.exponent.elim [] exponentText))

/-- A text that can follow a number: it does not go on with it. -/
def Stops (k : List Char) : Prop :=
  ∀ c ∈ k.head?, c.isDigit = false ∧ c ≠ '.' ∧ c ≠ 'e'

/-- Digits end where something else begins. -/
theorem digits_append_inj {a b k l : List Char} (ha : ∀ c ∈ a, c.isDigit = true)
    (hb : ∀ c ∈ b, c.isDigit = true) (hk : ∀ c ∈ k.head?, c.isDigit = false)
    (hl : ∀ c ∈ l.head?, c.isDigit = false) (h : a ++ k = b ++ l) : a = b ∧ k = l := by
  have htake {a k : List Char} (ha : ∀ c ∈ a, c.isDigit = true)
      (hk : ∀ c ∈ k.head?, c.isDigit = false) :
      (a ++ k).takeWhile Char.isDigit = a := by
    rw [List.takeWhile_append_of_pos ha]
    cases k with
    | nil => rw [List.takeWhile_nil, List.append_nil]
    | cons c k =>
      have hc : c.isDigit = false := hk c rfl
      rw [List.takeWhile_cons_of_neg (by simp [hc]), List.append_nil]
  have hab : a = b := by
    rw [← htake ha hk, h, htake hb hl]
  subst hab
  exact ⟨rfl, List.append_cancel_left h⟩

theorem isDigit_of_mem_exponentDigits {e : ℤ} {c : Char}
    (hc : c ∈ List.replicate (2 - (Nat.toDigits 10 e.natAbs).length) '0' ++
      Nat.toDigits 10 e.natAbs) : c.isDigit = true := by
  rcases List.mem_append.mp hc with hc | hc
  · rw [(List.mem_replicate.mp hc).2]
    decide
  · exact Nat.isDigit_of_mem_toDigits (by decide) (by decide) hc

theorem Stops.not_digit {k : List Char} (h : Stops k) : ∀ c ∈ k.head?, c.isDigit = false :=
  fun c hc => (h c hc).1

theorem exponentText_append_inj {e f : ℤ} {k l : List Char} (hk : Stops k) (hl : Stops l)
    (h : exponentText e ++ k = exponentText f ++ l) : e = f ∧ k = l := by
  simp only [exponentText, List.cons_append, List.cons.injEq, true_and] at h
  obtain ⟨hsign, hdigits⟩ := h
  obtain ⟨hpadded, hkl⟩ := digits_append_inj (fun _ => isDigit_of_mem_exponentDigits)
    (fun _ => isDigit_of_mem_exponentDigits) hk.not_digit hl.not_digit hdigits
  have habs : e.natAbs = f.natAbs := by
    have hvalue := congrArg (fun cs => Nat.ofDigitChars 10 cs 0) hpadded
    simpa [Nat.ofDigitChars_append] using hvalue
  refine ⟨?_, hkl⟩
  -- the sign decides between the two integers of that size
  by_cases he : e < 0 <;> by_cases hf : f < 0 <;> simp [he, hf] at hsign <;> omega

/-- What follows the digits before the point. -/
theorem tail_head {n : JsonNumber} {k : List Char} (hk : Stops k) :
    ∀ c ∈ (decimalsText n.decimals ++ (n.exponent.elim [] exponentText ++ k)).head?,
      c.isDigit = false := by
  intro c hc
  unfold decimalsText at hc
  split at hc
  · cases hexponent : n.exponent with
    | none =>
      rw [hexponent] at hc
      exact hk.not_digit c hc
    | some e =>
      rw [hexponent] at hc
      cases hc
      decide
  · cases hc
    decide

/-- What follows the decimals. -/
theorem exponent_head {e : Option ℤ} {k : List Char} (hk : Stops k) :
    ∀ c ∈ (e.elim [] exponentText ++ k).head?, c.isDigit = false ∧ c ≠ '.' := by
  intro c hc
  cases e with
  | none => exact ⟨(hk c hc).1, (hk c hc).2.1⟩
  | some e =>
    cases hc
    decide

/-- **The text of a number determines it**, also when something follows. -/
theorem text_append_inj {n m : JsonNumber} {k l : List Char} (hn : n.whole ≠ []) (hm : m.whole ≠ [])
    (hk : Stops k) (hl : Stops l) (h : n.text ++ k = m.text ++ l) : n = m ∧ k = l := by
  simp only [text, List.append_assoc] at h
  -- a sign is no digit
  have hsign : n.negative = m.negative := by
    have hhead {n : JsonNumber} (hn : n.whole ≠ []) (k : List Char) :
        (signText n.negative ++ (n.whole ++ k)).head? = some '-' ↔ n.negative = true := by
      cases hnegative : n.negative with
      | true => simp [signText]
      | false =>
        obtain ⟨c, cs, hwhole⟩ := List.exists_cons_of_ne_nil hn
        have hc : c.isDigit = true := n.isDigit_whole c (by simp [hwhole])
        simp only [signText, hwhole, Bool.false_eq_true, if_false, List.nil_append,
          List.cons_append, List.head?_cons, Option.some.injEq, iff_false]
        rintro rfl
        revert hc
        decide
    rw [Bool.eq_iff_iff, ← hhead hn, h, hhead hm]
  rw [hsign] at h
  obtain ⟨hwhole, h⟩ := digits_append_inj n.isDigit_whole m.isDigit_whole (tail_head hk)
    (tail_head hl) (List.append_cancel_left h)
  -- a point stands before the decimals only
  have hdecimals : n.decimals = m.decimals ∧
      n.exponent.elim [] exponentText ++ k = m.exponent.elim [] exponentText ++ l := by
    unfold decimalsText at h
    split at h <;> rename_i hnd <;> split at h <;> rename_i hmd
    · exact ⟨hnd.trans hmd.symm, h⟩
    · have hpoint := exponent_head (e := n.exponent) hk '.' (by
        have hhead := congrArg List.head? h
        simpa using hhead)
      exact absurd rfl hpoint.2
    · have hpoint := exponent_head (e := m.exponent) hl '.' (by
        have hhead := congrArg List.head? h.symm
        simpa using hhead)
      exact absurd rfl hpoint.2
    · simp only [List.cons_append, List.cons.injEq, true_and] at h
      exact digits_append_inj n.isDigit_decimals m.isDigit_decimals
        (fun c hc => (exponent_head hk c hc).1) (fun c hc => (exponent_head hl c hc).1) h
  obtain ⟨hdecimals, h⟩ := hdecimals
  have hexponent : n.exponent = m.exponent ∧ k = l := by
    cases hne : n.exponent with
    | none =>
      cases hme : m.exponent with
      | none =>
        rw [hne, hme] at h
        exact ⟨rfl, h⟩
      | some f =>
        rw [hne, hme] at h
        have hhead := congrArg List.head? h
        exact absurd rfl (hk 'e' (by simpa [exponentText] using hhead)).2.2
    | some e =>
      cases hme : m.exponent with
      | none =>
        rw [hne, hme] at h
        have hhead := congrArg List.head? h.symm
        exact absurd rfl (hl 'e' (by simpa [exponentText] using hhead)).2.2
      | some f =>
        rw [hne, hme] at h
        obtain ⟨hef, hkl⟩ := exponentText_append_inj hk hl h
        exact ⟨congrArg some hef, hkl⟩
  exact ⟨ext_iff'.mpr ⟨hsign, hwhole, hdecimals, hexponent.1⟩, hexponent.2⟩

/-! ## What it stands for -/

/-- All the digits. -/
def coefficient (n : JsonNumber) : ℕ := Nat.ofDigitChars 10 (n.whole ++ n.decimals) 0

/-- The coefficient is to be divided by this power of ten. -/
def scale (n : JsonNumber) : ℤ := n.decimals.length - n.exponent.getD 0

/-- The number without its sign. -/
def magnitude (n : JsonNumber) : ℚ := n.coefficient * 10 ^ (-n.scale)

/-- Neither decimals nor a power of ten: `json.loads` makes an `int` of it. -/
def IsInteger (n : JsonNumber) : Prop := n.decimals = [] ∧ n.exponent = none

instance (n : JsonNumber) : Decidable n.IsInteger := inferInstanceAs (Decidable (_ ∧ _))

/-- The integer that the digits before the point show. -/
def toInt (n : JsonNumber) : ℤ :=
  if n.negative then -(Nat.ofDigitChars 10 n.whole 0 : ℤ) else Nat.ofDigitChars 10 n.whole 0

theorem isDigit_of_mem_toDigits {n : ℕ} : ∀ c ∈ Nat.toDigits 10 n, c.isDigit = true :=
  fun _ hc => Nat.isDigit_of_mem_toDigits (by decide) (by decide) hc

theorem isDigit_of_mem_zeros {n : ℕ} : ∀ c ∈ List.replicate n '0', c.isDigit = true := by
  intro c hc
  rw [(List.mem_replicate.mp hc).2]
  decide

/-- `repr` of an `int`. -/
def ofInt (z : ℤ) : JsonNumber where
  negative := decide (z < 0)
  whole := Nat.toDigits 10 z.natAbs
  decimals := []
  exponent := none
  isDigit_whole := isDigit_of_mem_toDigits
  isDigit_decimals := nofun

theorem isInteger_ofInt (z : ℤ) : (ofInt z).IsInteger := ⟨rfl, rfl⟩

@[simp] theorem toInt_ofInt (z : ℤ) : (ofInt z).toInt = z := by
  unfold toInt ofInt
  rw [Nat.ofDigitChars_ten_toDigits]
  by_cases h : z < 0
  · rw [if_pos (decide_eq_true h)]
    omega
  · rw [if_neg (by simpa using h)]
    omega

end JsonNumber

/-! ## Decimals -/

/-- The number `± coefficient * 10 ^ exponent`. -/
structure Decimal where
  negative : Bool
  coefficient : ℕ
  exponent : ℤ
deriving DecidableEq

namespace Decimal

/-- The coefficient does not end with a zero; zero itself has the exponent 0. -/
def Normal (d : Decimal) : Prop :=
  if d.coefficient = 0 then d.exponent = 0 else d.coefficient % 10 ≠ 0

instance : DecidablePred Normal := fun d => by unfold Normal; infer_instance

/-- The number without its sign. -/
def magnitude (d : Decimal) : ℚ := d.coefficient * 10 ^ d.exponent

def digits (d : Decimal) : List Char := Nat.toDigits 10 d.coefficient

/-- How many of the digits stand before the point (`decpt`). -/
def point (d : Decimal) : ℤ := d.digits.length + d.exponent

/-- `repr` of a `float`: with a power of ten when the point is far from the digits. -/
def repr (d : Decimal) : JsonNumber :=
  if d.point ≤ -4 ∨ 16 < d.point then
    { negative := d.negative
      whole := d.digits.take 1
      decimals := d.digits.drop 1
      exponent := some (d.point - 1)
      isDigit_whole := fun c hc => JsonNumber.isDigit_of_mem_toDigits c (List.mem_of_mem_take hc)
      isDigit_decimals := fun c hc => JsonNumber.isDigit_of_mem_toDigits c (List.mem_of_mem_drop hc) }
  else if d.point ≤ 0 then
    { negative := d.negative
      whole := ['0']
      decimals := List.replicate (-d.point).toNat '0' ++ d.digits
      exponent := none
      isDigit_whole := List.forall_mem_singleton.mpr rfl
      isDigit_decimals := List.forall_mem_append.mpr
        ⟨JsonNumber.isDigit_of_mem_zeros, JsonNumber.isDigit_of_mem_toDigits⟩ }
  else if d.digits.length ≤ d.point then
    { negative := d.negative
      whole := d.digits ++ List.replicate d.exponent.toNat '0'
      decimals := ['0']
      exponent := none
      isDigit_whole := List.forall_mem_append.mpr
        ⟨JsonNumber.isDigit_of_mem_toDigits, JsonNumber.isDigit_of_mem_zeros⟩
      isDigit_decimals := List.forall_mem_singleton.mpr rfl }
  else
    { negative := d.negative
      whole := d.digits.take d.point.toNat
      decimals := d.digits.drop d.point.toNat
      exponent := none
      isDigit_whole := fun c hc => JsonNumber.isDigit_of_mem_toDigits c (List.mem_of_mem_take hc)
      isDigit_decimals := fun c hc => JsonNumber.isDigit_of_mem_toDigits c (List.mem_of_mem_drop hc) }

example : (repr ⟨false, 15, 15⟩).text = "1.5e+16".toList := by decide

example : (repr ⟨true, 25, -3⟩).text = "-0.025".toList := by decide

variable {d d' : Decimal}

@[simp] theorem repr_negative (d : Decimal) : d.repr.negative = d.negative := by
  unfold repr
  split_ifs <;> rfl

theorem length_digits_pos (d : Decimal) : 0 < d.digits.length := Nat.length_toDigits_pos

theorem whole_repr_ne_nil (d : Decimal) : d.repr.whole ≠ [] := by
  have hpos := d.length_digits_pos
  unfold repr
  split_ifs with h₁ h₂ h₃ <;> rw [← List.length_pos_iff]
  · rw [List.length_take]
    omega
  · exact Nat.one_pos
  · rw [List.length_append]
    omega
  · rw [List.length_take]
    omega

/-- A `float` never looks like an `int`. -/
theorem not_isInteger_repr (d : Decimal) : ¬ d.repr.IsInteger := by
  have hpos := d.length_digits_pos
  rintro ⟨hdecimals, hexponent⟩
  unfold repr at hdecimals hexponent
  split_ifs at hdecimals hexponent with h₁ h₂ h₃
  · have hlength := congrArg List.length hdecimals
    simp only [List.length_append, List.length_nil] at hlength
    omega
  · have hlength := congrArg List.length hdecimals
    simp only [List.length_drop, List.length_nil] at hlength
    omega

/-- The digits and the scale with which a `float` is written. -/
theorem repr_spec (d : Decimal) :
    if 0 ≤ d.exponent ∧ d.point ≤ 16 then
      d.repr.coefficient = d.coefficient * 10 ^ (d.exponent.toNat + 1) ∧ d.repr.scale = 1
    else d.repr.coefficient = d.coefficient ∧ d.repr.scale = -d.exponent := by
  have hpos := d.length_digits_pos
  have hpoint : d.point = d.digits.length + d.exponent := rfl
  have hdigits : Nat.ofDigitChars 10 d.digits 0 = d.coefficient := Nat.ofDigitChars_ten_toDigits
  unfold repr JsonNumber.coefficient JsonNumber.scale
  split_ifs with h h₁ h₂ h₃ h₁ h₂ h₃
  · omega
  · omega
  · rw [Nat.ofDigitChars_append, Nat.ofDigitChars_append, hdigits, Nat.ofDigitChars_replicate_zero]
    refine ⟨?_, rfl⟩
    rw [pow_succ]
    simp [Nat.ofDigitChars_cons]
    ring
  · omega
  · rw [List.take_append_drop, hdigits]
    refine ⟨rfl, ?_⟩
    simp only [List.length_drop, Option.getD_some]
    omega
  · rw [Nat.ofDigitChars_append, Nat.ofDigitChars_append, Nat.ofDigitChars_replicate_zero]
    refine ⟨by simpa [Nat.ofDigitChars_cons] using hdigits, ?_⟩
    simp only [List.length_append, List.length_replicate, Option.getD_none]
    omega
  · omega
  · rw [List.take_append_drop, hdigits]
    refine ⟨rfl, ?_⟩
    simp only [List.length_drop, Option.getD_none]
    omega

theorem coefficient_repr_eq_zero_iff (d : Decimal) : d.repr.coefficient = 0 ↔ d.coefficient = 0 := by
  have hspec := d.repr_spec
  split_ifs at hspec
  · rw [hspec.1, mul_eq_zero, or_iff_left (pow_ne_zero _ (by decide))]
  · rw [hspec.1]

/-- The text shows the number. -/
@[simp] theorem magnitude_repr (d : Decimal) : d.repr.magnitude = d.magnitude := by
  have hspec := d.repr_spec
  unfold JsonNumber.magnitude magnitude
  split_ifs at hspec with h
  · obtain ⟨e, he⟩ := Int.eq_ofNat_of_zero_le h.1
    rw [hspec.1, hspec.2, he, Int.toNat_natCast, pow_succ, zpow_natCast]
    push_cast
    ring
  · rw [hspec.1, hspec.2, neg_neg]

theorem ten_pow_ne_zero (e : ℤ) : (10 : ℚ) ^ e ≠ 0 := zpow_ne_zero e (by norm_num)

theorem magnitude_eq_zero_iff : d.magnitude = 0 ↔ d.coefficient = 0 := by
  unfold magnitude
  rw [mul_eq_zero, or_iff_left (ten_pow_ne_zero _), Nat.cast_eq_zero]

/-- A coefficient that does not end with a zero leaves no smaller power of ten to another. -/
theorem exponent_le (hd : d.Normal) (hne : d.coefficient ≠ 0) (h : d.magnitude = d'.magnitude) :
    d'.exponent ≤ d.exponent := by
  by_contra hlt
  obtain ⟨k, hk⟩ : ∃ k : ℕ, d'.exponent = d.exponent + (k + 1) :=
    ⟨(d'.exponent - d.exponent - 1).toNat, by omega⟩
  have hcoefficient : (d.coefficient : ℚ) = d'.coefficient * 10 ^ (k + 1) := by
    unfold magnitude at h
    rw [hk, zpow_add₀ (by norm_num), ← mul_assoc, mul_right_comm] at h
    have hcancel := mul_right_cancel₀ (ten_pow_ne_zero _) h
    exact_mod_cast hcancel
  have hnat : d.coefficient = d'.coefficient * 10 ^ k * 10 := by
    rw [mul_assoc, ← pow_succ]
    exact_mod_cast hcoefficient
  rw [Normal, if_neg hne] at hd
  omega

/-- A decimal in normal form is determined by its sign and its size. -/
theorem eq_of_magnitude_eq (hd : d.Normal) (hd' : d'.Normal) (hnegative : d.negative = d'.negative)
    (h : d.magnitude = d'.magnitude) : d = d' := by
  have hzero : d.coefficient = 0 ↔ d'.coefficient = 0 := by
    rw [← magnitude_eq_zero_iff, h, magnitude_eq_zero_iff]
  by_cases hne : d.coefficient = 0
  · have hne' := hzero.mp hne
    rw [Normal, if_pos hne] at hd
    rw [Normal, if_pos hne'] at hd'
    cases d
    cases d'
    simp_all
  · have hexponent : d.exponent = d'.exponent :=
      le_antisymm (exponent_le hd' (fun h' => hne (hzero.mpr h')) h.symm) (exponent_le hd hne h)
    have hcoefficient : d.coefficient = d'.coefficient := by
      unfold magnitude at h
      rw [hexponent] at h
      exact_mod_cast mul_right_cancel₀ (ten_pow_ne_zero _) h
    cases d
    cases d'
    simp_all

/-- So is it by its text. -/
theorem eq_of_repr_eq (hd : d.Normal) (hd' : d'.Normal) (h : d.repr = d'.repr) : d = d' := by
  refine eq_of_magnitude_eq hd hd' ?_ ?_
  · rw [← repr_negative d, h, repr_negative]
  · rw [← magnitude_repr d, h, magnitude_repr]

/-- The place of the point tells the size. -/
theorem point_le_iff (hd : d.Normal) {k : ℕ} (hk : 0 < k) : d.point ≤ k ↔ d.magnitude < 10 ^ k := by
  have hpos := d.length_digits_pos
  have hpoint : d.point = d.digits.length + d.exponent := rfl
  have hten : (0 : ℚ) < 10 := by norm_num
  have hshift : d.magnitude < 10 ^ k ↔ (d.coefficient : ℚ) < 10 ^ ((k : ℤ) - d.exponent) := by
    unfold magnitude
    rw [← zpow_natCast, zpow_sub₀ hten.ne', lt_div_iff₀ (zpow_pos hten _)]
  rw [hshift, hpoint]
  by_cases hle : d.exponent < k
  · obtain ⟨j, hj⟩ : ∃ j : ℕ, (k : ℤ) - d.exponent = j :=
      ⟨((k : ℤ) - d.exponent).toNat, by omega⟩
    have hlength : d.digits.length ≤ j ↔ d.coefficient < 10 ^ j :=
      Nat.length_toDigits_le_iff (by decide) (by omega)
    rw [hj, zpow_natCast]
    have hcast : (d.coefficient : ℚ) < 10 ^ j ↔ d.coefficient < 10 ^ j := by
      exact_mod_cast Iff.rfl
    rw [hcast, ← hlength]
    omega
  · -- no number but zero is smaller than its power of ten
    have hne : d.coefficient ≠ 0 := by
      intro hzero
      rw [Normal, if_pos hzero] at hd
      omega
    have hone : (1 : ℚ) ≤ d.coefficient := by
      exact_mod_cast Nat.one_le_iff_ne_zero.mpr hne
    have hsmall : (10 : ℚ) ^ ((k : ℤ) - d.exponent) ≤ 1 :=
      zpow_le_one_of_nonpos₀ (by norm_num) (by omega)
    constructor
    · intro h
      omega
    · intro h
      linarith

end Decimal

end Py
