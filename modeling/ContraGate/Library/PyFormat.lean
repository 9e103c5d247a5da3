import Mathlib.Data.Int.Notation
import Mathlib.Data.Nat.Digits.Defs
import Mathlib.Data.Rat.Floor
import ContraGate.Library.PyValue

/-!
# Formatting

`format(n, ",")` of an `int`, `format(x, ".3f")` of a `float` and `repr` of a `str`, where the
printable characters beyond ASCII are a parameter.
-/

namespace Py

/-- Commas between the thousands, from the last digit on. -/
def groupThousands : List Char → List Char
  | a :: b :: c :: d :: digits => a :: b :: c :: ',' :: groupThousands (d :: digits)
  | digits => digits

/-- `f"{n:,}"`. -/
def withCommas (n : ℤ) : String :=
  (if n < 0 then "-" else "") ++
    String.ofList (groupThousands (Nat.toDigits 10 n.natAbs).reverse).reverse

/-- The nearest integer, and between two the even one. -/
def roundHalfEven (q : ℚ) : ℤ :=
  let below := ⌊q⌋
  if q - below < 1 / 2 then below
  else if q - below = 1 / 2 ∧ below % 2 = 0 then below
  else below + 1

/-- An integer is rounded to itself. -/
theorem roundHalfEven_intCast (n : ℤ) : roundHalfEven n = n := by
  unfold roundHalfEven
  dsimp only
  rw [Int.floor_intCast, sub_self, if_pos one_half_pos]

/-- `f"{x:.3f}"`. -/
def fixed3 : Float → String
  | .nan => "nan"
  | .inf negative => if negative then "-inf" else "inf"
  | .finite q =>
    let thousandths := (roundHalfEven (|q| * 1000)).toNat
    let decimals := Nat.toDigits 10 (thousandths % 1000)
    (if q < 0 then "-" else "") ++ String.ofList (Nat.toDigits 10 (thousandths / 1000) ++
      '.' :: (List.replicate (3 - decimals.length) '0' ++ decimals))

/-- `f"{n}"` of an `int` that may be `None`. -/
def formatOptional : Option ℤ → String
  | some n => toString n
  | none => "None"

/-- The number in hexadecimal digits, padded to a width. -/
def hexadecimal (width n : ℕ) : List Char :=
  let digits := Nat.toDigits 16 n
  List.replicate (width - digits.length) '0' ++ digits

variable (printable : Char → Bool)

/-- A character within `repr`. -/
def reprChar (quote c : Char) : List Char :=
  if c = '\\' ∨ c = quote then ['\\', c]
  else if c = '\n' then ['\\', 'n']
  else if c = '\r' then ['\\', 'r']
  else if c = '\t' then ['\\', 't']
  else if if c.toNat < 128 then 32 ≤ c.toNat && c.toNat != 127 else printable c then [c]
  else if c.toNat < 0x100 then '\\' :: 'x' :: hexadecimal 2 c.toNat
  else if c.toNat < 0x10000 then '\\' :: 'u' :: hexadecimal 4 c.toNat
  else '\\' :: 'U' :: hexadecimal 8 c.toNat

/-- `repr(text)`. -/
def reprText (text : String) : String :=
  let chars := text.toList
  let quote := if chars.contains '\'' && !chars.contains '"' then '"' else '\''
  String.ofList (quote :: (chars.flatMap (reprChar printable quote) ++ [quote]))

/-! ## The characters of a number -/

/-- A character that numbers are written with: a letter or digit, a sign, a point or a comma. -/
def Numeral (c : Char) : Prop := c.isAlphanum ∨ c = '-' ∨ c = '.' ∨ c = ',' ∨ c = '+'

instance : DecidablePred Numeral := fun _ => inferInstanceAs (Decidable (_ ∨ _))

theorem numeral_digits (n : ℕ) : ∀ c ∈ Nat.toDigits 10 n, Numeral c := by
  intro c hc
  have hdigit := Nat.isDigit_of_mem_toDigits (by decide) (by decide) hc
  exact .inl (by rw [Char.isAlphanum, hdigit, Bool.or_true])

theorem numeral_groupThousands {digits : List Char} (h : ∀ c ∈ digits, Numeral c) :
    ∀ c ∈ groupThousands digits, Numeral c := by
  induction digits using groupThousands.induct with
  | case1 a b c d digits ih =>
    simp only [List.forall_mem_cons] at h
    obtain ⟨ha, hb, hc, hd⟩ := h
    simp only [groupThousands, List.forall_mem_cons]
    exact ⟨ha, hb, hc, .inr (.inr (.inr (.inl rfl))), ih (List.forall_mem_cons.mpr hd)⟩
  | case2 digits hshort =>
    rw [groupThousands]
    · exact h
    · exact hshort

theorem numeral_sign (b : Prop) [Decidable b] :
    ∀ c ∈ (if b then "-" else "").toList, Numeral c := by
  split
  · exact fun c hc => .inr (.inl (List.mem_singleton.mp hc))
  · exact fun c hc => by cases hc

theorem numeral_withCommas (n : ℤ) : ∀ c ∈ (withCommas n).toList, Numeral c := by
  unfold withCommas
  rw [String.toList_append, String.toList_ofList, List.forall_mem_append]
  refine ⟨numeral_sign _, fun c hc => ?_⟩
  refine numeral_groupThousands (fun d hd => ?_) c (List.mem_reverse.mp hc)
  exact numeral_digits _ d (List.mem_reverse.mp hd)

/-- A literal is read character by character. -/
theorem numeral_of_all {s : String} (h : s.toList.all (fun c => decide (Numeral c)) = true) :
    ∀ c ∈ s.toList, Numeral c := fun c hc =>
  of_decide_eq_true (List.all_eq_true.mp h c hc)

theorem numeral_toString (n : ℤ) : ∀ c ∈ (toString n).toList, Numeral c := by
  have hnat (m : ℕ) : ∀ c ∈ m.repr.toList, Numeral c := by
    rw [Nat.repr, String.toList_ofList]
    exact numeral_digits m
  rw [Int.toString_eq_repr, Int.repr_eq_if]
  split
  · exact hnat _
  · rw [String.toList_append, List.forall_mem_append]
    exact ⟨numeral_of_all (by decide), hnat _⟩

theorem numeral_formatOptional (n : Option ℤ) :
    ∀ c ∈ (formatOptional n).toList, Numeral c := by
  cases n with
  | none => exact numeral_of_all (by decide)
  | some n => exact numeral_toString n

theorem numeral_fixed3 (x : Float) : ∀ c ∈ (fixed3 x).toList, Numeral c := by
  cases x with
  | nan => exact numeral_of_all (by decide)
  | inf negative => cases negative <;> exact numeral_of_all (by decide)
  | finite q =>
    simp only [fixed3, String.toList_append, String.toList_ofList, List.forall_mem_append,
      List.forall_mem_cons]
    refine ⟨numeral_sign _, numeral_digits _, .inr (.inr (.inl rfl)), fun c hc => ?_,
      numeral_digits _⟩
    rw [(List.mem_replicate.mp hc).2]
    decide

example : withCommas (-1234567) = "-1,234,567" := by decide

example : reprText (fun _ => true) "a'b" = "\"a'b\"" := by decide

end Py
