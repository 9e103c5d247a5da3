import Mathlib.Data.Int.Log
import ContraGate.Library.PyFormat

/-!
# Python numbers in JSON values

`float` and `int` either convert a JSON value or raise, and which class they raise decides whether a
handler sees it. A `Number` is a value that can be compared and calculated with: comparisons are
exact, a difference or a sum with a float in it is rounded. How a text is read, and how a float or a
container is written, is a parameter.
-/

namespace Py

/-- The classes of the exceptions that reading a JSON value can raise. -/
inductive Exc
  | typeError | valueError | attributeError | overflowError
deriving DecidableEq

/-- How `float` and `int` read a text; `none` is a `ValueError`. -/
structure NumberText where
  float : String → Option Float
  int : String → Option ℤ

/-- The integers from here on are too large for a `float`. -/
def floatLimit : ℕ := 2 ^ 1024 - 2 ^ 970

namespace Json

variable (texts : NumberText)

/-- `float(v)`. -/
def toFloat : Json → Except Exc Float
  | bool b => .ok (.finite (if b then 1 else 0))
  | int n => if n.natAbs < floatLimit then .ok (.finite n) else .error .overflowError
  | float x => .ok x
  | str s =>
    match texts.float s with
    | some x => .ok x
    | none => .error .valueError
  | _ => .error .typeError

/-- `int(v)`; a finite float is cut off towards zero. -/
def toInt : Json → Except Exc ℤ
  | bool b => .ok (if b then 1 else 0)
  | int n => .ok n
  | float (.finite q) => .ok (if 0 ≤ q then ⌊q⌋ else ⌈q⌉)
  | float .nan => .error .valueError
  | float (.inf _) => .error .overflowError
  | str s =>
    match texts.int s with
    | some n => .ok n
    | none => .error .valueError
  | _ => .error .typeError

/-- The value as a number, if it is one. -/
def number? : Json → Option Float
  | int n => some (.finite n)
  | float x => some x
  | _ => none

end Json

/-! ## Numbers -/

/-- A value that Python calculates with; `True` and `False` count as 1 and 0. -/
inductive Number
  | bool (b : Bool)
  | int (n : ℤ)
  | float (x : Float)
deriving DecidableEq

/-- The value as a `Number`, if it is one. -/
def Json.num? : Json → Option Number
  | bool b => some (.bool b)
  | int n => some (.int n)
  | float x => some (.float x)
  | _ => none

/-- A value as an element of a set or a key of a dictionary: equal numbers are one element. -/
inductive Key
  | none
  | number (x : Float)
  | text (s : String)
deriving DecidableEq

/-- Lists and dictionaries are not hashable. -/
def Json.key? : Json → Option Key
  | null => some .none
  | bool b => some (.number (.finite (if b then 1 else 0)))
  | int n => some (.number (.finite n))
  | float x => some (.number x)
  | str s => some (.text s)
  | _ => Option.none

namespace Float

/-- The float nearest to a number, of two the even one; a number too large for a float becomes
infinite. -/
def nearest (q : ℚ) : Float :=
  let unit : ℚ := 2 ^ (max (Int.log 2 |q|) (-1022) - 52)
  let rounded := roundHalfEven (q / unit) * unit
  if 2 ^ 1024 ≤ |rounded| then .inf (q < 0) else .finite rounded

/-- `-x`. -/
def neg : Float → Float
  | nan => nan
  | inf negative => inf !negative
  | finite q => finite (-q)

/-- `x + y`. -/
def add : Float → Float → Float
  | nan, _ | _, nan => nan
  | inf a, inf b => if a = b then inf a else nan
  | inf a, _ | _, inf a => inf a
  | finite p, finite q => nearest (p + q)

/-- `abs(x)`. -/
def abs : Float → Float
  | nan => nan
  | inf _ => inf false
  | finite q => finite |q|

end Float

namespace Number

/-- What comparisons see. -/
def value : Number → Float
  | bool b => .finite (if b then 1 else 0)
  | int n => .finite n
  | float x => x

def toJson : Number → Json
  | bool b => .bool b
  | int n => .int n
  | float x => .float x

/-- An `int`, or a `bool` as the `int` that it is. -/
def whole? : Number → Option ℤ
  | bool b => some (if b then 1 else 0)
  | int n => some n
  | float _ => none

/-- An `int` that is no `bool`. -/
def isInt : Number → Bool
  | int _ => true
  | _ => false

theorem isInt_iff {x : Number} : x.isInt = true ↔ ∃ n, x = .int n := by
  cases x <;> simp [isInt]

/-- As a float; an integer that is too large raises. -/
def toFloat : Number → Option Float
  | float x => some x
  | bool b => some (.finite (if b then 1 else 0))
  | int n =>
    match Float.nearest n with
    | .finite q => some (.finite q)
    | _ => none

/-- `x + y`. -/
def add (x y : Number) : Option Number :=
  match x.whole?, y.whole? with
  | some a, some b => some (.int (a + b))
  | _, _ => do some (.float ((← x.toFloat).add (← y.toFloat)))

/-- `abs(x - y)`. -/
def absDiff (x y : Number) : Option Number :=
  match x.whole?, y.whole? with
  | some a, some b => some (.int |a - b|)
  | _, _ => do some (.float ((← x.toFloat).add (← y.toFloat).neg).abs)

/-- A field of type `int` takes it: an integer, or a float that is one. -/
def int? : Number → Option ℤ
  | bool b => some (if b then 1 else 0)
  | int n => some n
  | float (.finite q) => if q.den = 1 then some q.num else none
  | float _ => none

@[simp] theorem num?_toJson (x : Number) : x.toJson.num? = some x := by
  cases x <;> rfl

theorem value_of_whole? {x : Number} {n : ℤ} (h : x.whole? = some n) : x.value = .finite n := by
  cases x with
  | bool b =>
    obtain rfl := Option.some.inj h
    cases b <;> simp [value]
  | int m =>
    obtain rfl := Option.some.inj h
    rfl
  | float x => cases h

@[simp] theorem value_int (n : ℤ) : (int n).value = .finite n := rfl

@[simp] theorem int?_int (n : ℤ) : (int n).int? = some n := rfl

@[simp] theorem add_int (m n : ℤ) : (int m).add (.int n) = some (.int (m + n)) := rfl

@[simp] theorem absDiff_int (m n : ℤ) : (int m).absDiff (.int n) = some (.int |m - n|) := rfl

/-- A whole difference is not negative. -/
theorem absDiff_nonneg {x y : Number} {n : ℤ} (h : (x.absDiff y).bind int? = some n) : 0 ≤ n := by
  obtain ⟨d, hd, hn⟩ := Option.bind_eq_some_iff.mp h
  unfold absDiff at hd
  split at hd
  · obtain rfl := Option.some.inj hd
    obtain rfl := Option.some.inj hn
    exact abs_nonneg _
  · simp only [Option.bind_eq_bind, Option.bind_eq_some_iff, Option.some.injEq] at hd
    obtain ⟨p, -, q, -, rfl⟩ := hd
    cases hsum : p.add q.neg with
    | finite r =>
      rw [hsum] at hn
      obtain ⟨-, hnum⟩ := Option.ite_none_right_eq_some.mp hn
      obtain rfl := Option.some.inj hnum
      exact Rat.num_nonneg.mpr (abs_nonneg r)
    | _ =>
      rw [hsum] at hn
      cases hn

end Number

/-! ## Their texts -/

/-- How Python writes the values whose text is not fixed here. -/
structure ValueText where
  /-- `str(x)` of a float. -/
  float : Float → String
  /-- `f"{x:,}"` of a float. -/
  commas : Float → String
  commas_numeral : ∀ x, ∀ c ∈ (commas x).toList, Numeral c
  /-- `repr` of a list or a dictionary. -/
  repr : Json → String

/-- Floats with three decimals, and no text for containers. -/
def ValueText.decimals : ValueText where
  float := fixed3
  commas := fixed3
  commas_numeral := numeral_fixed3
  repr _ := ""

variable (texts : ValueText)

/-- `str(v)`. -/
def Json.display : Json → String
  | .null => "None"
  | .bool b => if b then "True" else "False"
  | .int n => toString n
  | .float x => texts.float x
  | .str s => s
  | v => texts.repr v

/-- `f"{x:,}"`. -/
def Number.withCommas : Number → String
  | .bool b => if b then "1" else "0"
  | .int n => Py.withCommas n
  | .float x => texts.commas x

theorem numeral_number (x : Number) : ∀ c ∈ (x.withCommas texts).toList, Numeral c := by
  cases x with
  | bool b =>
    cases b with
    | false => exact numeral_of_all (s := "0") (by decide)
    | true => exact numeral_of_all (s := "1") (by decide)
  | int n => exact numeral_withCommas n
  | float x => exact texts.commas_numeral x

end Py
