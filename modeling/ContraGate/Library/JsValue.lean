import ContraGate.Library.PyValue

/-!
# Texts and values of JavaScript

A text counts in UTF-16 code units there (`length`), so a character outside the first 65536 counts
twice, and `trim` takes away white space and line terminators on both sides. The values are those
that come out of a JSON text, with JavaScript's truth test; `null` stands for `undefined` too.
-/

namespace Js

/-- White space or a line terminator. -/
def isSpace (c : Char) : Bool :=
  let n := c.toNat
  (0x09 ≤ n && n ≤ 0x0D) || n == 0x20 || n == 0xA0 || n == 0x1680 || (0x2000 ≤ n && n ≤ 0x200A) ||
    n == 0x2028 || n == 0x2029 || n == 0x202F || n == 0x205F || n == 0x3000 || n == 0xFEFF

/-- `text.trim()`. -/
def trim (text : String) : String :=
  String.ofList ((text.toList.dropWhile isSpace).reverse.dropWhile isSpace).reverse

/-- The character is one code unit. -/
def isUnit (c : Char) : Bool := c.toNat < 0x10000

/-- The code units of a list of characters. -/
def units (chars : List Char) : ℕ := chars.length + (chars.filter fun c => !isUnit c).length

/-- `text.length`. -/
def length (text : String) : ℕ := units text.toList

theorem units_le (chars : List Char) : units chars ≤ 2 * chars.length := by
  have hle := List.length_filter_le (fun c => !isUnit c) chars
  unfold units
  omega

theorem units_of_all {chars : List Char} (h : chars.all isUnit = true) :
    units chars = chars.length := by
  have hnone : chars.filter (fun c => !isUnit c) = [] := by
    rw [List.filter_eq_nil_iff]
    intro c hc
    simp [List.all_eq_true.mp h c hc]
  rw [units, hnone, List.length_nil, Nat.add_zero]

/-- `Boolean(v)`. -/
def truthy : Py.Json → Bool
  | .null => false
  | .bool b => b
  | .int n => n != 0
  | .float .nan => false
  | .float (.inf _) => true
  | .float (.finite q) => q != 0
  | .str s => s != ""
  | .arr _ | .obj _ => true

/-- `v[key]`, of a value that may have no fields. -/
def field (v : Py.Json) (key : String) : Py.Json :=
  match v with
  | .obj entries => Py.Dict.get entries key
  | _ => .null

/-- `v === text`. -/
def isText (v : Py.Json) (text : String) : Bool :=
  match v with
  | .str s => s == text
  | _ => false

example : length (trim " looks 👍👍 ") = 10 := by decide

end Js
