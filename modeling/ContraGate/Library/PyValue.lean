import Mathlib.Data.Rat.Defs

/-!
# Python values that cross a JSON boundary

`Json` is what `json.loads` returns (it accepts `NaN` and the infinities), with Python's
truth test, and `Dict` a JSON object in insertion order.
-/

namespace Py

/-- A Python `float`; finite values are kept exactly. -/
inductive Float
  | nan
  | inf (negative : Bool)
  | finite (q : ℚ)
deriving DecidableEq

namespace Float

/-- Python's `<`: a comparison with `nan` is false. -/
def lt : Float → Float → Bool
  | nan, _ => false
  | _, nan => false
  | finite p, finite q => decide (p < q)
  | inf true, inf true => false
  | inf true, _ => true
  | _, inf true => false
  | inf false, _ => false
  | finite _, inf false => true

/-- Python's `>=`. -/
def ge : Float → Float → Bool
  | nan, _ => false
  | _, nan => false
  | x, y => !lt x y

end Float

/-- A decoded JSON value. -/
inductive Json
  | null
  | bool (b : Bool)
  | int (n : ℤ)
  | float (x : Float)
  | str (s : String)
  | arr (items : List Json)
  | obj (entries : List (String × Json))

/-- A JSON object, or any `dict[str, Any]` that holds JSON values. -/
abbrev Dict := List (String × Json)

/-- Python's truth test `bool(v)`. -/
def Json.truthy : Json → Bool
  | null => false
  | bool b => b
  | int n => n != 0
  | float (.finite q) => q != 0
  | float _ => true
  | str s => s != ""
  | arr items => !items.isEmpty
  | obj entries => !entries.isEmpty

namespace Dict

/-- `d.get(key)`. -/
def get (d : Dict) (key : String) : Json := (d.lookup key).getD .null

/-- `d.get(key, default)`. -/
def getD (d : Dict) (key : String) (default : Json) : Json := (d.lookup key).getD default

/-- `d[key] = value`, which keeps the place of a key that is there. -/
def set (d : Dict) (key : String) (value : Json) : Dict :=
  if d.any (·.1 == key) then d.map fun entry => if entry.1 == key then (key, value) else entry
  else d ++ [(key, value)]

/-- `{k: v for k, v in d.items() if k != key}`. -/
def without (d : Dict) (key : String) : Dict := d.filter fun entry => entry.1 != key

end Dict

/-- The value as a Python `dict`, if it is one. -/
def Json.dict? : Json → Option Dict
  | .obj entries => some entries
  | _ => none

/-- The value as a Python `str`, if it is one. -/
def Json.str? : Json → Option String
  | .str s => some s
  | _ => none

theorem Json.eq_str_of_str? {v : Json} {s : String} (h : v.str? = some s) : v = .str s := by
  cases v with
  | str t => exact congrArg Json.str (Option.some.inj h)
  | _ => cases h

/-- A text that may be `None`. -/
def Json.ofText? : Option String → Json
  | none => .null
  | some text => .str text

/-- `type(v).__name__`. -/
def Json.typeName : Json → String
  | .null => "NoneType"
  | .bool _ => "bool"
  | .int _ => "int"
  | .float _ => "float"
  | .str _ => "str"
  | .arr _ => "list"
  | .obj _ => "dict"

/-- `a or b`. -/
def Json.or (a b : Json) : Json := if a.truthy then a else b

/-! ## Encoding -/

mutual

/-- `json.dumps(v, allow_nan=False)` accepts the value: it holds no `nan` and no infinity. -/
def Json.encodable : Json → Bool
  | .float (.finite _) => true
  | .float _ => false
  | .arr items => Json.encodableItems items
  | .obj entries => Json.encodableEntries entries
  | _ => true

/-- `Json.encodable` for the items of an array. -/
def Json.encodableItems : List Json → Bool
  | [] => true
  | item :: items => item.encodable && Json.encodableItems items

/-- `Json.encodable` for the entries of an object. -/
def Json.encodableEntries : List (String × Json) → Bool
  | [] => true
  | entry :: entries => Json.encodableEntry entry && Json.encodableEntries entries

/-- `Json.encodable` for one entry of an object. -/
def Json.encodableEntry : String × Json → Bool
  | (_, value) => value.encodable

end

/-! ## Encoding as UTF-8 -/

/-- A Python text can hold lone surrogates, which no character here is: `lone` says which
characters stand for them. -/
structure Surrogates where
  lone : Char → Bool
  lone_ascii : ∀ c, c.toNat < 128 → lone c = false

namespace Surrogates

variable (surrogates : Surrogates)

/-- `text.encode("utf-8")` does not raise. -/
def encodes (text : String) : Bool := text.toList.all fun c => !surrogates.lone c

mutual

/-- `json.dumps(v, ensure_ascii=False, allow_nan=False).encode("utf-8")` does not raise. -/
def sendable : Json → Bool
  | .float (.finite _) => true
  | .float _ => false
  | .str s => surrogates.encodes s
  | .arr items => sendableItems items
  | .obj entries => sendableEntries entries
  | _ => true

/-- `sendable` for the items of an array. -/
def sendableItems : List Json → Bool
  | [] => true
  | item :: items => sendable item && sendableItems items

/-- `sendable` for the entries of an object. -/
def sendableEntries : List (String × Json) → Bool
  | [] => true
  | entry :: entries => sendableEntry entry && sendableEntries entries

/-- `sendable` for one entry of an object. -/
def sendableEntry : String × Json → Bool
  | (key, value) => surrogates.encodes key && sendable value

end

variable {surrogates}

/-- ASCII text can be encoded. -/
theorem encodes_of_ascii {text : String}
    (h : (text.toList.all fun c => decide (c.toNat < 128)) = true) :
    surrogates.encodes text = true := by
  unfold encodes
  rw [List.all_eq_true] at h ⊢
  intro c hc
  rw [surrogates.lone_ascii c (of_decide_eq_true (h c hc))]
  rfl

theorem encodes_append (s t : String) :
    surrogates.encodes (s ++ t) = (surrogates.encodes s && surrogates.encodes t) := by
  unfold encodes
  rw [String.toList_append, List.all_append]

@[simp] theorem sendable_str (s : String) : surrogates.sendable (.str s) = surrogates.encodes s := by
  simp [sendable]

@[simp] theorem sendable_int (n : ℤ) : surrogates.sendable (.int n) = true := by
  simp [sendable]

/-- An object is sendable if its keys and values are. -/
@[simp] theorem sendable_obj (d : Dict) : surrogates.sendable (.obj d) =
    d.all fun entry => surrogates.encodes entry.1 && surrogates.sendable entry.2 := by
  rw [sendable]
  induction d with
  | nil => rfl
  | cons entry d ih =>
    obtain ⟨key, value⟩ := entry
    rw [sendableEntries, sendableEntry, ih, List.all_cons]

end Surrogates

end Py
