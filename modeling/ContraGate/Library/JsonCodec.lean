import ContraGate.Library.IsoTime
import ContraGate.Library.PyDict
import ContraGate.Library.PyNumber

/-!
# Typed values as JSON

A `JsonCodec` says how the values of a type are written as JSON and how they are read back, and
carries the proof that its valid values come back as they were. Codecs are built from smaller
ones: texts, numbers, times and choices, then `nullable`, `list` and, for objects whose fields are
values of a type, `record`.

What a reader makes of a JSON value of another kind than the declared one (a text where a number is
asked for) is a parameter, `Lax`: no value that is written comes back through it.
-/

namespace Py

namespace Float

/-- No `nan` and no infinity. -/
def isFinite : Float → Bool
  | finite _ => true
  | _ => false

end Float

/-! ## Any JSON value -/

namespace Json

/-- A finite float. -/
def isFiniteFloat : Json → Bool
  | float x => x.isFinite
  | _ => false

/-- A list of objects that are written as they are. -/
def isObjects : Json → Bool
  | arr items => items.all fun item => item.dict?.isSome && item.encodable
  | _ => false

mutual

/-- The value as it is written: JSON has no `nan` and no infinity, so they become `null`. -/
def jsonable : Json → Json
  | .float (.finite q) => .float (.finite q)
  | .float _ => .null
  | .arr items => .arr (jsonableItems items)
  | .obj entries => .obj (jsonableEntries entries)
  | .null => .null
  | .bool b => .bool b
  | .int n => .int n
  | .str s => .str s

/-- `jsonable` for the items of an array. -/
def jsonableItems : List Json → List Json
  | [] => []
  | item :: items => jsonable item :: jsonableItems items

/-- `jsonable` for the entries of an object. -/
def jsonableEntries : List (String × Json) → List (String × Json)
  | [] => []
  | entry :: entries => jsonableEntry entry :: jsonableEntries entries

/-- `jsonable` for one entry of an object. -/
def jsonableEntry : String × Json → String × Json
  | (key, value) => (key, jsonable value)

end

mutual

/-- A value without `nan` and infinities is written as it is. -/
theorem jsonable_of_encodable : ∀ {v : Json}, v.encodable = true → v.jsonable = v
  | .float (.finite q), _ => by rw [jsonable]
  | .float .nan, h => by simp [encodable] at h
  | .float (.inf _), h => by simp [encodable] at h
  | .arr items, h => by
    rw [encodable] at h
    rw [jsonable, jsonableItems_of_encodable h]
  | .obj entries, h => by
    rw [encodable] at h
    rw [jsonable, jsonableEntries_of_encodable h]
  | .null, _ | .bool _, _ | .int _, _ | .str _, _ => by rw [jsonable]

theorem jsonableItems_of_encodable : ∀ {items : List Json},
    encodableItems items = true → jsonableItems items = items
  | [], _ => by rw [jsonableItems]
  | item :: items, h => by
    rw [encodableItems, Bool.and_eq_true] at h
    rw [jsonableItems, jsonable_of_encodable h.1, jsonableItems_of_encodable h.2]

theorem jsonableEntries_of_encodable : ∀ {entries : List (String × Json)},
    encodableEntries entries = true → jsonableEntries entries = entries
  | [], _ => by rw [jsonableEntries]
  | entry :: entries, h => by
    rw [encodableEntries, Bool.and_eq_true] at h
    rw [jsonableEntries, jsonableEntry_of_encodable h.1, jsonableEntries_of_encodable h.2]

theorem jsonableEntry_of_encodable : ∀ {entry : String × Json},
    encodableEntry entry = true → jsonableEntry entry = entry
  | (key, value), h => by
    rw [encodableEntry] at h
    rw [jsonableEntry, jsonable_of_encodable h]

end

end Json

/-! ## Codecs -/

/-- How the values of a type are written and read back. -/
structure JsonCodec (α : Type) where
  encode : α → Json
  decode : Json → Option α
  /-- The values that come back. -/
  Valid : α → Prop
  decode_encode : ∀ {a : α}, Valid a → decode (encode a) = some a

/-- What is read from a value of another kind than the declared one; `none` when it is refused. -/
structure Lax where
  bool : Json → Option Bool
  int : Json → Option ℤ
  float : Json → Option Float
  time : Json → Option ℤ

/-- Nothing but the declared kind is accepted. -/
def Lax.strict : Lax where
  bool _ := none
  int _ := none
  float _ := none
  time _ := none

namespace JsonCodec

variable {α β : Type}

def text : JsonCodec String where
  encode := .str
  decode := Json.str?
  Valid _ := True
  decode_encode _ := rfl

/-- A value that is one of a few, written by its name. -/
def choice (name : α → String) (values : List α)
    (h : ∀ a, values.find? (fun b => name b == name a) = some a) : JsonCodec α where
  encode a := .str (name a)
  decode
    | .str s => values.find? fun b => name b == s
    | _ => none
  Valid _ := True
  decode_encode _ := h _

section Lax

variable (lax : Lax)

def boolean : JsonCodec Bool where
  encode := .bool
  decode
    | .bool b => some b
    | v => lax.bool v
  Valid _ := True
  decode_encode _ := rfl

def integer : JsonCodec ℤ where
  encode := .int
  decode
    | .int n => some n
    | v => lax.int v
  Valid _ := True
  decode_encode _ := rfl

def float : JsonCodec Float where
  encode x := (Json.float x).jsonable
  decode
    | .float x => some x
    | v => lax.float v
  Valid x := x.isFinite = true
  decode_encode {x} hx := by
    cases x with
    | finite q => rw [Json.jsonable]
    | _ => cases hx

/-- A time in UTC, as its ISO 8601 text. -/
def time : JsonCodec ℤ where
  encode t := .str (IsoTime.format t)
  decode
    | .str s => (IsoTime.parse s).or (lax.time (.str s))
    | v => lax.time v
  Valid _ := True
  decode_encode {t} _ := by
    change (IsoTime.parse (IsoTime.format t)).or _ = some t
    rw [IsoTime.parse_format, Option.some_or]

end Lax

/-- An object with any JSON values in it. -/
def dict : JsonCodec Dict where
  encode d := (Json.obj d).jsonable
  decode := Json.dict?
  Valid d := (Json.obj d).encodable = true
  decode_encode h := by
    rw [Json.jsonable_of_encodable h]
    rfl

/-- `null`, or a value. -/
def nullable (c : JsonCodec α) (hnull : ∀ a, c.Valid a → c.encode a ≠ .null) :
    JsonCodec (Option α) where
  encode
    | none => .null
    | some a => c.encode a
  decode
    | .null => some none
    | v => (c.decode v).map some
  Valid a := ∀ x ∈ a, c.Valid x
  decode_encode {a} h := by
    cases a with
    | none => rfl
    | some a =>
      have ha : c.Valid a := h a rfl
      have hdecode := c.decode_encode ha
      dsimp only
      split
      · rename_i heq
        exact absurd heq (hnull a ha)
      · rw [hdecode, Option.map_some]

/-- An array of values. -/
def list (c : JsonCodec α) : JsonCodec (List α) where
  encode items := .arr (items.map c.encode)
  decode
    | .arr items => items.mapM c.decode
    | _ => none
  Valid items := ∀ a ∈ items, c.Valid a
  decode_encode {items} h := by
    dsimp only
    induction items with
    | nil => rfl
    | cons a items ih =>
      have ha : c.Valid a := h a List.mem_cons_self
      have hitems := ih fun b hb => h b (List.mem_cons_of_mem _ hb)
      rw [List.map_cons, List.mapM_cons, c.decode_encode ha, hitems]
      rfl

/-- A value that was put in place without being checked: it is written as it stands, and read as
what was declared. -/
def unchecked (c : JsonCodec α) : JsonCodec Json where
  encode := Json.jsonable
  decode v := (c.decode v).map c.encode
  Valid v := ∃ a, c.Valid a ∧ v = c.encode a ∧ v.encodable = true
  decode_encode {v} h := by
    obtain ⟨a, ha, hv, hencodable⟩ := h
    rw [Json.jsonable_of_encodable hencodable, hv, c.decode_encode ha, Option.map_some]

/-- The same of a number, where an integer is declared. -/
def uncheckedInteger (lax : Lax) : JsonCodec Number where
  encode x := x.toJson.jsonable
  decode v := ((integer lax).decode v).map .int
  Valid x := x.isInt = true
  decode_encode {x} hx := by
    obtain ⟨n, rfl⟩ := Number.isInt_iff.mp hx
    change ((integer lax).decode (Json.int n).jsonable).map Number.int = some (.int n)
    rw [Json.jsonable]
    rfl

/-- A finite float in a field that is not checked comes back. -/
theorem valid_unchecked_float (lax : Lax) {v : Json} (h : v.isFiniteFloat = true) :
    (unchecked (float lax)).Valid v := by
  cases v with
  | float x =>
    cases x with
    | finite q =>
      refine ⟨.finite q, rfl, ?_, by rw [Json.encodable]⟩
      change Json.float (.finite q) = (Json.float (.finite q)).jsonable
      rw [Json.jsonable]
    | _ => cases h
  | _ => cases h

/-- Objects that are written as they are, as dictionaries. -/
theorem exists_dicts {items : List Json}
    (h : ∀ item ∈ items, ∃ d, item = .obj d ∧ (Json.obj d).encodable = true) :
    ∃ ds : List Dict, (list dict).Valid ds ∧ items = ds.map dict.encode ∧
      Json.encodableItems items = true := by
  induction items with
  | nil => exact ⟨[], nofun, rfl, by rw [Json.encodableItems]⟩
  | cons item items ih =>
    obtain ⟨hitem, hitems⟩ := List.forall_mem_cons.mp h
    obtain ⟨d, rfl, hd⟩ := hitem
    obtain ⟨ds, hds, rfl, hencodable⟩ := ih hitems
    have hencode : dict.encode d = .obj d := Json.jsonable_of_encodable hd
    refine ⟨d :: ds, List.forall_mem_cons.mpr ⟨hd, hds⟩, ?_, ?_⟩
    · rw [List.map_cons, hencode]
    · rw [Json.encodableItems, hd, hencodable, Bool.and_self]

/-- A list of objects in a field that is not checked comes back. -/
theorem valid_unchecked_dicts {v : Json} (h : v.isObjects = true) :
    (unchecked (list dict)).Valid v := by
  cases v with
  | arr items =>
    have hitems : ∀ item ∈ items, ∃ d, item = .obj d ∧ (Json.obj d).encodable = true := by
      intro item hitem
      have hitem := List.all_eq_true.mp h item hitem
      cases item with
      | obj d => exact ⟨d, rfl, hitem⟩
      | _ => cases hitem
    obtain ⟨ds, hds, heq, hencodable⟩ := exists_dicts hitems
    exact ⟨ds, hds, congrArg Json.arr heq, by rwa [Json.encodable]⟩
  | _ => cases h

/-- An integer is not `null`. -/
theorem uncheckedInteger_ne_null {lax : Lax} (x : Number) (hx : (uncheckedInteger lax).Valid x) :
    (uncheckedInteger lax).encode x ≠ .null := by
  obtain ⟨n, rfl⟩ := Number.isInt_iff.mp hx
  change (Json.int n).jsonable ≠ .null
  rw [Json.jsonable]
  nofun

/-! ## The values that come back -/

@[simp] theorem valid_text (s : String) : text.Valid s := trivial

@[simp] theorem valid_choice (name : α → String) (values : List α)
    (h : ∀ a, values.find? (fun b => name b == name a) = some a) (a : α) :
    (choice name values h).Valid a := trivial

@[simp] theorem valid_boolean (lax : Lax) (b : Bool) : (boolean lax).Valid b := trivial

@[simp] theorem valid_integer (lax : Lax) (n : ℤ) : (integer lax).Valid n := trivial

@[simp] theorem valid_float (lax : Lax) (x : Float) :
    (float lax).Valid x ↔ x.isFinite = true := Iff.rfl

@[simp] theorem valid_time (lax : Lax) (t : ℤ) : (time lax).Valid t := trivial

@[simp] theorem valid_dict (d : Dict) : dict.Valid d ↔ (Json.obj d).encodable = true := Iff.rfl

@[simp] theorem valid_nullable (c : JsonCodec α) (hnull : ∀ a, c.Valid a → c.encode a ≠ .null)
    (a : Option α) : (c.nullable hnull).Valid a ↔ ∀ x ∈ a, c.Valid x := Iff.rfl

@[simp] theorem valid_list (c : JsonCodec α) (items : List α) :
    c.list.Valid items ↔ ∀ a ∈ items, c.Valid a := Iff.rfl

/-! ## Objects -/

/-- Read a field that has to be there. -/
def required (d : Dict) (key : String) (c : JsonCodec α) : Option α :=
  (d.lookup key).bind c.decode

/-- Read a field that may be left out. -/
def withDefault (d : Dict) (key : String) (c : JsonCodec α) (default : α) : Option α :=
  match d.lookup key with
  | none => some default
  | some v => c.decode v

section Record

variable {F : Type} {V : F → Type}

/-- The fields of an object, as a type with a name and a codec for each. -/
structure Fields (F : Type) (V : F → Type) where
  all : List F
  mem_all : ∀ f, f ∈ all
  name : F → String
  nodup : (all.map name).Nodup
  codec : (f : F) → JsonCodec (V f)
  /-- What a field that is left out holds; `none` when it has to be there. -/
  default : (f : F) → Option (V f)

namespace Fields

variable (fields : Fields F V)

/-- The value of one field. -/
def read (d : Dict) (f : F) : Option (V f) :=
  match d.lookup (fields.name f) with
  | none => fields.default f
  | some v => (fields.codec f).decode v

/-- The entries of the object. -/
def entries (values : (f : F) → V f) : Dict :=
  fields.all.map fun f => (fields.name f, (fields.codec f).encode (values f))

theorem lookup_entries (values : (f : F) → V f) (f : F) :
    (fields.entries values).lookup (fields.name f) =
      some ((fields.codec f).encode (values f)) := by
  refine Dict.lookup_of_mem ?_ (List.mem_map_of_mem (fields.mem_all f))
  have hkeys : (fields.entries values).keys = fields.all.map fields.name := by
    unfold Dict.keys entries
    rw [List.map_map]
    rfl
  rw [hkeys]
  exact fields.nodup

theorem read_entries (values : (f : F) → V f) {f : F} (h : (fields.codec f).Valid (values f)) :
    fields.read (fields.entries values) f = some (values f) := by
  unfold read
  rw [fields.lookup_entries values f]
  exact (fields.codec f).decode_encode h

end Fields

/-- An object with these fields. One field that cannot be read spoils it. -/
def record (fields : Fields F V) : JsonCodec ((f : F) → V f) where
  encode values := .obj (fields.entries values)
  decode
    | .obj d =>
      if h : ∀ f ∈ fields.all, (fields.read d f).isSome then
        some fun f => (fields.read d f).get (h f (fields.mem_all f))
      else none
    | _ => none
  Valid values := ∀ f, (fields.codec f).Valid (values f)
  decode_encode {values} h := by
    have hread (f : F) := fields.read_entries values (h f)
    have hsome : ∀ f ∈ fields.all, (fields.read (fields.entries values) f).isSome := by
      intro f _
      rw [hread f]
      rfl
    dsimp only
    rw [dif_pos hsome]
    refine congrArg some (funext fun f => ?_)
    exact Option.get_of_eq_some _ (hread f)

end Record

end JsonCodec

end Py
