import Mathlib.Data.List.Sort
import Mathlib.Data.String.Basic
import ContraGate.Library.JsonNumber
import ContraGate.Library.StableSort

/-!
# JSON values and their texts

`JsonData` is a value that `json.dumps` writes and `json.loads` reads; unlike `Json` it tells all
floats apart. What is known about the floats is in `Floats`: the shortest decimal of each, which
is read back as the same float. `dumps` is the text with sorted keys; two values have the same
text exactly when they are the same up to the order of the keys (`dumps_inj`).
-/

namespace Py

/-- The finite values of `float`. -/
structure Floats (F : Type) where
  /-- The shortest decimal that names the float. -/
  decimal : F → Decimal
  /-- The float nearest to a decimal, given by its sign and its size; `none` is an infinity. -/
  nearest : Bool → ℚ → Option F
  normal : ∀ x, (decimal x).Normal
  coefficient_lt : ∀ x, (decimal x).coefficient < 10 ^ 17
  point_le : ∀ x, (decimal x).point ≤ 309
  /-- `float(repr(x)) == x`. -/
  nearest_decimal : ∀ x, nearest (decimal x).negative (decimal x).magnitude = some x
  /-- The sign is kept, also that of a zero. -/
  negative_nearest : ∀ {negative q x}, nearest negative q = some x →
    (decimal x).negative = negative

theorem Floats.decimal_injective {F : Type} (floats : Floats F) :
    Function.Injective floats.decimal := by
  intro x y h
  have hx := floats.nearest_decimal x
  rw [h, floats.nearest_decimal y] at hx
  exact (Option.some.inj hx).symm

/-- A JSON value; `json` also writes and reads the floats that are no numbers. -/
inductive JsonData (F : Type)
  | null
  | bool (b : Bool)
  | int (n : ℤ)
  | float (x : F)
  | nan
  | infinity (negative : Bool)
  | str (s : String)
  | arr (items : List (JsonData F))
  | obj (entries : List (String × JsonData F))

namespace JsonData

/-! ## Strings -/

def hex4 (n : ℕ) : List Char :=
  [Nat.digitChar (n / 4096), Nat.digitChar (n / 256 % 16), Nat.digitChar (n / 16 % 16),
    Nat.digitChar (n % 16)]

def unicodeEscape (n : ℕ) : List Char := '\\' :: 'u' :: hex4 n

/-- A character in a string; what is not printable ASCII is written in its UTF-16 units. -/
def escapeChar (c : Char) : List Char :=
  if c = '"' then ['\\', '"']
  else if c = '\\' then ['\\', '\\']
  else if c = '\n' then ['\\', 'n']
  else if c = '\r' then ['\\', 'r']
  else if c = '\t' then ['\\', 't']
  else if c = '\x0c' then ['\\', 'f']
  else if c = '\x08' then ['\\', 'b']
  else if 32 ≤ c.toNat ∧ c.toNat ≤ 126 then [c]
  else if c.toNat < 0x10000 then unicodeEscape c.toNat
  else unicodeEscape (0xD800 + (c.toNat - 0x10000) / 1024) ++
    unicodeEscape (0xDC00 + (c.toNat - 0x10000) % 1024)

def quoted (s : String) : List Char := '"' :: (s.toList.flatMap escapeChar ++ ['"'])

/-- The value of a hexadecimal digit. -/
def hexValue (c : Char) : ℕ := if c.isDigit then c.toNat - 48 else c.toNat - 87

theorem hexValue_digitChar {n : ℕ} (h : n < 16) : hexValue (Nat.digitChar n) = n := by
  revert n
  decide

def unit (a b c d : Char) : ℕ :=
  4096 * hexValue a + 256 * hexValue b + 16 * hexValue c + hexValue d

/-- The character whose first UTF-16 unit is `high`. -/
def unescapeLow (high : ℕ) : List Char → Option (Char × List Char)
  | '\\' :: 'u' :: a :: b :: c :: d :: k =>
    some (Char.ofNat (0x10000 + (high - 0xD800) * 1024 + (unit a b c d - 0xDC00)), k)
  | _ => none

/-- The first character of a string, and what follows it. -/
def unescape : List Char → Option (Char × List Char)
  | '\\' :: 'u' :: a :: b :: c :: d :: k =>
    if unit a b c d < 0xD800 ∨ 0xDBFF < unit a b c d then some (Char.ofNat (unit a b c d), k)
    else unescapeLow (unit a b c d) k
  | '\\' :: 'n' :: k => some ('\n', k)
  | '\\' :: 'r' :: k => some ('\r', k)
  | '\\' :: 't' :: k => some ('\t', k)
  | '\\' :: 'f' :: k => some ('\x0c', k)
  | '\\' :: 'b' :: k => some ('\x08', k)
  | '\\' :: c :: k => some (c, k)
  | c :: k => some (c, k)
  | [] => none

theorem unit_hex4 {n : ℕ} (h : n < 0x10000) :
    unit (Nat.digitChar (n / 4096)) (Nat.digitChar (n / 256 % 16)) (Nat.digitChar (n / 16 % 16))
      (Nat.digitChar (n % 16)) = n := by
  unfold unit
  rw [hexValue_digitChar (by omega), hexValue_digitChar (by omega), hexValue_digitChar (by omega),
    hexValue_digitChar (by omega)]
  omega

/-- Nothing is lost by the escapes. -/
theorem unescape_escapeChar (c : Char) (k : List Char) :
    unescape (escapeChar c ++ k) = some (c, k) := by
  unfold escapeChar
  split_ifs with h₁ h₂ h₃ h₄ h₅ h₆ h₇ h₈ h₉
  · rw [h₁]; rfl
  · rw [h₂]; rfl
  · rw [h₃]; rfl
  · rw [h₄]; rfl
  · rw [h₅]; rfl
  · rw [h₆]; rfl
  · rw [h₇]; rfl
  · rw [List.singleton_append]
    unfold unescape
    split <;> simp_all
  · -- no character lies among the surrogates
    have hunit : c.toNat < 0xD800 ∨ 0xDBFF < c.toNat := by
      rcases c.valid with h | h
      · exact .inl h
      · exact .inr (lt_trans (by decide) h.1)
    simp only [unicodeEscape, hex4, List.cons_append, List.nil_append]
    rw [unescape, unit_hex4 h₉, if_pos hunit, Char.ofNat_toNat]
  · have hlt : c.toNat < 0x110000 := by
      rcases c.valid with h | h
      · exact lt_trans h (by decide)
      · exact h.2
    have hhigh : ¬ (0xD800 + (c.toNat - 0x10000) / 1024 < 0xD800 ∨
        0xDBFF < 0xD800 + (c.toNat - 0x10000) / 1024) := by omega
    have hcode : 0x10000 + (0xD800 + (c.toNat - 0x10000) / 1024 - 0xD800) * 1024 +
        (0xDC00 + (c.toNat - 0x10000) % 1024 - 0xDC00) = c.toNat := by omega
    simp only [unicodeEscape, hex4, List.cons_append, List.nil_append]
    rw [unescape, unit_hex4 (by omega), if_neg hhigh, unescapeLow, unit_hex4 (by omega), hcode,
      Char.ofNat_toNat]

theorem escapeChar_append_inj {c d : Char} {k l : List Char}
    (h : escapeChar c ++ k = escapeChar d ++ l) : c = d ∧ k = l := by
  have hread := unescape_escapeChar c k
  rw [h, unescape_escapeChar] at hread
  obtain ⟨hcd, hkl⟩ := Prod.mk.inj (Option.some.inj hread)
  exact ⟨hcd.symm, hkl.symm⟩

/-- No escape begins with a quotation mark. -/
theorem escapeChar_ne_quote (c : Char) (k l : List Char) : escapeChar c ++ k ≠ '"' :: l := by
  intro h
  unfold escapeChar at h
  split_ifs at h <;> simp_all [unicodeEscape]

theorem quoted_append_inj {s t : String} {k l : List Char}
    (h : quoted s ++ k = quoted t ++ l) : s = t ∧ k = l := by
  have hlists {cs ds : List Char} (h : cs.flatMap escapeChar ++ ('"' :: k) =
      ds.flatMap escapeChar ++ ('"' :: l)) : cs = ds ∧ k = l := by
    induction cs generalizing ds with
    | nil =>
      cases ds with
      | nil => exact ⟨rfl, (List.cons.inj h).2⟩
      | cons d ds =>
        rw [List.flatMap_cons, List.append_assoc] at h
        exact absurd h.symm (escapeChar_ne_quote d _ _)
    | cons c cs ih =>
      cases ds with
      | nil =>
        rw [List.flatMap_cons, List.append_assoc] at h
        exact absurd h (escapeChar_ne_quote c _ _)
      | cons d ds =>
        rw [List.flatMap_cons, List.append_assoc, List.flatMap_cons, List.append_assoc] at h
        obtain ⟨hcd, hrest⟩ := escapeChar_append_inj h
        obtain ⟨hcs, hkl⟩ := ih hrest
        exact ⟨by rw [hcd, hcs], hkl⟩
  simp only [quoted, List.cons_append, List.append_assoc, List.cons.injEq, true_and] at h
  obtain ⟨hst, hkl⟩ := hlists h
  exact ⟨String.toList_inj.mp hst, hkl⟩

/-! ## The text of a value -/

variable {F : Type} (floats : Floats F)

mutual

/-- `json.dumps(v)`. -/
def text : JsonData F → List Char
  | null => "null".toList
  | bool b => (if b then "true" else "false").toList
  | int n => (JsonNumber.ofInt n).text
  | float x => (floats.decimal x).repr.text
  | nan => "NaN".toList
  | infinity negative => (if negative then "-Infinity" else "Infinity").toList
  | str s => quoted s
  | arr items => '[' :: itemsText items
  | obj entries => '{' :: entriesText entries

/-- The items of an array up to its end. -/
def itemsText : List (JsonData F) → List Char
  | [] => [']']
  | item :: items => text item ++ moreItemsText items

def moreItemsText : List (JsonData F) → List Char
  | [] => [']']
  | item :: items => ',' :: ' ' :: (text item ++ moreItemsText items)

/-- The entries of an object up to its end. -/
def entriesText : List (String × JsonData F) → List Char
  | [] => ['}']
  | entry :: entries => entryText entry ++ moreEntriesText entries

def moreEntriesText : List (String × JsonData F) → List Char
  | [] => ['}']
  | entry :: entries => ',' :: ' ' :: (entryText entry ++ moreEntriesText entries)

def entryText : String × JsonData F → List Char
  | (key, value) => quoted key ++ (':' :: ' ' :: text value)

end

example : quoted "a\"é😀" = "\"a\\\"\\u00e9\\ud83d\\ude00\"".toList := by decide

/-- What the first characters of a value tell about it. -/
inductive Kind
  | null | true | false | number | nan | infinity | negativeInfinity | str | arr | obj

def kind : JsonData F → Kind
  | null => .null
  | bool b => if b then .true else .false
  | int _ | float _ => .number
  | nan => .nan
  | infinity negative => if negative then .negativeInfinity else .infinity
  | str _ => .str
  | arr _ => .arr
  | obj _ => .obj

def kindOf : List Char → Option Kind
  | 'n' :: _ => some .null
  | 't' :: _ => some .true
  | 'f' :: _ => some .false
  | 'N' :: _ => some .nan
  | 'I' :: _ => some .infinity
  | '-' :: 'I' :: _ => some .negativeInfinity
  | '"' :: _ => some .str
  | '[' :: _ => some .arr
  | '{' :: _ => some .obj
  | c :: _ => if c = '-' ∨ c.isDigit then some .number else none
  | [] => none

theorem kindOf_digit {c : Char} (hc : c.isDigit = true) (k : List Char) :
    kindOf (c :: k) = some .number ∧ kindOf ('-' :: c :: k) = some .number := by
  have hne (d : Char) (hd : d.isDigit = false) : c ≠ d := by
    rintro rfl
    rw [hc] at hd
    cases hd
  constructor
  · unfold kindOf
    split <;> simp_all
  · have hI : c ≠ 'I' := hne 'I' (by decide)
    rw [kindOf, if_pos (.inl rfl)] <;> simp_all

theorem kindOf_number {n : JsonNumber} (hn : n.whole ≠ []) (k : List Char) :
    kindOf (n.text ++ k) = some .number := by
  obtain ⟨c, cs, hwhole⟩ := List.exists_cons_of_ne_nil hn
  have hc : c.isDigit = true := n.isDigit_whole c (by simp [hwhole])
  unfold JsonNumber.text JsonNumber.signText
  rw [hwhole]
  cases n.negative with
  | true => exact (kindOf_digit hc _).2
  | false => exact (kindOf_digit hc _).1

theorem whole_ofInt_ne_nil (n : ℤ) : (JsonNumber.ofInt n).whole ≠ [] := Nat.toDigits_ne_nil

theorem kindOf_text (v : JsonData F) (k : List Char) : kindOf (text floats v ++ k) = some v.kind := by
  cases v with
  | bool b => cases b <;> rfl
  | infinity negative => cases negative <;> rfl
  | int n => exact kindOf_number (whole_ofInt_ne_nil n) k
  | float x => exact kindOf_number (Decimal.whole_repr_ne_nil _) k
  | _ => rfl

variable {floats}

theorem kind_eq {v w : JsonData F} {k l : List Char} (h : text floats v ++ k = text floats w ++ l) :
    v.kind = w.kind := by
  have hkind := kindOf_text floats v k
  rw [h, kindOf_text] at hkind
  exact (Option.some.inj hkind).symm

/-- What can follow a value. -/
def Ends (k : List Char) : Prop := ∀ c ∈ k.head?, c = ',' ∨ c = ']' ∨ c = '}'

theorem Ends.stops {k : List Char} (h : Ends k) : JsonNumber.Stops k := by
  intro c hc
  rcases h c hc with rfl | rfl | rfl <;> decide

theorem ends_nil : Ends [] := nofun

theorem ends_moreItemsText (items : List (JsonData F)) (k : List Char) :
    Ends (moreItemsText floats items ++ k) := by
  cases items with
  | nil =>
    rintro c ⟨⟩
    exact .inr (.inl rfl)
  | cons item items =>
    rintro c ⟨⟩
    exact .inl rfl

theorem ends_moreEntriesText (entries : List (String × JsonData F)) (k : List Char) :
    Ends (moreEntriesText floats entries ++ k) := by
  cases entries with
  | nil =>
    rintro c ⟨⟩
    exact .inr (.inr rfl)
  | cons entry entries =>
    rintro c ⟨⟩
    exact .inl rfl

/-- The text of a number shows whether it was an `int` or a `float`, and which. -/
theorem number_append_inj {v w : JsonData F} {k l : List Char} (hv : v.kind = .number)
    (hw : w.kind = .number) (hk : Ends k) (hl : Ends l)
    (h : text floats v ++ k = text floats w ++ l) : v = w ∧ k = l := by
  have hnumber {v : JsonData F} (hv : v.kind = .number) :
      (∃ n, v = int n) ∨ ∃ x, v = float x := by
    cases v with
    | int n => exact .inl ⟨n, rfl⟩
    | float x => exact .inr ⟨x, rfl⟩
    | bool b => cases b <;> cases hv
    | infinity negative => cases negative <;> cases hv
    | _ => cases hv
  have hint (n : ℤ) := whole_ofInt_ne_nil n
  have hfloat (x : F) := (floats.decimal x).whole_repr_ne_nil
  rcases hnumber hv with ⟨n, rfl⟩ | ⟨x, rfl⟩ <;> rcases hnumber hw with ⟨m, rfl⟩ | ⟨y, rfl⟩ <;>
    rw [text, text] at h
  · obtain ⟨hnm, hkl⟩ := JsonNumber.text_append_inj (hint n) (hint m) hk.stops hl.stops h
    have hvalue := congrArg JsonNumber.toInt hnm
    rw [JsonNumber.toInt_ofInt, JsonNumber.toInt_ofInt] at hvalue
    exact ⟨congrArg int hvalue, hkl⟩
  · obtain ⟨hny, -⟩ := JsonNumber.text_append_inj (hint n) (hfloat y) hk.stops hl.stops h
    exact absurd (hny ▸ JsonNumber.isInteger_ofInt n) (Decimal.not_isInteger_repr _)
  · obtain ⟨hxm, -⟩ := JsonNumber.text_append_inj (hfloat x) (hint m) hk.stops hl.stops h
    exact absurd (hxm ▸ JsonNumber.isInteger_ofInt m) (Decimal.not_isInteger_repr _)
  · obtain ⟨hxy, hkl⟩ := JsonNumber.text_append_inj (hfloat x) (hfloat y) hk.stops hl.stops h
    have hdecimal := Decimal.eq_of_repr_eq (floats.normal x) (floats.normal y) hxy
    exact ⟨congrArg float (floats.decimal_injective hdecimal), hkl⟩

/-- A value that its kind determines. -/
def IsConstant : JsonData F → Prop
  | null | bool _ | nan | infinity _ => True
  | _ => False

theorem eq_of_kind_eq {v w : JsonData F} (hv : v.IsConstant) (h : v.kind = w.kind) : v = w := by
  cases v with
  | int | float | str | arr | obj => exact hv.elim
  | null | nan =>
    cases w with
    | bool b => cases b <;> cases h
    | infinity negative => cases negative <;> cases h
    | null | nan => first | rfl | cases h
    | _ => cases h
  | bool b =>
    cases w with
    | bool b' => cases b <;> cases b' <;> first | rfl | cases h
    | infinity negative => cases b <;> cases negative <;> cases h
    | _ => cases b <;> cases h
  | infinity negative =>
    cases w with
    | infinity negative' => cases negative <;> cases negative' <;> first | rfl | cases h
    | bool b => cases negative <;> cases b <;> cases h
    | _ => cases negative <;> cases h

theorem str_of_kind {w : JsonData F} (h : .str = w.kind) : ∃ s, w = str s := by
  cases w with
  | str s => exact ⟨s, rfl⟩
  | bool b => cases b <;> cases h
  | infinity negative => cases negative <;> cases h
  | _ => cases h

theorem arr_of_kind {w : JsonData F} (h : .arr = w.kind) : ∃ items, w = arr items := by
  cases w with
  | arr items => exact ⟨items, rfl⟩
  | bool b => cases b <;> cases h
  | infinity negative => cases negative <;> cases h
  | _ => cases h

theorem obj_of_kind {w : JsonData F} (h : .obj = w.kind) : ∃ entries, w = obj entries := by
  cases w with
  | obj entries => exact ⟨entries, rfl⟩
  | bool b => cases b <;> cases h
  | infinity negative => cases negative <;> cases h
  | _ => cases h

theorem constant_append_inj {v w : JsonData F} {k l : List Char} (hv : v.IsConstant)
    (h : text floats v ++ k = text floats w ++ l) : v = w ∧ k = l := by
  obtain rfl := eq_of_kind_eq hv (kind_eq h)
  exact ⟨rfl, List.append_cancel_left h⟩

mutual

/-- **The text of a value determines it**, also when something follows. -/
theorem text_append_inj : ∀ {v w : JsonData F} {k l : List Char}, Ends k → Ends l →
    text floats v ++ k = text floats w ++ l → v = w ∧ k = l
  | null, w, k, l, _, _, h => constant_append_inj trivial h
  | bool b, w, k, l, _, _, h => constant_append_inj trivial h
  | nan, w, k, l, _, _, h => constant_append_inj trivial h
  | infinity negative, w, k, l, _, _, h => constant_append_inj trivial h
  | int n, w, k, l, hk, hl, h => number_append_inj rfl (kind_eq h).symm hk hl h
  | float x, w, k, l, hk, hl, h => number_append_inj rfl (kind_eq h).symm hk hl h
  | str s, w, k, l, _, _, h => by
    obtain ⟨t, rfl⟩ := str_of_kind (kind_eq h)
    rw [text, text] at h
    obtain ⟨hst, hkl⟩ := quoted_append_inj h
    exact ⟨congrArg str hst, hkl⟩
  | arr items, w, k, l, _, _, h => by
    obtain ⟨items', rfl⟩ := arr_of_kind (kind_eq h)
    rw [text, text] at h
    obtain ⟨hitems, hkl⟩ := itemsText_append_inj (List.cons.inj h).2
    exact ⟨congrArg arr hitems, hkl⟩
  | obj entries, w, k, l, _, _, h => by
    obtain ⟨entries', rfl⟩ := obj_of_kind (kind_eq h)
    rw [text, text] at h
    obtain ⟨hentries, hkl⟩ := entriesText_append_inj (List.cons.inj h).2
    exact ⟨congrArg obj hentries, hkl⟩

theorem itemsText_append_inj : ∀ {vs ws : List (JsonData F)} {k l : List Char},
    itemsText floats vs ++ k = itemsText floats ws ++ l → vs = ws ∧ k = l
  | [], [], k, l, h => by
    rw [itemsText] at h
    exact ⟨rfl, List.append_cancel_left h⟩
  | [], w :: ws, k, l, h => by
    rw [itemsText, itemsText, List.append_assoc] at h
    have hkind := kindOf_text floats w (moreItemsText floats ws ++ l)
    rw [← h] at hkind
    cases hkind
  | v :: vs, [], k, l, h => by
    rw [itemsText, itemsText, List.append_assoc] at h
    have hkind := kindOf_text floats v (moreItemsText floats vs ++ k)
    rw [h] at hkind
    cases hkind
  | v :: vs, w :: ws, k, l, h => by
    rw [itemsText, itemsText, List.append_assoc, List.append_assoc] at h
    obtain ⟨hv, h⟩ := text_append_inj (ends_moreItemsText vs k) (ends_moreItemsText ws l) h
    obtain ⟨hvs, hkl⟩ := moreItemsText_append_inj h
    exact ⟨by rw [hv, hvs], hkl⟩

theorem moreItemsText_append_inj : ∀ {vs ws : List (JsonData F)} {k l : List Char},
    moreItemsText floats vs ++ k = moreItemsText floats ws ++ l → vs = ws ∧ k = l
  | [], [], k, l, h => by
    rw [moreItemsText] at h
    exact ⟨rfl, List.append_cancel_left h⟩
  | [], w :: ws, k, l, h => by
    rw [moreItemsText, moreItemsText] at h
    cases (List.cons.inj h).1
  | v :: vs, [], k, l, h => by
    rw [moreItemsText, moreItemsText] at h
    cases (List.cons.inj h).1
  | v :: vs, w :: ws, k, l, h => by
    simp only [moreItemsText, List.cons_append, List.append_assoc, List.cons.injEq, true_and] at h
    obtain ⟨hv, h⟩ := text_append_inj (ends_moreItemsText vs k) (ends_moreItemsText ws l) h
    obtain ⟨hvs, hkl⟩ := moreItemsText_append_inj h
    exact ⟨by rw [hv, hvs], hkl⟩

theorem entriesText_append_inj : ∀ {vs ws : List (String × JsonData F)} {k l : List Char},
    entriesText floats vs ++ k = entriesText floats ws ++ l → vs = ws ∧ k = l
  | [], [], k, l, h => by
    rw [entriesText] at h
    exact ⟨rfl, List.append_cancel_left h⟩
  | [], (key, w) :: ws, k, l, h => by
    rw [entriesText, entriesText, entryText] at h
    cases (List.cons.inj h).1
  | (key, v) :: vs, [], k, l, h => by
    rw [entriesText, entriesText, entryText] at h
    cases (List.cons.inj h).1
  | v :: vs, w :: ws, k, l, h => by
    rw [entriesText, entriesText, List.append_assoc, List.append_assoc] at h
    obtain ⟨hv, h⟩ := entryText_append_inj (ends_moreEntriesText vs k) (ends_moreEntriesText ws l) h
    obtain ⟨hvs, hkl⟩ := moreEntriesText_append_inj h
    exact ⟨by rw [hv, hvs], hkl⟩

theorem moreEntriesText_append_inj : ∀ {vs ws : List (String × JsonData F)} {k l : List Char},
    moreEntriesText floats vs ++ k = moreEntriesText floats ws ++ l → vs = ws ∧ k = l
  | [], [], k, l, h => by
    rw [moreEntriesText] at h
    exact ⟨rfl, List.append_cancel_left h⟩
  | [], w :: ws, k, l, h => by
    rw [moreEntriesText, moreEntriesText] at h
    cases (List.cons.inj h).1
  | v :: vs, [], k, l, h => by
    rw [moreEntriesText, moreEntriesText] at h
    cases (List.cons.inj h).1
  | v :: vs, w :: ws, k, l, h => by
    simp only [moreEntriesText, List.cons_append, List.append_assoc, List.cons.injEq,
      true_and] at h
    obtain ⟨hv, h⟩ := entryText_append_inj (ends_moreEntriesText vs k) (ends_moreEntriesText ws l) h
    obtain ⟨hvs, hkl⟩ := moreEntriesText_append_inj h
    exact ⟨by rw [hv, hvs], hkl⟩

theorem entryText_append_inj : ∀ {v w : String × JsonData F} {k l : List Char}, Ends k → Ends l →
    entryText floats v ++ k = entryText floats w ++ l → v = w ∧ k = l
  | (key, v), (key', w), k, l, hk, hl, h => by
    simp only [entryText, List.append_assoc, List.cons_append] at h
    obtain ⟨hkey, h⟩ := quoted_append_inj h
    simp only [List.cons.injEq, true_and] at h
    obtain ⟨hv, hkl⟩ := text_append_inj hk hl h
    exact ⟨by rw [hkey, hv], hkl⟩

end

/-! ## Sorted keys -/

section SortKeys

variable {α : Type} {d d' : List (String × α)}

/-- The entries in the order of their keys. -/
def sortKeys (entries : List (String × α)) : List (String × α) :=
  entries.mergeSort fun a b => decide (a.1 ≤ b.1)

theorem sortKeys_perm (d : List (String × α)) : (sortKeys d).Perm d := List.mergeSort_perm d _

theorem sortKeys_pairwise (d : List (String × α)) :
    (sortKeys d).Pairwise fun a b => a.1 ≤ b.1 := pairwise_mergeSort_key Prod.fst d

/-- With distinct keys, the order in which they stood is forgotten. -/
theorem sortKeys_eq_of_perm (hd : (d.map Prod.fst).Nodup) (h : d.Perm d') :
    sortKeys d = sortKeys d' := by
  have hperm : (sortKeys d).Perm (sortKeys d') :=
    (sortKeys_perm d).trans (h.trans (sortKeys_perm d').symm)
  refine List.Perm.eq_of_pairwise ?_ (sortKeys_pairwise d) (sortKeys_pairwise d') hperm
  intro a b ha hb hle hle'
  have hbd : b ∈ d := h.mem_iff.mpr ((sortKeys_perm d').mem_iff.mp hb)
  exact List.inj_on_of_nodup_map hd ((sortKeys_perm d).mem_iff.mp ha) hbd (le_antisymm hle hle')

/-- Nothing else is: distinct keys in the same order. -/
theorem eq_of_sortKeys_eq (hd : (d.map Prod.fst).Nodup) (hkeys : d'.map Prod.fst = d.map Prod.fst)
    (h : sortKeys d' = sortKeys d) : d' = d := by
  have hperm : d'.Perm d := (sortKeys_perm d').symm.trans (h ▸ sortKeys_perm d)
  clear h
  induction d generalizing d' with
  | nil => exact List.map_eq_nil_iff.mp hkeys
  | cons a d ih =>
    cases d' with
    | nil => cases hkeys
    | cons b d' =>
      simp only [List.map_cons, List.cons.injEq] at hkeys
      -- the first entries have one key, so they are one entry
      have hba : b = a := List.inj_on_of_nodup_map hd (hperm.mem_iff.mp List.mem_cons_self)
        List.mem_cons_self hkeys.1
      subst hba
      rw [ih (List.nodup_cons.mp hd).2 hkeys.2 (List.perm_cons b |>.mp hperm)]

end SortKeys

mutual

/-- The keys of every object in their order. -/
def canonical : JsonData F → JsonData F
  | arr items => arr (canonicalItems items)
  | obj entries => obj (sortKeys (canonicalEntries entries))
  | null => null
  | bool b => bool b
  | int n => int n
  | float x => float x
  | nan => nan
  | infinity negative => infinity negative
  | str s => str s

def canonicalItems : List (JsonData F) → List (JsonData F)
  | [] => []
  | item :: items => canonical item :: canonicalItems items

def canonicalEntries : List (String × JsonData F) → List (String × JsonData F)
  | [] => []
  | entry :: entries => canonicalEntry entry :: canonicalEntries entries

def canonicalEntry : String × JsonData F → String × JsonData F
  | (key, value) => (key, canonical value)

end

theorem canonicalEntries_eq_map (entries : List (String × JsonData F)) :
    canonicalEntries entries = entries.map canonicalEntry := by
  induction entries with
  | nil => rw [canonicalEntries, List.map_nil]
  | cons entry entries ih => rw [canonicalEntries, ih, List.map_cons]

@[simp] theorem keys_canonicalEntries (entries : List (String × JsonData F)) :
    (canonicalEntries entries).map Prod.fst = entries.map Prod.fst := by
  rw [canonicalEntries_eq_map, List.map_map]
  exact List.map_congr_left fun ⟨_, _⟩ _ => rfl

variable (floats) in
/-- `json.dumps(v, sort_keys=True)`. -/
def dumps (v : JsonData F) : String := String.ofList (text floats v.canonical)

/-- **The text with sorted keys tells values apart**, up to the order of the keys. -/
theorem dumps_inj {v w : JsonData F} : dumps floats v = dumps floats w ↔
    v.canonical = w.canonical := by
  constructor
  · intro h
    have htext := String.ofList_injective h
    exact (text_append_inj (k := []) (l := []) ends_nil ends_nil (by simpa using htext)).1
  · intro h
    unfold dumps
    rw [h]

variable (floats)

/-! ## The characters of a text -/

/-- Printable ASCII: what `json.dumps` writes breaks no line. -/
def Printable (cs : List Char) : Prop := ∀ c ∈ cs, 32 ≤ c.toNat ∧ c.toNat ≤ 126

instance : DecidablePred Printable :=
  List.decidableBAll fun c : Char => 32 ≤ c.toNat ∧ c.toNat ≤ 126

section
variable {cs ds : List Char}

theorem printable_nil : Printable [] := List.forall_mem_nil _

theorem printable_append : Printable (cs ++ ds) ↔ Printable cs ∧ Printable ds := List.forall_mem_append

theorem printable_cons {c : Char} :
    Printable (c :: cs) ↔ (32 ≤ c.toNat ∧ c.toNat ≤ 126) ∧ Printable cs := List.forall_mem_cons

theorem printable_digits (h : ∀ c ∈ cs, c.isDigit = true) : Printable cs := by
  intro c hc
  have hdigit := h c hc
  simp only [Char.isDigit, Bool.and_eq_true, decide_eq_true_eq] at hdigit
  have h₁ : 48 ≤ c.toNat := hdigit.1
  have h₂ : c.toNat ≤ 57 := hdigit.2
  omega

theorem printable_number (n : JsonNumber) : Printable n.text := by
  have hexponent (e : ℤ) : Printable (JsonNumber.exponentText e) := by
    refine printable_cons.mpr ⟨by decide, printable_cons.mpr ⟨?_, printable_digits fun c =>
      JsonNumber.isDigit_of_mem_exponentDigits⟩⟩
    split_ifs <;> decide
  unfold JsonNumber.text JsonNumber.signText JsonNumber.decimalsText
  refine printable_append.mpr ⟨by split_ifs <;> decide, printable_append.mpr
    ⟨printable_digits n.isDigit_whole, printable_append.mpr ⟨?_, ?_⟩⟩⟩
  · split_ifs
    · exact printable_nil
    · exact printable_cons.mpr ⟨by decide, printable_digits n.isDigit_decimals⟩
  · cases n.exponent with
    | none => exact printable_nil
    | some e => exact hexponent e

theorem printable_unicodeEscape {n : ℕ} (h : n < 0x10000) : Printable (unicodeEscape n) := by
  have hdigit : ∀ d < 16, 32 ≤ (Nat.digitChar d).toNat ∧ (Nat.digitChar d).toNat ≤ 126 := by
    decide
  unfold unicodeEscape hex4
  simp only [printable_cons]
  exact ⟨by decide, by decide, hdigit _ (by omega), hdigit _ (by omega), hdigit _ (by omega),
    hdigit _ (by omega), printable_nil⟩

theorem printable_escapeChar (c : Char) : Printable (escapeChar c) := by
  unfold escapeChar
  split_ifs with h₁ h₂ h₃ h₄ h₅ h₆ h₇ h₈ h₉
  · decide
  · decide
  · decide
  · decide
  · decide
  · decide
  · decide
  · exact printable_cons.mpr ⟨h₈, printable_nil⟩
  · exact printable_unicodeEscape h₉
  · have hlt : c.toNat < 0x110000 := by
      rcases c.valid with h | h
      · exact lt_trans h (by decide)
      · exact h.2
    exact printable_append.mpr ⟨printable_unicodeEscape (by omega),
      printable_unicodeEscape (by omega)⟩

theorem printable_quoted (s : String) : Printable (quoted s) := by
  refine printable_cons.mpr ⟨by decide, printable_append.mpr ⟨?_, by decide⟩⟩
  intro c hc
  obtain ⟨d, -, hd⟩ := List.mem_flatMap.mp hc
  exact printable_escapeChar d c hd

end

mutual

theorem printable_text : ∀ v : JsonData F, Printable (text floats v)
  | null => (by decide : Printable "null".toList)
  | bool true => (by decide : Printable "true".toList)
  | bool false => (by decide : Printable "false".toList)
  | int n => printable_number _
  | float x => printable_number _
  | nan => (by decide : Printable "NaN".toList)
  | infinity true => (by decide : Printable "-Infinity".toList)
  | infinity false => (by decide : Printable "Infinity".toList)
  | str s => printable_quoted s
  | arr items => printable_cons.mpr ⟨by decide, printable_itemsText items⟩
  | obj entries => printable_cons.mpr ⟨by decide, printable_entriesText entries⟩

theorem printable_itemsText : ∀ items : List (JsonData F), Printable (itemsText floats items)
  | [] => (by decide : Printable [']'])
  | item :: items =>
    printable_append.mpr ⟨printable_text item, printable_moreItemsText items⟩

theorem printable_moreItemsText :
    ∀ items : List (JsonData F), Printable (moreItemsText floats items)
  | [] => (by decide : Printable [']'])
  | item :: items =>
    printable_cons.mpr ⟨by decide, printable_cons.mpr ⟨by decide,
      printable_append.mpr ⟨printable_text item, printable_moreItemsText items⟩⟩⟩

theorem printable_entriesText :
    ∀ entries : List (String × JsonData F), Printable (entriesText floats entries)
  | [] => (by decide : Printable ['}'])
  | entry :: entries =>
    printable_append.mpr ⟨printable_entryText entry, printable_moreEntriesText entries⟩

theorem printable_moreEntriesText :
    ∀ entries : List (String × JsonData F), Printable (moreEntriesText floats entries)
  | [] => (by decide : Printable ['}'])
  | entry :: entries =>
    printable_cons.mpr ⟨by decide, printable_cons.mpr ⟨by decide,
      printable_append.mpr ⟨printable_entryText entry, printable_moreEntriesText entries⟩⟩⟩

theorem printable_entryText :
    ∀ entry : String × JsonData F, Printable (entryText floats entry)
  | (key, value) =>
    printable_append.mpr ⟨printable_quoted key, printable_cons.mpr ⟨by decide,
      printable_cons.mpr ⟨by decide, printable_text value⟩⟩⟩

end

end JsonData

end Py
