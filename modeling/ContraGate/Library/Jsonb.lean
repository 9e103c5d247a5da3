import ContraGate.Library.JsonText
import ContraGate.Library.PgValue

/-!
# `jsonb` values

What PostgreSQL keeps of a JSON text: a number becomes a `numeric`, which has decimals but neither a
power of ten nor a negative zero, the entries of an object are put in an order of their own, and a
later entry replaces an earlier one of the same key. `ofData` is what it makes of `json.dumps(v)`,
and `loads` is what `json.loads` reads when the value comes back. (The limits of `numeric` are far
beyond those of Python.)

`exists_loads` says which values come back as they were: the ones whose floats are smaller than
`10 ^ 16` and no negative zeros.
-/

namespace Py

/-- `sys.get_int_max_str_digits()`. -/
def maxStrDigits : ℕ := 4300

/-- `json.loads` of a number; `none` is the `ValueError` of an integer that is too long. -/
def JsonNumber.load {F : Type} (floats : Floats F) (n : JsonNumber) : Option (JsonData F) :=
  if n.IsInteger then if n.whole.length ≤ maxStrDigits then some (.int n.toInt) else none
  else some ((floats.nearest n.negative n.magnitude).elim (.infinity n.negative) .float)

end Py

open Py

/-! ## Numbers -/

/-- The number `unscaled / 10 ^ dscale`, shown with `dscale` decimals. -/
structure Numeric where
  unscaled : ℤ
  dscale : ℕ
deriving DecidableEq

namespace Numeric

/-- The number that is written so. -/
def ofNumber (n : JsonNumber) : Numeric where
  unscaled := (if n.negative then -1 else 1) *
    (n.coefficient * 10 ^ (n.scale.toNat - n.scale).toNat : ℕ)
  dscale := n.scale.toNat

/-- Digits, with zeros before them up to a width. -/
def padded (width n : ℕ) : List Char :=
  List.replicate (width - (Nat.toDigits 10 n).length) '0' ++ Nat.toDigits 10 n

/-- How it is shown. -/
def toNumber (x : Numeric) : JsonNumber where
  negative := decide (x.unscaled < 0)
  whole := Nat.toDigits 10 (x.unscaled.natAbs / 10 ^ x.dscale)
  decimals := if x.dscale = 0 then [] else padded x.dscale (x.unscaled.natAbs % 10 ^ x.dscale)
  exponent := none
  isDigit_whole := JsonNumber.isDigit_of_mem_toDigits
  isDigit_decimals := by
    split
    · nofun
    · exact List.forall_mem_append.mpr
        ⟨JsonNumber.isDigit_of_mem_zeros, JsonNumber.isDigit_of_mem_toDigits⟩

theorem length_padded {width n : ℕ} (hwidth : 0 < width) (h : n < 10 ^ width) :
    (padded width n).length = width := by
  have hlength := (Nat.length_toDigits_le_iff (by decide) hwidth).mpr h
  rw [padded, List.length_append, List.length_replicate]
  omega

/-- All the digits that are shown. -/
theorem coefficient_toNumber (x : Numeric) : x.toNumber.coefficient = x.unscaled.natAbs := by
  unfold JsonNumber.coefficient toNumber
  dsimp only
  rw [Nat.ofDigitChars_append, Nat.ofDigitChars_ten_toDigits]
  by_cases h : x.dscale = 0
  · rw [if_pos h, h, Nat.ofDigitChars_nil, pow_zero, Nat.div_one]
  · have hlt : x.unscaled.natAbs % 10 ^ x.dscale < 10 ^ x.dscale :=
      Nat.mod_lt _ (pow_pos (by decide) _)
    rw [if_neg h, Nat.ofDigitChars_eq_ofDigitChars_zero,
      length_padded (Nat.pos_of_ne_zero h) hlt, padded, Nat.ofDigitChars_append,
      Nat.ofDigitChars_replicate_zero, Nat.mul_zero, Nat.ofDigitChars_ten_toDigits]
    exact Nat.div_add_mod _ _

theorem scale_toNumber (x : Numeric) : x.toNumber.scale = x.dscale := by
  have hlength : x.toNumber.decimals.length = x.dscale := by
    unfold toNumber
    dsimp only
    split
    · rename_i h
      rw [h, List.length_nil]
    · rename_i h
      exact length_padded (Nat.pos_of_ne_zero h) (Nat.mod_lt _ (pow_pos (by decide) _))
  unfold JsonNumber.scale
  rw [hlength]
  exact sub_zero _

theorem isInteger_toNumber_iff (x : Numeric) : x.toNumber.IsInteger ↔ x.dscale = 0 := by
  have hscale := x.scale_toNumber
  constructor
  · rintro ⟨hdecimals, hexponent⟩
    rw [JsonNumber.scale, hdecimals, hexponent] at hscale
    simpa using hscale.symm
  · intro h
    exact ⟨if_pos h, rfl⟩

/-- The number that is shown is the one that was written. -/
theorem magnitude_toNumber_ofNumber (n : JsonNumber) :
    (ofNumber n).toNumber.magnitude = n.magnitude := by
  unfold JsonNumber.magnitude
  rw [coefficient_toNumber, scale_toNumber]
  have habs : (ofNumber n).unscaled.natAbs =
      n.coefficient * 10 ^ (n.scale.toNat - n.scale).toNat := by
    unfold ofNumber
    dsimp only
    rw [Int.natAbs_mul, Int.natAbs_natCast]
    split <;> simp
  have hexponent : ((n.scale.toNat - n.scale).toNat : ℤ) + -(n.scale.toNat : ℤ) = -n.scale := by
    omega
  rw [habs, Nat.cast_mul, Nat.cast_pow, Nat.cast_ofNat, mul_assoc, ← zpow_natCast]
  change (n.coefficient : ℚ) * (10 ^ _ * 10 ^ (-(n.scale.toNat : ℤ))) = _
  rw [← zpow_add₀ (by norm_num), hexponent]

/-- Its sign is shown unless it is zero. -/
theorem negative_toNumber_ofNumber (n : JsonNumber) :
    (ofNumber n).toNumber.negative = (n.negative && n.coefficient != 0) := by
  have hpow : 0 < 10 ^ (n.scale.toNat - n.scale).toNat := pow_pos (by decide) _
  unfold toNumber ofNumber
  dsimp only
  cases n.negative with
  | false =>
    rw [if_neg Bool.false_ne_true, one_mul, Bool.false_and, decide_eq_false_iff_not, not_lt]
    exact Int.natCast_nonneg _
  | true =>
    rw [if_pos rfl, Bool.true_and]
    by_cases h : n.coefficient = 0
    · simp [h]
    · have hpos := Nat.mul_pos (Nat.pos_of_ne_zero h) hpow
      rw [show (n.coefficient != 0) = true from bne_iff_ne.mpr h, decide_eq_true_eq]
      omega

theorem isInteger_toNumber_ofNumber_iff (n : JsonNumber) :
    (ofNumber n).toNumber.IsInteger ↔ n.scale ≤ 0 := by
  rw [isInteger_toNumber_iff]
  exact Int.toNat_eq_zero

/-- An integer is shown as it was written. -/
theorem toNumber_ofNumber_ofInt (n : ℤ) : (ofNumber (.ofInt n)).toNumber = .ofInt n := by
  have hcoefficient : (JsonNumber.ofInt n).coefficient = n.natAbs := by
    unfold JsonNumber.coefficient JsonNumber.ofInt
    rw [List.append_nil, Nat.ofDigitChars_ten_toDigits]
  have hnumber : ofNumber (.ofInt n) = ⟨n, 0⟩ := by
    have hsign : (if n < 0 then -1 else 1) * (n.natAbs : ℤ) = n := by
      split_ifs <;> omega
    unfold ofNumber
    rw [hcoefficient]
    simpa [JsonNumber.scale, JsonNumber.ofInt] using hsign
  rw [hnumber, JsonNumber.ext_iff']
  refine ⟨rfl, ?_, rfl, rfl⟩
  simp [toNumber, JsonNumber.ofInt]

end Numeric

/-! ## Floats -/

section Floats

variable {F : Type} (floats : Floats F)

/-- The float comes back: it is no negative zero, and it is not written with a power of ten that
makes an integer of it. -/
def Keeps (x : F) : Prop :=
  ¬ ((floats.decimal x).negative = true ∧ (floats.decimal x).coefficient = 0) ∧
    (floats.decimal x).magnitude < 10 ^ 16

/-- What `json.loads` reads when the float comes back from a `numeric`. -/
def loadFloat (x : F) : Option (JsonData F) :=
  (Numeric.ofNumber (floats.decimal x).repr).toNumber.load floats

variable {floats} {x : F}

theorem isInteger_iff (floats : Floats F) (x : F) :
    (Numeric.ofNumber (floats.decimal x).repr).toNumber.IsInteger ↔
      ¬ (floats.decimal x).magnitude < 10 ^ 16 := by
  have hspec := (floats.decimal x).repr_spec
  have hpoint : (floats.decimal x).point =
      (floats.decimal x).digits.length + (floats.decimal x).exponent := rfl
  -- at most 17 digits
  have hlength : (floats.decimal x).digits.length ≤ 17 :=
    (Nat.length_toDigits_le_iff (by decide) (by decide)).mpr (floats.coefficient_lt x)
  rw [Numeric.isInteger_toNumber_ofNumber_iff,
    ← Decimal.point_le_iff (floats.normal x) (by decide)]
  split_ifs at hspec with h
  · rw [hspec.2]
    omega
  · rw [hspec.2]
    omega

/-- A float of at least `10 ^ 16` comes back as an `int`. -/
theorem loadFloat_of_large (h : ¬ (floats.decimal x).magnitude < 10 ^ 16) :
    ∃ n, loadFloat floats x = some (.int n) := by
  have hinteger := (isInteger_iff floats x).mpr h
  unfold loadFloat JsonNumber.load
  generalize hnumber : Numeric.ofNumber (floats.decimal x).repr = number at hinteger ⊢
  have hdscale := number.isInteger_toNumber_iff.mp hinteger
  -- no float has more than 309 digits before the point
  have hlt : number.unscaled.natAbs < 10 ^ 309 := by
    have hmagnitude := Numeric.magnitude_toNumber_ofNumber (floats.decimal x).repr
    have hpoint := (Decimal.point_le_iff (floats.normal x) (by decide)).mp (floats.point_le x)
    rw [hnumber, JsonNumber.magnitude, Numeric.coefficient_toNumber, Numeric.scale_toNumber, hdscale,
      Nat.cast_zero, neg_zero, zpow_zero, mul_one, Decimal.magnitude_repr] at hmagnitude
    rw [← hmagnitude] at hpoint
    exact_mod_cast hpoint
  have hlength : number.toNumber.whole.length ≤ maxStrDigits := by
    have hdigits := (Nat.length_toDigits_le_iff (by decide) (by decide)).mpr hlt
    change (Nat.toDigits 10 (number.unscaled.natAbs / 10 ^ number.dscale)).length ≤ _
    rw [hdscale, pow_zero, Nat.div_one]
    exact hdigits.trans (by decide)
  rw [if_pos hinteger, if_pos hlength]
  exact ⟨_, rfl⟩

/-- Any other comes back as a `float`, which is the same unless it was a negative zero. -/
theorem loadFloat_of_small (h : (floats.decimal x).magnitude < 10 ^ 16) :
    ∃ v, loadFloat floats x = some v ∧ (v = .float x ↔ Keeps floats x) := by
  have hnot : ¬ (Numeric.ofNumber (floats.decimal x).repr).toNumber.IsInteger := by
    rw [isInteger_iff]
    exact not_not.mpr h
  unfold loadFloat JsonNumber.load
  rw [if_neg hnot, Numeric.magnitude_toNumber_ofNumber, Numeric.negative_toNumber_ofNumber,
    Decimal.magnitude_repr, Decimal.repr_negative]
  refine ⟨_, rfl, ?_⟩
  by_cases hzero : (floats.decimal x).negative = true ∧ (floats.decimal x).coefficient = 0
  · have hsign : ((floats.decimal x).negative && (floats.decimal x).repr.coefficient != 0) =
        false := by
      rw [Bool.and_eq_false_iff, bne_eq_false_iff_eq, Decimal.coefficient_repr_eq_zero_iff]
      exact .inr hzero.2
    rw [hsign]
    refine ⟨fun heq => ?_, fun hkeeps => absurd hzero hkeeps.1⟩
    cases hnearest : floats.nearest false (floats.decimal x).magnitude with
    | none =>
      rw [hnearest] at heq
      cases heq
    | some y =>
      rw [hnearest] at heq
      obtain rfl : y = x := JsonData.float.inj heq
      rw [floats.negative_nearest hnearest] at hzero
      cases hzero.1
  · have hsign : ((floats.decimal x).negative && (floats.decimal x).repr.coefficient != 0) =
        (floats.decimal x).negative := by
      rw [Bool.and_eq_left_iff_imp, bne_iff_ne, Ne, Decimal.coefficient_repr_eq_zero_iff]
      exact fun hnegative hcoefficient => hzero ⟨hnegative, hcoefficient⟩
    rw [hsign, floats.nearest_decimal]
    exact ⟨fun _ => ⟨hzero, h⟩, fun _ => rfl⟩

end Floats

/-! ## Values -/

inductive Jsonb
  | null
  | bool (b : Bool)
  | numeric (x : Numeric)
  | str (s : String)
  | arr (items : List Jsonb)
  | obj (entries : List (String × Jsonb))

namespace Jsonb

/-- Of the entries of one key the last. -/
def lastOfKey : List (String × Jsonb) → List (String × Jsonb)
  | [] => []
  | entry :: entries =>
    if entries.any (·.1 == entry.1) then lastOfKey entries else entry :: lastOfKey entries

/-- Shorter keys come first. -/
def keyLe (a b : String × Jsonb) : Bool :=
  a.1.utf8ByteSize < b.1.utf8ByteSize || (a.1.utf8ByteSize == b.1.utf8ByteSize && a.1 ≤ b.1)

/-- The entries of an object as they are kept. -/
def stored (entries : List (String × Jsonb)) : List (String × Jsonb) :=
  (lastOfKey entries).mergeSort keyLe

variable {F : Type} (floats : Floats F)

mutual

/-- The value of the text `json.dumps(v)`; `none` when Python cannot write it or PostgreSQL
refuses it. -/
def ofData : JsonData F → Option Jsonb
  | .null => some null
  | .bool b => some (bool b)
  | .int n =>
    if (Nat.toDigits 10 n.natAbs).length ≤ maxStrDigits then
      some (numeric (.ofNumber (.ofInt n)))
    else none
  | .float x => some (numeric (.ofNumber (floats.decimal x).repr))
  | .nan => none
  | .infinity _ => none
  | .str s => if Pg.isText s then some (str s) else none
  | .arr items => (ofItems items).map arr
  | .obj entries => (ofEntries entries).map fun entries => obj (stored entries)

def ofItems : List (JsonData F) → Option (List Jsonb)
  | [] => some []
  | item :: items => (ofData item).bind fun item => (ofItems items).map (item :: ·)

def ofEntries : List (String × JsonData F) → Option (List (String × Jsonb))
  | [] => some []
  | entry :: entries => (ofEntry entry).bind fun entry => (ofEntries entries).map (entry :: ·)

def ofEntry : String × JsonData F → Option (String × Jsonb)
  | (key, value) => if Pg.isText key then (ofData value).map (key, ·) else none

end

mutual

/-- `json.loads` of the value's text; `none` when it raises. -/
def loads : Jsonb → Option (JsonData F)
  | null => some .null
  | bool b => some (.bool b)
  | numeric x => x.toNumber.load floats
  | str s => some (.str s)
  | arr items => (loadsItems items).map .arr
  | obj entries => (loadsEntries entries).map .obj

def loadsItems : List Jsonb → Option (List (JsonData F))
  | [] => some []
  | item :: items => (loads item).bind fun item => (loadsItems items).map (item :: ·)

def loadsEntries : List (String × Jsonb) → Option (List (String × JsonData F))
  | [] => some []
  | entry :: entries => (loadsEntry entry).bind fun entry => (loadsEntries entries).map (entry :: ·)

def loadsEntry : String × Jsonb → Option (String × JsonData F)
  | (key, value) => (loads value).map (key, ·)

end

end Jsonb

/-! ## Which values come back -/

namespace Py.JsonData

variable {F : Type}

mutual

/-- The floats in a value. -/
def floatsIn : JsonData F → List F
  | float x => [x]
  | arr items => floatsInItems items
  | obj entries => floatsInEntries entries
  | _ => []

def floatsInItems : List (JsonData F) → List F
  | [] => []
  | item :: items => floatsIn item ++ floatsInItems items

def floatsInEntries : List (String × JsonData F) → List F
  | [] => []
  | entry :: entries => floatsInEntry entry ++ floatsInEntries entries

def floatsInEntry : String × JsonData F → List F
  | (_, value) => floatsIn value

end

mutual

/-- No object has two entries of one key. -/
def DistinctKeys : JsonData F → Prop
  | arr items => DistinctKeysItems items
  | obj entries => (entries.map Prod.fst).Nodup ∧ DistinctKeysEntries entries
  | _ => True

def DistinctKeysItems : List (JsonData F) → Prop
  | [] => True
  | item :: items => DistinctKeys item ∧ DistinctKeysItems items

def DistinctKeysEntries : List (String × JsonData F) → Prop
  | [] => True
  | entry :: entries => DistinctKeysEntry entry ∧ DistinctKeysEntries entries

def DistinctKeysEntry : String × JsonData F → Prop
  | (_, value) => DistinctKeys value

end

end Py.JsonData

namespace Jsonb

variable {F : Type} {floats : Floats F}

theorem lastOfKey_of_nodup {entries : List (String × Jsonb)} (h : (entries.map Prod.fst).Nodup) :
    lastOfKey entries = entries := by
  induction entries with
  | nil => rfl
  | cons entry entries ih =>
    obtain ⟨hentry, hentries⟩ := List.nodup_cons.mp h
    have hnone : ¬ entries.any (·.1 == entry.1) = true := by
      rw [List.any_eq_true]
      rintro ⟨other, hmem, hkey⟩
      exact hentry (beq_iff_eq.mp hkey ▸ List.mem_map_of_mem hmem)
    rw [lastOfKey, if_neg hnone, ih hentries]

/-- With distinct keys, only the order of the entries changes. -/
theorem stored_perm {entries : List (String × Jsonb)} (h : (entries.map Prod.fst).Nodup) :
    (stored entries).Perm entries := by
  unfold stored
  rw [lastOfKey_of_nodup h]
  exact List.mergeSort_perm _ _

theorem loadsEntries_cons_eq_some {j : String × Jsonb} {js : List (String × Jsonb)}
    {ws : List (String × JsonData F)} (h : loadsEntries floats (j :: js) = some ws) :
    ∃ w ws', loadsEntry floats j = some w ∧ loadsEntries floats js = some ws' ∧
      ws = w :: ws' := by
  rw [loadsEntries, Option.bind_eq_some_iff] at h
  obtain ⟨w, hw, htail⟩ := h
  obtain ⟨ws', hws', hcons⟩ := Option.map_eq_some_iff.mp htail
  exact ⟨w, ws', hw, hws', hcons.symm⟩

/-- Entries in another order are read in another order. -/
theorem loadsEntries_perm {js js' : List (String × Jsonb)} (h : js.Perm js') :
    ∀ {ws}, loadsEntries floats js = some ws →
      ∃ ws', loadsEntries floats js' = some ws' ∧ ws.Perm ws' := by
  induction h with
  | nil => exact fun {ws} hws => ⟨ws, hws, .refl _⟩
  | cons j _ ih =>
    intro ws hws
    obtain ⟨w, vs, hw, hvs, rfl⟩ := loadsEntries_cons_eq_some hws
    obtain ⟨vs', hvs', hperm⟩ := ih hvs
    refine ⟨w :: vs', ?_, hperm.cons w⟩
    rw [loadsEntries, hw, hvs']
    rfl
  | swap j j' js =>
    intro ws hws
    obtain ⟨w', vs', hw', hvs', rfl⟩ := loadsEntries_cons_eq_some hws
    obtain ⟨w, vs, hw, hvs, rfl⟩ := loadsEntries_cons_eq_some hvs'
    refine ⟨w :: w' :: vs, ?_, .swap ..⟩
    rw [loadsEntries, loadsEntries, hw, hw', hvs]
    rfl
  | trans _ _ ih ih' =>
    intro ws hws
    obtain ⟨ws', hws', hperm⟩ := ih hws
    obtain ⟨ws'', hws'', hperm'⟩ := ih' hws'
    exact ⟨ws'', hws'', hperm.trans hperm'⟩

open JsonData

/-- A value without floats that is read as it was. -/
theorem exists_loads_self {v : JsonData F} {j : Jsonb} (hloads : loads floats j = some v)
    (hfloats : v.floatsIn = []) : ∃ w, loads floats j = some w ∧
      (w.canonical = v.canonical ↔ ∀ x ∈ v.floatsIn, Keeps floats x) :=
  ⟨v, hloads, by simp [hfloats]⟩

theorem exists_loads_float (floats : Floats F) (x : F) :
    ∃ w, loadFloat floats x = some w ∧ (w.canonical = .float x ↔ Keeps floats x) := by
  by_cases h : (floats.decimal x).magnitude < 10 ^ 16
  · obtain ⟨v, hv, hiff⟩ := loadFloat_of_small h
    refine ⟨v, hv, ?_⟩
    rw [← hiff]
    -- only a float is read as that float
    cases v <;> simp [canonical]
  · obtain ⟨n, hn⟩ := loadFloat_of_large h
    refine ⟨.int n, hn, fun heq => ?_, fun hkeeps => absurd hkeeps.2 h⟩
    rw [canonical] at heq
    cases heq

theorem loads_int {n : ℤ} {j : Jsonb} (h : ofData floats (.int n) = some j) :
    loads floats j = some (.int n) := by
  rw [ofData, Option.ite_none_right_eq_some, Option.some.injEq] at h
  obtain ⟨hlength, rfl⟩ := h
  rw [loads, Numeric.toNumber_ofNumber_ofInt, JsonNumber.load,
    if_pos (JsonNumber.isInteger_ofInt n), JsonNumber.toInt_ofInt]
  exact if_pos hlength

/-- The entries of an object come back in another order, which the sorted keys hide. -/
theorem exists_loads_obj {vs ws : List (String × JsonData F)} {js : List (String × Jsonb)}
    (hnodup : (vs.map Prod.fst).Nodup) (hkeys : js.map Prod.fst = vs.map Prod.fst)
    (hws : loadsEntries floats js = some ws) (hwkeys : ws.map Prod.fst = vs.map Prod.fst) :
    ∃ w, loads floats (.obj (stored js)) = some w ∧
      (w.canonical = (JsonData.obj vs).canonical ↔ canonicalEntries ws = canonicalEntries vs) := by
  obtain ⟨ws', hws', hperm⟩ := loadsEntries_perm (stored_perm (hkeys ▸ hnodup)).symm hws
  refine ⟨.obj ws', ?_, ?_⟩
  · rw [loads, hws', Option.map_some]
  · have hsorted : sortKeys (canonicalEntries ws') = sortKeys (canonicalEntries ws) := by
      refine (sortKeys_eq_of_perm ?_ ?_).symm
      · rw [keys_canonicalEntries, hwkeys]
        exact hnodup
      · rw [canonicalEntries_eq_map, canonicalEntries_eq_map]
        exact hperm.map _
    rw [canonical, canonical, JsonData.obj.injEq, hsorted]
    refine ⟨fun heq => eq_of_sortKeys_eq ?_ ?_ heq, fun heq => by rw [heq]⟩
    · rw [keys_canonicalEntries]
      exact hnodup
    · rw [keys_canonicalEntries, keys_canonicalEntries, hwkeys]

mutual

/-- A value that is stored can be read again, and it is the same up to the order of keys exactly
when each of its floats comes back. -/
theorem exists_loads : ∀ {v : JsonData F} {j : Jsonb}, v.DistinctKeys → ofData floats v = some j →
    ∃ w, loads floats j = some w ∧
      (w.canonical = v.canonical ↔ ∀ x ∈ v.floatsIn, Keeps floats x)
  | .null, j, _, h => by
    rw [ofData, Option.some.injEq] at h
    subst h
    exact exists_loads_self (by rw [loads]) rfl
  | .bool b, j, _, h => by
    rw [ofData, Option.some.injEq] at h
    subst h
    exact exists_loads_self (by rw [loads]) rfl
  | .int n, j, _, h => exists_loads_self (loads_int h) rfl
  | .float x, j, _, h => by
    rw [ofData, Option.some.injEq] at h
    subst h
    obtain ⟨w, hw, hiff⟩ := exists_loads_float floats x
    refine ⟨w, ?_, ?_⟩
    · rw [loads]
      exact hw
    · rw [floatsIn, List.forall_mem_singleton, canonical]
      exact hiff
  | .nan, j, _, h => by
    rw [ofData] at h
    cases h
  | .infinity negative, j, _, h => by
    rw [ofData] at h
    cases h
  | .str s, j, _, h => by
    rw [ofData, Option.ite_none_right_eq_some, Option.some.injEq] at h
    obtain ⟨-, rfl⟩ := h
    exact exists_loads_self (by rw [loads]) rfl
  | .arr items, j, hv, h => by
    rw [ofData] at h
    obtain ⟨js, hjs, rfl⟩ := Option.map_eq_some_iff.mp h
    rw [DistinctKeys] at hv
    obtain ⟨ws, hws, hiff⟩ := exists_loadsItems hv hjs
    refine ⟨.arr ws, ?_, ?_⟩
    · rw [loads, hws, Option.map_some]
    · rw [canonical, canonical, floatsIn, JsonData.arr.injEq]
      exact hiff
  | .obj entries, j, hv, h => by
    rw [ofData] at h
    obtain ⟨js, hjs, rfl⟩ := Option.map_eq_some_iff.mp h
    rw [DistinctKeys] at hv
    obtain ⟨hnodup, hentries⟩ := hv
    obtain ⟨hkeys, ws, hws, hwkeys, hiff⟩ := exists_loadsEntries hentries hjs
    obtain ⟨w, hw, hsame⟩ := exists_loads_obj hnodup hkeys hws hwkeys
    refine ⟨w, hw, ?_⟩
    rw [hsame, hiff, floatsIn]

theorem exists_loadsItems : ∀ {vs : List (JsonData F)} {js : List Jsonb}, DistinctKeysItems vs →
    ofItems floats vs = some js → ∃ ws, loadsItems floats js = some ws ∧
      (canonicalItems ws = canonicalItems vs ↔ ∀ x ∈ floatsInItems vs, Keeps floats x)
  | [], js, _, h => by
    rw [ofItems, Option.some.injEq] at h
    subst h
    exact ⟨[], by rw [loadsItems], by simp [floatsInItems]⟩
  | v :: vs, js, hv, h => by
    rw [ofItems, Option.bind_eq_some_iff] at h
    obtain ⟨j, hj, htail⟩ := h
    obtain ⟨js, hjs, rfl⟩ := Option.map_eq_some_iff.mp htail
    rw [DistinctKeysItems] at hv
    obtain ⟨w, hw, hiff⟩ := exists_loads hv.1 hj
    obtain ⟨ws, hws, hiffs⟩ := exists_loadsItems hv.2 hjs
    refine ⟨w :: ws, ?_, ?_⟩
    · rw [loadsItems, hw, hws]
      rfl
    · rw [canonicalItems, canonicalItems, List.cons.injEq, hiff, hiffs, floatsInItems,
        List.forall_mem_append]

theorem exists_loadsEntries : ∀ {vs : List (String × JsonData F)} {js : List (String × Jsonb)},
    DistinctKeysEntries vs → ofEntries floats vs = some js →
    js.map Prod.fst = vs.map Prod.fst ∧ ∃ ws, loadsEntries floats js = some ws ∧
      ws.map Prod.fst = vs.map Prod.fst ∧
      (canonicalEntries ws = canonicalEntries vs ↔ ∀ x ∈ floatsInEntries vs, Keeps floats x)
  | [], js, _, h => by
    rw [ofEntries, Option.some.injEq] at h
    subst h
    exact ⟨rfl, [], by rw [loadsEntries], rfl, by simp [floatsInEntries]⟩
  | v :: vs, js, hv, h => by
    rw [ofEntries, Option.bind_eq_some_iff] at h
    obtain ⟨j, hj, htail⟩ := h
    obtain ⟨js, hjs, rfl⟩ := Option.map_eq_some_iff.mp htail
    rw [DistinctKeysEntries] at hv
    obtain ⟨hkey, w, hw, hwkey, hiff⟩ := exists_loadsEntry hv.1 hj
    obtain ⟨hkeys, ws, hws, hwkeys, hiffs⟩ := exists_loadsEntries hv.2 hjs
    refine ⟨?_, w :: ws, ?_, ?_, ?_⟩
    · rw [List.map_cons, List.map_cons, hkey, hkeys]
    · rw [loadsEntries, hw, hws]
      rfl
    · rw [List.map_cons, List.map_cons, hwkey, hwkeys]
    · rw [canonicalEntries, canonicalEntries, List.cons.injEq, hiff, hiffs, floatsInEntries,
        List.forall_mem_append]

theorem exists_loadsEntry : ∀ {v : String × JsonData F} {j : String × Jsonb},
    DistinctKeysEntry v → ofEntry floats v = some j →
    j.1 = v.1 ∧ ∃ w, loadsEntry floats j = some w ∧ w.1 = v.1 ∧
      (canonicalEntry w = canonicalEntry v ↔ ∀ x ∈ floatsInEntry v, Keeps floats x)
  | (key, v), j, hv, h => by
    rw [ofEntry, Option.ite_none_right_eq_some] at h
    obtain ⟨j, hj, rfl⟩ := Option.map_eq_some_iff.mp h.2
    rw [DistinctKeysEntry] at hv
    obtain ⟨w, hw, hiff⟩ := exists_loads hv hj
    refine ⟨rfl, (key, w), ?_, rfl, ?_⟩
    · rw [loadsEntry, hw, Option.map_some]
    · rw [canonicalEntry, canonicalEntry, Prod.mk.injEq, and_iff_right rfl, floatsInEntry]
      exact hiff

end

end Jsonb
