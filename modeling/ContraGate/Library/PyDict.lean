import ContraGate.Library.PyValue
import Mathlib.Data.List.Induction
import Mathlib.Data.List.Perm.Basic
import Mathlib.Data.List.Sort
import Mathlib.Data.String.Basic
import ContraGate.Library.StableSort

/-!
# Dictionaries as maps

Two dictionaries with the same value at every key are the same to a reader, in whatever order
their keys stand. `canonicalText` is a text that tells dictionaries of texts apart and does not
depend on the order.
-/

namespace Py

/-- The value is a text or `None`. -/
def Json.isText : Json → Bool
  | .null | .str _ => true
  | _ => false

@[simp] theorem Json.isText_null : Json.null.isText = true := rfl

@[simp] theorem Json.isText_str (s : String) : (Json.str s).isText = true := rfl

@[simp] theorem Json.encodable_str (s : String) : (Json.str s).encodable = true := by
  simp [Json.encodable]

@[simp] theorem Json.encodable_int (n : ℤ) : (Json.int n).encodable = true := by
  simp [Json.encodable]

/-- An object is encodable if its values are. -/
@[simp] theorem Json.encodable_obj (d : Dict) :
    (Json.obj d).encodable = d.all fun entry => entry.2.encodable := by
  rw [Json.encodable]
  induction d with
  | nil => rfl
  | cons entry d ih =>
    obtain ⟨key, value⟩ := entry
    rw [Json.encodableEntries, Json.encodableEntry, ih, List.all_cons]

namespace Dict

/-! ## Keys and values -/

/-- The keys. -/
def keys (d : Dict) : List String := d.map Prod.fst

/-- The same value at every key. -/
def Same (d d' : Dict) : Prop := ∀ key : String, d.lookup key = d'.lookup key

/-- Every value is a text or `None`. -/
def isText (d : Dict) : Bool := d.all (·.2.isText)

variable {d d' : Dict} {key key' : String} {value : Json}

theorem Same.refl (d : Dict) : Same d d := fun _ => rfl

theorem Same.symm (h : Same d d') : Same d' d := fun key => (h key).symm

theorem Same.get (h : Same d d') (key : String) : d.get key = d'.get key := by
  unfold Dict.get
  rw [h key]

theorem Same.getD (h : Same d d') (key : String) (default : Json) :
    d.getD key default = d'.getD key default := by
  unfold Dict.getD
  rw [h key]

theorem lookup_without_self (d : Dict) (key : String) : (d.without key).lookup key = none := by
  rw [List.lookup_eq_none_iff]
  intro entry hentry
  have hne : entry.1 ≠ key := by simpa using (List.mem_filter.mp hentry).2
  exact bne_iff_ne.mpr hne.symm

theorem lookup_without_of_ne (h : key' ≠ key) : (d.without key).lookup key' = d.lookup key' := by
  unfold without
  induction d with
  | nil => rfl
  | cons entry d ih =>
    rw [List.filter_cons]
    by_cases hkey : entry.1 = key
    · -- the entry goes, and it is not the one looked for
      have hne : (key' == entry.1) = false := beq_eq_false_iff_ne.mpr (hkey ▸ h)
      rw [if_neg (by simpa using hkey), ih, List.lookup_cons, hne]
    · rw [if_pos (by simpa using hkey), List.lookup_cons, List.lookup_cons, ih]

theorem Same.without (h : Same d d') (key : String) : Same (d.without key) (d'.without key) := by
  intro key'
  by_cases hkey : key' = key
  · rw [hkey, lookup_without_self, lookup_without_self]
  · rw [lookup_without_of_ne hkey, lookup_without_of_ne hkey, h key']

theorem nodup_keys_without (h : d.keys.Nodup) (key : String) : (d.without key).keys.Nodup :=
  h.sublist (List.filter_sublist.map _)

theorem isText_without (h : d.isText = true) (key : String) : (d.without key).isText = true := by
  unfold isText at h ⊢
  rw [List.all_eq_true] at h ⊢
  exact fun entry hentry => h entry (List.mem_of_mem_filter hentry)

/-- What a replaced value leaves at the keys. -/
theorem lookup_map_set (d : Dict) (key key' : String) (value : Json) :
    List.lookup key' (d.map fun entry => if entry.1 == key then (key, value) else entry) =
      if key' = key then (d.lookup key).map fun _ => value else d.lookup key' := by
  induction d with
  | nil => simp
  | cons entry d ih =>
    rw [List.map_cons, List.lookup_cons, List.lookup_cons, List.lookup_cons, ih]
    by_cases hentry : entry.1 = key
    · subst hentry
      by_cases hkey : key' = entry.1
      · simp [hkey]
      · have hne : (key' == entry.1) = false := beq_eq_false_iff_ne.mpr hkey
        simp [hkey, hne]
    · have hne : (key == entry.1) = false := beq_eq_false_iff_ne.mpr (Ne.symm hentry)
      by_cases hkey : key' = key
      · subst hkey
        simp [hentry, hne]
      · simp [hentry, hkey]

theorem lookup_set (d : Dict) (key key' : String) (value : Json) :
    (d.set key value).lookup key' = if key' = key then some value else d.lookup key' := by
  unfold set
  split_ifs with hany hkey hkey
  · rw [lookup_map_set, if_pos hkey]
    obtain ⟨entry, hmem, hentry⟩ := List.any_eq_true.mp hany
    have hsome : (d.lookup key).isSome := by
      rw [List.lookup_isSome_iff]
      exact ⟨entry, hmem, by rw [BEq.comm, hentry]⟩
    obtain ⟨old, hold⟩ := Option.isSome_iff_exists.mp hsome
    rw [hold]
    rfl
  · rw [lookup_map_set, if_neg hkey]
  · have hnone : d.lookup key = none := by
      rw [List.lookup_eq_none_iff]
      intro entry hentry
      by_contra hne
      exact hany (List.any_eq_true.mpr ⟨entry, hentry, by rw [BEq.comm]; simpa using hne⟩)
    rw [List.lookup_append, hkey, hnone, Option.none_or, List.lookup_cons_self]
  · have hne : (key' == key) = false := beq_eq_false_iff_ne.mpr hkey
    rw [List.lookup_append, List.lookup_cons, hne]
    exact Option.or_none

/-- Values that are set for keys in a row: the first one, and the ones after it. -/
theorem ite_lookup_set (d : Dict) (key key' : String) {keys : List String} (value : String → Json) :
    (if key' ∈ keys then some (value key') else (d.set key (value key)).lookup key') =
      if key' ∈ key :: keys then some (value key') else d.lookup key' := by
  rw [lookup_set]
  by_cases hkeys : key' ∈ keys
  · rw [if_pos hkeys, if_pos (List.mem_cons_of_mem _ hkeys)]
  · by_cases heq : key' = key
    · subst heq
      rw [if_neg hkeys, if_pos rfl, if_pos List.mem_cons_self]
    · rw [if_neg hkeys, if_neg heq, if_neg (by simp [hkeys, heq])]

/-- Of items that are set one after the other, the last one with the key is found. -/
theorem lookup_foldl_set {α : Type*} (key : α → String) (value : α → Json) (start : Dict)
    (items : List α) (key' : String) :
    (items.foldl (fun d item => d.set (key item) (value item)) start).lookup key' =
      ((items.filter (key · == key')).getLast?.map value).or (start.lookup key') := by
  induction items using List.reverseRecOn with
  | nil => rfl
  | append_singleton items last ih =>
    rw [List.foldl_append, List.foldl_cons, List.foldl_nil, lookup_set, ih, List.filter_append]
    by_cases hlast : key last = key'
    · simp [hlast]
    · simp [hlast, Ne.symm hlast]

/-- So one of the items with the key is found. -/
theorem exists_lookup_foldl_set {α : Type*} (key : α → String) (value : α → Json)
    (start : Dict) {items : List α} {key' : String} (h : ∃ item ∈ items, key item = key') :
    ∃ item ∈ items, key item = key' ∧
      (items.foldl (fun d item => d.set (key item) (value item)) start).lookup key' =
        some (value item) := by
  obtain ⟨item, hitem, hkey⟩ := h
  have hmem : item ∈ items.filter (key · == key') :=
    List.mem_filter.mpr ⟨hitem, beq_iff_eq.mpr hkey⟩
  obtain ⟨last, hlast⟩ := Option.isSome_iff_exists.mp
    (List.getLast?_isSome.mpr (List.ne_nil_of_mem hmem))
  obtain ⟨hmem, hkey⟩ := List.mem_filter.mp (List.mem_of_getLast? hlast)
  refine ⟨last, hmem, beq_iff_eq.mp hkey, ?_⟩
  rw [lookup_foldl_set, hlast]
  rfl

/-! ## Membership -/

theorem mem_of_lookup (h : d.lookup key = some value) : (key, value) ∈ d := by
  induction d with
  | nil => cases h
  | cons entry d ih =>
    rw [List.lookup_cons] at h
    by_cases hkey : (key == entry.1) = true
    · rw [hkey] at h
      have hvalue : entry = (key, value) := Prod.ext (beq_iff_eq.mp hkey).symm (Option.some.inj h)
      exact hvalue ▸ List.mem_cons_self
    · rw [Bool.not_eq_true] at hkey
      rw [hkey] at h
      exact List.mem_cons_of_mem _ (ih h)

theorem lookup_of_mem (hd : d.keys.Nodup) (h : (key, value) ∈ d) : d.lookup key = some value := by
  induction d with
  | nil => cases h
  | cons entry d ih =>
    obtain ⟨hentry, hd⟩ := List.nodup_cons.mp hd
    rw [List.lookup_cons]
    rcases List.mem_cons.mp h with rfl | hmem
    · rw [beq_self_eq_true]
    · -- a later entry has another key
      have hkey : key ∈ d.map Prod.fst := List.mem_map_of_mem hmem
      have hne : (key == entry.1) = false :=
        beq_eq_false_iff_ne.mpr fun heq => hentry (heq ▸ hkey)
      rw [hne]
      exact ih hd hmem

/-- The same dictionary in another order has the same entries. -/
theorem Same.perm (hd : d.keys.Nodup) (hd' : d'.keys.Nodup) (h : Same d d') : d.Perm d' := by
  rw [List.perm_ext_iff_of_nodup hd.of_map hd'.of_map]
  rintro ⟨key, value⟩
  constructor
  · intro hmem
    exact mem_of_lookup (h key ▸ lookup_of_mem hd hmem)
  · intro hmem
    exact mem_of_lookup ((h key).symm ▸ lookup_of_mem hd' hmem)

theorem Same.of_perm (hd : d.keys.Nodup) (h : d.Perm d') : Same d d' := by
  have hd' : d'.keys.Nodup := (h.map Prod.fst).nodup_iff.mp hd
  intro key
  cases hlookup : d.lookup key with
  | some value => exact (lookup_of_mem hd' (h.mem_iff.mp (mem_of_lookup hlookup))).symm
  | none =>
    cases hlookup' : d'.lookup key with
    | none => rfl
    | some value =>
      rw [lookup_of_mem hd (h.mem_iff.mpr (mem_of_lookup hlookup'))] at hlookup
      cases hlookup

/-! ## A canonical text -/

/-- A text that shows where it ends. -/
def encodeText (s : List Char) : List Char := s.flatMap (fun c => ['+', c]) ++ ['.']

/-- A value; the ones that are no text are alike. -/
def encodeValue : Json → List Char
  | .null => ['n']
  | .str s => 's' :: encodeText s.toList
  | _ => ['x']

def encodeEntry (entry : String × Json) : List Char :=
  encodeText entry.1.toList ++ encodeValue entry.2

/-- The entries in the order of their keys. -/
def sorted (d : Dict) : Dict := d.mergeSort fun a b => decide (a.1 ≤ b.1)

/-- A text that does not depend on the order of the keys. -/
def canonicalText (d : Dict) : String :=
  String.ofList ('{' :: d.sorted.flatMap encodeEntry)

theorem encodeText_append {s s' rest rest' : List Char}
    (h : encodeText s ++ rest = encodeText s' ++ rest') : s = s' ∧ rest = rest' := by
  induction s generalizing s' with
  | nil =>
    cases s' with
    | nil => exact ⟨rfl, (List.cons.inj h).2⟩
    | cons c' s' => exact absurd (List.cons.inj h).1 (by decide)
  | cons c s ih =>
    cases s' with
    | nil => exact absurd (List.cons.inj h).1 (by decide)
    | cons c' s' =>
      obtain ⟨hc, hrest⟩ := List.cons.inj (List.cons.inj h).2
      obtain ⟨hs, hrest⟩ := ih hrest
      exact ⟨by rw [hc, hs], hrest⟩

theorem encodeValue_append {v v' : Json} {rest rest' : List Char}
    (hv : v.isText = true) (hv' : v'.isText = true)
    (h : encodeValue v ++ rest = encodeValue v' ++ rest') : v = v' ∧ rest = rest' := by
  cases v with
  | null =>
    cases v' with
    | null => exact ⟨rfl, (List.cons.inj h).2⟩
    | str s => exact absurd (List.cons.inj h).1 (by decide)
    | _ => cases hv'
  | str s =>
    cases v' with
    | null => exact absurd (List.cons.inj h).1 (by decide)
    | str s' =>
      obtain ⟨hs, hrest⟩ := encodeText_append (List.cons.inj h).2
      exact ⟨congrArg Json.str (String.toList_inj.mp hs), hrest⟩
    | _ => cases hv'
  | _ => cases hv

/-- The entries can be read off the text. -/
theorem flatMap_encodeEntry_injective (hd : d.isText = true) (hd' : d'.isText = true)
    (h : d.flatMap encodeEntry = d'.flatMap encodeEntry) : d = d' := by
  induction d generalizing d' with
  | nil =>
    cases d' with
    | nil => rfl
    | cons entry' d' =>
      -- an entry is never empty
      exact absurd h.symm (by simp [encodeEntry, encodeText])
  | cons entry d ih =>
    cases d' with
    | nil => exact absurd h (by simp [encodeEntry, encodeText])
    | cons entry' d' =>
      rw [isText, List.all_cons, Bool.and_eq_true] at hd hd'
      simp only [List.flatMap_cons, encodeEntry, List.append_assoc] at h
      obtain ⟨hkey, h⟩ := encodeText_append h
      obtain ⟨hvalue, h⟩ := encodeValue_append hd.1 hd'.1 h
      rw [ih hd.2 hd'.2 h, Prod.ext (String.toList_inj.mp hkey) hvalue]

theorem sorted_perm (d : Dict) : d.sorted.Perm d := List.mergeSort_perm d _

theorem isText_of_perm (h : d.Perm d') (hd : d.isText = true) : d'.isText = true := by
  unfold isText at hd ⊢
  rw [List.all_eq_true] at hd ⊢
  exact fun entry hentry => hd entry (h.mem_iff.mpr hentry)

theorem sorted_pairwise (d : Dict) : d.sorted.Pairwise fun a b => a.1 ≤ b.1 :=
  pairwise_mergeSort_key Prod.fst d

/-- The order of the keys does not show in the text. -/
theorem canonicalText_congr (hd : d.keys.Nodup) (hd' : d'.keys.Nodup) (h : Same d d') :
    d.canonicalText = d'.canonicalText := by
  have hperm : d.sorted.Perm d'.sorted :=
    (sorted_perm d).trans ((h.perm hd hd').trans (sorted_perm d').symm)
  have hsorted : d.sorted = d'.sorted := by
    refine List.Perm.eq_of_pairwise ?_ (sorted_pairwise d) (sorted_pairwise d') hperm
    -- two entries with one key are one entry
    rintro ⟨key, value⟩ ⟨key', value'⟩ hmem hmem' hle hle'
    obtain rfl : key = key' := le_antisymm hle hle'
    have hvalue := lookup_of_mem hd ((sorted_perm d).mem_iff.mp hmem)
    rw [lookup_of_mem hd ((sorted_perm d).mem_iff.mp (hperm.mem_iff.mpr hmem'))] at hvalue
    rw [Option.some.inj hvalue]
  unfold canonicalText
  rw [hsorted]

/-- The text tells dictionaries of texts apart. -/
theorem same_of_canonicalText (hd : d.keys.Nodup) (ht : d.isText = true)
    (ht' : d'.isText = true) (h : d.canonicalText = d'.canonicalText) : Same d d' := by
  have hsorted : d.sorted = d'.sorted :=
    flatMap_encodeEntry_injective (isText_of_perm (sorted_perm d).symm ht)
      (isText_of_perm (sorted_perm d').symm ht') (List.cons.inj (String.ofList_injective h)).2
  refine Same.of_perm hd ((sorted_perm d).symm.trans ?_)
  rw [hsorted]
  exact sorted_perm d'

theorem canonicalText_ne_empty (d : Dict) : d.canonicalText ≠ "" := by
  intro h
  have hlist := congrArg String.toList h
  rw [canonicalText, String.toList_ofList] at hlist
  cases hlist

end Dict

end Py
