import Mathlib.Data.List.Basic
import Mathlib.Data.List.Infix

/-!
# Prefix codes

A code writes a symbol as a word. Where no word is the beginning of another, an encoded text can
be read from left to right; so two texts with equally many symbols are equal as soon as their
encodings are as far as both go.

* `Agree`: two lists are equal as far as both go; `agree_iff_zip` compares them item by item;
* `PrefixFree.of_decode`: a code whose first symbol can be read off is prefix-free;
* `PrefixFree.eq_of_agree`: texts of one length whose encodings agree;
* `utf8_prefixFree`: UTF-8 is such a code.
-/

namespace PrefixCode

variable {α β : Type*}

/-- The lists are equal as far as both go. -/
def Agree (l m : List β) : Prop := l <+: m ∨ m <+: l

theorem Agree.refl (l : List β) : Agree l l := .inl (List.prefix_refl l)

theorem agree_cons {x y : β} {l m : List β} :
    Agree (x :: l) (y :: m) ↔ x = y ∧ Agree l m := by
  unfold Agree
  rw [List.cons_prefix_cons, List.cons_prefix_cons, and_or_left, @eq_comm _ y x]

theorem agree_append_left {l m : List β} (word : List β) :
    Agree (word ++ l) (word ++ m) ↔ Agree l m := by
  unfold Agree
  rw [List.prefix_append_right_inj, List.prefix_append_right_inj]

/-- Beginnings of lists that agree do. -/
theorem Agree.of_append {l m l' m' : List β} (h : Agree (l ++ l') (m ++ m')) : Agree l m := by
  rcases h with hpre | hpre
  · exact List.prefix_or_prefix_of_prefix ((List.prefix_append l l').trans hpre)
      (List.prefix_append m m')
  · exact List.prefix_or_prefix_of_prefix (List.prefix_append l l')
      ((List.prefix_append m m').trans hpre)

/-- Item by item, as far as the shorter list goes. -/
theorem agree_iff_zip {l m : List β} : Agree l m ↔ ∀ pair ∈ l.zip m, pair.1 = pair.2 := by
  induction l generalizing m with
  | nil => simp [Agree]
  | cons x l ih =>
    cases m with
    | nil => simp [Agree]
    | cons y m => rw [agree_cons, ih, List.zip_cons_cons, List.forall_mem_cons]

/-- No word is the beginning of the word of another symbol. -/
def PrefixFree (code : α → List β) : Prop := ∀ a b, code a <+: code b → a = b

variable {code : α → List β}

/-- A code whose first symbol can be read off, whatever comes behind it. -/
theorem PrefixFree.of_decode (decode : List β → Option α)
    (hdecode : ∀ a rest, decode (code a ++ rest) = some a) : PrefixFree code := by
  rintro a b ⟨rest, hword⟩
  have hread : decode (code b) = some a := by
    rw [← hword]
    exact hdecode a rest
  have hself : decode (code b) = some b := by
    rw [← List.append_nil (code b)]
    exact hdecode b []
  exact Option.some.inj (hread.symm.trans hself)

/-- The first symbols of encodings that agree are the same, and what comes behind them agrees. -/
theorem PrefixFree.cons (hcode : PrefixFree code) {a b : α} {l m : List β}
    (h : Agree (code a ++ l) (code b ++ m)) : a = b ∧ Agree l m := by
  have hsame : a = b := by
    rcases h.of_append with hpre | hpre
    · exact hcode a b hpre
    · exact (hcode b a hpre).symm
  subst hsame
  exact ⟨rfl, (agree_append_left (code a)).mp h⟩

/-- Texts of one length are equal if their encodings agree. -/
theorem PrefixFree.eq_of_agree (hcode : PrefixFree code) {as bs : List α}
    (hlength : as.length = bs.length) (h : Agree (as.flatMap code) (bs.flatMap code)) :
    as = bs := by
  induction as generalizing bs with
  | nil => exact (List.eq_nil_of_length_eq_zero hlength.symm).symm
  | cons a as ih =>
    cases bs with
    | nil => cases hlength
    | cons b bs =>
      rw [List.flatMap_cons, List.flatMap_cons] at h
      obtain ⟨rfl, hrest⟩ := hcode.cons h
      rw [ih (Nat.succ.inj hlength) hrest]

/-- **UTF-8 is prefix-free.** -/
theorem utf8_prefixFree : PrefixFree String.utf8EncodeChar := by
  refine PrefixFree.of_decode (fun bytes => bytes.toByteArray.utf8DecodeChar? 0) fun c rest => ?_
  rw [List.toByteArray_append]
  exact ByteArray.utf8DecodeChar?_utf8EncodeChar_append

/-- The bytes of a text are those of its characters. -/
theorem toList_toUTF8 (s : String) :
    s.toUTF8.data.toList = s.toList.flatMap String.utf8EncodeChar := by
  rw [String.toUTF8_eq_toByteArray, ← String.utf8Encode_toList]
  exact List.toList_data_toByteArray

end PrefixCode
