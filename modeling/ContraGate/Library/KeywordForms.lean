import Mathlib.Computability.Language
import ContraGate.Library.PyText

/-!
# Languages of keywords

The texts that a pattern of keywords and white space matches when case is ignored, as languages,
and the texts that contain a word of a language. A search in the upper case finds a keyword in
every spelling except one with a dotted `İ`, which case-insensitive patterns take for an `I`.
-/

namespace Py

/-- The texts that the pattern `word`, of ASCII capitals, matches when case is ignored. -/
def keyword (word : String) : Language Char := {s | matchesWord word.toList s = true}

/-- `\s+`. -/
def gap : Language Char := {s | s ≠ [] ∧ ∀ c ∈ s, isSpace c = true}

/-- Some stretch of the text is a word of the language. -/
def Contains (l : Language Char) (text : List Char) : Prop := ∃ s ∈ l, s <:+: text

theorem contains_add {l m : Language Char} {text : List Char} :
    Contains (l + m) text ↔ Contains l text ∨ Contains m text := by
  simp only [Contains, Language.mem_add, or_and_right, exists_or]

theorem Contains.mono {l m : Language Char} (hle : ∀ s ∈ l, s ∈ m) {text : List Char}
    (h : Contains l text) : Contains m text := by
  obtain ⟨s, hs, hinfix⟩ := h
  exact ⟨s, hle s hs, hinfix⟩

/-- What is at the end of a form is in the text. -/
theorem Contains.of_mul {l m : Language Char} {text : List Char} (h : Contains (l * m) text) :
    Contains m text := by
  obtain ⟨s, hs, hinfix⟩ := h
  obtain ⟨front, -, back, hback, rfl⟩ := Language.mem_mul.mp hs
  exact ⟨back, hback, (List.suffix_append front back).isInfix.trans hinfix⟩

/-- A keyword in a text is found at one of its positions. -/
theorem Contains.exists_tail {word : String} {text : List Char}
    (h : Contains (keyword word) text) :
    (text.tails.any fun rest => matchesWord word.toList (rest.take word.toList.length)) = true := by
  obtain ⟨s, hs, before, after, rfl⟩ := h
  have hlength : word.toList.length = s.length := (matchesWord_iff_forall₂.mp hs).length_eq
  rw [List.any_eq_true]
  refine ⟨s ++ after, (List.mem_tails _ _).mpr ⟨before, by simp⟩, ?_⟩
  rwa [hlength, List.take_left]

/-! ## The upper case -/

theorem upper_append (s t : List Char) : upper (s ++ t) = upper s ++ upper t :=
  List.flatMap_append

theorem upper_isInfix {s t : List Char} (h : s <:+: t) : upper s <:+: upper t := by
  obtain ⟨before, after, rfl⟩ := h
  rw [upper_append, upper_append]
  exact List.infix_append _ _ _

/-- Each of the texts that are joined is a part of the whole. -/
theorem infix_intercalate {α : Type*} {sep text : List α} {texts : List (List α)}
    (h : text ∈ texts) : text <:+: sep.intercalate texts := by
  induction texts with
  | nil => cases h
  | cons first rest ih =>
    cases rest with
    | nil =>
      obtain rfl := List.mem_singleton.mp h
      rw [List.intercalate_singleton]
    | cons second rest =>
      rw [List.intercalate_cons_cons]
      rcases List.mem_cons.mp h with rfl | hrest
      · exact List.IsPrefix.isInfix ⟨sep ++ sep.intercalate (second :: rest), by simp⟩
      · exact (ih hrest).trans (List.suffix_append _ _).isInfix

/-- The keywords without a `K`, which a Kelvin sign matches. -/
def isKeyword (word : List Char) : Bool := word.all ('I' :: plainCapitals).contains

/-- A spelling of a keyword without a dotted `İ` has the keyword as its upper case. -/
theorem upper_of_matchesWord {word text : List Char} (hword : isKeyword word = true)
    (hdotted : 'İ' ∉ text) (h : matchesWord word text = true) : upper text = word := by
  rw [matchesWord_iff_forall₂] at h
  induction h with
  | nil => rfl
  | @cons k c word text hletter _ ih =>
    unfold isKeyword at hword ih
    rw [List.all_cons, Bool.and_eq_true] at hword
    rw [List.mem_cons, not_or] at hdotted
    have hc : upperChar c = [k] := by
      rcases List.mem_cons.mp (List.contains_iff_mem.mp hword.1) with rfl | hk
      · simp only [matchesLetter, Bool.or_eq_true, Bool.and_eq_true, beq_iff_eq] at hletter
        rcases hletter with (((rfl | rfl) | ⟨hS, -⟩) | ⟨hK, -⟩) | ⟨-, rfl | rfl⟩
        · decide
        · decide
        · cases hS
        · cases hK
        · decide
        · exact absurd rfl hdotted.1
      · exact upperChar_of_matchesLetter hk hletter
    show upperChar c ++ upper text = k :: word
    rw [hc, ih hword.2 hdotted.2]
    rfl

end Py
