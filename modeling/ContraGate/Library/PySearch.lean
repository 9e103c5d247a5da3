import ContraGate.Library.PyText

/-!
# Searching with a pattern

The pieces of which `re.search` patterns of keywords, white space and words are made, with case
ignored: each says what is left of a text behind a match at its front. A character is not both
white space and in a word, so a run of either is matched as a whole.
-/

namespace Py

/-- `keyword`, of ASCII capitals. -/
def keywordRest : List Char → List Char → Option (List Char)
  | [], text => some text
  | _ :: _, [] => none
  | k :: keyword, c :: text => if matchesLetter k c then keywordRest keyword text else none

/-- `\s+`. -/
def spacesRest (text : List Char) : Option (List Char) :=
  if (text.takeWhile isSpace).isEmpty then none else some (text.dropWhile isSpace)

/-- `keyword\s+`. -/
def clauseRest (keyword : String) (text : List Char) : Option (List Char) :=
  (keywordRest keyword.toList text).bind spacesRest

/-! ## Keywords and what follows them -/

/-- A character that ends no keyword of a pattern: no letter of it matches. -/
def Outside (keyword : List Char) (c : Char) : Prop := ∀ k ∈ keyword, matchesLetter k c = false

theorem keywordRest_append {keyword : List Char} (text : List Char) {after : List Char}
    (h : ∀ c ∈ after.head?, Outside keyword c) :
    keywordRest keyword (text ++ after) = (keywordRest keyword text).map (· ++ after) := by
  induction keyword generalizing text with
  | nil => rfl
  | cons k keyword ih =>
    have hkeyword : ∀ c ∈ after.head?, Outside keyword c := fun c hc l hl =>
      h c hc l (List.mem_cons_of_mem k hl)
    cases text with
    | nil =>
      cases after with
      | nil => rfl
      | cons c after =>
        have hc : matchesLetter k c = false := h c rfl k List.mem_cons_self
        simp [keywordRest, hc]
    | cons c text =>
      show (if matchesLetter k c then keywordRest keyword (text ++ after) else none) = _
      rw [ih text hkeyword]
      show _ = Option.map _ (if matchesLetter k c then keywordRest keyword text else none)
      split_ifs <;> rfl

/-- A spelling of the keyword is matched as a whole. -/
theorem keywordRest_of_matchesWord {keyword text : List Char}
    (h : matchesWord keyword text = true) (after : List Char) :
    keywordRest keyword (text ++ after) = some after := by
  rw [matchesWord_iff_forall₂] at h
  induction h with
  | nil => rfl
  | @cons k c keyword text hletter _ ih =>
    show (if matchesLetter k c then keywordRest keyword (text ++ after) else none) = _
    rw [if_pos hletter, ih]

/-- What a match takes is a spelling of the keyword. -/
theorem keywordRest_eq_some {keyword text rest : List Char}
    (h : keywordRest keyword text = some rest) :
    ∃ kw, text = kw ++ rest ∧ matchesWord keyword kw = true := by
  induction keyword generalizing text with
  | nil => exact ⟨[], Option.some.inj h, rfl⟩
  | cons k keyword ih =>
    cases text with
    | nil => cases h
    | cons c text =>
      unfold keywordRest at h
      split_ifs at h with hc
      obtain ⟨kw, rfl, hkw⟩ := ih h
      exact ⟨c :: kw, rfl, by rw [matchesWord, hc, hkw]; rfl⟩

theorem spacesRest_append {spaces text : List Char} (hspaces : spaces.all isSpace = true)
    (hne : spaces ≠ []) : spacesRest (spaces ++ text) = some (text.dropWhile isSpace) := by
  have hall : ∀ c ∈ spaces, isSpace c = true := List.all_eq_true.mp hspaces
  unfold spacesRest
  rw [List.takeWhile_append_of_pos hall, List.dropWhile_append_of_pos hall, if_neg]
  simp [hne]

/-- What `\s+` takes, and that it takes all of it. -/
theorem spacesRest_eq_some {text rest : List Char} (h : spacesRest text = some rest) :
    ∃ spaces, text = spaces ++ rest ∧ spaces.all isSpace = true ∧ spaces ≠ [] ∧
      rest.dropWhile isSpace = rest := by
  unfold spacesRest at h
  split_ifs at h with hempty
  obtain rfl := Option.some.inj h
  refine ⟨text.takeWhile isSpace, List.takeWhile_append_dropWhile.symm, List.all_takeWhile, ?_,
    ?_⟩
  · simpa using hempty
  · exact List.dropWhile_idempotent isSpace text

/-! ## The search -/

variable (wide : Char → Bool)

/-- What `(\w+)` takes. -/
def wordFront (text : List Char) : Option (List Char) :=
  if (text.takeWhile (isWord wide)).isEmpty then none else some (text.takeWhile (isWord wide))

/-- `re.search` of a pattern that begins with `\b` and a letter: the first place where it
matches; `inWord` says whether the text stands behind a character of a word. -/
def searchWord {α : Type*} (pattern : List Char → Option α) : Bool → List Char → Option α
  | _, [] => none
  | inWord, c :: text =>
    match if inWord then none else pattern (c :: text) with
    | some result => some result
    | none => searchWord pattern (isWord wide c) text

/-! ## Where a search finds nothing -/

section Quiet

variable {α : Type*} {pattern : List Char → Option α}

/-- Whether a text that comes next stands behind a character of a word. -/
def endsInWord : Bool → List Char → Bool
  | inWord, [] => inWord
  | _, c :: text => endsInWord (isWord wide c) text

variable (pattern) in
/-- No match starts in a stretch of text that is followed by `after`. -/
def Unmatched : Bool → List Char → List Char → Prop
  | _, [], _ => True
  | inWord, c :: text, after =>
    (inWord = true ∨ pattern (c :: text ++ after) = none) ∧ Unmatched (isWord wide c) text after

variable {wide}

theorem endsInWord_append {inWord : Bool} (text more : List Char) :
    endsInWord wide inWord (text ++ more) =
      endsInWord wide (endsInWord wide inWord text) more := by
  induction text generalizing inWord with
  | nil => rfl
  | cons c text ih => exact ih

theorem endsInWord_of_forall {inWord b : Bool} {text : List Char} (hne : text ≠ [])
    (h : ∀ c ∈ text, isWord wide c = b) : endsInWord wide inWord text = b := by
  induction text generalizing inWord with
  | nil => exact absurd rfl hne
  | cons c text ih =>
    obtain ⟨hc, htext⟩ := List.forall_mem_cons.mp h
    cases text with
    | nil => exact hc
    | cons d text => exact @ih (isWord wide c) (List.cons_ne_nil d text) htext

theorem unmatched_append {inWord : Bool} {text more after : List Char} :
    Unmatched wide pattern inWord (text ++ more) after ↔
      Unmatched wide pattern inWord text (more ++ after) ∧
        Unmatched wide pattern (endsInWord wide inWord text) more after := by
  induction text generalizing inWord with
  | nil => exact ⟨fun h => ⟨trivial, h⟩, fun h => h.2⟩
  | cons c text ih =>
    simp only [List.cons_append, Unmatched, endsInWord, ih, List.append_assoc, and_assoc]

/-- A stretch of characters none of which starts a match. -/
theorem unmatched_of_forall {inWord : Bool} {text after : List Char}
    (h : ∀ c ∈ text, ∀ rest, pattern (c :: rest) = none) :
    Unmatched wide pattern inWord text after := by
  induction text generalizing inWord with
  | nil => trivial
  | cons c text ih =>
    obtain ⟨hc, htext⟩ := List.forall_mem_cons.mp h
    exact ⟨.inr (hc _), ih htext⟩

/-- The rest of a word. -/
theorem unmatched_of_isWord {text after : List Char} (h : ∀ c ∈ text, isWord wide c = true) :
    Unmatched wide pattern true text after := by
  induction text with
  | nil => trivial
  | cons c text ih =>
    obtain ⟨hc, htext⟩ := List.forall_mem_cons.mp h
    refine ⟨.inl rfl, ?_⟩
    rw [hc]
    exact ih htext

theorem unmatched_congr {β : Type*} {pattern' : List Char → Option β} {inWord : Bool}
    {text after : List Char}
    (h : ∀ rest, pattern (rest ++ after) = none ↔ pattern' (rest ++ after) = none) :
    Unmatched wide pattern inWord text after ↔ Unmatched wide pattern' inWord text after := by
  induction text generalizing inWord with
  | nil => exact Iff.rfl
  | cons c text ih => exact and_congr (or_congr Iff.rfl (h (c :: text))) ih

variable (wide pattern) in
/-- A search passes over the text, whatever follows, and no word goes on behind it. -/
def Passed (text : List Char) : Prop :=
  ∀ after, Unmatched wide pattern false text after ∧ endsInWord wide false text = false

theorem Passed.append {text more : List Char} (h : Passed wide pattern text)
    (hmore : Passed wide pattern more) : Passed wide pattern (text ++ more) := by
  intro after
  obtain ⟨htext, hends⟩ := h (more ++ after)
  obtain ⟨hunmatched, hends'⟩ := hmore after
  rw [unmatched_append, endsInWord_append, hends]
  exact ⟨⟨htext, hunmatched⟩, hends'⟩

/-- The search passes over such a stretch. -/
theorem searchWord_append {inWord : Bool} {text after : List Char}
    (h : Unmatched wide pattern inWord text after) :
    searchWord wide pattern inWord (text ++ after) =
      searchWord wide pattern (endsInWord wide inWord text) after := by
  induction text generalizing inWord with
  | nil => rfl
  | cons c text ih =>
    obtain ⟨hc, htext⟩ := h
    have hnone : (if inWord then none else pattern (c :: text ++ after)) = none := by
      rcases hc with hc | hc
      · rw [if_pos hc]
      · rw [hc, ite_self]
    rw [List.cons_append, searchWord, ← List.cons_append, hnone]
    exact ih htext

theorem searchWord_of_match {c : Char} {text : List Char} {result : α}
    (h : pattern (c :: text) = some result) :
    searchWord wide pattern false (c :: text) = some result := by
  rw [searchWord, if_neg Bool.false_ne_true, h]

variable (wide pattern) in
/-- Either no match starts in a stretch of text, or there is a first one. -/
theorem unmatched_or_first (inWord : Bool) (text after : List Char) :
    Unmatched wide pattern inWord text after ∨
      ∃ before c rest result, text = before ++ c :: rest ∧
        Unmatched wide pattern inWord before (c :: rest ++ after) ∧
        endsInWord wide inWord before = false ∧
        pattern (c :: rest ++ after) = some result := by
  induction text generalizing inWord with
  | nil => exact .inl trivial
  | cons c text ih =>
    by_cases hc : inWord = true ∨ pattern (c :: text ++ after) = none
    · rcases ih (isWord wide c) with htext | ⟨before, d, rest, result, rfl, hbefore, hends, hmatch⟩
      · exact .inl ⟨hc, htext⟩
      · refine .inr ⟨c :: before, d, rest, result, rfl, ⟨?_, hbefore⟩, hends, hmatch⟩
        rwa [List.cons_append, List.append_assoc, ← List.cons_append] at hc
    · rw [not_or, Bool.not_eq_true] at hc
      obtain ⟨hword, hmatch⟩ := hc
      obtain ⟨result, hresult⟩ := Option.ne_none_iff_exists'.mp hmatch
      exact .inr ⟨[], c, text, result, rfl, trivial, hword, hresult⟩

/-- A result of a search is the result of a match. -/
theorem exists_of_searchWord {inWord : Bool} {text : List Char} {result : α}
    (h : searchWord wide pattern inWord text = some result) :
    ∃ rest, rest <:+ text ∧ pattern rest = some result := by
  induction text generalizing inWord with
  | nil => cases h
  | cons c text ih =>
    rw [searchWord] at h
    split at h
    · rename_i found hfound
      obtain rfl := Option.some.inj h
      split_ifs at hfound
      exact ⟨c :: text, List.suffix_rfl, hfound⟩
    · obtain ⟨rest, hrest, hmatch⟩ := ih h
      exact ⟨rest, hrest.trans (List.suffix_cons c text), hmatch⟩

end Quiet

end Py
