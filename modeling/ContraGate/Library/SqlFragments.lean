import ContraGate.Library.PySearch
import ContraGate.Library.SqlStatements

/-!
# Parts of a statement as they are written

The parts that a statement is put together of: white space, keywords in any letter case,
identifiers, and fragments, whose parentheses are balanced and whose literals are closed. What is
outside the parentheses and literals of a fragment are its outer tokens.
-/

namespace Sql

/-! ## The parts -/

/-- White space, or nothing. -/
structure Blank where
  text : List Char
  spaces : ∀ c ∈ text, isSpace c = true

/-- White space between two words. -/
structure Gap extends Blank where
  nonempty : text ≠ []

/-- A keyword in any letter case. -/
structure Spelling (keyword : String) where
  text : List Char
  upper : text.map Char.toUpper = keyword.toList

/-- A quoted identifier, or an unquoted one that is not reserved. -/
structure Identifier (reserved : List String) where
  text : List Char
  piece : (∃ segment more, lex text = [.double segment more]) ∨
    (lex text = [.word text] ∧ String.ofList (text.map Char.toUpper) ∉ reserved)

/-- The tokens outside all parentheses; `none` if the parentheses are not balanced. -/
def outerTokens : ℕ → List Token → Option (List Token)
  | 0, [] => some []
  | _ + 1, [] => none
  | depth, .symbol '(' :: tokens => outerTokens (depth + 1) tokens
  | 0, .symbol ')' :: _ => none
  | depth + 1, .symbol ')' :: tokens => outerTokens depth tokens
  | 0, t :: tokens => (outerTokens 0 tokens).map (t :: ·)
  | depth + 1, _ :: tokens => outerTokens (depth + 1) tokens

def Piece.isClosed : Piece → Bool
  | .unclosed _ => false
  | _ => true

/-- A text that is no white space, with closed literals and quoted identifiers and balanced
parentheses; `excluded` begins nowhere outside of these. -/
structure Fragment (excluded : List Token → Bool) where
  text : List Char
  nonblank : Py.strip text ≠ []
  closed : (lex text).all Piece.isClosed = true
  outer : List Token
  balanced : outerTokens 0 ((lex text).filterMap token?) = some outer
  excludes : ∀ tokens ∈ outer.tails, excluded tokens = false

/-- The beginning of a clause that follows a condition, or the end of the statement. -/
def beginsClause : List Token → Bool
  | .word "ORDER" :: .word "BY" :: _ => true
  | .word "GROUP" :: .word "BY" :: _ => true
  | .word w :: _ => w ∈ ["LIMIT", "HAVING", "RETURNING"]
  | .symbol c :: _ => c = ';'
  | _ => false

/-- The beginning of a condition, or the end of the statement. -/
def beginsWhere : List Token → Bool
  | .word w :: _ => w = "WHERE"
  | .symbol c :: _ => c = ';'
  | _ => false

/-- An identifier of the characters of words is no quoted one. -/
theorem Identifier.not_reserved {reserved : List String} (t : Identifier reserved)
    {wide : Char → Bool} (hword : ∀ c ∈ t.text, Py.isWord wide c = true) :
    String.ofList (t.text.map Char.toUpper) ∉ reserved := by
  rcases t.piece with ⟨segment, more, hlex⟩ | ⟨-, hreserved⟩
  · have htext := text_lex t.text
    rw [hlex] at htext
    have hquote : '"' ∈ t.text := by
      rw [← htext]
      exact List.mem_cons_self
    have hnot := hword '"' hquote
    simp [Py.isWord] at hnot
  · exact hreserved

theorem Identifier.nonempty {reserved : List String} (t : Identifier reserved) : t.text ≠ [] := by
  intro hnil
  rcases t.piece with ⟨segment, more, hlex⟩ | ⟨hlex, -⟩
  · rw [hnil] at hlex
    cases hlex
  · rw [hnil] at hlex
    cases hlex

/-! ## White space and keywords in Python -/

theorem isSpace_python (wide : Char → Bool) {c : Char} (h : isSpace c = true) :
    Py.isSpace c = true ∧ Py.isWord wide c = false := by
  unfold isSpace at h
  simp only [Bool.or_eq_true, beq_iff_eq] at h
  rcases h with ((((rfl | rfl) | rfl) | rfl) | rfl) | rfl
  all_goals exact ⟨by decide, by simp [Py.isWord]⟩

theorem Blank.all_isSpace (b : Blank) : b.text.all Py.isSpace = true :=
  List.all_eq_true.mpr fun c hc => (isSpace_python (fun _ => false) (b.spaces c hc)).1

/-- Behind white space no word goes on. -/
theorem Gap.endsInWord (g : Gap) (wide : Char → Bool) (inWord : Bool) :
    Py.endsInWord wide inWord g.text = false :=
  Py.endsInWord_of_forall g.nonempty fun c hc => (isSpace_python wide (g.spaces c hc)).2

theorem Gap.exists_cons (g : Gap) : ∃ c rest, g.text = c :: rest ∧ isSpace c = true := by
  obtain ⟨c, rest, htext⟩ := List.exists_cons_of_ne_nil g.nonempty
  exact ⟨c, rest, htext, g.spaces c (htext ▸ List.mem_cons_self)⟩

theorem matchesLetter_of_toUpper {k c : Char} (h : c.toUpper = k) :
    Py.matchesLetter k c = true := by
  unfold Py.matchesLetter
  rcases Py.toLower_of_toUpper_eq h with rfl | rfl <;> simp

theorem matchesWord_of_toUpper {keyword text : List Char} (h : text.map Char.toUpper = keyword) :
    Py.matchesWord keyword text = true := by
  induction text generalizing keyword with
  | nil =>
    subst h
    rfl
  | cons c text ih =>
    subst h
    rw [List.map_cons, Py.matchesWord, matchesLetter_of_toUpper rfl, ih rfl]
    rfl

/-- The letters whose pattern matches no character with another upper case. -/
def hasTwoCases (k : Char) : Bool :=
  k ∉ ['S', 'K', 'I'] && k.toUpper == k && k.toLower.toUpper == k

theorem toUpper_of_matchesWord {keyword text : List Char}
    (hkeyword : keyword.all hasTwoCases = true) (h : Py.matchesWord keyword text = true) :
    text.map Char.toUpper = keyword := by
  rw [Py.matchesWord_iff_forall₂] at h
  induction h with
  | nil => rfl
  | @cons k c keyword text hletter _ ih =>
    rw [List.all_cons, Bool.and_eq_true] at hkeyword
    obtain ⟨hk, hkeyword⟩ := hkeyword
    simp only [hasTwoCases, List.mem_cons, List.not_mem_nil, or_false, not_or,
      Bool.and_eq_true, decide_eq_true_eq, beq_iff_eq] at hk
    obtain ⟨⟨⟨hS, hK, hI⟩, hupper⟩, hlower⟩ := hk
    have hc : c = k ∨ c = k.toLower := by
      simpa [Py.matchesLetter, hS, hK, hI] using hletter
    rw [List.map_cons, ih hkeyword]
    rcases hc with rfl | rfl
    · rw [hupper]
    · rw [hlower]

variable {keyword : String}

theorem Spelling.matchesWord (w : Spelling keyword) :
    Py.matchesWord keyword.toList w.text = true := matchesWord_of_toUpper w.upper

theorem Spelling.keywordRest (w : Spelling keyword) (after : List Char) :
    Py.keywordRest keyword.toList (w.text ++ after) = some after :=
  Py.keywordRest_of_matchesWord w.matchesWord after

/-- `keyword\s+`, on the keyword and a gap. -/
theorem Spelling.clauseRest (w : Spelling keyword) (g : Gap) (after : List Char) :
    Py.clauseRest keyword (w.text ++ (g.text ++ after)) = some (after.dropWhile Py.isSpace) := by
  unfold Py.clauseRest
  rw [w.keywordRest]
  exact Py.spacesRest_append g.all_isSpace g.nonempty

section

variable (w : Spelling keyword)
  (hkeyword : keyword.toList.all Py.isCapital = true)

include hkeyword

theorem Spelling.isWord (wide : Char → Bool) : ∀ c ∈ w.text, Py.isWord wide c = true :=
  Py.isWord_of_matchesWord hkeyword w.matchesWord

theorem Spelling.isSpace : ∀ c ∈ w.text, Py.isSpace c = false := by
  intro c hc
  by_contra hspace
  have hword := w.isWord hkeyword (fun _ => false) c hc
  rw [Py.spacesApart_ascii c (by simpa using hspace)] at hword
  cases hword

theorem Spelling.trimmed : Py.Trimmed w.text := Py.trimmed_of_forall (w.isSpace hkeyword)

end

theorem Spelling.exists_cons {k : Char} {letters : List Char} (w : Spelling keyword)
    (hkeyword : keyword.toList = k :: letters) :
    ∃ c rest, w.text = c :: rest ∧ (c = k ∨ c = k.toLower) := by
  have hupper := w.upper
  rw [hkeyword] at hupper
  obtain ⟨c, rest, htext, hc, -⟩ := List.map_eq_cons_iff.mp hupper
  exact ⟨c, rest, htext, Py.toLower_of_toUpper_eq hc⟩

/-- The first word of a text that begins with a keyword. -/
theorem Spelling.firstWord {k : Char} {letters : List Char} (w : Spelling keyword)
    (hcons : keyword.toList = k :: letters)
    (hkeyword : keyword.toList.all Py.isCapital = true)
    (b : Blank) (g : Gap) (after : List Char) :
    Py.firstWord (b.text ++ (w.text ++ (g.text ++ after))) = w.text := by
  have hne : w.text ≠ [] := by
    obtain ⟨c, rest, hw, -⟩ := w.exists_cons hcons
    rw [hw]
    exact List.cons_ne_nil c rest
  obtain ⟨c, rest, hg, hc⟩ := g.exists_cons
  have hletters : ∀ c ∈ w.text, (!Py.isSpace c) = true := by
    intro c hc
    rw [w.isSpace hkeyword c hc]
    rfl
  unfold Py.firstWord
  rw [List.dropWhile_append_of_pos (List.all_eq_true.mp b.all_isSpace),
    Py.dropWhile_append_of_trimmed hne (w.trimmed hkeyword).front,
    List.takeWhile_append_of_pos hletters, hg, List.cons_append, List.takeWhile_cons,
    (isSpace_python (fun _ => false) hc).1]
  exact List.append_nil _

/-! ## What a search passes over -/

section Passed

variable {first : Char}

theorem Gap.not_matches (hfirst : Py.isCapital first = true) (g : Gap) :
    ∀ c ∈ g.text, Py.matchesLetter first c = false := by
  intro c hc
  by_contra hmatch
  have hword := @Py.isWord_of_matchesLetter (fun _ => false) first c hfirst (by simpa using hmatch)
  rw [(isSpace_python _ (g.spaces c hc)).2] at hword
  cases hword

/-- The letter does not match a letter of the keyword, however that is written. -/
def lacksLetter (first : Char) (keyword : String) : Bool :=
  keyword.toList.all fun k => !Py.matchesLetter first k && !Py.matchesLetter first k.toLower

theorem Spelling.not_matches (w : Spelling keyword) (hkeyword : lacksLetter first keyword = true) :
    ∀ c ∈ w.text, Py.matchesLetter first c = false := by
  intro c hc
  have hk : c.toUpper ∈ keyword.toList := w.upper ▸ List.mem_map_of_mem hc
  have hlacks := List.all_eq_true.mp hkeyword _ hk
  rw [Bool.and_eq_true, Bool.not_eq_true', Bool.not_eq_true'] at hlacks
  rcases Py.toLower_of_toUpper_eq (Eq.refl c.toUpper) with heq | heq
  · rw [heq]
    exact hlacks.1
  · rw [heq]
    exact hlacks.2

/-- A keyword that does not have the first letter of the pattern. -/
theorem Spelling.passed {α : Type} {wide : Char → Bool} {pattern : List Char → Option α}
    (hpattern : ∀ c rest, Py.matchesLetter first c = false → pattern (c :: rest) = none)
    (hfirst : Py.isCapital first = true)
    (hkeyword : lacksLetter first keyword = true) (w : Spelling keyword) (g : Gap) :
    Py.Passed wide pattern (w.text ++ g.text) := by
  refine fun after => ⟨Py.unmatched_of_forall fun c hc rest => hpattern c rest ?_, ?_⟩
  · rcases List.mem_append.mp hc with hc | hc
    · exact w.not_matches hkeyword c hc
    · exact g.not_matches hfirst c hc
  · rw [Py.endsInWord_append]
    exact g.endsInWord wide _

end Passed

end Sql
