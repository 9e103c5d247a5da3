import ContraGate.AnalyzerTools
import ContraGate.Library.SqlFragments

/-!
# Where the condition of a statement ends

`_extract_where` takes the text behind the first `WHERE`, up to the first `;` or word that may begin
another clause: also where that is in a literal, in parentheses, or only the beginning of a longer
word. A `Rendering` is a DELETE or UPDATE as it can be written.
-/

open Sql

/-! ## Renderings -/

/-- What may follow the condition. -/
inductive Ending
  | nothing
  | semicolon (blank : Blank)
  | returning (g₁ : Gap) (keyword : Spelling "RETURNING") (g₂ : Gap) (list : List Char)

def Ending.text : Ending → List Char
  | nothing => []
  | semicolon blank => blank.text ++ [';']
  | returning g₁ keyword g₂ list => g₁.text ++ keyword.text ++ g₂.text ++ list

/-- An identifier; the word WHERE is reserved. -/
abbrev TableName := Identifier ["WHERE"]

abbrev Condition := Fragment beginsClause

abbrev SetList := Fragment beginsWhere

/-- A statement up to its `WHERE`. -/
inductive Target
  | delete (keyword : Spelling "DELETE") (g₁ : Gap) (from_ : Spelling "FROM") (g₂ : Gap)
    (table : TableName) (g₃ : Gap)
  | update (keyword : Spelling "UPDATE") (g₁ : Gap) (table : TableName) (g₂ : Gap)
    (set : Spelling "SET") (g₃ : Gap) (list : SetList) (g₄ : Gap)

namespace Target

def table : Target → TableName
  | delete _ _ _ _ table _ => table
  | update _ _ table _ _ _ _ _ => table

/-- The `SET` list; a DELETE has none. -/
def setList : Target → List Char
  | delete .. => []
  | update _ _ _ _ _ _ list _ => list.text

/-- The text in front of the `SET` list. -/
def front : Target → List Char
  | delete keyword g₁ from_ g₂ table g₃ =>
    keyword.text ++ g₁.text ++ from_.text ++ g₂.text ++ table.text ++ g₃.text
  | update keyword g₁ table g₂ set g₃ _ _ =>
    keyword.text ++ g₁.text ++ table.text ++ g₂.text ++ set.text ++ g₃.text

/-- The white space behind the `SET` list. -/
def gap : Target → List Char
  | delete .. => []
  | update _ _ _ _ _ _ _ g₄ => g₄.text

/-- A statement begins with its keyword. -/
theorem exists_cons (t : Target) :
    ∃ c rest, t.front = c :: rest ∧ Py.isSpace c = false := by
  cases t with
  | delete keyword g₁ from_ g₂ table g₃ =>
    obtain ⟨c, rest, hkeyword, hc⟩ := keyword.exists_cons rfl
    refine ⟨c, _, by rw [front, hkeyword]; rfl, ?_⟩
    rcases hc with rfl | rfl <;> decide
  | update keyword g₁ table g₂ set g₃ list g₄ =>
    obtain ⟨c, rest, hkeyword, hc⟩ := keyword.exists_cons rfl
    refine ⟨c, _, by rw [front, hkeyword]; rfl, ?_⟩
    rcases hc with rfl | rfl <;> decide

end Target

/-- A DELETE or UPDATE with a condition. -/
structure Rendering where
  before : Blank
  target : Target
  where_ : Spelling "WHERE"
  gap : Gap
  condition : Condition
  ending : Ending
  after : Blank

namespace Rendering

/-- What follows the `SET` list, or the table. -/
def clause (r : Rendering) : List Char :=
  r.target.gap ++ r.where_.text ++ r.gap.text ++ r.condition.text ++ r.ending.text ++ r.after.text

def text (r : Rendering) : List Char :=
  r.before.text ++ r.target.front ++ r.target.setList ++ r.clause

end Rendering

namespace AnalyzerTools

/-! ## Where the condition ends -/

/-- The first place behind `front` and not before it where a condition can end. -/
def StopsAt (front stop : List Char) : Prop :=
  endsCondition stop = true ∧
    ∀ u v, front = u ++ v → v ≠ [] → endsCondition (v ++ stop) = false

theorem conditionRest_spec (text : List Char) :
    ∃ stop, text = conditionRest text ++ stop ∧ StopsAt (conditionRest text) stop := by
  induction text with
  | nil => exact ⟨[], rfl, rfl, fun u v h hv => absurd (List.append_eq_nil_iff.mp h.symm).2 hv⟩
  | cons c text ih =>
    unfold conditionRest
    split_ifs with hends
    · exact ⟨c :: text, rfl, hends, fun u v h hv => absurd (List.append_eq_nil_iff.mp h.symm).2 hv⟩
    · obtain ⟨stop, htext, hstop, hplaces⟩ := ih
      refine ⟨stop, congrArg (c :: ·) htext, hstop, fun u v h hv => ?_⟩
      rcases List.cons_eq_append_iff.mp h with ⟨rfl, rfl⟩ | ⟨u', rfl, hu'⟩
      · rw [List.cons_append, ← htext]
        simpa using hends
      · exact hplaces u' v hu' hv

theorem conditionRest_of_stopsAt {front stop : List Char} (h : StopsAt front stop) :
    conditionRest (front ++ stop) = front := by
  induction front with
  | nil =>
    cases stop with
    | nil => rfl
    | cons c stop =>
      rw [List.nil_append, conditionRest, if_pos h.1]
  | cons c front ih =>
    have hc : endsCondition (c :: (front ++ stop)) = false :=
      h.2 [] (c :: front) rfl (List.cons_ne_nil _ _)
    rw [List.cons_append, conditionRest, hc, if_neg Bool.false_ne_true, ih]
    refine ⟨h.1, fun u v hfront hv => h.2 (c :: u) v ?_ hv⟩
    rw [hfront]
    rfl

/-- A stretch of text in which the condition does not end. -/
theorem conditionRest_append {text after : List Char}
    (h : ∀ u v, text = u ++ v → v ≠ [] → endsCondition (v ++ after) = false) :
    conditionRest (text ++ after) = text ++ conditionRest after := by
  induction text with
  | nil => rfl
  | cons c text ih =>
    have hc : endsCondition (c :: (text ++ after)) = false :=
      h [] (c :: text) rfl (List.cons_ne_nil _ _)
    rw [List.cons_append, conditionRest, hc, if_neg Bool.false_ne_true, ih]
    · rfl
    · intro u v htext hv
      exact h (c :: u) v (congrArg (c :: ·) htext) hv

/-- The condition goes no further than a place where it can end. -/
theorem conditionRest_isPrefix (before : List Char) {stop : List Char}
    (h : endsCondition stop = true) :
    conditionRest (before ++ stop) <+: before := by
  induction before with
  | nil =>
    cases stop with
    | nil => exact List.prefix_rfl
    | cons c stop =>
      rw [List.nil_append, conditionRest, if_pos h]
  | cons c before ih =>
    rw [List.cons_append, conditionRest]
    split_ifs
    · exact List.nil_prefix
    · exact (List.cons_prefix_cons).mpr ⟨rfl, ih⟩

/-! ## What follows does not matter -/

/-- A text behind a condition: it neither lengthens its last word nor has the BY of a last ORDER
or GROUP. -/
structure Delimits (after : List Char) : Prop where
  head : ∀ c ∈ after.head?, Py.isSpace c = true ∨ c = ';'
  by_ : Py.keywordRest "BY".toList (after.dropWhile Py.isSpace) = none

/-- Keywords match neither white space nor a semicolon. -/
theorem Delimits.outside {after : List Char} (h : Delimits after) {keyword : List Char}
    (hkeyword : keyword.all Py.isCapital = true) :
    ∀ c ∈ after.head?, Py.Outside keyword c := by
  intro c hc k hk
  by_contra hmatch
  rw [Bool.not_eq_false] at hmatch
  have hword := @Py.isWord_of_matchesLetter (fun _ => false) k c
    (List.all_eq_true.mp hkeyword k hk) hmatch
  rcases h.head c hc with hspace | rfl
  · rw [Py.spacesApart_ascii c hspace] at hword
    cases hword
  · exact absurd hword (by decide)

/-- The white space in front of a text that has something else. -/
theorem exists_spaces_append {text : List Char} (h : ∃ c ∈ text, Py.isSpace c = false) :
    ∃ spaces d rest, text = spaces ++ d :: rest ∧ (∀ c ∈ spaces, Py.isSpace c = true) ∧
      Py.isSpace d = false := by
  obtain ⟨c, hc, hspace⟩ := h
  cases hrest : text.dropWhile Py.isSpace with
  | nil =>
    have hall := List.dropWhile_eq_nil_iff.mp hrest c hc
    rw [hspace] at hall
    cases hall
  | cons d rest =>
    refine ⟨text.takeWhile Py.isSpace, d, rest, ?_, fun c hc => List.mem_takeWhile_imp hc, ?_⟩
    · rw [← hrest, List.takeWhile_append_dropWhile]
    · have hhead := List.head?_dropWhile_not Py.isSpace text
      rw [hrest] at hhead
      simpa using hhead

theorem spacesRest_append_of_nonblank {text : List Char} (after : List Char)
    (h : ∃ c ∈ text, Py.isSpace c = false) :
    Py.spacesRest (text ++ after) = (Py.spacesRest text).map (· ++ after) := by
  obtain ⟨spaces, d, rest, rfl, hspaces, hd⟩ := exists_spaces_append h
  unfold Py.spacesRest
  rw [List.append_assoc, List.cons_append, List.takeWhile_append_of_pos hspaces,
    List.dropWhile_append_of_pos hspaces, List.takeWhile_append_of_pos hspaces,
    List.dropWhile_append_of_pos hspaces]
  simp only [List.takeWhile_cons, List.dropWhile_cons, hd, Bool.false_eq_true, if_false]
  split_ifs <;> rfl

theorem spacesRest_bind_eq_none {α : Type} {f : List Char → Option α} {text : List Char}
    (h : f (text.dropWhile Py.isSpace) = none) : (Py.spacesRest text).bind f = none := by
  unfold Py.spacesRest
  split_ifs
  · rfl
  · exact h

/-- A keyword and BY, in a text that is followed by such a text. -/
theorem clauseBy_append {after : List Char} (h : Delimits after) {keyword : String}
    (hkeyword : keyword.toList.all Py.isCapital = true) (text : List Char) :
    ((Py.clauseRest keyword (text ++ after)).bind (Py.keywordRest "BY".toList)).isSome =
      ((Py.clauseRest keyword text).bind (Py.keywordRest "BY".toList)).isSome := by
  unfold Py.clauseRest
  rw [Py.keywordRest_append text (h.outside hkeyword)]
  cases Py.keywordRest keyword.toList text with
  | none => rfl
  | some rest =>
    show ((Py.spacesRest (rest ++ after)).bind _).isSome = ((Py.spacesRest rest).bind _).isSome
    by_cases hrest : ∃ c ∈ rest, Py.isSpace c = false
    · rw [spacesRest_append_of_nonblank _ hrest]
      cases Py.spacesRest rest with
      | none => rfl
      | some text =>
        show (Py.keywordRest "BY".toList (text ++ after)).isSome = _
        rw [Py.keywordRest_append text (h.outside (by decide))]
        simp
    · -- the white space goes on, and BY is not behind it
      have hspaces : ∀ c ∈ rest, Py.isSpace c = true := by
        intro c hc
        by_contra hspace
        exact hrest ⟨c, hc, by simpa using hspace⟩
      rw [spacesRest_bind_eq_none, spacesRest_bind_eq_none]
      · rw [List.dropWhile_eq_nil_iff.mpr hspaces]
        rfl
      · rw [List.dropWhile_append_of_pos hspaces]
        exact h.by_

/-- One of the clauses begins. -/
def clauseAhead (text : List Char) : Bool :=
  ((Py.clauseRest "ORDER" text).bind (Py.keywordRest "BY".toList)).isSome ||
  (Py.keywordRest "LIMIT".toList text).isSome ||
  ((Py.clauseRest "GROUP" text).bind (Py.keywordRest "BY".toList)).isSome ||
  (Py.keywordRest "HAVING".toList text).isSome ||
  (Py.keywordRest "RETURNING".toList text).isSome

theorem endsCondition_cons {c : Char} (hc : c ≠ ';') (text : List Char) :
    endsCondition (c :: text) = (Py.spacesRest (c :: text)).any clauseAhead := by
  unfold endsCondition
  split
  · rename_i heq
    cases heq
  · rename_i heq
    exact absurd (List.cons.inj heq).1 hc
  · rfl

theorem clauseAhead_append {after : List Char} (h : Delimits after) (text : List Char) :
    clauseAhead (text ++ after) = clauseAhead text := by
  have hkeyword {keyword : List Char} (hk : keyword.all Py.isCapital = true) :
      (Py.keywordRest keyword (text ++ after)).isSome = (Py.keywordRest keyword text).isSome := by
    rw [Py.keywordRest_append text (h.outside hk), Option.isSome_map]
  unfold clauseAhead
  rw [clauseBy_append h (by decide), clauseBy_append h (by decide), hkeyword (by decide),
    hkeyword (by decide), hkeyword (by decide)]

/-- Whether a condition can end at a place in a text does not depend on what follows the text. -/
theorem endsCondition_append {text after : List Char} (h : Delimits after)
    (hnonblank : ∃ c ∈ text, Py.isSpace c = false) :
    endsCondition (text ++ after) = endsCondition text := by
  cases text with
  | nil => simp at hnonblank
  | cons c text =>
    by_cases hc : c = ';'
    · subst hc
      rfl
    · have happend := spacesRest_append_of_nonblank after hnonblank
      rw [List.cons_append] at happend ⊢
      rw [endsCondition_cons hc, endsCondition_cons hc, happend]
      cases Py.spacesRest (c :: text) with
      | none => rfl
      | some rest => exact clauseAhead_append h rest

/-! ## The extracted condition -/

/-- Behind its first character the condition has no place where it can end. -/
def Uninterrupted (condition : List Char) : Prop :=
  ∀ u v, Py.strip condition = u ++ v → u ≠ [] → v ≠ [] → endsCondition v = false

theorem length_strip_le (text : List Char) : (Py.strip text).length ≤ text.length := by
  obtain ⟨front, back, htext, -, -⟩ := Py.exists_strip text
  have hlength := congrArg List.length htext
  simp only [List.length_append] at hlength
  omega

/-- With a text behind it that ends the condition, the whole condition is taken if and only if it
is not interrupted. -/
theorem strip_conditionRest_iff {a : Char} {rest after : List Char}
    (htrimmed : Py.Trimmed (a :: rest)) (hafter : Delimits after)
    (hends : ∀ c ∈ conditionRest after, Py.isSpace c = true) :
    Py.strip (a :: conditionRest (rest ++ after)) = a :: rest ↔
      ∀ u v, a :: rest = u ++ v → u ≠ [] → v ≠ [] → endsCondition v = false := by
  constructor
  · intro hstrip u v htext hu hv
    by_contra hstop
    obtain ⟨hnil, -⟩ | ⟨u', rfl, rfl⟩ := List.cons_eq_append_iff.mp htext
    · exact hu hnil
    · have hnonblank := Py.Trimmed.exists_of_append (a :: u') htrimmed hv
      rw [← endsCondition_append hafter hnonblank, Bool.not_eq_false] at hstop
      have hlength := (conditionRest_isPrefix u' hstop).length_le
      have hstripped := length_strip_le (a :: conditionRest (u' ++ v ++ after))
      rw [hstrip, List.append_assoc] at hstripped
      simp only [List.length_cons, List.length_append] at hstripped
      have hpos := List.length_pos_iff.mpr hv
      omega
  · intro hplaces
    have hrest : ∀ u v, rest = u ++ v → v ≠ [] → endsCondition (v ++ after) = false := by
      intro u v htext hv
      subst htext
      rw [endsCondition_append hafter
        (Py.Trimmed.exists_of_append (a :: u) htrimmed hv)]
      exact hplaces (a :: u) v rfl (List.cons_ne_nil _ _) hv
    rw [conditionRest_append hrest]
    exact Py.strip_append_of_spaces htrimmed hends

/-! ## What follows the condition -/

/-- White space and a semicolon end the condition. -/
theorem delimits_semicolon {spaces : List Char} (hspaces : ∀ c ∈ spaces, Py.isSpace c = true)
    (rest : List Char) :
    Delimits (spaces ++ ';' :: rest) ∧
      ∀ c ∈ conditionRest (spaces ++ ';' :: rest), Py.isSpace c = true := by
  refine ⟨⟨?_, ?_⟩, ?_⟩
  · intro c hc
    cases spaces with
    | nil => exact .inr (Option.some.inj hc).symm
    | cons d spaces =>
      obtain rfl : d = c := Option.some.inj hc
      exact .inl (hspaces d List.mem_cons_self)
  · rw [List.dropWhile_append_of_pos hspaces]
    rfl
  · intro c hc
    have hends : endsCondition (';' :: rest) = true := rfl
    exact hspaces c ((conditionRest_isPrefix spaces hends).subset hc)

/-- So do white space and RETURNING. -/
theorem delimits_returning {spaces : List Char} (hne : spaces ≠ [])
    (hspaces : ∀ c ∈ spaces, Py.isSpace c = true) (w : Spelling "RETURNING") (rest : List Char) :
    Delimits (spaces ++ (w.text ++ rest)) ∧
      ∀ c ∈ conditionRest (spaces ++ (w.text ++ rest)), Py.isSpace c = true := by
  obtain ⟨first, letters, hw, hfirst⟩ := w.exists_cons rfl
  have hdrop : (spaces ++ (w.text ++ rest)).dropWhile Py.isSpace = w.text ++ rest := by
    rw [List.dropWhile_append_of_pos hspaces]
    refine Py.dropWhile_append_of_trimmed ?_ (w.trimmed (by decide)).front
    rw [hw]
    exact List.cons_ne_nil _ _
  obtain ⟨space, more, rfl⟩ := List.exists_cons_of_ne_nil hne
  have hspace := hspaces space List.mem_cons_self
  refine ⟨⟨?_, ?_⟩, ?_⟩
  · intro c hc
    obtain rfl : space = c := Option.some.inj hc
    exact .inl hspace
  · rw [hdrop, hw]
    rcases hfirst with rfl | rfl <;> rfl
  · -- the clause begins at the first character
    have hsemicolon : space ≠ ';' := by
      rintro rfl
      exact absurd hspace (by decide)
    have hends : endsCondition (space :: more ++ (w.text ++ rest)) = true := by
      rw [List.cons_append, endsCondition_cons hsemicolon, ← List.cons_append,
        Py.spacesRest_append (List.all_eq_true.mpr hspaces) hne,
        Py.dropWhile_append_of_trimmed _ (w.trimmed (by decide)).front]
      · show clauseAhead (w.text ++ rest) = true
        unfold clauseAhead
        rw [w.keywordRest, Option.isSome_some, Bool.or_true]
      · rw [hw]
        exact List.cons_ne_nil _ _
    have hnil := conditionRest_isPrefix [] hends
    rw [List.nil_append, List.prefix_nil] at hnil
    rw [hnil]
    exact fun c hc => absurd hc List.not_mem_nil

end AnalyzerTools
