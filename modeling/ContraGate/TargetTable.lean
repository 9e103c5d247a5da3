import ContraGate.ConditionExtraction

/-!
# The table of a statement

`parse_sql_intent` takes the table whole if it has only letters, digits and underscores. What stands
in front of the condition of a stripped statement is its `front`, with the table, and a `SET` list.
-/

open Sql

namespace Rendering

open AnalyzerTools

/-! ## The stripped statement -/

/-- What follows the `SET` list, or the table, in the stripped statement. -/
def tail (r : Rendering) : List Char := r.clause.rdropWhile Py.isSpace

/-- The condition's white space, the ending and the white space at the end of the statement: what
is left when it is stripped ends the condition. -/
theorem delimits_ending {back : List Char} (hback : ∀ c ∈ back, Py.isSpace c = true)
    (ending : Ending) (blank : Blank) :
    Delimits ((back ++ (ending.text ++ blank.text)).rdropWhile Py.isSpace) ∧
      ∀ c ∈ conditionRest ((back ++ (ending.text ++ blank.text)).rdropWhile Py.isSpace),
        Py.isSpace c = true := by
  have hblank (b : Blank) : ∀ c ∈ b.text, Py.isSpace c = true := List.all_eq_true.mp b.all_isSpace
  have hspaces (b : Blank) : ∀ c ∈ back ++ b.text, Py.isSpace c = true := by
    intro c hc
    rcases List.mem_append.mp hc with hc | hc
    · exact hback c hc
    · exact hblank b c hc
  cases ending with
  | nothing =>
    have hnil : (back ++ ([] ++ blank.text)).rdropWhile Py.isSpace = [] :=
      List.rdropWhile_eq_nil_iff.mpr (hspaces blank)
    simp only [Ending.text, hnil]
    exact ⟨⟨nofun, rfl⟩, fun c hc => absurd hc List.not_mem_nil⟩
  | semicolon b =>
    have hkept : (back ++ ((b.text ++ [';']) ++ blank.text)).rdropWhile Py.isSpace =
        (back ++ b.text) ++ ';' :: [] := by
      rw [← List.append_assoc, Py.rdropWhile_append_of_pos (hblank blank), ← List.append_assoc,
        List.rdropWhile_concat_neg _ _ _ (by decide)]
    simp only [Ending.text, hkept]
    exact delimits_semicolon (hspaces b) []
  | returning g₁ w g₂ list =>
    have hw : (back ++ g₁.text ++ w.text).rdropWhile Py.isSpace = back ++ g₁.text ++ w.text := by
      obtain ⟨first, letters, hfirst, -⟩ := w.exists_cons rfl
      have hback := (w.trimmed (by decide)).back
      rw [Py.rdropWhile_append_of_ne_nil, hback]
      rw [hback, hfirst]
      exact List.cons_ne_nil _ _
    have hkept : (back ++ ((g₁.text ++ w.text ++ g₂.text ++ list) ++ blank.text)).rdropWhile
        Py.isSpace = (back ++ g₁.text) ++
          (w.text ++ (g₂.text ++ list ++ blank.text).rdropWhile Py.isSpace) := by
      rw [← List.append_assoc (back ++ g₁.text), ← Py.rdropWhile_append_of_self _ hw]
      simp only [List.append_assoc]
    simp only [Ending.text, hkept]
    exact delimits_returning (List.append_ne_nil_of_right_ne_nil _ g₁.nonempty)
      (hspaces g₁.toBlank) w _

theorem exists_tail (r : Rendering) :
    ∃ spaces after, r.tail = r.target.gap ++ (r.where_.text ++ (r.gap.text ++
        (spaces ++ (Py.strip r.condition.text ++ after)))) ∧
      (∀ c ∈ spaces, Py.isSpace c = true) ∧ Delimits after ∧
      ∀ c ∈ conditionRest after, Py.isSpace c = true := by
  obtain ⟨spaces, back, hcondition, hspaces, hback⟩ := Py.exists_strip r.condition.text
  obtain ⟨hdelimits, hends⟩ := delimits_ending hback r.ending r.after
  refine ⟨spaces, _, ?_, hspaces, hdelimits, hends⟩
  have hclause : r.clause = (r.target.gap ++ (r.where_.text ++ (r.gap.text ++ spaces))) ++
      (Py.strip r.condition.text ++ (back ++ (r.ending.text ++ r.after.text))) := by
    conv_lhs => rw [clause, hcondition]
    simp only [List.append_assoc]
  have hkept := Py.rdropWhile_append_of_self (back ++ (r.ending.text ++ r.after.text))
    (Py.strip_trimmed r.condition.text).back
  rw [tail, hclause, Py.rdropWhile_append_of_ne_nil, hkept]
  · simp only [List.append_assoc]
  · rw [hkept]
    exact List.append_ne_nil_of_left_ne_nil r.condition.nonblank _

theorem tail_ne_nil (r : Rendering) : r.tail ≠ [] := by
  obtain ⟨spaces, after, htail, -, -, -⟩ := r.exists_tail
  have hcondition := r.condition.nonblank
  rw [htail]
  simp [hcondition]

theorem strip_text (r : Rendering) :
    Py.strip r.text = r.target.front ++ (r.target.setList ++ r.tail) := by
  obtain ⟨c, rest, hfront, hc⟩ := r.target.exists_cons
  have hdrop : (r.target.front ++ (r.target.setList ++ r.clause)).dropWhile Py.isSpace =
      r.target.front ++ (r.target.setList ++ r.clause) := by
    rw [hfront, List.cons_append, List.dropWhile_cons, hc]
    rfl
  unfold Py.strip text
  rw [List.append_assoc, List.append_assoc,
    List.dropWhile_append_of_pos (List.all_eq_true.mp r.before.all_isSpace), hdrop,
    ← List.append_assoc, Py.rdropWhile_append_of_ne_nil r.tail_ne_nil, List.append_assoc]
  rfl

end Rendering

/-! ## The table -/

namespace AnalyzerTools

variable {cfg : AnalyzerConfig}

/-- A table has no characters but those of words. -/
theorem isWord_of_tableAfter {keyword : String} {sql name : List Char}
    (h : tableAfter cfg keyword sql = some name) : ∀ c ∈ name, Py.isWord cfg.wide c = true := by
  obtain ⟨rest, -, hmatch⟩ := Py.exists_of_searchWord h
  obtain ⟨text, -, hname⟩ := Option.bind_eq_some_iff.mp hmatch
  unfold Py.wordFront at hname
  split_ifs at hname
  obtain rfl := Option.some.inj hname
  exact fun c hc => List.mem_takeWhile_imp hc

/-- A table of such characters is found behind its keyword. -/
theorem tableAfter_append (hspaces : Py.SpacesApart cfg.wide) {keyword : String} {k : Char}
    {letters before table : List Char} (hkeyword : keyword.toList = k :: letters)
    (hbefore : Py.Passed cfg.wide
      (fun text => (Py.clauseRest keyword text).bind (Py.wordFront cfg.wide)) before)
    (w : Spelling keyword) (g : Gap) (hne : table ≠ [])
    (hword : ∀ c ∈ table, Py.isWord cfg.wide c = true) (g' : Gap) (rest : List Char) :
    tableAfter cfg keyword (before ++ (w.text ++ (g.text ++ (table ++ (g'.text ++ rest))))) =
      some table := by
  have hspace : ∀ c ∈ table, Py.isSpace c = false := by
    intro c hc
    by_contra hspace
    have hnot := hspaces c (by simpa using hspace)
    rw [hword c hc] at hnot
    cases hnot
  have hmatch : (Py.clauseRest keyword (w.text ++ (g.text ++ (table ++ (g'.text ++ rest))))).bind
      (Py.wordFront cfg.wide) = some table := by
    obtain ⟨c, more, hg', hc⟩ := g'.exists_cons
    have hfront : (table ++ (g'.text ++ rest)).takeWhile (Py.isWord cfg.wide) = table := by
      rw [List.takeWhile_append_of_pos hword, hg', List.cons_append, List.takeWhile_cons,
        (isSpace_python cfg.wide hc).2]
      exact List.append_nil _
    rw [w.clauseRest, Py.dropWhile_append_of_trimmed hne (Py.trimmed_of_forall hspace).front]
    show Py.wordFront cfg.wide (table ++ (g'.text ++ rest)) = some table
    unfold Py.wordFront
    rw [hfront, if_neg (by simpa using hne)]
  obtain ⟨first, more, hw, -⟩ := w.exists_cons hkeyword
  obtain ⟨hpassed, hends⟩ := hbefore (w.text ++ (g.text ++ (table ++ (g'.text ++ rest))))
  unfold tableAfter
  rw [Py.searchWord_append hpassed, hends]
  rw [hw, List.cons_append] at hmatch ⊢
  exact Py.searchWord_of_match hmatch

/-! ## In front of the condition -/

theorem clauseRest_of_not_matches {keyword : String} {k : Char} {letters : List Char}
    (hkeyword : keyword.toList = k :: letters) (c : Char) (rest : List Char)
    (h : Py.matchesLetter k c = false) : Py.clauseRest keyword (c :: rest) = none := by
  unfold Py.clauseRest
  rw [hkeyword, Py.keywordRest, h]
  rfl

theorem conditionFront_of_clauseRest {text : List Char}
    (h : Py.clauseRest "WHERE" text = none) : conditionFront text = none := by
  unfold conditionFront
  rw [h]
  rfl

theorem conditionFront_eq_some {text found : List Char} :
    conditionFront text = some found ↔
      ∃ a rest, Py.clauseRest "WHERE" text = some (a :: rest) ∧
        a :: conditionRest rest = found := by
  unfold conditionFront
  cases Py.clauseRest "WHERE" text with
  | none => simp
  | some behind => cases behind <;> simp

/-- The table is not taken for the keyword. -/
theorem passed_table (hspaces : Py.SpacesApart cfg.wide) (t : TableName)
    (hword : ∀ c ∈ t.text, Py.isWord cfg.wide c = true) (g : Gap) :
    Py.Passed cfg.wide conditionFront (t.text ++ g.text) := by
  intro after
  have hcapital : "WHERE".toList.all Py.isCapital = true := by decide
  have hnone : Py.clauseRest "WHERE" (t.text ++ (g.text ++ after)) = none := by
    have houtside : ∀ c ∈ (g.text ++ after).head?, Py.Outside "WHERE".toList c := by
      intro c hc k hk
      obtain ⟨d, rest, hg, -⟩ := g.exists_cons
      rw [hg] at hc
      obtain rfl : d = c := Option.some.inj hc
      exact g.not_matches (List.all_eq_true.mp hcapital k hk) d (hg ▸ List.mem_cons_self)
    unfold Py.clauseRest
    rw [Py.keywordRest_append t.text houtside]
    cases hrest : Py.keywordRest "WHERE".toList t.text with
    | none => rfl
    | some rest =>
      obtain ⟨kw, htext, hkw⟩ := Py.keywordRest_eq_some hrest
      cases rest with
      | nil =>
        rw [List.append_nil] at htext
        have hupper := toUpper_of_matchesWord (by decide) hkw
        have hreserved := t.not_reserved hword
        rw [htext, hupper] at hreserved
        exact absurd (by decide) hreserved
      | cons d rest =>
        have hd : Py.isSpace d = false := by
          by_contra hspace
          have hnot := hspaces d (by simpa using hspace)
          rw [hword d (htext ▸ by simp)] at hnot
          cases hnot
        simp [Py.spacesRest, hd]
  obtain ⟨c, rest, htext⟩ := List.exists_cons_of_ne_nil t.nonempty
  rw [Py.unmatched_append, Py.endsInWord_append]
  refine ⟨⟨?_, Py.unmatched_of_forall fun d hd rest => ?_⟩, g.endsInWord cfg.wide _⟩
  · rw [htext] at hnone hword ⊢
    obtain ⟨hc, hrest⟩ := List.forall_mem_cons.mp hword
    refine ⟨.inr (conditionFront_of_clauseRest hnone), ?_⟩
    rw [hc]
    exact Py.unmatched_of_isWord hrest
  · exact conditionFront_of_clauseRest
      (clauseRest_of_not_matches rfl d rest (g.not_matches (by decide) d hd))

end AnalyzerTools

namespace Target

open AnalyzerTools

variable {cfg : AnalyzerConfig}

/-- The first keyword. -/
def verb : Target → String
  | delete .. => "DELETE"
  | update .. => "UPDATE"

/-- The keyword in front of the table. -/
def introducer : Target → String
  | delete .. => "FROM"
  | update .. => "UPDATE"

theorem tableAfter_front (hspaces : Py.SpacesApart cfg.wide) (t : Target)
    (hword : ∀ c ∈ t.table.text, Py.isWord cfg.wide c = true) (rest : List Char) :
    tableAfter cfg t.introducer (t.front ++ rest) = some t.table.text := by
  cases t with
  | delete keyword g₁ from_ g₂ table g₃ =>
    have hpassed : Py.Passed cfg.wide
        (fun text => (Py.clauseRest "FROM" text).bind (Py.wordFront cfg.wide))
        (keyword.text ++ g₁.text) := by
      have hpattern (c : Char) (rest : List Char) (hc : Py.matchesLetter 'F' c = false) :
          (Py.clauseRest "FROM" (c :: rest)).bind (Py.wordFront cfg.wide) = none := by
        rw [clauseRest_of_not_matches rfl c rest hc]
        rfl
      exact Spelling.passed hpattern (by decide) (by decide) keyword g₁
    have hfound := tableAfter_append hspaces rfl hpassed from_ g₂ table.nonempty hword g₃ rest
    simpa only [front, introducer, Target.table, List.append_assoc] using hfound
  | update keyword g₁ table g₂ set g₃ list g₄ =>
    have hfound := tableAfter_append hspaces rfl
      (fun after => ⟨trivial, rfl⟩ : Py.Passed cfg.wide
        (fun text => (Py.clauseRest "UPDATE" text).bind (Py.wordFront cfg.wide)) [])
      keyword g₁ table.nonempty hword g₂ (set.text ++ (g₃.text ++ rest))
    simpa only [front, introducer, Target.table, List.append_assoc, List.nil_append] using hfound

theorem passed_keyword {keyword : String}
    (hkeyword : lacksLetter 'W' keyword = true) (w : Spelling keyword) (g : Gap) :
    Py.Passed cfg.wide conditionFront (w.text ++ g.text) :=
  Spelling.passed (fun c rest hc =>
    conditionFront_of_clauseRest (clauseRest_of_not_matches rfl c rest hc)) (by decide) hkeyword w g

/-- No condition is found in front of the `SET` list. -/
theorem passed_front (hspaces : Py.SpacesApart cfg.wide) (t : Target)
    (hword : ∀ c ∈ t.table.text, Py.isWord cfg.wide c = true) :
    Py.Passed cfg.wide conditionFront t.front := by
  cases t with
  | delete keyword g₁ from_ g₂ table g₃ =>
    have hpassed := ((passed_keyword (by decide) keyword g₁).append
      (passed_keyword (by decide) from_ g₂)).append (passed_table hspaces table hword g₃)
    simpa only [front, List.append_assoc] using hpassed
  | update keyword g₁ table g₂ set g₃ list g₄ =>
    have hpassed := ((passed_keyword (by decide) keyword g₁).append
      (passed_table hspaces table hword g₂)).append (passed_keyword (by decide) set g₃)
    simpa only [front, List.append_assoc] using hpassed

theorem gap_not_matches (t : Target) : ∀ c ∈ t.gap, Py.matchesLetter 'W' c = false := by
  cases t with
  | delete => exact fun c hc => absurd hc List.not_mem_nil
  | update _ _ _ _ _ _ _ g₄ => exact g₄.not_matches (by decide)

theorem endsInWord_gap (t : Target) (wide : Char → Bool) :
    Py.endsInWord wide (Py.endsInWord wide false t.setList) t.gap = false := by
  cases t with
  | delete => rfl
  | update _ _ _ _ _ _ _ g₄ => exact g₄.endsInWord wide _

end Target
