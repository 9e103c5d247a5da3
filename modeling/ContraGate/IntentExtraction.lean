import ContraGate.TargetTable

/-!
# Target and condition of a statement

`parse_sql_intent` reads the table and the condition off a DELETE or UPDATE. It takes the table
whole if it has only letters, digits and underscores. For the condition it takes the text behind
the first `WHERE`, up to the first `;` or word that may begin another clause: also where that is in
a literal, in parentheses, or only the beginning of a longer word.
-/

open Sql

/-! ## What is recovered -/

namespace Rendering

open AnalyzerTools

variable {cfg : AnalyzerConfig} {r : Rendering}

/-- The statement's table and condition are returned, up to the white space around them. -/
structure Recovers (cfg : AnalyzerConfig) (r : Rendering) : Prop where
  table : (parseSqlIntent cfg (String.ofList r.text)).1.toList = r.target.table.text
  condition : Py.strip (parseSqlIntent cfg (String.ofList r.text)).2.toList =
    Py.strip r.condition.text

/-- No WHERE with white space behind it begins in the `SET` list. -/
def SetsNoWhere (cfg : AnalyzerConfig) (r : Rendering) : Prop :=
  Py.Unmatched cfg.wide (Py.clauseRest "WHERE") false r.target.setList r.tail

/-- The first WHERE in the `SET` list happens to have the text of the condition behind it, up to
the first place where a condition can end. -/
def SetsCondition (cfg : AnalyzerConfig) (r : Rendering) : Prop :=
  ∃ before rest front stop, r.target.setList = before ++ rest ∧ rest ≠ [] ∧
    Py.Unmatched cfg.wide (Py.clauseRest "WHERE") false before (rest ++ r.tail) ∧
    Py.endsInWord cfg.wide false before = false ∧
    Py.clauseRest "WHERE" (rest ++ r.tail) = some (front ++ stop) ∧ front ≠ [] ∧
    StopsAt front.tail stop ∧ Py.strip front = Py.strip r.condition.text

/-- The first word of the statement. -/
theorem upper_firstWord (r : Rendering) :
    String.ofList (Py.upper (Py.firstWord (Py.strip r.text))) = r.target.verb := by
  rw [Py.firstWord_strip, text, List.append_assoc, List.append_assoc]
  cases r.target with
  | delete keyword g₁ from_ g₂ table g₃ =>
    have hfirst := keyword.firstWord rfl (by decide) r.before g₁ (from_.text ++ (g₂.text ++
      (table.text ++ (g₃.text ++ ([] ++ r.clause)))))
    have hupper := (Py.matchesWord_iff_upper (by decide) (by decide) _).mp keyword.matchesWord
    simp only [Target.front, Target.setList, List.append_assoc]
    rw [hfirst, hupper]
    rfl
  | update keyword g₁ table g₂ set g₃ list g₄ =>
    have hfirst := keyword.firstWord rfl (by decide) r.before g₁ (table.text ++ (g₂.text ++
      (set.text ++ (g₃.text ++ (list.text ++ r.clause)))))
    have hupper := (Py.matchesWord_iff_upper (by decide) (by decide) _).mp keyword.matchesWord
    simp only [Target.front, Target.setList, List.append_assoc]
    rw [hfirst, hupper]
    rfl

theorem parseSqlIntent_text (cfg : AnalyzerConfig) (r : Rendering) :
    parseSqlIntent cfg (String.ofList r.text) =
      match tableAfter cfg r.target.introducer (Py.strip r.text) with
      | some name => (String.ofList name, extractWhere cfg (Py.strip r.text))
      | none => ("", "") := by
  have hverb := r.upper_firstWord
  unfold parseSqlIntent
  rw [String.toList_ofList]
  dsimp only
  rw [hverb]
  cases r.target with
  | delete => rfl
  | update => rfl

theorem conditionFront_eq_none_iff (r : Rendering) (rest : List Char) :
    conditionFront (rest ++ r.tail) = none ↔ Py.clauseRest "WHERE" (rest ++ r.tail) = none := by
  refine ⟨fun h => ?_, conditionFront_of_clauseRest⟩
  by_contra hclause
  obtain ⟨text, htext⟩ := Option.ne_none_iff_exists'.mp hclause
  cases text with
  | cons c text => simp [conditionFront, htext] at h
  | nil =>
    -- only white space would be left, but the statement ends in something else
    obtain ⟨mid, hmid, hspacesRest⟩ := Option.bind_eq_some_iff.mp htext
    obtain ⟨kw, hkw, -⟩ := Py.keywordRest_eq_some hmid
    obtain ⟨spaces, rfl, hspaces, hne, -⟩ := Py.spacesRest_eq_some hspacesRest
    have hself : (rest ++ r.tail).rdropWhile Py.isSpace = rest ++ r.tail := by
      have htail : r.tail.rdropWhile Py.isSpace = r.tail := List.rdropWhile_idempotent _ _
      rw [Py.rdropWhile_append_of_ne_nil (by rw [htail]; exact r.tail_ne_nil), htail]
    rw [hkw, List.append_nil, Py.rdropWhile_append_of_pos (List.all_eq_true.mp hspaces)] at hself
    have hlength := (List.rdropWhile_prefix Py.isSpace (l := kw)).length_le
    rw [hself, List.length_append] at hlength
    have hpos := List.length_pos_iff.mpr hne
    omega

/-- The condition that is found behind its own WHERE. -/
theorem searchWord_tail (cfg : AnalyzerConfig) (r : Rendering) {inWord : Bool}
    (hgap : Py.endsInWord cfg.wide inWord r.target.gap = false) :
    ∃ a rest after, Py.strip r.condition.text = a :: rest ∧ Delimits after ∧
      (∀ c ∈ conditionRest after, Py.isSpace c = true) ∧
      Py.searchWord cfg.wide conditionFront inWord r.tail =
        some (a :: conditionRest (rest ++ after)) := by
  obtain ⟨spaces, after, htail, hspaces, hdelimits, hends⟩ := r.exists_tail
  obtain ⟨a, rest, hcondition⟩ := List.exists_cons_of_ne_nil r.condition.nonblank
  refine ⟨a, rest, after, hcondition, hdelimits, hends, ?_⟩
  have hunmatched : Py.Unmatched cfg.wide conditionFront inWord r.target.gap
      (r.where_.text ++ (r.gap.text ++ (spaces ++ (Py.strip r.condition.text ++ after)))) :=
    Py.unmatched_of_forall fun c hc rest => conditionFront_of_clauseRest
      (clauseRest_of_not_matches rfl c rest (r.target.gap_not_matches c hc))
  have hmatch : conditionFront
      (r.where_.text ++ (r.gap.text ++ (spaces ++ (Py.strip r.condition.text ++ after)))) =
        some (a :: conditionRest (rest ++ after)) := by
    unfold conditionFront
    rw [r.where_.clauseRest, List.dropWhile_append_of_pos hspaces,
      Py.dropWhile_append_of_trimmed r.condition.nonblank
        (Py.strip_trimmed r.condition.text).front, hcondition]
    rfl
  obtain ⟨first, letters, hwhere, -⟩ := r.where_.exists_cons rfl
  rw [htail, Py.searchWord_append hunmatched, hgap]
  rw [hwhere, List.cons_append] at hmatch ⊢
  exact Py.searchWord_of_match hmatch

/-- The condition is searched for from the `SET` list on. -/
theorem extractWhere_eq (hspaces : Py.SpacesApart cfg.wide)
    (hword : ∀ c ∈ r.target.table.text, Py.isWord cfg.wide c = true) :
    extractWhere cfg (Py.strip r.text) =
      ((Py.searchWord cfg.wide conditionFront false (r.target.setList ++ r.tail)).map
        fun found => String.ofList (Py.strip found)).getD "" := by
  obtain ⟨hpassed, hends⟩ :=
    r.target.passed_front hspaces hword (r.target.setList ++ r.tail)
  unfold extractWhere
  rw [r.strip_text, Py.searchWord_append hpassed, hends]
  cases Py.searchWord cfg.wide conditionFront false (r.target.setList ++ r.tail) <;> rfl

theorem strip_extractWhere_iff (hspaces : Py.SpacesApart cfg.wide)
    (hword : ∀ c ∈ r.target.table.text, Py.isWord cfg.wide c = true) :
    Py.strip (extractWhere cfg (Py.strip r.text)).toList = Py.strip r.condition.text ↔
      ∃ found, Py.searchWord cfg.wide conditionFront false (r.target.setList ++ r.tail) =
        some found ∧ Py.strip found = Py.strip r.condition.text := by
  rw [extractWhere_eq hspaces hword]
  cases Py.searchWord cfg.wide conditionFront false (r.target.setList ++ r.tail) with
  | none => exact ⟨fun h => absurd h.symm r.condition.nonblank, fun ⟨_, h, _⟩ => nomatch h⟩
  | some found =>
    show Py.strip (String.ofList (Py.strip found)).toList = _ ↔ _
    rw [String.toList_ofList, Py.strip_strip]
    exact ⟨fun h => ⟨found, rfl, h⟩, fun ⟨_, h, hstrip⟩ => Option.some.inj h ▸ hstrip⟩

theorem setsNoWhere_iff :
    SetsNoWhere cfg r ↔ Py.Unmatched cfg.wide conditionFront false r.target.setList r.tail :=
  Py.unmatched_congr fun rest => (r.conditionFront_eq_none_iff rest).symm

theorem unmatched_before_iff (before rest : List Char) :
    Py.Unmatched cfg.wide conditionFront false before (rest ++ r.tail) ↔
      Py.Unmatched cfg.wide (Py.clauseRest "WHERE") false before (rest ++ r.tail) := by
  refine Py.unmatched_congr fun text => ?_
  rw [← List.append_assoc]
  exact r.conditionFront_eq_none_iff (text ++ rest)

/-- Without a WHERE in the `SET` list it is the statement's own that is found. -/
theorem found_iff_of_setsNoWhere (h : SetsNoWhere cfg r) :
    (∃ found, Py.searchWord cfg.wide conditionFront false (r.target.setList ++ r.tail) =
        some found ∧ Py.strip found = Py.strip r.condition.text) ↔
      Uninterrupted r.condition.text := by
  obtain ⟨a, rest, after, hcondition, hdelimits, hends, hfound⟩ :=
    searchWord_tail cfg r (r.target.endsInWord_gap cfg.wide)
  have htrimmed : Py.Trimmed (a :: rest) := hcondition ▸ Py.strip_trimmed r.condition.text
  rw [Py.searchWord_append (setsNoWhere_iff.mp h), hfound]
  unfold Uninterrupted
  rw [hcondition, ← strip_conditionRest_iff htrimmed hdelimits hends]
  constructor
  · rintro ⟨found, hfound, hstrip⟩
    obtain rfl := Option.some.inj hfound
    exact hstrip
  · exact fun hstrip => ⟨_, rfl, hstrip⟩

/-- Otherwise it is the first one there. -/
theorem searchWord_of_first {before rest : List Char} {c : Char} {result : List Char}
    (hset : r.target.setList = before ++ c :: rest)
    (hbefore : Py.Unmatched cfg.wide conditionFront false before (c :: rest ++ r.tail))
    (hends : Py.endsInWord cfg.wide false before = false)
    (hmatch : conditionFront (c :: rest ++ r.tail) = some result) :
    Py.searchWord cfg.wide conditionFront false (r.target.setList ++ r.tail) = some result := by
  rw [hset, List.append_assoc, Py.searchWord_append hbefore, hends]
  exact Py.searchWord_of_match hmatch

/-- The condition is found if and only if one of the two is the case. -/
theorem found_iff :
    (∃ found, Py.searchWord cfg.wide conditionFront false (r.target.setList ++ r.tail) =
        some found ∧ Py.strip found = Py.strip r.condition.text) ↔
      SetsNoWhere cfg r ∧ Uninterrupted r.condition.text ∨ SetsCondition cfg r := by
  constructor
  · intro hfound
    rcases Py.unmatched_or_first cfg.wide conditionFront false
      r.target.setList r.tail with hnone | ⟨before, c, rest, result, hset, hbefore, hends, hmatch⟩
    · exact .inl ⟨setsNoWhere_iff.mpr hnone,
        (found_iff_of_setsNoWhere (setsNoWhere_iff.mpr hnone)).mp hfound⟩
    · right
      obtain ⟨found, hfound, hstrip⟩ := hfound
      rw [searchWord_of_first hset hbefore hends hmatch] at hfound
      obtain rfl := Option.some.inj hfound
      obtain ⟨a, behind, hclause, rfl⟩ := conditionFront_eq_some.mp hmatch
      obtain ⟨stop, hbehind, hstops⟩ := conditionRest_spec behind
      refine ⟨before, c :: rest, a :: conditionRest behind, stop, hset, List.cons_ne_nil _ _,
        (unmatched_before_iff _ _).mp hbefore, hends, ?_, List.cons_ne_nil _ _, hstops, hstrip⟩
      rw [hclause, List.cons_append, ← hbehind]
  · rintro (⟨hnone, huninterrupted⟩ | ⟨before, rest, front, stop, hset, hne, hbefore, hends,
      hclause, hfront, hstops, hstrip⟩)
    · exact (found_iff_of_setsNoWhere hnone).mpr huninterrupted
    · obtain ⟨c, rest, rfl⟩ := List.exists_cons_of_ne_nil hne
      obtain ⟨a, front, rfl⟩ := List.exists_cons_of_ne_nil hfront
      rw [List.tail_cons] at hstops
      have hmatch := conditionFront_eq_some.mpr ⟨a, front ++ stop, hclause, rfl⟩
      rw [conditionRest_of_stopsAt hstops] at hmatch
      have hunmatched := (unmatched_before_iff _ _).mpr hbefore
      exact ⟨_, searchWord_of_first hset hunmatched hends hmatch, hstrip⟩

/-- Table and condition are recovered if and only if the table has the characters of words alone,
and either no WHERE is in the `SET` list and the condition is not interrupted, or a WHERE in the
`SET` list happens to have the condition's text behind it. -/
theorem recovers_iff (hspaces : Py.SpacesApart cfg.wide) (r : Rendering) :
    Recovers cfg r ↔ (∀ c ∈ r.target.table.text, Py.isWord cfg.wide c = true) ∧
      (SetsNoWhere cfg r ∧ Uninterrupted r.condition.text ∨ SetsCondition cfg r) := by
  constructor
  · intro ⟨htable, hcondition⟩
    rw [parseSqlIntent_text] at htable hcondition
    cases hfound : tableAfter cfg r.target.introducer (Py.strip r.text) with
    | none =>
      rw [hfound] at htable
      exact absurd htable.symm r.target.table.nonempty
    | some name =>
      rw [hfound] at htable hcondition
      obtain rfl : name = r.target.table.text := (String.toList_ofList).symm.trans htable
      have hword := isWord_of_tableAfter hfound
      exact ⟨hword, found_iff.mp ((strip_extractWhere_iff hspaces hword).mp hcondition)⟩
  · rintro ⟨hword, hfound⟩
    have htable := r.target.tableAfter_front hspaces hword (r.target.setList ++ r.tail)
    rw [← r.strip_text] at htable
    constructor
    · rw [parseSqlIntent_text, htable]
      exact String.toList_ofList
    · rw [parseSqlIntent_text, htable]
      exact (strip_extractWhere_iff hspaces hword).mpr (found_iff.mpr hfound)

/-! ## A word that begins like a clause -/

def blank : Blank := ⟨[], fun _ hc => absurd hc List.not_mem_nil⟩

def space : Gap := ⟨⟨[' '], List.forall_mem_singleton.mpr rfl⟩, by decide⟩

def products : TableName := ⟨"products".toList, .inr ⟨by decide, by decide⟩⟩

/-- Two columns are compared; the name of one begins with LIMIT. -/
def overLimit : Condition where
  text := "price > limit_price".toList
  nonblank := by decide
  closed := by decide
  outer := [.word "PRICE", .symbol '>', .word "LIMIT_PRICE"]
  balanced := by decide
  excludes := by decide

/-- The column is compared with a number. -/
def overFive : Condition where
  text := "price > 5".toList
  nonblank := by decide
  closed := by decide
  outer := [.word "PRICE", .symbol '>', .symbol '5']
  balanced := by decide
  excludes := by decide

/-- `delete from products where <condition>;` -/
def deleteWhere (condition : Condition) : Rendering where
  before := blank
  target := .delete ⟨"delete".toList, by decide⟩ space ⟨"from".toList, by decide⟩ space products
    space
  where_ := ⟨"where".toList, by decide⟩
  gap := space
  condition := condition
  ending := .semicolon blank
  after := blank

/-- Nothing in the condition looks like another clause. -/
theorem recovers_overFive : Recovers .ascii (deleteWhere overFive) := by
  have hword : "products".toList.all (Py.isWord AnalyzerConfig.ascii.wide) = true := by decide
  refine (recovers_iff Py.spacesApart_ascii _).mpr ⟨List.all_eq_true.mp hword, .inl ⟨trivial, ?_⟩⟩
  have hends : ∀ v ∈ "price > 5".toList.tails,
      v = [] ∨ v = "price > 5".toList ∨ AnalyzerTools.endsCondition v = false := by decide
  intro u v htext hu hv
  have hstrip : Py.strip overFive.text = "price > 5".toList := by decide
  have hsplit : "price > 5".toList = u ++ v := hstrip.symm.trans htext
  rcases hends v ((List.mem_tails _ _).mpr ⟨u, hsplit.symm⟩) with hnil | hall | hfalse
  · exact absurd hnil hv
  · exact absurd (List.append_left_eq_self.mp (hsplit.symm.trans hall.symm)) hu
  · exact hfalse

/-- The condition is taken to be `price >`. -/
theorem not_recovers :
    ¬ ∀ (cfg : AnalyzerConfig) (r : Rendering), Py.SpacesApart cfg.wide → Recovers cfg r := by
  intro h
  have hcondition := (h .ascii (deleteWhere overLimit) Py.spacesApart_ascii).condition
  revert hcondition
  decide

end Rendering
