import ContraGate.ContractAgent
import ContraGate.Library.KeywordForms
import ContraGate.Library.SqlFragments

/-!
# SQL in the prose of the LLM

`_validate_and_sanitize_prose` searches the upper case of the prose for fixed texts: pairs of
keywords with one space between, and `UPDATE SET`. A statement can be written with other white
space, and an `UPDATE` has its table between the two words.
-/

deriving instance DecidableEq for ContractProse

def ContractProse.fields (prose : ContractProse) : List String :=
  [prose.operationSummary, prose.databaseChangesExplanation, prose.externalEffectsExplanation,
   prose.historicalSummary]

namespace ContractAgent

open Py (keyword gap Contains)

/-! ## What must not be in the prose -/

/-- The statements that begin with two keywords. -/
def sqlPairs : List (String × String) :=
  [("DELETE", "FROM"), ("INSERT", "INTO"), ("DROP", "TABLE"), ("ALTER", "TABLE"),
   ("CREATE", "TABLE")]

def pairForms : Language Char := {s | ∃ p ∈ sqlPairs, s ∈ keyword p.1 * gap * keyword p.2}

/-- A quoted or an unquoted identifier. -/
def identifier : Language Char := {s | ∃ name : Sql.Identifier [], name.text = s}

def updateForms : Language Char := keyword "UPDATE" * gap * identifier * gap * keyword "SET"

/-- The beginnings of statements, in any case and with any white space. -/
def sqlForms : Language Char := pairForms + updateForms + keyword "TRUNCATE"

/-- Two keywords with something else between than one space, or with a dotted `İ`, which is no
letter of the pattern in upper case. -/
def unseenPairs : Language Char :=
  {s | ∃ p ∈ sqlPairs, ∃ first ∈ keyword p.1, ∃ between ∈ gap, ∃ second ∈ keyword p.2,
    first ++ between ++ second = s ∧ (between ≠ [' '] ∨ 'İ' ∈ s)}

/-- `required_fields`. -/
def requiredFields : List String :=
  ["operation_summary", "database_changes_explanation", "external_effects_explanation",
   "historical_summary"]

/-- What is returned for a field: its text without the white space around, up to 600
characters. -/
def returnedText (llmOutput : Py.Dict) (field : String) : List Char :=
  match Py.Dict.get llmOutput field with
  | .str value => (Py.strip value.toList).take 600
  | _ => []

/-! ## What the filter finds -/

variable {llmOutput : Py.Dict} {prose : ContractProse} {field : String} {value : List Char}

theorem get_of_proseField (h : proseField llmOutput field = some value) :
    ∃ text, Py.Dict.get llmOutput field = .str text ∧ value = text.toList := by
  unfold proseField at h
  split at h
  next text hget =>
    split_ifs at h
    exact ⟨text, hget, (Option.some.inj h).symm⟩
  next => cases h

theorem returnedText_of_proseField (h : proseField llmOutput field = some value) :
    returnedText llmOutput field = (Py.strip value).take 600 := by
  obtain ⟨text, hget, rfl⟩ := get_of_proseField h
  unfold returnedText
  rw [hget]

theorem returnedText_isInfix (h : proseField llmOutput field = some value) :
    returnedText llmOutput field <:+: value := by
  obtain ⟨front, back, hvalue, -, -⟩ := Py.exists_strip value
  have hstrip : Py.strip value <:+: value := ⟨front, back, by
    rw [List.append_assoc]
    exact hvalue.symm⟩
  rw [returnedText_of_proseField h]
  exact (List.take_prefix 600 _).isInfix.trans hstrip

/-- A result has the texts of the required fields, and no pattern is in their upper case. -/
theorem accepted_spec (h : validateAndSanitizeProse llmOutput = some prose) :
    prose.fields = requiredFields.map (fun field => String.ofList (returnedText llmOutput field)) ∧
      ∀ field ∈ requiredFields, ∀ pattern ∈ sqlPatterns,
        ¬ pattern.toList <:+: Py.upper (returnedText llmOutput field) := by
  obtain ⟨summary, hsummary, h⟩ := Option.bind_eq_some_iff.mp h
  obtain ⟨changes, hchanges, h⟩ := Option.bind_eq_some_iff.mp h
  obtain ⟨effects, heffects, h⟩ := Option.bind_eq_some_iff.mp h
  obtain ⟨history, hhistory, h⟩ := Option.bind_eq_some_iff.mp h
  dsimp only at h
  split_ifs at h with hfound
  obtain rfl := Option.some.inj h
  rw [Bool.not_eq_true, List.any_eq_false] at hfound
  refine ⟨?_, ?_⟩
  · simp only [ContractProse.fields, requiredFields, List.map_cons, List.map_nil, sanitize,
      returnedText_of_proseField hsummary, returnedText_of_proseField hchanges,
      returnedText_of_proseField heffects, returnedText_of_proseField hhistory]
  -- what is in the upper case of a part of a field is in the joined texts
  · have hpart : ∀ {field value}, proseField llmOutput field = some value →
        value ∈ [summary, changes, effects, history] → ∀ pattern ∈ sqlPatterns,
        ¬ pattern.toList <:+: Py.upper (returnedText llmOutput field) := by
      intro field value hvalue hmem pattern hpattern hinfix
      refine hfound pattern (List.mem_append_left _ hpattern) (cut_isSome_iff.mpr ?_)
      exact hinfix.trans ((Py.upper_isInfix (returnedText_isInfix hvalue)).trans
        (Py.infix_intercalate (List.mem_map_of_mem hmem)))
    intro field hfield
    simp only [requiredFields, List.mem_cons, List.not_mem_nil, or_false] at hfield
    rcases hfield with rfl | rfl | rfl | rfl
    · exact hpart hsummary (by simp)
    · exact hpart hchanges (by simp)
    · exact hpart heffects (by simp)
    · exact hpart hhistory (by simp)

/-- The keywords of the pairs, and the patterns that the pairs make. -/
theorem sqlPairs_spec : ∀ p ∈ sqlPairs, Py.isKeyword p.1.toList = true ∧
    Py.isKeyword p.2.toList = true ∧
    String.ofList (p.1.toList ++ [' '] ++ p.2.toList) ∈ sqlPatterns := by
  decide

/-- A pair of keywords is unseen, or its upper case is a pattern. -/
theorem unseen_or_pattern {s : List Char} (h : s ∈ pairForms) :
    s ∈ unseenPairs ∨ ∃ pattern ∈ sqlPatterns, Py.upper s = pattern.toList := by
  obtain ⟨p, hp, hform⟩ := h
  obtain ⟨front, hfront, second, hsecond, rfl⟩ := Language.mem_mul.mp hform
  obtain ⟨first, hfirst, between, hbetween, rfl⟩ := Language.mem_mul.mp hfront
  by_cases hunseen : between ≠ [' '] ∨ 'İ' ∈ first ++ between ++ second
  · exact .inl ⟨p, hp, first, hfirst, between, hbetween, second, hsecond, rfl, hunseen⟩
  · rw [not_or, not_not] at hunseen
    obtain ⟨rfl, hdotted⟩ := hunseen
    simp only [List.mem_append, not_or] at hdotted
    obtain ⟨hword, hword', hpattern⟩ := sqlPairs_spec p hp
    refine .inr ⟨_, hpattern, ?_⟩
    rw [Py.upper_append, Py.upper_append, Py.upper_of_matchesWord hword hdotted.1.1 hfirst,
      Py.upper_of_matchesWord hword' hdotted.2 hsecond, String.toList_ofList]
    rfl

theorem pairForms_of_unseen {s : List Char} (h : s ∈ unseenPairs) : s ∈ pairForms := by
  obtain ⟨p, hp, first, hfirst, between, hbetween, second, hsecond, rfl, -⟩ := h
  exact ⟨p, hp, Language.append_mem_mul (Language.append_mem_mul hfirst hbetween) hsecond⟩

/-- **Which prose has SQL.** No field of a result contains the beginning of a statement exactly
when no required field contains an `UPDATE` with its table, or two keywords that the patterns do
not see. -/
theorem accepted_clean_iff (h : validateAndSanitizeProse llmOutput = some prose) :
    (∀ text ∈ prose.fields, ¬ Contains sqlForms text.toList) ↔
      ∀ field ∈ requiredFields,
        ¬ Contains (unseenPairs + updateForms) (returnedText llmOutput field) := by
  obtain ⟨hfields, hpatterns⟩ := accepted_spec h
  rw [hfields, List.forall_mem_map]
  refine forall₂_congr fun field hfield => not_congr ?_
  rw [String.toList_ofList]
  have hnone := hpatterns field hfield
  simp only [sqlForms, Py.contains_add]
  constructor
  · rintro ((⟨s, hs, hinfix⟩ | hupdate) | ⟨s, hs, hinfix⟩)
    · rcases unseen_or_pattern hs with hunseen | ⟨pattern, hpattern, hupper⟩
      · exact .inl ⟨s, hunseen, hinfix⟩
      · exact absurd (hupper ▸ Py.upper_isInfix hinfix) (hnone pattern hpattern)
    · exact .inr hupdate
    -- every spelling of TRUNCATE is seen
    · have hupper : Py.upper s = "TRUNCATE".toList :=
        (Py.matchesWord_iff_upper (by decide) (by decide) s).mp hs
      exact absurd (hupper ▸ Py.upper_isInfix hinfix) (hnone "TRUNCATE" (by decide))
  · rintro (hunseen | hupdate)
    · exact .inl (.inl (hunseen.mono fun s hs => pairForms_of_unseen hs))
    · exact .inl (.inr hupdate)

/-- An output with one text in all fields. -/
def sameProse (text : String) : Py.Dict := requiredFields.map fun field => (field, .str text)

def allFields (text : String) : ContractProse := ⟨text, text, text, text⟩

/-- Prose about an update and what to delete is no statement. -/
theorem accepted_clean_description :
    ¬ ∃ text ∈ (allFields "An update of 5 rows; delete them to undo it.").fields,
      Contains sqlForms text.toList := by
  have haccepted :
      validateAndSanitizeProse (sameProse "An update of 5 rows; delete them to undo it.") =
        some (allFields "An update of 5 rows; delete them to undo it.") := by decide +kernel
  rintro ⟨text, hmem, hsql⟩
  refine (accepted_clean_iff haccepted).mpr (fun field hfield hcontains => ?_) text hmem hsql
  have htext : ∀ field ∈ requiredFields,
      returnedText (sameProse "An update of 5 rows; delete them to undo it.") field =
        "An update of 5 rows; delete them to undo it.".toList := by decide
  -- the second words of the forms are missing
  have hwords : ∀ word ∈ "SET" :: sqlPairs.map Prod.snd,
      ("An update of 5 rows; delete them to undo it.".toList.tails.any fun rest =>
        Py.matchesWord word.toList (rest.take word.toList.length)) = false := by decide
  have hnone : ∀ word ∈ "SET" :: sqlPairs.map Prod.snd,
      ¬ Contains (keyword word) "An update of 5 rows; delete them to undo it.".toList := by
    intro word hword hcontains
    have hfound := hcontains.exists_tail
    rw [hwords word hword] at hfound
    cases hfound
  rw [htext field hfield, Py.contains_add] at hcontains
  rcases hcontains with hunseen | hupdate
  · obtain ⟨s, hs, hinfix⟩ := hunseen
    obtain ⟨p, hp, hform⟩ := pairForms_of_unseen hs
    exact hnone p.2 (List.mem_cons_of_mem _ (List.mem_map_of_mem hp))
      (Contains.of_mul ⟨s, hform, hinfix⟩)
  · exact hnone "SET" List.mem_cons_self hupdate.of_mul

/-- An ordinary `UPDATE` is accepted. -/
theorem prose_with_update :
    validateAndSanitizeProse (sameProse "UPDATE users SET role = 'admin'") =
        some (allFields "UPDATE users SET role = 'admin'") ∧
      ∃ text ∈ (allFields "UPDATE users SET role = 'admin'").fields,
        Contains sqlForms text.toList := by
  have hform : "UPDATE users SET".toList ∈ updateForms := by
    have hspace : [' '] ∈ gap :=
      ⟨List.cons_ne_nil _ _, List.forall_mem_singleton.mpr (by decide)⟩
    have hname : "users".toList ∈ identifier :=
      ⟨⟨"users".toList, .inr ⟨by decide, List.not_mem_nil⟩⟩, rfl⟩
    have hupdate : "UPDATE".toList ∈ keyword "UPDATE" := by
      show Py.matchesWord _ _ = true
      decide
    have hset : "SET".toList ∈ keyword "SET" := by
      show Py.matchesWord _ _ = true
      decide
    exact Language.append_mem_mul (Language.append_mem_mul (Language.append_mem_mul
      (Language.append_mem_mul hupdate hspace) hname) hspace) hset
  exact ⟨by decide +kernel, _, List.mem_cons_self, "UPDATE users SET".toList, .inl (.inr hform),
    [], " role = 'admin'".toList, by decide⟩

end ContractAgent
