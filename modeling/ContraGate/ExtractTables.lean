import ContraGate.Library.PyText
import ContraGate.Library.Scan

/-!
# The tables that RISK_GATE reports (`orchestrator/states/risk_gate.py`)

`_extract_tables` looks for a word behind each of six keywords, in the text in upper case.
The patterns have no word boundary in front of the keyword.
-/

namespace RiskGate

variable (letters : Py.CaseMap) (wide : Char → Bool)

/-- `keyword\s+(\w+)`. A character is not both white space and in a word, so the match takes
all the white space. -/
def wordAfter (keyword : List Char) : Capture Char (List Char) where
  match? s :=
    if keyword.isPrefixOf s then
      let behind := s.drop keyword.length
      let name := (behind.dropWhile Py.isSpace).takeWhile (Py.isWord wide)
      if (behind.takeWhile Py.isSpace).isEmpty || name.isEmpty then none
      else some (name, (behind.dropWhile Py.isSpace).dropWhile (Py.isWord wide))
    else none
  match_length s b r h := by
    dsimp only at h
    split at h
    · split at h
      · cases h
      · rename_i hnot
        rw [Option.some.injEq, Prod.mk.injEq] at h
        obtain ⟨-, rfl⟩ := h
        -- a match is longer than nothing: it has white space in it
        have hspaces : (s.drop keyword.length).takeWhile Py.isSpace ≠ [] := by
          intro hempty
          rw [hempty] at hnot
          exact hnot rfl
        have hsplit := congrArg List.length
          (List.takeWhile_append_dropWhile (p := Py.isSpace) (l := s.drop keyword.length))
        rw [List.length_append, List.length_drop] at hsplit
        have hpos := List.length_pos_of_ne_nil hspaces
        have hle := (List.dropWhile_suffix (Py.isWord wide) :
          _ <:+ (s.drop keyword.length).dropWhile Py.isSpace).length_le
        omega
    · cases h

/-- The keywords of the six patterns, in their order. -/
def tableKeywords : List String := ["FROM", "JOIN", "INTO", "UPDATE", "TABLE", "TRUNCATE"]

/-- The words that are no table. -/
def stopWords : List String := ["where", "set", "on", "select", "values"]

/-- The names that one pattern contributes. -/
def namesAfter (raw : List Char) (keyword : String) : List String :=
  (((wordAfter wide keyword.toList).findAll raw).map fun name =>
    String.ofList (letters.lower name)).filter fun name => !stopWords.contains name

/-- `_extract_tables`. -/
def extractTables (rawSql : String) : List String :=
  let raw := rawSql.toList.flatMap letters.upper
  (tableKeywords.flatMap (namesAfter letters wide raw)).eraseDups

end RiskGate
