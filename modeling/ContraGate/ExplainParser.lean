import ContraGate.Library.PyText
import ContraGate.Library.Scan

/-!
# The EXPLAIN target validator (`sql_analysis_lib/explain_parser.py`)

`_validate_explain_target` removes literals, identifiers and comments with five patterns,
one after the other, and looks for a `;` and at the first word in what is left. Each
pattern is given by what it leaves of a text that it matches at the front. The `repr` of the
statement in the messages is left out.
-/

namespace ExplainParser

/-- `\$(?P<tag>[^$]*)\$.*?\$(?P=tag)\$`, `.` matching line feeds too. -/
def dollarQuoted : Pattern Char where
  rest?
    | '$' :: s =>
      match s.dropWhile (· != '$') with
      | '$' :: rest =>
        (cut ('$' :: (s.takeWhile (· != '$') ++ ['$'])) rest).map (·.2)
      | _ => none
    | _ => none
  rest_length s r h := by
    split at h
    · rename_i s
      split at h
      · rename_i rest hrest
        obtain ⟨r', hr', rfl⟩ := Option.map_eq_some_iff.mp h
        have hcut := cut_length hr'
        have hlen := (List.dropWhile_suffix (· != '$') : _ <:+ s).length_le
        rw [hrest] at hlen
        simp only [List.length_cons] at hlen ⊢
        omega
      · cases h
    · cases h

/-- `/\*.*?\*/`, `.` matching line feeds too. -/
def blockComments : Pattern Char where
  rest?
    | '/' :: '*' :: s => (cut ['*', '/'] s).map (·.2)
    | _ => none
  rest_length s r h := by
    split at h
    · obtain ⟨r', hr', rfl⟩ := Option.map_eq_some_iff.mp h
      have hcut := cut_length hr'
      simp only [List.length_cons]
      omega
    · cases h

/-- `--[^\n]*`. -/
def lineComments : Pattern Char where
  rest?
    | '-' :: '-' :: s => some (s.dropWhile (· != '\n'))
    | _ => none
  rest_length s r h := by
    split at h
    · rename_i s
      obtain rfl := Option.some.inj h
      have hlen := (List.dropWhile_suffix (· != '\n') : _ <:+ s).length_le
      simp only [List.length_cons]
      omega
    · cases h

/-- `(?:[^']|'')*'`, the part of the pattern behind the opening quote. A `''` is tried as one
item first, and as a closing quote if that leads nowhere. -/
def closeSingle : List Char → Option (List Char)
  | [] => none
  | '\'' :: '\'' :: s => (closeSingle s).or (some ('\'' :: s))
  | '\'' :: s => some s
  | _ :: s => closeSingle s

theorem closeSingle_length {s r : List Char} (h : closeSingle s = some r) :
    r.length ≤ s.length := by
  fun_induction closeSingle s generalizing r <;> grind [Option.or_eq_some_iff]

/-- `'(?:[^']|'')*'`. -/
def singleQuoted : Pattern Char where
  rest?
    | '\'' :: s => closeSingle s
    | _ => none
  rest_length s r h := by
    split at h
    · have hlen := closeSingle_length h
      simp only [List.length_cons]
      omega
    · cases h

/-- `(?:[^"\\]|\\.)*"`, the part of the pattern behind the opening quote. A backslash takes
the next character with it, which is no line feed. -/
def closeDouble : List Char → Option (List Char)
  | [] => none
  | '"' :: s => some s
  | '\\' :: c :: s => if c = '\n' then none else closeDouble s
  | '\\' :: [] => none
  | _ :: s => closeDouble s

theorem closeDouble_length {s r : List Char} (h : closeDouble s = some r) :
    r.length ≤ s.length := by
  fun_induction closeDouble s generalizing r <;> grind

/-- `"(?:[^"\\]|\\.)*"`. -/
def doubleQuoted : Pattern Char where
  rest?
    | '"' :: s => closeDouble s
    | _ => none
  rest_length s r h := by
    split at h
    · have hlen := closeDouble_length h
      simp only [List.length_cons]
      omega
    · cases h

/-- `_strip_sql_literals_and_comments`. -/
def stripSqlLiteralsAndComments (sql : List Char) : List Char :=
  let s := dollarQuoted.sub [' '] sql
  let s := blockComments.sub [' '] s
  let s := lineComments.sub [' '] s
  let s := singleQuoted.sub [' '] s
  doubleQuoted.sub [' '] s

/-- `_ALLOWED_STATEMENT_TYPES`. -/
def allowedStatementTypes : List String := ["SELECT", "TABLE", "VALUES", "EXPLAIN", "WITH"]

/-- What `_validate_explain_target` raises. -/
inductive ExplainTargetError
  /-- `must be a single statement` -/
  | multipleStatements
  /-- `is empty` -/
  | empty
  /-- `must be a SELECT statement. Got statement type ..` -/
  | notSelect (first : String)

/-- `_validate_explain_target`. -/
def validateExplainTarget (sql : String) : Except ExplainTargetError Unit :=
  let stripped := stripSqlLiteralsAndComments sql.toList
  if ';' ∈ stripped then .error .multipleStatements
  else
    match Py.firstWord stripped with
    | [] => .error .empty
    | token =>
      let first := String.ofList (Py.upper token)
      if first ∈ allowedStatementTypes then .ok () else .error (.notSelect first)

/-- The `explain_prefix` of `run_explain`. -/
def explainPrefix (analyze : Bool) : String :=
  if analyze then "EXPLAIN (FORMAT JSON, ANALYZE, BUFFERS)" else "EXPLAIN (FORMAT JSON)"

/-- The text that `run_explain` sends, if it gets that far. -/
def explainText (sql : String) (analyze : Bool) : Except ExplainTargetError String := do
  validateExplainTarget sql
  return explainPrefix analyze ++ " " ++ sql

/-- What `run_explain` raises before it parses the plan. -/
inductive RunExplainError
  | target (e : ExplainTargetError)
  /-- The error of `cur.execute`. -/
  | database (message : String)
  /-- `EXPLAIN returned no rows` -/
  | noRows

/-- A connection: `cur.execute` and `cur.fetchone` on a database. -/
structure Connection (Db Row : Type) where
  execute : String → Db → Db × Except String (Option Row)

/-- `run_explain`, up to the parsing of the plan: the database afterwards and the row. -/
def runExplain {Db Row : Type} (conn : Connection Db Row) (sql : String) (analyze : Bool)
    (db : Db) : Db × Except RunExplainError Row :=
  match explainText sql analyze with
  | .error e => (db, .error (.target e))
  | .ok text =>
    match conn.execute text db with
    | (db, .error message) => (db, .error (.database message))
    | (db, .ok none) => (db, .error .noRows)
    | (db, .ok (some raw)) => (db, .ok raw)

/-- The validator returns. -/
def accepts (sql : String) : Bool :=
  match validateExplainTarget sql with
  | .ok () => true
  | .error _ => false

end ExplainParser
