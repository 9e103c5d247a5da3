import ContraGate.Classifiers
import ContraGate.Library.PySearch
import ContraGate.ReversibilityRules

/-!
# The tools of the analyzer (`agents/analyzer/tools.py`)

The pure functions of the Analyzer Agent: what it reads off the statement, and what it makes of
the replies of the postgres-reader. `none` stands for an exception. An entry that becomes a
`CascadeEntry` or an `ExternalTrigger` is validated; a `TriggerInfo` takes what is there.
-/

/-- What of Python and Pydantic the analyzer depends on. -/
structure AnalyzerConfig where
  /-- The characters beyond ASCII that are letters or digits. -/
  wide : Char → Bool
  /-- The characters beyond ASCII that `repr` leaves as they are. -/
  printable : Char → Bool
  /-- How numbers and containers are written. -/
  texts : Py.ValueText
  /-- How Pydantic reads a text as an `int`. -/
  readInt : String → Option ℤ

/-- A Python for texts in ASCII, which reads no text as a number. -/
def AnalyzerConfig.ascii : AnalyzerConfig where
  wide _ := false
  printable _ := true
  texts := .decimals
  readInt _ := none

namespace AnalyzerTools

variable (cfg : AnalyzerConfig)

/-! ## The statement -/

/-- `classify_operation_type`. -/
def classifyOperationType (rawSql : String) : OperationType :=
  let sql := Py.strip rawSql.toList
  if (Classifiers.keyword? cfg.wide ["DROP", "TRUNCATE", "ALTER", "CREATE"]
      (String.ofList sql)).isSome then .ddl
  else
    let verb := String.ofList (Py.upper (Py.firstWord sql))
    if verb = "DELETE" then .delete
    else if verb = "UPDATE" then .update
    else if verb = "INSERT" then .insert
    else if verb = "SELECT" then .select
    else .unknown

/-- `\s+(?:ORDER\s+BY|LIMIT|GROUP\s+BY|HAVING|RETURNING)`, or `;`, or the end. -/
def endsCondition : List Char → Bool
  | [] => true
  | ';' :: _ => true
  | text =>
    (Py.spacesRest text).any fun rest =>
      ((Py.clauseRest "ORDER" rest).bind (Py.keywordRest "BY".toList)).isSome ||
      (Py.keywordRest "LIMIT".toList rest).isSome ||
      ((Py.clauseRest "GROUP" rest).bind (Py.keywordRest "BY".toList)).isSome ||
      (Py.keywordRest "HAVING".toList rest).isSome ||
      (Py.keywordRest "RETURNING".toList rest).isSome

/-- The text up to the first place where the condition can end. -/
def conditionRest : List Char → List Char
  | [] => []
  | c :: text => if endsCondition (c :: text) then [] else c :: conditionRest text

/-- `\bWHERE\s+(.+?)` with the end of the condition ahead; `.` takes one character at least. -/
def conditionFront (text : List Char) : Option (List Char) := do
  match ← Py.clauseRest "WHERE" text with
  | [] => none
  | c :: rest => some (c :: conditionRest rest)

/-- `_extract_where`, of a stripped text. -/
def extractWhere (sql : List Char) : String :=
  match Py.searchWord cfg.wide conditionFront false sql with
  | some condition => String.ofList (Py.strip condition)
  | none => ""

/-- `\bkeyword\s+(\w+)`. -/
def tableAfter (keyword : String) (sql : List Char) : Option (List Char) :=
  Py.searchWord cfg.wide (fun text => (Py.clauseRest keyword text).bind (Py.wordFront cfg.wide))
    false sql

/-- `\bTABLE\s+(?:IF\s+EXISTS\s+)?(\w+)`. -/
def ddlTable (sql : List Char) : Option (List Char) :=
  Py.searchWord cfg.wide (fun text => do
    let rest ← Py.clauseRest "TABLE" text
    let behind := (Py.clauseRest "IF" rest).bind (Py.clauseRest "EXISTS")
    (behind.bind (Py.wordFront cfg.wide)).or (Py.wordFront cfg.wide rest)) false sql

/-- `parse_sql_intent`. -/
def parseSqlIntent (rawSql : String) : String × String :=
  let sql := Py.strip rawSql.toList
  let first := String.ofList (Py.upper (Py.firstWord sql))
  let found (table : Option (List Char)) (condition : String) : String × String :=
    match table with
    | some name => (String.ofList name, condition)
    | none => ("", "")
  if first ∈ ["DELETE", "SELECT"] then found (tableAfter cfg "FROM" sql) (extractWhere cfg sql)
  else if first = "UPDATE" then found (tableAfter cfg "UPDATE" sql) (extractWhere cfg sql)
  else if first = "INSERT" then found (tableAfter cfg "INTO" sql) ""
  else if first ∈ ["DROP", "TRUNCATE", "ALTER", "CREATE"] then found (ddlTable cfg sql) ""
  else ("", "")

example : parseSqlIntent .ascii
    " delete from users u where id > 3 and x = 1  limit 5" = ("users", "id > 3 and x = 1") := by
  decide

/-! ## The replies of the postgres-reader -/

/-- `result.get(key, [])` in a `for` loop. -/
def entriesOf (result : Py.Json) (key : String) : Option (List Py.Json) := do
  match Py.Dict.getD (← result.dict?) key (.arr []) with
  | .arr items => some items
  | .obj entries => some (entries.map fun entry => .str entry.1)
  | .str text => some (text.toList.map fun c => .str (String.singleton c))
  | _ => none

/-- A field that Pydantic validates as `int`. -/
def intField : Py.Json → Option ℤ
  | .int n => some n
  | .bool b => some (if b then 1 else 0)
  | .float (.finite q) => if q.den = 1 then some q.num else none
  | .str text => cfg.readInt text
  | _ => none

/-- A field of type `str | None`. -/
def optionalText : Py.Json → Option (Option String)
  | .null => some none
  | .str text => some (some text)
  | _ => none

/-- The entry of `levels` as a `CascadeEntry`. -/
def cascadeEntry (entry : Py.Json) : Option CascadeEntry := do
  let lvl ← entry.dict?
  some
    { table := ← (Py.Dict.getD lvl "table_name" (.str "unknown")).str?
      estimatedRows := ← intField cfg (Py.Dict.getD lvl "estimated_rows" (.int 0))
      cascadeAction := ← (Py.Dict.getD lvl "cascade_action" (.str "CASCADE")).str?
      depth := ← intField cfg (Py.Dict.getD lvl "depth" (.int 1)) }

/-- `build_cascade_entries`. -/
def buildCascadeEntries (fkGraphResult : Py.Json) : Option (List CascadeEntry) := do
  (← entriesOf fkGraphResult "levels").mapM (cascadeEntry cfg)

/-- The entry of `triggers` in `event_by_name`. A name that is no text is never looked up. -/
def addEvent (events : Py.Dict) (entry : Py.Json) : Option Py.Dict := do
  let t ← entry.dict?
  match Py.Dict.getD t "trigger_name" (.str "") with
  | .str name => some (Py.Dict.set events name (Py.Dict.getD t "event" (.str "UNKNOWN")))
  | name => name.key?.map fun _ => events

/-- `event_by_name`, for the names that are texts. -/
def eventByName (triggers : List Py.Json) : Option Py.Dict := triggers.foldlM addEvent []

/-- The entry of `non_transactional_triggers` as an `ExternalTrigger`. -/
def externalTrigger (events : Py.Dict) (entry : Py.Json) : Option ExternalTrigger := do
  let t ← entry.dict?
  let name ← (Py.Dict.getD t "trigger_name" (.str "unknown")).str?
  some
    { triggerName := name
      event := ← (Py.Dict.getD events name (.str "UNKNOWN")).str?
      extension := ← ((Py.Dict.get t "non_transactional_extension").or (.str "unknown")).str?
      targetEndpoint := ← optionalText (Py.Dict.get t "target_endpoint") }

/-- `build_external_triggers`. -/
def buildExternalTriggers (listTriggersResult : Py.Json) : Option (List ExternalTrigger) := do
  let events ← eventByName (← entriesOf listTriggersResult "triggers")
  (← entriesOf listTriggersResult "non_transactional_triggers").mapM (externalTrigger events)

/-- `nt_names`. -/
def nonTransactionalNames (entries : List Py.Json) : Option (List Py.Key) :=
  entries.mapM fun entry => do (Py.Dict.getD (← entry.dict?) "trigger_name" (.str "")).key?

/-- `t.get("invokes_non_transactional", False) or name in nt_names`. -/
def invokesNonTransactional (t : Py.Dict) (names : List Py.Key) (name : Py.Json) : Option Bool :=
  if (Py.Dict.getD t "invokes_non_transactional" (.bool false)).truthy then some true
  else name.key?.map names.contains

/-- The entry of `triggers` as a `TriggerInfo`. -/
def triggerInfo (table : String) (names : List Py.Key) (entry : Py.Json) :
    Option TriggerInfo := do
  let t ← entry.dict?
  let name := Py.Dict.getD t "trigger_name" (.str "")
  some
    { triggerName := name
      tableName := Py.Dict.getD t "table_name" (.str table)
      event := Py.Dict.getD t "event" (.str "UNKNOWN")
      timing := Py.Dict.getD t "timing" (.str "AFTER")
      functionName := Py.Dict.getD t "function_name" (.str "")
      invokesNonTransactional := ← invokesNonTransactional t names name
      nonTransactionalExtension := Py.Dict.get t "non_transactional_extension"
      estimatedExternalCalls := none
      targetEndpoint := Py.Dict.get t "target_endpoint" }

/-- `build_trigger_analysis_from_mcp`. -/
def buildTriggerAnalysisFromMcp (table : String) (listTriggersResult : Py.Json) :
    Option TriggerAnalysis := do
  let names ← nonTransactionalNames
    (← entriesOf listTriggersResult "non_transactional_triggers")
  let infos ← (← entriesOf listTriggersResult "triggers").mapM (triggerInfo table names)
  let nonTransactional := infos.filter (·.invokesNonTransactional)
  let flag := Py.Dict.getD (← listTriggersResult.dict?) "has_permanent_side_effects" (.bool false)
  some
    { table
      triggers := infos
      hasPermanentSideEffects := flag.truthy || !nonTransactional.isEmpty
      nonTransactionalTriggers := nonTransactional }

/-- `estimate_api_fanout`; the row count is validated as an `int` once for each trigger. -/
def estimateApiFanout (externalTriggers : List ExternalTrigger) (rowCount : Py.Number) :
    Option (List ExternalTrigger) :=
  externalTriggers.mapM fun t => do some { t with estimatedCalls := some (← rowCount.int?) }

@[simp] theorem estimateApiFanout_int (external : List ExternalTrigger) (rows : ℤ) :
    estimateApiFanout external (.int rows) =
      some (external.map fun t => { t with estimatedCalls := some rows }) := by
  unfold estimateApiFanout
  simp only [Py.Number.int?_int, Option.bind_eq_bind, Option.bind_some]
  exact List.mapM_pure

/-- Every trigger gets the row count. -/
theorem eq_of_estimateApiFanout {external fanout : List ExternalTrigger} {rows : Py.Number}
    (h : estimateApiFanout external rows = some fanout) :
    fanout = external.map fun t => { t with estimatedCalls := rows.int? } := by
  unfold estimateApiFanout at h
  cases hrows : rows.int? with
  | some n =>
    simp only [hrows, Option.bind_eq_bind, Option.bind_some] at h
    exact (Option.some.inj (List.mapM_pure.symm.trans h)).symm
  | none =>
    -- without a whole number there must be no trigger
    cases external with
    | nil => exact (Option.some.inj h).symm
    | cons t rest => simp [hrows] at h

/-- No trigger is dropped. -/
theorem estimateApiFanout_eq_nil_iff {external fanout : List ExternalTrigger} {rows : Py.Number}
    (h : estimateApiFanout external rows = some fanout) : fanout = [] ↔ external = [] := by
  rw [eq_of_estimateApiFanout h, List.map_eq_nil_iff]

/-- `identify_permanent_components`. -/
def identifyPermanentComponents (reversibility : Option ReversibilityClass)
    (operationType : OperationType) (primaryTable : String)
    (externalTriggers : List ExternalTrigger) (cascade : List CascadeEntry) : List String :=
  if reversibility ≠ some .permanent then []
  else
    (if operationType = .ddl then ["DDL schema change"] else []) ++
      externalTriggers.map (fun t => s!"External {t.extension} trigger: {t.triggerName}") ++
      (if primaryTable = "" then [] else [s!"Row deletion from {primaryTable}"]) ++
      cascade.map fun c =>
        s!"Cascade deletion from {c.table} (~" ++ Py.withCommas c.estimatedRows ++ " rows)"

end AnalyzerTools
