import ContraGate.ExplainJson
import ContraGate.Library.PyCall
import ContraGate.McpServer

/-!
# The postgres-reader server (`mcp_servers/postgres_reader/server.py`)

`run_explain_tool` is registered as `run_explain`. The database is in one state during a
call; the other tools are functions of their arguments.
-/

/-- The errors of `run_explain_tool`. -/
inductive RunExplainToolError
  | call (e : Py.KeywordError)
  /-- `_get_conn` raises. -/
  | connect (message : String)
  /-- `expected string or bytes-like object, got ..` -/
  | notText (typeName : String)
  | run (e : ExplainParser.RunExplainError)
  /-- The row has no column. -/
  | noColumn
  /-- `json.loads` raises. -/
  | notJson
  | parse (e : ExplainParser.ExplainJsonError)

namespace ExplainResult

/-- `int | None` as a JSON value. -/
def optionalJson : Option ℤ → Py.Json
  | some n => .int n
  | none => .null

/-- What `run_explain_tool` makes of the result. -/
def toDict (result : ExplainResult) : Py.Json :=
  .obj
    [("estimated_rows", .int result.estimatedRows),
     ("actual_rows", optionalJson result.actualRows),
     ("total_cost", .float result.totalCost),
     ("startup_cost", .float result.startupCost),
     ("scan_type", result.scanType),
     ("partitions_involved", .int result.partitionsInvolved),
     ("shared_hit_blocks", optionalJson result.sharedHitBlocks),
     ("shared_read_blocks", optionalJson result.sharedReadBlocks),
     ("execution_time_ms", result.executionTimeMs),
     ("planning_time_ms", result.planningTimeMs)]

end ExplainResult

/-- The environment of the server, and its database. -/
structure PostgresReader (Db : Type) extends AuthConfig where
  /-- `_get_conn`. -/
  getConn : Except String (ExplainParser.Connection Db ExplainRow)
  db : Db
  texts : Py.NumberText
  /-- `json.loads`. -/
  loads : String → Option Py.Json
  /-- `str(exc)`. -/
  errorText : RunExplainToolError → String
  getTableSchema : Py.Dict → ToolOutcome
  estimateRowCount : Py.Dict → ToolOutcome
  getFkGraph : Py.Dict → ToolOutcome
  listTriggers : Py.Dict → ToolOutcome
  checkSoftDelete : Py.Dict → ToolOutcome
  getPiiTags : Py.Dict → ToolOutcome

namespace PostgresReader

variable {Db : Type} (reader : PostgresReader Db)

/-- The plan in the column, which may come as a text. -/
def readPlan (column : Py.Json) : Except RunExplainToolError ExplainResult :=
  match column with
  | .str s =>
    match reader.loads s with
    | some value => (ExplainParser.parseExplainJson reader.texts value).mapError .parse
    | none => .error .notJson
  | value => (ExplainParser.parseExplainJson reader.texts value).mapError .parse

/-- `run_explain(sql, conn, analyze)`. -/
def runExplain (conn : ExplainParser.Connection Db ExplainRow) (sql : Py.Json) (analyze : Bool) :
    Except RunExplainToolError ExplainResult :=
  match sql with
  | .str sql =>
    match (ExplainParser.runExplain conn sql analyze reader.db).2 with
    | .error e => .error (.run e)
    | .ok raw =>
      match ExplainParser.planColumn raw with
      | some column => readPlan reader column
      | none => .error .noColumn
  | sql => .error (.notText sql.typeName)

/-- `run_explain_tool(sql, analyze=False)`, called with keyword arguments. -/
def runExplainTool (arguments : Py.Dict) : Except RunExplainToolError ExplainResult :=
  match Py.bindKeywords [("sql", none), ("analyze", some (.bool false))] arguments with
  | .error e => .error (.call e)
  | .ok values =>
    match reader.getConn with
    | .error message => .error (.connect message)
    | .ok conn => runExplain reader conn (values.getD 0 .null) (values.getD 1 .null).truthy

/-- The tool as the server calls it. -/
def runExplainOutcome (arguments : Py.Dict) : ToolOutcome :=
  match runExplainTool reader arguments with
  | .ok result => .returned result.toDict
  | .error e => .raised (reader.errorText e)

/-- The server, with its tools in the order of their registration. -/
def server : McpServer where
  toAuthConfig := reader.toAuthConfig
  serverName := "postgres-reader"
  requireAuth := true
  tools :=
    [("get_table_schema", reader.getTableSchema),
     ("run_explain", reader.runExplainOutcome),
     ("estimate_row_count", reader.estimateRowCount),
     ("get_fk_graph", reader.getFkGraph),
     ("list_triggers", reader.listTriggers),
     ("check_soft_delete", reader.checkSoftDelete),
     ("get_pii_tags", reader.getPiiTags)]

/-- PostgreSQL plans the statement `sql` with total cost `c` and `n` rows. -/
def HasPlan (sql : String) (c : ℚ) (n : ℕ) : Prop :=
  ∃ conn db plan, reader.getConn = .ok conn ∧
    conn.execute ("EXPLAIN (FORMAT JSON) " ++ sql) reader.db =
      (db, .ok (some (.tuple [.arr [.obj [("Plan", .obj plan)]]]))) ∧
    plan.lookup "Total Cost" = some (.float (.finite c)) ∧
    plan.lookup "Plan Rows" = some (.int n)

end PostgresReader
