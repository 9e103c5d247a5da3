import ContraGate.Analyzer
import ContraGate.CascadeTracer
import ContraGate.PostgresReader
import ContraGate.TriggerDetector

/-!
# The tools that the analyzer calls (`mcp_servers/postgres_reader/server.py`)

`estimate_row_count`, `get_fk_graph`, `list_triggers` and `check_soft_delete`, over a database
that does not change while an operation is analyzed. A healthy server runs the tool and its result
reaches the caller; a value that the server cannot encode is an error there.

An argument of another type than its parameter makes the tool raise.
-/

/-- The database, as far as the four tools ask it. -/
structure ReaderDatabase extends TableStatistics, TriggerCatalog where
  /-- The rows of the query of `_get_cascade_children`. -/
  cascadeChildren : String → List CascadeChild
  /-- The row of the query of `_get_reltuples`, if there is one. -/
  reltuples : String → Option ℤ
  /-- The row of the query of `check_soft_delete`, if there is one. -/
  softDeleteColumn : String → Option String

/-- The database as the cascade tracer sees it. -/
def ReaderDatabase.catalog (db : ReaderDatabase) : CascadeCatalog where
  cascadeChildren := db.cascadeChildren
  reltuples := db.reltuples
  estimateRows := RowEstimator.estimateRows db.toTableStatistics

/-- What of Python the reader depends on. -/
structure ReaderConfig extends TriggerText where
  arith : CascadeArith

/-- The result of `estimate_row_count`. -/
def RowEstimate.toJson (estimate : RowEstimate) : Py.Json :=
  .obj
    [("table", .str estimate.table),
     ("condition", .ofText? estimate.condition),
     ("estimated_rows", .int estimate.estimatedRows),
     ("confidence", .float estimate.confidence),
     ("estimation_strategy", .str estimate.estimationStrategy),
     ("stats_age_hours", .float estimate.statsAgeHours),
     ("stats_stale", .bool estimate.statsStale)]

/-- An entry of `levels`. -/
def CascadeLevel.toJson (lvl : CascadeLevel) : Py.Json :=
  .obj
    [("table_name", .str lvl.tableName),
     ("column_name", .str lvl.columnName),
     ("parent_table", .str lvl.parentTable),
     ("parent_column", .str lvl.parentColumn),
     ("cascade_action", .str lvl.cascadeAction),
     ("estimated_rows", .int lvl.estimatedRows),
     ("confidence", .float lvl.confidence),
     ("depth", .int lvl.depth)]

/-- The result of `get_fk_graph`. -/
def CascadeGraph.toJson (graph : CascadeGraph) : Py.Json :=
  .obj
    [("root_table", .str graph.rootTable),
     ("root_condition", .ofText? graph.rootCondition),
     ("levels", .arr (graph.levels.map CascadeLevel.toJson)),
     ("total_estimated_rows", .int graph.totalEstimatedRows),
     ("has_circular_reference", .bool graph.hasCircularReference),
     ("max_depth_reached", .bool graph.maxDepthReached)]

/-- An entry of `triggers`. -/
def TriggerInfo.toJson (t : TriggerInfo) : Py.Json :=
  .obj
    [("trigger_name", t.triggerName),
     ("table_name", t.tableName),
     ("event", t.event),
     ("timing", t.timing),
     ("function_name", t.functionName),
     ("invokes_non_transactional", .bool t.invokesNonTransactional),
     ("non_transactional_extension", t.nonTransactionalExtension),
     ("estimated_external_calls", ExplainResult.optionalJson t.estimatedExternalCalls),
     ("target_endpoint", t.targetEndpoint)]

/-- An entry of `non_transactional_triggers`. -/
def TriggerInfo.toShortJson (t : TriggerInfo) : Py.Json :=
  .obj
    [("trigger_name", t.triggerName),
     ("non_transactional_extension", t.nonTransactionalExtension),
     ("target_endpoint", t.targetEndpoint)]

/-- The result of `list_triggers`. -/
def TriggerAnalysis.toJson (analysis : TriggerAnalysis) : Py.Json :=
  .obj
    [("table", .str analysis.table),
     ("triggers", .arr (analysis.triggers.map TriggerInfo.toJson)),
     ("has_permanent_side_effects", .bool analysis.hasPermanentSideEffects),
     ("non_transactional_triggers",
       .arr (analysis.nonTransactionalTriggers.map TriggerInfo.toShortJson))]

namespace ReaderTools

variable (cfg : ReaderConfig) (db : ReaderDatabase)

/-- The tool raises; the text is only logged. -/
def badArguments : ToolOutcome := .raised "invalid arguments"

/-- `estimate_row_count(table, condition=None)`. -/
def estimateRowCount (arguments : Py.Dict) : ToolOutcome :=
  match Py.bindKeywords [("table", none), ("condition", some .null)] arguments with
  | .ok [.str table, .null] =>
    .returned (RowEstimator.estimateRows db.toTableStatistics table none).toJson
  | .ok [.str table, .str condition] =>
    .returned (RowEstimator.estimateRows db.toTableStatistics table (some condition)).toJson
  | _ => badArguments

/-- `get_fk_graph(table, max_depth=5)`: the trace has no condition. -/
def getFkGraph (arguments : Py.Dict) : ToolOutcome :=
  match Py.bindKeywords [("table", none), ("max_depth", some (.int 5))] arguments with
  | .ok [.str table, .int maxDepth] =>
    .returned (CascadeTracer.traceCascades cfg.arith db.catalog table none maxDepth.toNat).toJson
  | _ => badArguments

/-- `list_triggers(table)`. -/
def listTriggers (arguments : Py.Dict) : ToolOutcome :=
  match Py.bindKeywords [("table", none)] arguments with
  | .ok [.str table] =>
    .returned
      (TriggerDetector.detectTriggers cfg.toTriggerText db.toTriggerCatalog table).toJson
  | _ => badArguments

/-- `check_soft_delete(table)`. -/
def checkSoftDelete (arguments : Py.Dict) : ToolOutcome :=
  match Py.bindKeywords [("table", none)] arguments with
  | .ok [.str table] =>
    .returned (.obj
      [("has_soft_delete", .bool (db.softDeleteColumn table).isSome),
       ("column_name", .ofText? (db.softDeleteColumn table))])
  | _ => badArguments

/-- The four tools under their registered names. -/
def tools : List (String × (Py.Dict → ToolOutcome)) :=
  [("estimate_row_count", estimateRowCount db),
   ("get_fk_graph", getFkGraph cfg db),
   ("list_triggers", listTriggers cfg db),
   ("check_soft_delete", checkSoftDelete db)]

/-- What the caller of a healthy server sees of the end of a tool. -/
def replyOf : ToolOutcome → TargetReply
  | .returned result => if result.encodable then .result result else .mcpCallError "HTTP 500"
  | .foreign _ | .raised _ => .mcpCallError "HTTP 500"

/-- The healthy postgres-reader. -/
def reader : PostgresTools := fun tool arguments =>
  match (tools cfg db).lookup tool with
  | some toolFn => replyOf (toolFn arguments)
  | none => .mcpCallError "HTTP 404"

end ReaderTools
