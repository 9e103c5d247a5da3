import ContraGate.AnalyzerTools
import ContraGate.Coroutine

/-!
# The Analyzer Agent (`agents/analyzer/agent.py`)

`analyze` fills the contract in ten steps. The first seven are functions of the statement and of
the replies of the postgres-reader; only the eighth asks the LLM, whose reply becomes the intent
summary. `none` stands for an exception that leaves `analyze`: a row count that is no number is
such a case, as it cannot be written with `:,` when the output is logged.
-/

/-- A block of an LLM's message. -/
structure ContentBlock where
  type : String
  name : String
  input : Py.Dict

/-- How a call of the LLM ends: with the blocks of its message, or with an exception. -/
abbrev LlmReply := Option (List ContentBlock)

/-- What a caller of the postgres-reader sees, by tool and arguments. -/
abbrev PostgresTools := String → Py.Dict → TargetReply

namespace AnalyzerAgent

variable (cfg : AnalyzerConfig) (reader : PostgresTools)

/-! ## The calls of the postgres-reader -/

/-- The reply of a tool, with the default that the agent takes on an `MCPCallError`. -/
def callTool (tool : String) (arguments : Py.Dict) (default : Py.Dict) : Option Py.Json :=
  match reader tool arguments with
  | .result value => some value
  | .mcpCallError _ => some (.obj default)
  | .otherError => none

/-- `_count_affected_rows`, with the fields that `analyze` reads. -/
def countAffectedRows (table condition : String) : Option (Py.Number × Py.Json) := do
  let default : Py.Dict := [("estimated_rows", .int 0), ("confidence", .float (.finite 0))]
  let arguments : Py.Dict :=
    [("table", .str table), ("condition", if condition = "" then .null else .str condition)]
  let reply ←
    if table = "" then some (.obj default)
    else callTool reader "estimate_row_count" arguments default
  let rowResult ← reply.dict?
  let rows ← (Py.Dict.getD rowResult "estimated_rows" (.int 0)).num?
  some (rows, Py.Dict.getD rowResult "confidence" (.float (.finite (1 / 2))))

/-- `_detect_triggers`. -/
def detectTriggers (table : String) : Option Py.Json :=
  callTool reader "list_triggers" [("table", .str table)]
    [("triggers", .arr []), ("has_permanent_side_effects", .bool false),
     ("non_transactional_triggers", .arr [])]

/-- `_trace_fk_graph`. -/
def traceFkGraph (table : String) : Option Py.Json :=
  callTool reader "get_fk_graph" [("table", .str table)]
    [("levels", .arr []), ("total_estimated_rows", .int 0)]

/-- `_check_soft_delete`, with the field that `analyze` reads. -/
def checkSoftDelete (table : String) : Option Bool := do
  let reply ← callTool reader "check_soft_delete" [("table", .str table)]
    [("has_soft_delete", .bool false)]
  some (Py.Dict.getD (← reply.dict?) "has_soft_delete" (.bool false)).truthy

/-! ## The analysis without the LLM -/

/-- Step 7: the class and the reason. -/
def writeReversibility (opType : OperationType) (hasSoftDelete : Bool)
    (triggerAnalysis : TriggerAnalysis) (c : HandoffContract) : Option HandoffContract :=
  match ReversibilityRules.classifyReversibility cfg.texts opType.value c.primaryTable hasSoftDelete
      triggerAnalysis false none c.estimatedPrimaryRows with
  | .ok result =>
    some { c with
      reversibility := some result.classification
      reversibilityReason := result.reason
      automatedRecoverySql := none }
  | .error (.valueError exc) =>
    some { c with
      reversibility := some .permanent
      reversibilityReason := s!"Classification error — defaulting to PERMANENT: {exc}" }
  | .error .typeError => none

/-- Steps 1 to 7. -/
def gatherFacts (contract : HandoffContract) : Option HandoffContract := do
  let opType := AnalyzerTools.classifyOperationType cfg contract.rawSql
  let (table, condition) := AnalyzerTools.parseSqlIntent cfg contract.rawSql
  let c := { contract with
    operationType := opType
    primaryTable := if table = "" then contract.primaryTable else table
    condition := if condition = "" then contract.condition else condition }
  let (rows, confidence) ← countAffectedRows reader c.primaryTable c.condition
  let c := { c with estimatedPrimaryRows := rows, rowConfidence := confidence }
  -- the triggers, and whether the rows of the table change, are asked of a known table only
  let known := c.primaryTable ≠ ""
  let changed := known ∧ opType ∈ [OperationType.delete, .update]
  let triggerResult ← if known then detectTriggers reader c.primaryTable else some (.obj [])
  let external ←
    if known then
      (AnalyzerTools.buildExternalTriggers triggerResult).bind fun external =>
        AnalyzerTools.estimateApiFanout external rows
    else some c.externalTriggers
  let cascade ←
    if changed then do
      AnalyzerTools.buildCascadeEntries cfg (← traceFkGraph reader c.primaryTable)
    else some c.cascade
  let hasSoftDelete ← if changed then checkSoftDelete reader c.primaryTable else some false
  let triggerAnalysis ← AnalyzerTools.buildTriggerAnalysisFromMcp c.primaryTable triggerResult
  let c := { c with externalTriggers := external, cascade }
  let c ← writeReversibility cfg opType hasSoftDelete triggerAnalysis c
  some { c with
    permanentComponents :=
      AnalyzerTools.identifyPermanentComponents c.reversibility opType c.primaryTable
        c.externalTriggers c.cascade }

/-! ## The intent summary -/

/-- `INTENT_SUMMARY_TOOL_NAME`. -/
def intentSummaryToolName : String := "produce_intent_summary"

/-- The summary in the reply of the LLM, if there is one. -/
def summaryOf (reply : LlmReply) : Option Py.Json :=
  reply.bind fun blocks => blocks.findSome? fun block =>
    if block.type = "tool_use" ∧ block.name = intentSummaryToolName then
      let summary := Py.Dict.getD block.input "intent_summary" (.str "")
      if summary.truthy then some summary else none
    else none

/-- `_fallback_intent_summary`. -/
def fallbackIntentSummary (c : HandoffContract) : String :=
  let table := if c.primaryTable = "" then "unknown table" else c.primaryTable
  let cascadeRows := (c.cascade.map (·.estimatedRows)).sum
  let calls := (c.externalTriggers.map fun t => t.estimatedCalls.getD 0).sum
  " ".intercalate
    ([s!"{c.operationType.value} ~" ++ c.estimatedPrimaryRows.withCommas cfg.texts ++
        " row(s) from " ++ Py.reprText cfg.printable table] ++
      (if c.condition = "" then [] else [s!"WHERE {c.condition}"]) ++
      (if c.cascade.isEmpty then []
        else ["(cascade: ~" ++ Py.withCommas cascadeRows ++ " additional rows)"]) ++
      (if c.externalTriggers.isEmpty then []
        else ["(~" ++ Py.withCommas calls ++ " external trigger calls)"]))

/-- `_get_intent_summary`. -/
def getIntentSummary (reply : LlmReply) (c : HandoffContract) : Py.Json :=
  (summaryOf reply).getD (.str (fallbackIntentSummary cfg c))

/-! ## The agent -/

/-- `_ANALYSIS_FIELDS`. -/
def analysisFields : List String :=
  ["intent_summary", "operation_type", "primary_table", "condition", "estimated_primary_rows",
   "row_confidence", "cascade", "external_triggers", "reversibility", "reversibility_reason",
   "permanent_components"]

/-- `needs_selective_reanalysis` of `orchestrator/guards.py`. -/
def needsSelectiveReanalysis (contract : HandoffContract) : Bool :=
  decide (0 < contract.reanalysisCount) && !contract.staleFields.isEmpty

/-- The agent returns at once: no field of the analysis is stale. -/
def skips (contract : HandoffContract) : Bool :=
  needsSelectiveReanalysis contract && !analysisFields.any contract.staleFields.contains

/-- `analyze`. -/
def analyze (reply : LlmReply) (now : Time) (contract : HandoffContract) :
    Option HandoffContract :=
  if skips contract then some contract
  else
    (gatherFacts cfg reader contract).map fun facts =>
      { facts with intentSummary := getIntentSummary cfg reply facts }.addProvenance now
        "ANALYZER_AGENT"
        ("operation_type,primary_table,condition,estimated_primary_rows," ++
          "row_confidence,cascade,external_triggers,reversibility," ++
          "reversibility_reason,permanent_components,intent_summary") true

end AnalyzerAgent
