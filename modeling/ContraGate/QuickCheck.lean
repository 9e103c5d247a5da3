import ContraGate.Classifiers
import ContraGate.ExplainResult
import ContraGate.McpClient
import ContraGate.PolicyRules

/-!
# The quick gate of the proxy (`proxy/risk_gate.py`)

`quick_check` makes the two calls itself, over HTTP, and reads the envelopes. Whatever goes
wrong is caught, and what was assigned before stays.
-/

structure RiskGateResult where
  routing : Guards.RiskGateRoute
  explainCost : Py.Float := .finite 0
  explainRows : ℤ := 0
  hardViolation : Bool := false
  autoRejectReason : Py.Json := .null
  policyRequiredTier : Py.Json := .null

/-- How the HTTP exchanges end, by tool and arguments. -/
structure McpServices where
  postgresReader : String → Py.Dict → Transport
  policyStore : String → Py.Dict → Transport

/-- The environment of `quick_check`. -/
structure QuickCheck where
  /-- `EXPLAIN_COST_THRESHOLD`. -/
  explainCostThreshold : Py.Float := .finite 50000
  texts : Py.NumberText
  services : McpServices
  wide : Char → Bool

namespace QuickCheck

/-- The prefix of the EXPLAIN text. -/
def explainPrefix : String := "EXPLAIN (FORMAT JSON) "

/-- `_clean_sql`. -/
def cleanSql (sql : String) : String :=
  String.ofList (Py.strip (Py.rstrip ';' (Py.strip sql.toList)))

/-- `resp.json().get("result", {})` for a response with status 200; `none` for another status
and when reading it raises. -/
def resultOf : Transport → Option Py.Json
  | .response { statusCode := 200, body := .json (.obj body) } =>
    some (Py.Dict.getD body "result" (.obj []))
  | _ => none

/-- The plan in the result; `none` when finding it raises. -/
def planOf (data : Py.Json) : Option Py.Dict := do
  let entries ← data.dict?
  match RiskGate.planOf (entries.getD "explain_result" data) with
  | .ok (some plan) => plan.dict?
  | .ok none => some []
  | .error _ => none

/-- What is assumed when EXPLAIN is unavailable. -/
def unavailable : ExplainSummary := { totalCost := .finite 999999 }

/-- Cost and rows in a result of the EXPLAIN call. The cost stays when the rows cannot be
read. -/
def readExplain (texts : Py.NumberText) (data : Py.Json) : ExplainSummary :=
  match planOf data with
  | none => unavailable
  | some plan =>
    match ((RiskGate.statedCost plan).getD (.float (.finite 999999))).toFloat texts with
    | .error _ => unavailable
    | .ok totalCost =>
      match ((RiskGate.statedRows plan).getD (.int 0)).toInt texts with
      | .error _ => { totalCost }
      | .ok estimatedRows => { totalCost, estimatedRows }

variable (cfg : QuickCheck)

/-- The Read Impact Gate: `explain_cost` and `explain_rows`. -/
def readImpact (sql tenantId : String) : ExplainSummary :=
  let cleaned := cleanSql sql
  if ';' ∈ cleaned.toList then unavailable
  else
    let reply := cfg.services.postgresReader "run_explain_tool"
      [("sql", .str (explainPrefix ++ cleaned)), ("tenant_id", .str tenantId)]
    match resultOf reply with
    | some data => readExplain cfg.texts data
    | none => unavailable

/-- The arguments of the policy call. -/
def policyArguments (operationType sourceType : String) (hour : ℤ) (explain : ExplainSummary) :
    PolicyArguments where
  operationType
  tables := []
  estimatedRows := explain.estimatedRows
  sourceType
  hasExternalTriggers := false
  submissionHour := hour
  explainCost := explain.totalCost

/-- `hard_violation` and `auto_reject_reason` after the policy call. -/
def readPolicy (reply : Transport) : Py.Json × Py.Json :=
  match (resultOf reply).bind Py.Json.dict? with
  | some policy =>
    (policy.getD "has_hard_violation" (.bool false), policy.get "auto_reject_reason")
  | none => (.bool false, .null)

/-- The routing decision. -/
def route (sql operationType sourceType : String) (explain : ExplainSummary)
    (policy : Py.Json × Py.Json) : RiskGateResult :=
  if policy.1.truthy then
    { routing := .autoReject, explainCost := explain.totalCost, explainRows := explain.estimatedRows
      hardViolation := true, autoRejectReason := policy.2 }
  else if operationType = "SELECT" && !Classifiers.isWrite cfg.wide sql &&
      explain.totalCost.lt cfg.explainCostThreshold && sourceType = "internal_system" then
    { routing := .autoExecute, explainCost := explain.totalCost
      explainRows := explain.estimatedRows }
  else
    { routing := .fullPipeline, explainCost := explain.totalCost
      explainRows := explain.estimatedRows }

/-- `quick_check`, with the hour of the policy call. -/
def quickCheck (sql operationType sourceType tenantId : String) (hour : ℤ) : RiskGateResult :=
  let explain := readImpact cfg sql tenantId
  let reply := cfg.services.policyStore "evaluate_rules"
    ((policyArguments operationType sourceType hour explain).toDict tenantId)
  route cfg sql operationType sourceType explain (readPolicy reply)

variable {cfg} {sql operationType sourceType : String} {explain : ExplainSummary}
  {policy : Py.Json × Py.Json}

@[simp] theorem route_explainCost :
    (route cfg sql operationType sourceType explain policy).explainCost = explain.totalCost := by
  unfold route
  split_ifs <;> rfl

@[simp] theorem route_explainRows :
    (route cfg sql operationType sourceType explain policy).explainRows = explain.estimatedRows := by
  unfold route
  split_ifs <;> rfl

theorem route_autoReject_iff :
    (route cfg sql operationType sourceType explain policy).routing = .autoReject ↔
      policy.1.truthy = true := by
  unfold route
  split_ifs with h <;> simp [h]

theorem route_autoExecute_iff :
    (route cfg sql operationType sourceType explain policy).routing = .autoExecute ↔
      policy.1.truthy = false ∧ operationType = "SELECT" ∧
      Classifiers.isWrite cfg.wide sql = false ∧
      explain.totalCost.lt cfg.explainCostThreshold = true ∧ sourceType = "internal_system" := by
  unfold route
  split_ifs with hhard hfast
  · simp [hhard]
  · simp only [Bool.and_eq_true, decide_eq_true_eq, Bool.not_eq_true'] at hfast
    simp only [Bool.not_eq_true] at hhard
    simp [hhard, hfast]
  · simp only [Bool.and_eq_true, decide_eq_true_eq, Bool.not_eq_true'] at hfast
    simp only [false_iff]
    tauto

end QuickCheck
