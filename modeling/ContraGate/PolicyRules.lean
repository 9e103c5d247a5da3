import ContraGate.Library.PyCall
import ContraGate.Library.PyNumber
import ContraGate.McpServer

/-!
# The policy rules (`mcp_servers/policy_store/rule_engine.py`, `server.py`)

`evaluate_operation` goes through the active rules and collects the ones that match. Only the
rule about business hours can raise, when its condition holds no numbers.
-/

/-- A row of `policy_rules`; every key but `rule_id` may be missing. -/
structure PolicyRule where
  ruleId : String
  ruleName : Option String := none
  description : Option String := none
  condition : Py.Json := .null
  action : Option String := none
  severity : Option String := none

namespace PolicyRule

variable (rule : PolicyRule)

/-- `rule.get("severity", "SOFT")`. -/
def severityOf : String := rule.severity.getD "SOFT"

/-- `rule.get("action", "REQUIRE_REVIEW")`. -/
def actionOf : String := rule.action.getD "REQUIRE_REVIEW"

/-- `rule.get("rule_name", rule_id)`. -/
def nameOf : String := rule.ruleName.getD rule.ruleId

/-- `rule.get("description", rule.get("rule_name", rule_id))`. -/
def descriptionOf : String := rule.description.getD rule.nameOf

/-- `rule.get("condition") or {}`. -/
def cond : Py.Json := rule.condition.or (.obj [])

end PolicyRule

/-- The arguments of `evaluate_rules` that `evaluate_operation` gets. -/
structure PolicyArguments where
  operationType : String
  tables : List String
  estimatedRows : ℤ
  sourceType : String
  hasExternalTriggers : Bool
  submissionHour : ℤ
  explainCost : Py.Float

/-- The result of `evaluate_operation`. -/
structure Evaluation where
  triggeredRules : List PolicyRule := []
  hasHardViolation : Bool := false
  hasSoftViolation : Bool := false
  requiredTier : Option String := none
  autoRejectReason : Option String := none

namespace PolicyStore

/-- `_SENSITIVE_TABLES`. -/
def sensitiveTables : List String := ["users", "orders", "invoices"]

/-- `_BULK_ROW_THRESHOLD`. -/
def bulkRowThreshold : ℤ := 10000

/-- `_PII_EXPLAIN_COST_THRESHOLD`. -/
def piiExplainCostThreshold : Py.Float := .finite 100000

/-- `bool(tables_set & others)`. -/
def overlaps (tables others : List String) : Bool := tables.any fun t => others.contains t

/-- `cond.get(key, default) if isinstance(cond, dict) else default`. -/
def businessHour (cond : Py.Json) (key : String) (default : ℤ) : Py.Json :=
  match cond with
  | .obj entries => Py.Dict.getD entries key (.int default)
  | _ => .int default

/-- The value in a comparison with a number, if Python compares it with one. -/
def comparand : Py.Json → Option Py.Float
  | .bool b => some (.finite (if b then 1 else 0))
  | .int n => some (.finite n)
  | .float x => some x
  | _ => none

/-- `start <= hour < end`, or the text of the `TypeError`. -/
def withinHours (start finish : Py.Json) (hour : ℤ) : Except String Bool :=
  match comparand start with
  | none => .error s!"'<=' not supported between instances of '{start.typeName}' and 'int'"
  | some low =>
    if (Py.Float.finite hour).ge low then
      match comparand finish with
      | none => .error s!"'<' not supported between instances of 'int' and '{finish.typeName}'"
      | some high => .ok ((Py.Float.finite hour).lt high)
    else .ok false

/-- The hour is within the business hours of the rule, or else those of the argument. -/
def inBusinessHours (rule : PolicyRule) (hour : ℤ) (businessHours : ℤ × ℤ := (7, 20)) :
    Except String Bool :=
  withinHours (businessHour rule.cond "business_hours_start" businessHours.1)
    (businessHour rule.cond "business_hours_end" businessHours.2) hour

variable (args : PolicyArguments) (piiTables : List String)

/-- `_match_rule`, by default with the business hours that `evaluate_operation` has by default. -/
def matchRule (rule : PolicyRule) (businessHours : ℤ × ℤ := (7, 20)) : Except String Bool :=
  let piiInvolved := overlaps args.tables piiTables
  let sensitiveInvolved := overlaps args.tables sensitiveTables
  if rule.ruleId = "POLICY_DDL_NO_BACKUP" then .ok (args.operationType ∈ ["DROP", "TRUNCATE"])
  else if rule.ruleId = "POLICY_PII_STANDARD_REVIEW" then .ok piiInvolved
  else if rule.ruleId = "POLICY_EXTERNAL_INPUT" then
    .ok (args.sourceType = "external_user_input")
  else if rule.ruleId = "POLICY_BULK_DELETE_SENSITIVE" then
    .ok (decide (args.operationType ∈ ["DELETE", "UPDATE"]) && sensitiveInvolved &&
      decide (bulkRowThreshold < args.estimatedRows))
  else if rule.ruleId = "POLICY_PAYMENT_WEBHOOK" then .ok args.hasExternalTriggers
  else if rule.ruleId = "POLICY_AFTER_HOURS" then
    (inBusinessHours rule args.submissionHour businessHours).map (!·)
  -- evaluated elsewhere
  else if rule.ruleId = "POLICY_AUTO_REJECT_PATTERN" then .ok false
  else if rule.ruleId = "POLICY_PII_EXPENSIVE_READ" then
    .ok (decide (args.operationType = "SELECT") && piiInvolved &&
      piiExplainCostThreshold.lt args.explainCost)
  else .ok false

/-- What a rule that matched adds to the result. -/
def addTriggered (e : Evaluation) (rule : PolicyRule) : Evaluation :=
  let hard := rule.severityOf = "HARD"
  { triggeredRules := e.triggeredRules ++ [rule]
    hasHardViolation := e.hasHardViolation || hard
    hasSoftViolation := e.hasSoftViolation || !hard
    requiredTier :=
      if rule.actionOf = "REQUIRE_FULL_CONTRACT" then some "FULL_CONTRACT"
      else if rule.actionOf = "REQUIRE_STANDARD_REVIEW" ∧ e.requiredTier = none then
        some "STANDARD"
      else e.requiredTier
    autoRejectReason :=
      if hard ∧ e.autoRejectReason = none then some rule.descriptionOf else e.autoRejectReason }

/-- One round of the loop, given which rules match. -/
def evaluateRule (matching : PolicyRule → Except String Bool) (e : Evaluation)
    (rule : PolicyRule) : Except String Evaluation :=
  (matching rule).map fun matched => if matched then addTriggered e rule else e

/-- `evaluate_operation`; an error is the text of the exception. -/
def evaluateOperation (allRules : List PolicyRule) (businessHours : ℤ × ℤ := (7, 20)) :
    Except String Evaluation :=
  allRules.foldlM (evaluateRule fun rule => matchRule args piiTables rule businessHours) {}

end PolicyStore

namespace Evaluation

/-- `str | None` as a JSON value. -/
def optionalText : Option String → Py.Json
  | some s => .str s
  | none => .null

/-- The entry of `triggered_rules` for a rule. -/
def triggeredEntry (rule : PolicyRule) : Py.Json :=
  .obj
    [("rule_id", .str rule.ruleId), ("rule_name", .str rule.nameOf),
     ("severity", .str rule.severityOf), ("description", .str rule.descriptionOf),
     ("action", .str rule.actionOf)]

/-- The entries of the result. -/
def entries (e : Evaluation) : Py.Dict :=
  [("triggered_rules", .arr (e.triggeredRules.map triggeredEntry)),
   ("has_hard_violation", .bool e.hasHardViolation),
   ("has_soft_violation", .bool e.hasSoftViolation),
   ("required_tier", optionalText e.requiredTier),
   ("auto_reject_reason", optionalText e.autoRejectReason)]

end Evaluation

namespace PolicyArguments

/-- The keyword arguments of a call of `evaluate_rules`. -/
def toDict (args : PolicyArguments) (tenantId : String) : Py.Dict :=
  [("operation_type", .str args.operationType), ("tables", .arr (args.tables.map .str)),
   ("estimated_rows", .int args.estimatedRows), ("source_type", .str args.sourceType),
   ("has_external_triggers", .bool args.hasExternalTriggers),
   ("submission_hour", .int args.submissionHour), ("tenant_id", .str tenantId),
   ("explain_cost", .float args.explainCost)]

/-- The values of the parameters of `evaluate_rules`, when they have the types that are
declared. -/
def ofValues : List Py.Json → Option (PolicyArguments × String)
  | [.str operationType, .arr tables, .int estimatedRows, .str sourceType,
      .bool hasExternalTriggers, .int submissionHour, .str tenantId, explainCost] => do
    let tables ← tables.mapM (·.str?)
    let explainCost ← explainCost.number?
    some ({ operationType, tables, estimatedRows, sourceType, hasExternalTriggers, submissionHour
            explainCost }, tenantId)
  | _ => none

end PolicyArguments

/-- The database of the policy store. -/
structure PolicyStore where
  /-- The active rules of a tenant, in the order of the query. -/
  activeRules : String → List PolicyRule
  /-- The tables in `pii_registry`. -/
  piiTables : List String

namespace PolicyStore

/-- The parameters of `evaluate_rules`. -/
def evaluateRulesParameters : List (String × Option Py.Json) :=
  [("operation_type", none), ("tables", none), ("estimated_rows", none), ("source_type", none),
   ("has_external_triggers", none), ("submission_hour", none), ("tenant_id", none),
   ("explain_cost", some (.float (.finite 0)))]

/-- The tool `evaluate_rules`, with a database that answers. -/
def evaluateRules (store : PolicyStore) (arguments : Py.Dict) : ToolOutcome :=
  match Py.bindKeywords evaluateRulesParameters arguments with
  | .error (.unexpected name) =>
    .raised s!"evaluate_rules() got an unexpected keyword argument '{name}'"
  | .error (.missing names) =>
    .raised s!"evaluate_rules() missing {names.length} required positional arguments"
  | .ok values =>
    match PolicyArguments.ofValues values with
    | none => .raised "an argument has another type than declared"
    | some (args, tenantId) =>
      match evaluateOperation args store.piiTables (store.activeRules tenantId) with
      | .ok e => .returned (.obj e.entries)
      | .error message => .raised message

end PolicyStore
