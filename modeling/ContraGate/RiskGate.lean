import Mathlib.Algebra.Order.Ring.Unbundled.Rat
import ContraGate.Coroutine

/-!
# The RISK_GATE state (`orchestrator/states/risk_gate.py`) and the guards
# (`orchestrator/guards.py`)

`run_risk_gate` asks for an EXPLAIN, then for the policy rules that apply, and writes the
policy fields of the contract. The guards route on them.
-/

/-- Where `run_risk_gate` is suspended. -/
inductive RiskGateAt
  /-- In `postgres_reader("run_explain_tool", ..)`. -/
  | explaining
  /-- In `policy_store("evaluate_rules", ..)`. -/
  | evaluating (explainCost : Py.Float)
  | returned
  | raised

/-- What resumes `run_risk_gate`: the reply of the server it waits for. -/
structure RiskGateInput where
  reply : TargetReply
  now : Time

/-- Helpers of `run_risk_gate`. -/
structure RiskGateConfig where
  /-- `total_cost` of `_parse_explain_result(result.get("explain_result", result))`; `none`
  when that raises. -/
  explainCost : Py.Json → Option Py.Float

namespace RiskGate

/-- One entry of `triggered_rules`; an entry that is no object of four texts raises. -/
def violationOf (rule : Py.Json) : Option PolicyViolation := do
  let entries ← rule.dict?
  let ruleId ← (← entries.lookup "rule_id").str?
  let ruleName ← (← entries.lookup "rule_name").str?
  let severity ← (← entries.lookup "severity").str?
  let description ← (← entries.lookup "description").str?
  some { ruleId, ruleName, severity, description }

/-- The loop over `policy_result.get("triggered_rules", [])`. A text or an object can be
iterated too, but its items are no rules. -/
def violationsOf : Py.Json → Option (List PolicyViolation)
  | .arr rules => rules.mapM violationOf
  | .str s => if s = "" then some [] else none
  | .obj entries => if entries.isEmpty then some [] else none
  | _ => none

/-- The result assumed when the policy store is unavailable. -/
def safeDefaults : Py.Json :=
  .obj [("triggered_rules", .arr []), ("has_hard_violation", .bool false),
    ("has_soft_violation", .bool false), ("required_tier", .null), ("auto_reject_reason", .null)]

/-- `score + amount`, at most 1. -/
def bump (score amount : ℚ) : ℚ := min 1 (score + amount)

/-- The base score of an operation type. -/
def baseScore : OperationType → ℚ
  | .select => 5 / 100
  | .insert => 2 / 10
  | .update => 4 / 10
  | .delete => 6 / 10
  | .ddl => 85 / 100
  | .unknown => 5 / 10

/-- What the EXPLAIN cost adds to the score. -/
def costScore (explainCost : Py.Float) (score : ℚ) : ℚ :=
  if Py.Float.lt (.finite 500000) explainCost then bump score (2 / 10)
  else if Py.Float.lt (.finite 100000) explainCost then bump score (1 / 10)
  else if Py.Float.lt (.finite 50000) explainCost then bump score (5 / 100)
  else score

/-- `_compute_risk_score`. Every summand has two decimals, so the exact sum needs no
rounding to three. -/
def computeRiskScore (contract : HandoffContract) (explainCost : Py.Float)
    (hasViolations : Bool) : ℚ :=
  let score := costScore explainCost (baseScore contract.operationType)
  let score := if hasViolations then bump score (1 / 10) else score
  if contract.sourceType = .externalUserInput then bump score (15 / 100) else score

/-- Steps 3 and 4: apply a policy result to the contract; `none` when it raises. -/
def applyPolicyResult (explainCost : Py.Float) (policyResult : Py.Json) (now : Time)
    (c : HandoffContract) : Option HandoffContract := do
  let policy ← policyResult.dict?
  let violations ← violationsOf (policy.getD "triggered_rules" (.arr []))
  let c :=
    { c with
      policyViolations := violations
      autoRejectTriggered := policy.getD "has_hard_violation" (.bool false)
      autoRejectReason := policy.get "auto_reject_reason"
      requiredTierFromPolicy := policy.get "required_tier" }
  let c := { c with riskScore := .finite (computeRiskScore c explainCost (!violations.isEmpty)) }
  let c := if c.requiredTierFromPolicy.str? = some "FULL_CONTRACT" then
      { c with riskTier := some .fullContract }
    else c
  let c := if c.autoRejectTriggered.truthy then { c with approvalState := .autoRejected } else c
  some (c.addProvenance now "RISK_GATE"
    "policy_violations,auto_reject_triggered,auto_reject_reason,required_tier_from_policy,risk_score")

/-- One stretch of `run_risk_gate(contract)`. -/
def runRiskGate (cfg : RiskGateConfig) (contract : Ref) (m : Memory) :
    RiskGateAt → RiskGateInput → Option (Resumed RiskGateAt)
  | .explaining, ⟨.result explain, _⟩ =>
    match cfg.explainCost explain with
    | some cost => some { mem := m, pc := .evaluating cost }
    | none => some { mem := m, pc := .raised }
  -- a conservative cost when EXPLAIN is unavailable
  | .explaining, ⟨.mcpCallError _, _⟩ => some { mem := m, pc := .evaluating (.finite 999999) }
  | .evaluating cost, ⟨.result policyResult, now⟩ => some (apply cost policyResult now)
  | .evaluating cost, ⟨.mcpCallError _, now⟩ => some (apply cost safeDefaults now)
  | .explaining, ⟨.otherError, _⟩ | .evaluating _, ⟨.otherError, _⟩ =>
    some { mem := m, pc := .raised }
  | _, _ => none
where
  /-- Write the policy fields, or raise. -/
  apply (cost : Py.Float) (policyResult : Py.Json) (now : Time) : Resumed RiskGateAt :=
    match applyPolicyResult cost policyResult now (m.contracts contract) with
    | some c => { mem := m.modifyContract contract fun _ => c, pc := .returned }
    | none => { mem := m, pc := .raised }

end RiskGate

/-! ## The guards -/

namespace Guards

/-- The routing keys of `route_from_risk_gate`. -/
inductive RiskGateRoute
  | autoReject | autoExecute | fullPipeline
deriving DecidableEq

/-- `_is_fast_path`. -/
def isFastPath (contract : HandoffContract) : Bool :=
  contract.operationType = .select && contract.policyViolations.isEmpty &&
    !contract.riskScore.ge (.finite (3 / 10)) && !contract.requiredTierFromPolicy.truthy

/-- `route_from_risk_gate`. -/
def routeFromRiskGate (contract : HandoffContract) : RiskGateRoute :=
  if contract.autoRejectTriggered.truthy then .autoReject
  else if isFastPath contract then .autoExecute
  else .fullPipeline

/-- The routing keys of `route_from_human_review`. -/
inductive HumanReviewRoute
  | timedOut | approved | rejected | modified
deriving DecidableEq

/-- `route_from_human_review`; `rejected` is the fallback for any unexpected state. -/
def routeFromHumanReview (contract : HandoffContract) : HumanReviewRoute :=
  match contract.approvalState with
  | .timedOut => .timedOut
  | .approved => .approved
  | .rejected => .rejected
  | .modified => .modified
  | .pending | .autoRejected => .rejected

end Guards
