import ContraGate.Library.PyNumber
import ContraGate.RiskGate

/-!
# Reading the EXPLAIN result in RISK_GATE (`orchestrator/states/risk_gate.py`)

`_parse_explain_result` takes cost and rows from whatever the EXPLAIN tool returned, with
silent defaults. With it `run_risk_gate` is a function of the two replies (`gate`).
(`scan_type` and `partitions_involved` are not read by the gate, and what computes them
raises nothing that is not caught.)
-/

/-- The fields of the result of `_parse_explain_result` that `run_risk_gate` reads. -/
structure ExplainSummary where
  totalCost : Py.Float := .finite 0
  estimatedRows : ℤ := 0

namespace RiskGate

variable (texts : Py.NumberText)

/-- The handler of `_parse_explain_result` catches the exception. -/
def isCaught : Py.Exc → Bool
  | .typeError | .valueError => true
  | .attributeError | .overflowError => false

/-- The plan in the EXPLAIN data, if it is a list with items or an object. -/
def planOf : Py.Json → Except Py.Exc (Option Py.Json)
  | .arr (first :: _) =>
    match first.dict? with
    | some entries => .ok (some (entries.getD "Plan" (.obj [])))
    | none => .error .attributeError
  | .obj entries => .ok (some (Py.Dict.getD entries "Plan" (.obj entries)))
  | _ => .ok none

/-- The cost as the plan states it. -/
def statedCost (plan : Py.Dict) : Option Py.Json :=
  (plan.lookup "Total Cost").or (plan.lookup "total_cost")

/-- The rows as the plan states them. -/
def statedRows (plan : Py.Dict) : Option Py.Json :=
  (plan.lookup "Plan Rows").or (plan.lookup "plan_rows")

/-- Cost and rows of a plan. The cost stays when the rows cannot be read. -/
def readPlan (plan : Py.Dict) : Except Py.Exc ExplainSummary :=
  match ((statedCost plan).getD (.float (.finite 0))).toFloat texts with
  | .error e => if isCaught e then .ok {} else .error e
  | .ok totalCost =>
    match ((statedRows plan).getD (.int 0)).toInt texts with
    | .error e => if isCaught e then .ok { totalCost } else .error e
    | .ok estimatedRows => .ok { totalCost, estimatedRows }

/-- `_parse_explain_result`. -/
def parseExplainResult (explainData : Py.Json) : Except Py.Exc ExplainSummary :=
  match planOf explainData with
  | .error e => if isCaught e then .ok {} else .error e
  | .ok none => .ok {}
  | .ok (some plan) =>
    match plan.dict? with
    | some plan => readPlan texts plan
    | none => .error .attributeError

/-- `_parse_explain_result(result.get("explain_result", result))`. -/
def explainOf (result : Py.Json) : Except Py.Exc ExplainSummary :=
  match result.dict? with
  | some entries => parseExplainResult texts (entries.getD "explain_result" result)
  | none => .error .attributeError

/-- The helper of `run_risk_gate` as the code has it. -/
def explainConfig : RiskGateConfig where
  explainCost result := (explainOf texts result).toOption.map (·.totalCost)

/-! ## The gate as a function of the two replies -/

/-- Cost and rows after the EXPLAIN call; `none` when the gate raises. -/
def explainOutcome : TargetReply → Option ExplainSummary
  | .result result => (explainOf texts result).toOption
  | .mcpCallError _ => some { totalCost := .finite 999999 }
  | .otherError => none

/-- The policy result after the policy call; `none` when the gate raises. -/
def policyOutcome : TargetReply → Option Py.Json
  | .result policyResult => some policyResult
  | .mcpCallError _ => some safeDefaults
  | .otherError => none

/-- `run_risk_gate`, given the replies to its two calls. -/
def gate (explain policy : TargetReply) (now : Time) (c : HandoffContract) :
    Option HandoffContract := do
  let summary ← explainOutcome texts explain
  let policyResult ← policyOutcome policy
  applyPolicyResult summary.totalCost policyResult now c

variable {texts}

/-- What the policy result leaves in the contract. -/
structure Applied (cost : Py.Float) (entries : Py.Dict) (listed : List PolicyViolation)
    (c c' : HandoffContract) : Prop where
  violations : c'.policyViolations = listed
  triggered : c'.autoRejectTriggered = entries.getD "has_hard_violation" (.bool false)
  tier : c'.requiredTierFromPolicy = entries.get "required_tier"
  score : c'.riskScore = .finite (computeRiskScore c cost (!listed.isEmpty))
  operation : c'.operationType = c.operationType

/-- Steps 3 and 4 of the gate: they raise exactly when the policy result cannot be read. -/
theorem applyPolicyResult_eq_some {cost : Py.Float} {policyResult : Py.Json} {now : Time}
    {c c' : HandoffContract} (h : applyPolicyResult cost policyResult now c = some c') :
    ∃ entries violations, policyResult.dict? = some entries ∧
      violationsOf (entries.getD "triggered_rules" (.arr [])) = some violations ∧
      Applied cost entries violations c c' := by
  simp only [applyPolicyResult, Option.bind_eq_bind, Option.bind_eq_some_iff] at h
  obtain ⟨entries, hdict, violations, hviolations, h⟩ := h
  refine ⟨entries, violations, hdict, hviolations, ?_⟩
  rw [Option.some.injEq] at h
  subst h
  constructor
  all_goals
    dsimp only [HandoffContract.addProvenance]
    split_ifs <;> rfl

theorem exists_applyPolicyResult {policyResult : Py.Json} {entries : Py.Dict}
    {violations : List PolicyViolation} (hdict : policyResult.dict? = some entries)
    (hviolations : violationsOf (entries.getD "triggered_rules" (.arr [])) = some violations)
    (cost : Py.Float) (now : Time) (c : HandoffContract) :
    ∃ c', applyPolicyResult cost policyResult now c = some c' ∧
      Applied cost entries violations c c' := by
  have hsome : ∃ c', applyPolicyResult cost policyResult now c = some c' := by
    unfold applyPolicyResult
    rw [hdict, Option.bind_eq_bind, Option.bind_some, hviolations, Option.bind_eq_bind,
      Option.bind_some]
    exact ⟨_, rfl⟩
  obtain ⟨c', hc'⟩ := hsome
  refine ⟨c', hc', ?_⟩
  obtain ⟨entries', violations', hdict', hviolations', happlied⟩ := applyPolicyResult_eq_some hc'
  obtain rfl : entries = entries' := Option.some.inj (hdict.symm.trans hdict')
  obtain rfl : violations = violations' := Option.some.inj (hviolations.symm.trans hviolations')
  exact happlied

/-- The first stretch of the coroutine. -/
theorem runRiskGate_explaining (contract : Ref) (m : Memory) (explain : TargetReply)
    (now : Time) :
    runRiskGate (explainConfig texts) contract m .explaining ⟨explain, now⟩ =
      some { mem := m
             pc := match explainOutcome texts explain with
               | some summary => .evaluating summary.totalCost
               | none => .raised } := by
  cases explain with
  | result result =>
    simp only [runRiskGate, explainOutcome, explainConfig]
    cases explainOf texts result with
    | error e => rfl
    | ok summary => rfl
  | mcpCallError message => rfl
  | otherError => rfl

/-- The second stretch. -/
theorem runRiskGate_evaluating (contract : Ref) (m : Memory) (cost : Py.Float)
    (policy : TargetReply) (now : Time) :
    runRiskGate (explainConfig texts) contract m (.evaluating cost) ⟨policy, now⟩ =
      some (match (policyOutcome policy).bind fun policyResult =>
          applyPolicyResult cost policyResult now (m.contracts contract) with
        | some c => { mem := m.modifyContract contract fun _ => c, pc := .returned }
        | none => { mem := m, pc := .raised }) := by
  cases policy with
  | result policyResult => rfl
  | mcpCallError message => rfl
  | otherError => rfl

/-- The coroutine returns exactly when `gate` has a result, and with that contract. -/
theorem exec_eq_returned {contract : Ref} {m m' : Memory} {explain policy : TargetReply}
    {now now' : Time} :
    (Resumed.machine (runRiskGate (explainConfig texts) contract)).exec (m, .explaining)
        [⟨explain, now⟩, ⟨policy, now'⟩] = some (m', .returned) ↔
      ∃ c, gate texts explain policy now' (m.contracts contract) = some c ∧
        m' = m.modifyContract contract fun _ => c := by
  unfold gate
  simp only [Machine.exec_cons, Machine.exec_nil, Resumed.machine, runRiskGate_explaining,
    Option.map_some, Option.bind_some, Option.bind_eq_bind]
  cases explainOutcome texts explain with
  | none => simp [runRiskGate]
  | some summary =>
    rw [runRiskGate_evaluating]
    simp only [Option.map_some, Option.bind_some]
    cases (policyOutcome policy).bind fun policyResult =>
        applyPolicyResult summary.totalCost policyResult now' (m.contracts contract) with
    | none => simp
    | some c => simp [eq_comm]

end RiskGate
