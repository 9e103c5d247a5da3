import ContraGate.Gateway
import ContraGate.McpClient

/-!
# Failures of the transport

`call` turns a timeout and an error status into an `MCPCallError`, the one class that
`run_audit` and `run_risk_gate` catch. A broken connection and a body that is no JSON object
end it with an exception of another class, and so they end its callers.
-/

namespace Transport

/-- The failures of the transport. -/
inductive Failed : Transport → Prop
  | connectionError : Failed .connectionError
  | timeout : Failed .timeout
  | status (r : HttpResponse) (h : 400 ≤ r.statusCode ∧ r.statusCode ≤ 599) :
    Failed (.response r)
  | notJson : Failed (.response { statusCode := 200, body := .other })
  | notObject (value : Py.Json) (h : value.dict? = none) :
    Failed (.response { statusCode := 200, body := .json value })

/-- A timeout or an error status. -/
def Reported : Transport → Prop
  | timeout => True
  | response r => 400 ≤ r.statusCode ∧ r.statusCode ≤ 599
  | connectionError => False

end Transport

namespace McpClient

variable {str : Py.Json → String} {baseUrl tool : String} {timeout : Py.Float}

/-- `call` raises `MCPCallError` at a timeout and at an error status. -/
theorem call_of_reported {t : Transport} (hreported : t.Reported) :
    ∃ message, call str baseUrl tool timeout t = .mcpCallError message := by
  cases t with
  | timeout => exact ⟨_, rfl⟩
  | response r =>
    have hstatus : ¬ (200 ≤ r.statusCode ∧ r.statusCode ≤ 299) := by
      have h : 400 ≤ r.statusCode := hreported.1
      omega
    exact ⟨_, if_neg hstatus⟩
  | connectionError => exact absurd hreported id

/-- At every other failure it raises something else. -/
theorem call_of_not_reported {t : Transport} (hfailed : t.Failed) (hnot : ¬ t.Reported) :
    call str baseUrl tool timeout t = .otherError := by
  cases hfailed with
  | connectionError => rfl
  | timeout => exact absurd trivial hnot
  | status r h => exact absurd h hnot
  | notJson => rfl
  | notObject value h =>
    cases value with
    | obj data => cases h
    | _ => rfl

end McpClient

/-- One MCP exchange of a pipeline: its transport fails, or the tool's answer comes back. -/
inductive Exchange
  | fails (transport : Transport) (hfailed : transport.Failed)
  | answers (value : Py.Json)

namespace Exchange

/-- What the caller sees, for the function that makes the call. -/
def reply (call : Transport → TargetReply) : Exchange → TargetReply
  | fails transport _ => call transport
  | answers value => .result value

@[simp] theorem reply_fails (call : Transport → TargetReply) (t : Transport)
    (hfailed : t.Failed) : (fails t hfailed).reply call = call t := rfl

@[simp] theorem reply_answers (call : Transport → TargetReply) (value : Py.Json) :
    (answers value).reply call = .result value := rfl

/-- If the exchange fails, it is with a timeout or an error status. -/
def Reported (x : Exchange) : Prop := ∀ t hfailed, x = fails t hfailed → t.Reported

/-- The exchange fails. -/
def IsFailure (x : Exchange) : Prop := ∃ t hfailed, x = fails t hfailed

/-- The caller sees an exception of another class exactly at a failure that `call` does not
report. -/
theorem reply_eq_otherError_iff {x : Exchange} {str : Py.Json → String} {baseUrl tool : String}
    {timeout : Py.Float} :
    x.reply (McpClient.call str baseUrl tool timeout) = .otherError ↔ ¬ x.Reported := by
  constructor
  · intro hreply hreported
    cases x with
    | fails t hfailed =>
      obtain ⟨message, hcall⟩ := McpClient.call_of_reported (hreported t hfailed rfl)
      have hother := hcall.symm.trans hreply
      cases hother
    | answers value => cases hreply
  · intro hnot
    cases x with
    | fails t hfailed =>
      refine McpClient.call_of_not_reported hfailed fun hreported => hnot ?_
      rintro t' hfailed' ⟨⟩
      exact hreported
    | answers value => exact absurd (fun t hfailed h => nomatch h) hnot

end Exchange

/-! ## The callers -/

namespace RiskGate

/-- The gate can read the answer of the policy store. -/
def Readable (policyResult : Py.Json) : Prop :=
  ∃ policy violations, policyResult.dict? = some policy ∧
    violationsOf (policy.getD "triggered_rules" (.arr [])) = some violations

/-- A readable answer is applied; the violations are the ones it lists. -/
theorem applyPolicyResult_of_readable {policyResult : Py.Json} {policy : Py.Dict}
    {violations : List PolicyViolation} (hdict : policyResult.dict? = some policy)
    (hviolations : violationsOf (policy.getD "triggered_rules" (.arr [])) = some violations)
    (cost : Py.Float) (now : Time) (c : HandoffContract) :
    ∃ c', applyPolicyResult cost policyResult now c = some c' ∧
      c'.policyViolations = violations := by
  unfold applyPolicyResult
  rw [hdict, Option.bind_eq_bind, Option.bind_some, hviolations, Option.bind_eq_bind,
    Option.bind_some]
  refine ⟨_, rfl, ?_⟩
  dsimp only
  split_ifs <;> rfl

/-- The defaults for an unavailable policy store list no violation. -/
theorem applyPolicyResult_safeDefaults (cost : Py.Float) (now : Time) (c : HandoffContract) :
    ∃ c', applyPolicyResult cost safeDefaults now c = some c' ∧ c'.policyViolations = [] :=
  applyPolicyResult_of_readable rfl rfl cost now c

end RiskGate

/-- The MCP exchanges of the gate and of the audit. The gate can read the answers that come
back. -/
structure Exchanges (cfg : RiskGateConfig) where
  explain : Exchange
  policy : Exchange
  auditLogger : Exchange
  memoryStore : Exchange
  explain_readable : ∀ value, explain = .answers value → (cfg.explainCost value).isSome
  policy_readable : ∀ value, policy = .answers value → RiskGate.Readable value

namespace Exchanges

variable {cfg : PipelineConfig}

/-- The four exchanges. -/
def all (x : Exchanges cfg.toRiskGateConfig) : List Exchange :=
  [x.explain, x.policy, x.auditLogger, x.memoryStore]

/-- The tool that `run_audit` asks the audit logger for. -/
def auditTool (c : HandoffContract) : String :=
  if c.executionSuccess = some true then "log_execution" else "log_auto_reject"

variable (str : Py.Json → String) (urls : McpClient.ServiceUrls)

/-- `run_audit`, as a run of the background task from the start of the node. -/
def audit (approvalId : String) (manifest : Py.Dict) (contract : Ref) (m : Memory)
    (now : Time) (x : Exchanges cfg.toRiskGateConfig) : Option (Memory × TaskAt) :=
  (Resumed.machine (Graph.runTask cfg approvalId manifest contract)).exec (m, .audit .logging)
    [.auditReply (x.auditLogger.reply
        (McpClient.auditLogger str urls (auditTool (m.contracts contract)))) now,
      .auditReply (x.memoryStore.reply (McpClient.memoryStore str urls "store_operation")) now]

/-- `run_risk_gate`, up to the call of the policy store. -/
def gateExplain (contract : Ref) (m : Memory) (now : Time)
    (x : Exchanges cfg.toRiskGateConfig) : Option (Memory × RiskGateAt) :=
  (Resumed.machine (RiskGate.runRiskGate cfg.toRiskGateConfig contract)).exec (m, .explaining)
    [⟨x.explain.reply (McpClient.postgresReader str urls "run_explain_tool"), now⟩]

/-- The rest of `run_risk_gate`. -/
def gatePolicy (contract : Ref) (m : Memory) (cost : Py.Float) (now : Time)
    (x : Exchanges cfg.toRiskGateConfig) : Option (Memory × RiskGateAt) :=
  (Resumed.machine (RiskGate.runRiskGate cfg.toRiskGateConfig contract)).exec
    (m, .evaluating cost)
    [⟨x.policy.reply (McpClient.policyStore str urls "evaluate_rules"), now⟩]

/-- The failures are contained: `call` raises `MCPCallError` at each of them, `run_audit`
returns, and `run_risk_gate` returns with the defaults for the calls that failed. -/
structure Contained (approvalId : String) (manifest : Py.Dict) (contract : Ref) (m : Memory)
    (now : Time) (x : Exchanges cfg.toRiskGateConfig) : Prop where
  call_raises : ∀ t hfailed, .fails t hfailed ∈ x.all → ∀ baseUrl tool timeout,
    ∃ message, McpClient.call str baseUrl tool timeout t = .mcpCallError message
  audit_returns : ∃ m',
    x.audit str urls approvalId manifest contract m now = some (m', .syncContract)
  gate_returns : ∃ cost m', x.gateExplain str urls contract m now = some (m, .evaluating cost) ∧
    (x.explain.IsFailure → cost = .finite 999999) ∧
    x.gatePolicy str urls contract m cost now = some (m', .returned) ∧
    (x.policy.IsFailure → (m'.contracts contract).policyViolations = [])

variable {str urls} {approvalId : String} {manifest : Py.Dict} {contract : Ref} {m : Memory}
  {now : Time}

/-- The audit returns exactly when both its failures, if any, are reported. -/
theorem audit_returns_iff (x : Exchanges cfg.toRiskGateConfig) :
    (∃ m', x.audit str urls approvalId manifest contract m now = some (m', .syncContract)) ↔
      x.auditLogger.Reported ∧ x.memoryStore.Reported := by
  have hlogger : x.auditLogger.reply
      (McpClient.auditLogger str urls (auditTool (m.contracts contract))) = .otherError ↔
      ¬ x.auditLogger.Reported := Exchange.reply_eq_otherError_iff
  have hstore : x.memoryStore.reply (McpClient.memoryStore str urls "store_operation") =
      .otherError ↔ ¬ x.memoryStore.Reported := Exchange.reply_eq_otherError_iff
  unfold audit
  -- only whether a reply is another exception matters from here on
  generalize x.auditLogger.reply _ = logged at hlogger ⊢
  generalize x.memoryStore.reply _ = remembered at hstore ⊢
  cases logged with
  | otherError =>
    constructor
    · rintro ⟨m', hrun⟩
      cases hrun
    · rintro ⟨hreported, -⟩
      exact absurd hreported (hlogger.mp rfl)
  -- `run_audit` logs an `MCPCallError` and goes on to the second call
  | result _ | mcpCallError _ =>
    have hlogged : x.auditLogger.Reported := not_not.mp fun hnot => nomatch hlogger.mpr hnot
    cases remembered with
    | otherError =>
      constructor
      · rintro ⟨m', hrun⟩
        cases hrun
      · rintro ⟨-, hreported⟩
        exact absurd hreported (hstore.mp rfl)
    | result _ | mcpCallError _ =>
      have hremembered : x.memoryStore.Reported :=
        not_not.mp fun hnot => nomatch hstore.mpr hnot
      exact ⟨fun _ => ⟨hlogged, hremembered⟩, fun _ => ⟨_, rfl⟩⟩

/-- The gate goes on after an EXPLAIN that was answered or whose failure is reported. -/
theorem gateExplain_of_reported (x : Exchanges cfg.toRiskGateConfig)
    (hreported : x.explain.Reported) :
    ∃ cost, x.gateExplain str urls contract m now = some (m, .evaluating cost) ∧
      (x.explain.IsFailure → cost = .finite 999999) := by
  unfold gateExplain
  cases hx : x.explain with
  | fails t hfailed =>
    obtain ⟨message, hcall⟩ : ∃ message,
        McpClient.postgresReader str urls "run_explain_tool" t = .mcpCallError message :=
      McpClient.call_of_reported (hreported t hfailed hx)
    refine ⟨.finite 999999, ?_, fun _ => rfl⟩
    rw [Exchange.reply_fails, hcall]
    rfl
  | answers value =>
    obtain ⟨cost, hcost⟩ := Option.isSome_iff_exists.mp (x.explain_readable value hx)
    refine ⟨cost, ?_, fun ⟨_, _, h⟩ => nomatch h⟩
    simp only [Machine.exec_cons, Machine.exec_nil, Resumed.machine, RiskGate.runRiskGate,
      Exchange.reply_answers, hcost, Option.map_some, Option.bind_some]

/-- The gate returns after a policy call that was answered or whose failure is reported. -/
theorem gatePolicy_of_reported (x : Exchanges cfg.toRiskGateConfig) (cost : Py.Float)
    (hreported : x.policy.Reported) :
    ∃ m', x.gatePolicy str urls contract m cost now = some (m', .returned) ∧
      (x.policy.IsFailure → (m'.contracts contract).policyViolations = []) := by
  unfold gatePolicy
  cases hx : x.policy with
  | fails t hfailed =>
    obtain ⟨message, hcall⟩ : ∃ message,
        McpClient.policyStore str urls "evaluate_rules" t = .mcpCallError message :=
      McpClient.call_of_reported (hreported t hfailed hx)
    obtain ⟨c, happly, hviolations⟩ :=
      RiskGate.applyPolicyResult_safeDefaults cost now (m.contracts contract)
    refine ⟨m.modifyContract contract fun _ => c, ?_, fun _ => ?_⟩
    -- the safe defaults take the place of the result
    · rw [Exchange.reply_fails, hcall]
      simp only [Machine.exec_cons, Machine.exec_nil, Resumed.machine, RiskGate.runRiskGate,
        RiskGate.runRiskGate.apply, happly, Option.map_some, Option.bind_some]
    · simpa [Memory.modifyContract] using hviolations
  | answers value =>
    obtain ⟨policy, violations, hdict, hread⟩ := x.policy_readable value hx
    obtain ⟨c, happly, -⟩ :=
      RiskGate.applyPolicyResult_of_readable hdict hread cost now (m.contracts contract)
    refine ⟨m.modifyContract contract fun _ => c, ?_, ?_⟩
    · simp only [Machine.exec_cons, Machine.exec_nil, Resumed.machine, RiskGate.runRiskGate,
        RiskGate.runRiskGate.apply, Exchange.reply_answers, happly, Option.map_some,
        Option.bind_some]
    · rintro ⟨t, hfailed, h⟩
      cases h

/-- The failures are contained exactly when each of them is a timeout or an error status. -/
theorem contained_iff (cfg : PipelineConfig) (str : Py.Json → String)
    (urls : McpClient.ServiceUrls) (approvalId : String) (manifest : Py.Dict) (contract : Ref)
    (m : Memory) (now : Time) (x : Exchanges cfg.toRiskGateConfig) :
    x.Contained str urls approvalId manifest contract m now ↔
      ∀ exchange ∈ x.all, exchange.Reported := by
  constructor
  · rintro ⟨hcall, -, -⟩ exchange hmem t hfailed rfl
    -- an exchange that is not reported makes `call` raise something else
    by_contra hnot
    obtain ⟨message, hraised⟩ := hcall t hfailed hmem "" "" .nan
    rw [McpClient.call_of_not_reported hfailed hnot] at hraised
    cases hraised
  · intro hreported
    have hexplain : x.explain.Reported := hreported _ (by simp [all])
    have hpolicy : x.policy.Reported := hreported _ (by simp [all])
    have hlogger : x.auditLogger.Reported := hreported _ (by simp [all])
    have hstore : x.memoryStore.Reported := hreported _ (by simp [all])
    constructor
    · intro t hfailed hmem baseUrl tool timeout
      exact McpClient.call_of_reported (hreported _ hmem t hfailed rfl)
    · exact x.audit_returns_iff.mpr ⟨hlogger, hstore⟩
    · obtain ⟨cost, hcost, hdefault⟩ := x.gateExplain_of_reported hexplain
      obtain ⟨m', hreturned, hnone⟩ := x.gatePolicy_of_reported cost hpolicy
      exact ⟨cost, m', hcost, hdefault, hreturned, hnone⟩

/-- A refused connection to the EXPLAIN server, in a pipeline whose other calls are answered. -/
def explainRefused (cfg : RiskGateConfig) : Exchanges cfg where
  explain := .fails .connectionError .connectionError
  policy := .answers RiskGate.safeDefaults
  auditLogger := .answers .null
  memoryStore := .answers .null
  explain_readable := fun _ h => nomatch h
  policy_readable := by
    rintro value ⟨⟩
    exact ⟨_, [], rfl, rfl⟩

/-- The refused connection ends the gate with another exception. -/
theorem explainRefused_raises :
    ¬ ∀ (cfg : PipelineConfig) (str : Py.Json → String) (urls : McpClient.ServiceUrls)
      (approvalId : String) (manifest : Py.Dict) (contract : Ref) (m : Memory) (now : Time)
      (x : Exchanges cfg.toRiskGateConfig),
      x.Contained str urls approvalId manifest contract m now := by
  intro hall
  obtain ⟨cost, m', hexplain, -⟩ :=
    (hall Gateway.sampleConfig (fun _ => "") {} "cg_1" [] 0 sampleMemory 0
      (explainRefused _)).gate_returns
  cases hexplain

end Exchanges
