import ContraGate.Classifiers
import ContraGate.ExplainResult
import ContraGate.ExtractTables
import ContraGate.PolicyRules

/-!
# The calls of RISK_GATE (`orchestrator/states/risk_gate.py`)

The arguments that `run_risk_gate` sends, and the gate on servers that answer them.
-/

/-- What the callers of the two servers see, by tool and arguments. -/
structure GateServers where
  postgresReader : String → Py.Dict → TargetReply
  policyStore : String → Py.Dict → TargetReply

namespace RiskGate

variable (texts : Py.NumberText) (letters : Py.CaseMap) (wide : Char → Bool)

/-- `_explain_sql`. -/
def explainSql (rawSql : String) : String :=
  "EXPLAIN (FORMAT JSON) " ++ String.ofList (Py.rstrip ';' (Py.strip rawSql.toList))

/-- The arguments of the EXPLAIN call. -/
def explainArguments (c : HandoffContract) : Py.Dict :=
  [("sql", .str (explainSql c.rawSql)), ("tenant_id", .str c.tenantId)]

/-- The arguments of the policy call. -/
def policyArguments (c : HandoffContract) (explain : ExplainSummary) (hour : ℤ) :
    PolicyArguments where
  operationType := c.operationType.value
  tables := extractTables letters wide c.rawSql
  estimatedRows := explain.estimatedRows
  sourceType := c.sourceType.value
  hasExternalTriggers := false
  submissionHour := hour
  explainCost := explain.totalCost

/-- The reply to the EXPLAIN call. -/
def explainReply (servers : GateServers) (c : HandoffContract) : TargetReply :=
  servers.postgresReader "run_explain_tool" (explainArguments c)

/-- The reply to the policy call. -/
def policyReply (servers : GateServers) (hour : ℤ) (c : HandoffContract)
    (explain : ExplainSummary) : TargetReply :=
  servers.policyStore "evaluate_rules"
    ((policyArguments letters wide c explain hour).toDict c.tenantId)

/-- `run_risk_gate` on these servers, at this hour. -/
def gateOn (servers : GateServers) (hour : ℤ) (now : Time) (c : HandoffContract) :
    Option HandoffContract := do
  let explain ← explainOutcome texts (explainReply servers c)
  let policyResult ← policyOutcome (policyReply letters wide servers hour c explain)
  applyPolicyResult explain.totalCost policyResult now c

/-- The gate on servers is the gate on their replies. -/
theorem gateOn_eq_gate {servers : GateServers} {c : HandoffContract} {explain : ExplainSummary}
    (hexplain : explainOutcome texts (explainReply servers c) = some explain) (hour : ℤ)
    (now : Time) :
    gateOn texts letters wide servers hour now c =
      gate texts (explainReply servers c) (policyReply letters wide servers hour c explain) now
        c := by
  unfold gateOn gate
  rw [hexplain]
  rfl

/-- On servers, the coroutine returns exactly when `gateOn` has a result, and with that
contract. -/
theorem exec_eq_returned_gateOn {servers : GateServers} {contract : Ref} {m m' : Memory}
    {hour : ℤ} {now now' : Time} :
    (∃ explain, explainOutcome texts (explainReply servers (m.contracts contract)) = some explain ∧
      (Resumed.machine (runRiskGate (explainConfig texts) contract)).exec (m, .explaining)
        [⟨explainReply servers (m.contracts contract), now⟩,
         ⟨policyReply letters wide servers hour (m.contracts contract) explain, now'⟩] =
        some (m', .returned)) ↔
      ∃ c, gateOn texts letters wide servers hour now' (m.contracts contract) = some c ∧
        m' = m.modifyContract contract fun _ => c := by
  constructor
  · rintro ⟨explain, hexplain, hrun⟩
    rw [gateOn_eq_gate texts letters wide hexplain]
    exact exec_eq_returned.mp hrun
  · rintro ⟨c, hgate, hm'⟩
    have hsome : ∃ explain,
        explainOutcome texts (explainReply servers (m.contracts contract)) = some explain := by
      unfold gateOn at hgate
      obtain ⟨explain, hexplain, -⟩ := Option.bind_eq_some_iff.mp hgate
      exact ⟨explain, hexplain⟩
    obtain ⟨explain, hexplain⟩ := hsome
    rw [gateOn_eq_gate texts letters wide hexplain] at hgate
    exact ⟨explain, hexplain, exec_eq_returned.mpr ⟨c, hgate, hm'⟩⟩

end RiskGate
