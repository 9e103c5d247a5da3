import ContraGate.Interception
import ContraGate.QuickCheck

/-!
# What the proxy executes at once

`intercept_tool_call` forwards a statement without any review when `quick_check` says
`auto_execute`. Every exception on the way leaves the conservative defaults in place: a cost of
999,999 and no violation. So with a threshold not above that cost the fast path needs a reply that
states a cost, for a text without a semicolon inside.
-/

namespace QuickCheck

variable (cfg : QuickCheck)

/-! ## The call -/

/-- How the EXPLAIN exchange ends. -/
def explainReply (sql tenantId : String) : Transport :=
  cfg.services.postgresReader "run_explain_tool"
    [("sql", .str (explainPrefix ++ cleanSql sql)), ("tenant_id", .str tenantId)]

/-- How the policy exchange ends. -/
def policyReply (sql operationType sourceType tenantId : String) (hour : ℤ) : Transport :=
  cfg.services.policyStore "evaluate_rules"
    ((policyArguments operationType sourceType hour (readImpact cfg sql tenantId)).toDict tenantId)

/-- `gate_result` of `intercept_tool_call`. -/
def gateResult (manifest : ToolCallManifest) (hour : ℤ) : RiskGateResult :=
  quickCheck cfg manifest.sql (manifest.opType cfg.wide) manifest.sourceType manifest.tenantId hour

/-! ## What is safe to execute -/

/-- All semicolons are in one run, with only white space behind it. -/
def SingleStatement (sql : List Char) : Prop :=
  ∃ (statement space : List Char) (k : ℕ), sql = statement ++ List.replicate k ';' ++ space ∧
    ';' ∉ statement ∧ space.all Py.isSpace = true

/-- The exchange ended with status 200 and a plan whose cost is below the threshold. -/
def AffordablePlan (reply : Transport) : Prop :=
  ∃ (body plan : Py.Dict) (value : Py.Json) (cost : Py.Float),
    reply = .response { statusCode := 200, body := .json (.obj body) } ∧
    planOf (body.getD "result" (.obj [])) = some plan ∧ RiskGate.statedCost plan = some value ∧
    value.toFloat cfg.texts = .ok cost ∧ cost.lt cfg.explainCostThreshold = true

/-- The exchange did not end with status 200 and a result that reports a hard violation. -/
def NoViolation (reply : Transport) : Prop :=
  ∀ body policy : Py.Dict, reply = .response { statusCode := 200, body := .json (.obj body) } →
    body.getD "result" (.obj []) = .obj policy →
    (policy.getD "has_hard_violation" (.bool false)).truthy = false

/-- What the fast path promises of a manifest. -/
structure SafeToExecute (manifest : ToolCallManifest) (hour : ℤ) : Prop where
  keyword : Classifiers.firstKeyword cfg.wide manifest.sql = "SELECT".toList
  single : SingleStatement manifest.sql.toList
  source : manifest.sourceType = "internal_system"
  plan : AffordablePlan cfg (explainReply cfg manifest.sql manifest.tenantId)
  policy : NoViolation (policyReply cfg manifest.sql (manifest.opType cfg.wide)
    manifest.sourceType manifest.tenantId hour)

variable {cfg} {sql tenantId : String}

/-! ## The text -/

/-- A text whose cleaned form has no semicolon. -/
theorem singleStatement_of_cleanSql (h : ';' ∉ (cleanSql sql).toList) :
    SingleStatement sql.toList := by
  unfold cleanSql at h
  rw [String.toList_ofList, Py.mem_strip_iff (by decide)] at h
  -- white space, the statement, a run of semicolons, white space
  have hfront := List.takeWhile_append_dropWhile (p := Py.isSpace) (l := sql.toList)
  have hback := List.rdropWhile_append_rtakeWhile (p := Py.isSpace)
    (l := sql.toList.dropWhile Py.isSpace)
  have hrun := List.rdropWhile_append_rtakeWhile (p := (· == ';')) (l := Py.strip sql.toList)
  have hreplicate : (Py.strip sql.toList).rtakeWhile (· == ';') =
      List.replicate ((Py.strip sql.toList).rtakeWhile (· == ';')).length ';' :=
    List.eq_replicate_of_mem fun c hc => by simpa using List.mem_rtakeWhile_imp hc
  refine ⟨sql.toList.takeWhile Py.isSpace ++ Py.rstrip ';' (Py.strip sql.toList),
    (sql.toList.dropWhile Py.isSpace).rtakeWhile Py.isSpace,
    ((Py.strip sql.toList).rtakeWhile (· == ';')).length, ?_, ?_, ?_⟩
  · rw [← hreplicate]
    unfold Py.rstrip
    rw [List.append_assoc, List.append_assoc, ← List.append_assoc (List.rdropWhile _ _), hrun]
    unfold Py.strip
    rw [hback, hfront]
  · intro hmem
    rcases List.mem_append.mp hmem with hspace | hstatement
    · have hspace := List.mem_takeWhile_imp hspace
      revert hspace
      decide
    · exact h hstatement
  · exact List.all_eq_true.mpr fun c hc => List.mem_rtakeWhile_imp hc

/-! ## The replies -/

theorem resultOf_eq_some_iff {reply : Transport} {data : Py.Json} :
    resultOf reply = some data ↔ ∃ body : Py.Dict,
      reply = .response { statusCode := 200, body := .json (.obj body) } ∧
        body.getD "result" (.obj []) = data := by
  constructor
  · intro h
    unfold resultOf at h
    split at h
    · exact ⟨_, rfl, Option.some.inj h⟩
    · cases h
  · rintro ⟨body, rfl, rfl⟩
    rfl

/-- The assumed cost is not below the threshold. -/
theorem assumed_not_lt (hthreshold : (Py.Float.finite 999999).ge cfg.explainCostThreshold = true) :
    (Py.Float.finite 999999).lt cfg.explainCostThreshold = false := by
  revert hthreshold
  cases cfg.explainCostThreshold with
  | nan => exact fun _ => rfl
  | inf negative => cases negative <;> decide
  | finite q => simp [Py.Float.ge]

/-- A cost below the threshold is one that the plan states. -/
theorem affordablePlan_of_lt
    (hthreshold : (Py.Float.finite 999999).ge cfg.explainCostThreshold = true)
    (h : (readImpact cfg sql tenantId).totalCost.lt cfg.explainCostThreshold = true) :
    ';' ∉ (cleanSql sql).toList ∧ AffordablePlan cfg (explainReply cfg sql tenantId) := by
  have hassumed := assumed_not_lt hthreshold
  unfold readImpact at h
  dsimp only at h
  split at h
  · rw [unavailable, hassumed] at h
    cases h
  · rename_i hclean
    refine ⟨hclean, ?_⟩
    rw [← explainReply] at h
    split at h
    · rename_i data hdata
      obtain ⟨body, hreply, rfl⟩ := resultOf_eq_some_iff.mp hdata
      unfold readExplain at h
      split at h
      · rw [unavailable, hassumed] at h
        cases h
      · rename_i plan hplan
        split at h
        · rw [unavailable, hassumed] at h
          cases h
        · rename_i cost hcost
          have hlow : cost.lt cfg.explainCostThreshold = true := by
            split at h <;> exact h
          -- the default is read as the assumed cost
          cases hstated : RiskGate.statedCost plan with
          | none =>
            rw [hstated] at hcost
            obtain rfl := Except.ok.inj hcost
            rw [hassumed] at hlow
            cases hlow
          | some value =>
            rw [hstated] at hcost
            exact ⟨body, plan, value, cost, hreply, hplan, hstated, hcost, hlow⟩
    · rw [unavailable, hassumed] at h
      cases h

theorem noViolation_of_readPolicy {reply : Transport} (h : (readPolicy reply).1.truthy = false) :
    NoViolation reply := by
  rintro body policy rfl hresult
  unfold readPolicy at h
  rw [resultOf_eq_some_iff.mpr ⟨body, rfl, hresult⟩] at h
  exact h

/-! ## The fast path -/

/-- **What the proxy executes at once is one `SELECT` of an internal system with a stated cost
below the threshold**, whatever the two exchanges end with. -/
theorem autoExecute_safe {manifest : ToolCallManifest} {hour : ℤ}
    (hthreshold : (Py.Float.finite 999999).ge cfg.explainCostThreshold = true)
    (h : (gateResult cfg manifest hour).routing = .autoExecute) :
    SafeToExecute cfg manifest hour := by
  unfold gateResult quickCheck at h
  obtain ⟨hpolicy, hselect, -, hcost, hsource⟩ := route_autoExecute_iff.mp h
  obtain ⟨hclean, hplan⟩ := affordablePlan_of_lt hthreshold hcost
  exact ⟨Classifiers.interceptedType_select_iff.mp hselect, singleStatement_of_cleanSql hclean,
    hsource, hplan, noViolation_of_readPolicy hpolicy⟩

/-- A reader that states a cost, and a policy store that is down. -/
def cheapServices : McpServices where
  postgresReader _ _ := .response
    { statusCode := 200
      body := .json (.obj [("result",
        .obj [("Plan", .obj [("Total Cost", .float (.finite 12))])])]) }
  policyStore _ _ := .timeout

def cheapCheck : QuickCheck where
  texts := ⟨fun _ => none, fun _ => none⟩
  services := cheapServices
  wide _ := false

def selectManifest : ToolCallManifest where
  toolName := .str "query"
  sql := "SELECT id FROM users ;;"
  intent := .null
  submittedBy := "agent"
  sourceType := "internal_system"
  tenantId := "demo_tenant"
  targetMcpUrl := ""

theorem autoExecute_safe_select : SafeToExecute cheapCheck selectManifest 12 :=
  autoExecute_safe (by decide) (by decide)

end QuickCheck
