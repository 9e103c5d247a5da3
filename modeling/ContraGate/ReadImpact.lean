import Mathlib.Tactic.NormNum
import ContraGate.GateCalls
import ContraGate.McpFailures
import ContraGate.PostgresReader
import ContraGate.QuickCheck

/-!
# The Read Impact Gate from end to end

Both gates call a tool `run_explain_tool`. The reader has registered this function as
`run_explain`, so every EXPLAIN call is answered with an error status, and both gates use the
values for an unavailable EXPLAIN whatever the plan is.
-/

/-- A failed exchange gives the quick gate nothing. -/
theorem QuickCheck.resultOf_of_reported {t : Transport} (hreported : t.Reported) :
    QuickCheck.resultOf t = none := by
  unfold QuickCheck.resultOf
  split
  · have hstatus : 400 ≤ 200 := hreported.1
    omega
  · rfl

namespace PostgresReader

variable {Db : Type} (reader : PostgresReader Db)

/-- The HTTP exchange of a call to this server. -/
def exchange (apiKey tool : String) (arguments : Py.Dict) : Transport :=
  .response (reader.server.callTool apiKey tool arguments)

variable {reader}

/-- Called by its registered name, with the statement alone, the tool returns the numbers of
the plan. -/
theorem runExplainTool_of_hasPlan {sql : String} {c : ℚ} {n : ℕ} {result : ExplainResult}
    (hplan : reader.HasPlan sql c n) (haccepts : ExplainParser.accepts sql = true)
    (hresult : reader.runExplainTool [("sql", .str sql)] = .ok result) :
    result.totalCost = .finite c ∧ result.estimatedRows = n := by
  obtain ⟨conn, db, plan, hconn, hexecute, hcost, hrows⟩ := hplan
  -- the text that is executed, the row it gives, and the fields that are read from it
  have htarget : ExplainParser.explainText sql false =
      .ok ("EXPLAIN (FORMAT JSON) " ++ sql) := by
    unfold ExplainParser.accepts at haccepts
    unfold ExplainParser.explainText
    cases hvalid : ExplainParser.validateExplainTarget sql with
    | error e =>
      rw [hvalid] at haccepts
      cases haccepts
    | ok u =>
      show Except.ok (ExplainParser.explainPrefix false ++ " " ++ sql) = _
      congr 2
  have hrow : (ExplainParser.runExplain conn sql false reader.db).2 =
      .ok (.tuple [.arr [.obj [("Plan", .obj plan)]]]) := by
    unfold ExplainParser.runExplain
    simp only [htarget, hexecute]
  have hbind : Py.bindKeywords [("sql", none), ("analyze", some (.bool false))]
      [("sql", .str sql)] = .ok [.str sql, .bool false] := by rfl
  have hfields : ExplainParser.readFields reader.texts [("Plan", .obj plan)] plan = .ok result := by
    unfold runExplainTool at hresult
    rw [hbind, hconn] at hresult
    simp only [runExplain, List.getD_cons_zero, List.getD_cons_succ, Py.Json.truthy, hrow,
      ExplainParser.planColumn, List.head?_cons, readPlan, ExplainParser.parseExplainJson,
      ExplainParser.parsePlanElement, Py.Dict.get, List.lookup_cons_self,
      Option.getD_some] at hresult
    cases hread : ExplainParser.readFields reader.texts [("Plan", .obj plan)] plan with
    | error e =>
      rw [hread] at hresult
      cases hresult
    | ok value =>
      rw [hread] at hresult
      cases hresult
      rfl
  exact ExplainParser.readFields_numbers hfields hcost hrows

/-- Under the name that the gates use there is no tool: the status is 401 or 404. -/
theorem exchange_run_explain_tool (apiKey : String) (arguments : Py.Dict) :
    (reader.exchange apiKey "run_explain_tool" arguments).Reported := by
  show 400 ≤ (reader.server.callTool apiKey "run_explain_tool" arguments).statusCode ∧
    (reader.server.callTool apiKey "run_explain_tool" arguments).statusCode ≤ 599
  unfold McpServer.callTool
  split
  · show 400 ≤ 401 ∧ 401 ≤ 599
    omega
  · show 400 ≤ 404 ∧ 404 ≤ 599
    omega

variable (reader) (str : Py.Json → String) (urls : McpClient.ServiceUrls) (apiKey : String)

/-- What the orchestrator sees of a call to this server. -/
def reply (tool : String) (arguments : Py.Dict) : TargetReply :=
  McpClient.postgresReader str urls tool (reader.exchange apiKey tool arguments)

/-- The quick gate, with this server as its postgres-reader. -/
def quickCheckOn (cfg : QuickCheck) : QuickCheck :=
  { cfg with services := { cfg.services with postgresReader := reader.exchange apiKey } }

/-- Both gates compute the numbers of the plan that PostgreSQL has for the statement. -/
def ReadsPlan (cfg : QuickCheck) (servers : GateServers) (contract : HandoffContract)
    (operationType sourceType tenantId : String) (hour : ℤ) : Prop :=
  ∀ c n, reader.HasPlan contract.rawSql c n →
    RiskGate.explainOutcome cfg.texts
      (RiskGate.explainReply { servers with postgresReader := reader.reply str urls apiKey }
        contract) = some { totalCost := .finite c, estimatedRows := n } ∧
    (QuickCheck.quickCheck (reader.quickCheckOn apiKey cfg) contract.rawSql operationType
      sourceType tenantId hour).explainCost = .finite c ∧
    (QuickCheck.quickCheck (reader.quickCheckOn apiKey cfg) contract.rawSql operationType
      sourceType tenantId hour).explainRows = n

variable {reader str urls apiKey}

/-- What the orchestrator's gate computes. -/
theorem explainOutcome_reply (texts : Py.NumberText) (servers : GateServers)
    (contract : HandoffContract) :
    RiskGate.explainOutcome texts
      (RiskGate.explainReply { servers with postgresReader := reader.reply str urls apiKey }
        contract) = some { totalCost := .finite 999999, estimatedRows := 0 } := by
  unfold RiskGate.explainReply reply McpClient.postgresReader
  dsimp only
  obtain ⟨message, hcall⟩ : ∃ message, McpClient.call str urls.postgresReader "run_explain_tool"
      (.finite 10) (reader.exchange apiKey "run_explain_tool"
        (RiskGate.explainArguments contract)) = .mcpCallError message :=
    McpClient.call_of_reported (reader.exchange_run_explain_tool apiKey _)
  rw [hcall]
  rfl

/-- What the quick gate computes. -/
theorem readImpact_quickCheckOn (cfg : QuickCheck) (sql tenantId : String) :
    QuickCheck.readImpact (reader.quickCheckOn apiKey cfg) sql tenantId =
      { totalCost := .finite 999999, estimatedRows := 0 } := by
  unfold QuickCheck.readImpact
  dsimp only
  split
  · rfl
  · have hresult := QuickCheck.resultOf_of_reported (reader.exchange_run_explain_tool apiKey
      [("sql", .str (QuickCheck.explainPrefix ++ QuickCheck.cleanSql sql)),
       ("tenant_id", .str tenantId)])
    unfold quickCheckOn
    dsimp only
    rw [hresult]
    rfl

/-- The gates compute the numbers of the plan exactly when these happen to be the values for
an unavailable EXPLAIN. -/
theorem readsPlan_iff (reader : PostgresReader Db) (str : Py.Json → String)
    (urls : McpClient.ServiceUrls) (apiKey : String) (cfg : QuickCheck) (servers : GateServers)
    (contract : HandoffContract) (operationType sourceType tenantId : String) (hour : ℤ) :
    reader.ReadsPlan str urls apiKey cfg servers contract operationType sourceType tenantId hour ↔
      ∀ c n, reader.HasPlan contract.rawSql c n → c = 999999 ∧ n = 0 := by
  unfold ReadsPlan
  refine forall_congr' fun c => forall_congr' fun n => imp_congr_right fun _ => ?_
  rw [explainOutcome_reply]
  unfold QuickCheck.quickCheck
  simp only [QuickCheck.route_explainCost, QuickCheck.route_explainRows, readImpact_quickCheckOn]
  constructor
  · rintro ⟨-, hcost, hrows⟩
    have hc : (999999 : ℚ) = c := Py.Float.finite.inj hcost
    refine ⟨hc.symm, ?_⟩
    omega
  · rintro ⟨rfl, rfl⟩
    exact ⟨rfl, rfl, rfl⟩

/-! ## A plan that is not read -/

/-- A reader whose database has one plan for every text. -/
def sampleReader : PostgresReader Unit where
  useMockAuth := true
  validKey := ""
  getConn := .ok { execute := fun _ db =>
    (db, .ok (some (.tuple [.arr [.obj [("Plan", .obj
      [("Node Type", .str "Seq Scan"), ("Startup Cost", .float (.finite 0)),
       ("Total Cost", .float (.finite (71 / 2))), ("Plan Rows", .int 2550)])]]]))) }
  db := ()
  texts := ⟨fun _ => none, fun _ => none⟩
  loads _ := none
  errorText _ := ""
  getTableSchema _ := .returned (.obj [])
  estimateRowCount _ := .returned (.obj [])
  getFkGraph _ := .returned (.obj [])
  listTriggers _ := .returned (.obj [])
  checkSoftDelete _ := .returned (.obj [])
  getPiiTags _ := .returned (.obj [])

/-- The reader has a plan for the statement, and the gates do not compute its numbers. -/
theorem sampleReader_unread :
    ¬ ∀ (str : Py.Json → String) (urls : McpClient.ServiceUrls) (apiKey : String)
      (cfg : QuickCheck) (servers : GateServers) (contract : HandoffContract)
      (operationType sourceType tenantId : String) (hour : ℤ),
      sampleReader.ReadsPlan str urls apiKey cfg servers contract operationType sourceType
        tenantId hour := by
  intro hall
  have hplan : sampleReader.HasPlan "SELECT * FROM t" (71 / 2) 2550 :=
    ⟨_, (), _, rfl, rfl, rfl, rfl⟩
  obtain ⟨hgate, -⟩ := hall (fun _ => "") {} "dev-mcp-key"
    { texts := ⟨fun _ => none, fun _ => none⟩
      services := ⟨fun _ _ => .timeout, fun _ _ => .timeout⟩, wide := fun _ => false }
    ⟨fun _ _ => .otherError, fun _ _ => .otherError⟩
    { operationId := "cg_00000001", tenantId := "demo_tenant", submittedBy := "agent"
      sourceType := .internalSystem, submissionTimestamp := 0, rawSql := "SELECT * FROM t" }
    "SELECT" "internal_system" "demo_tenant" 12 _ _ hplan
  rw [explainOutcome_reply, Option.some.injEq, ExplainSummary.mk.injEq] at hgate
  have hcost : (999999 : ℚ) = 71 / 2 := Py.Float.finite.inj hgate.1
  norm_num at hcost

end PostgresReader
