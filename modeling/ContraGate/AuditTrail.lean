import Mathlib.Tactic.SplitIfs
import ContraGate.AuditLog
import ContraGate.ContractJson
import ContraGate.Gateway
import ContraGate.McpClient
import ContraGate.MemoryStore
import ContraGate.TenantIsolation
import ContraGate.Library.PyCall
import ContraGate.Library.PyNumber

/-!
# The audit trail (`run_audit` in `orchestrator/states/audit.py`)

`run_audit` has two servers record an operation: the audit logger is to append a row and the memory
store to remember the operation with its outcome. The servers call a tool with the entries of the
payload as keyword arguments, so a payload whose keys are not the parameters of the tool is refused
with a `TypeError`, and what the client makes of that is only logged. Both payloads are refused,
whatever the contract: `log_execution` and `log_auto_reject` have no `tenant_id`, and
`store_operation` has no `raw_sql`. Nor are all the outcomes that are sent known to the memory
store.
-/

open Py

/-! ## Servers whose tools work on a state -/

/-- A Python function that is registered as a tool. -/
structure PythonTool (σ : Type) where
  name : String
  /-- The parameters, with their defaults. -/
  parameters : List (String × Option Json)
  /-- A call with the values of the parameters. -/
  run : σ → List Json → σ × ToolOutcome

/-- `tool_fn(**arguments)`. -/
def PythonTool.call {σ : Type} (tool : PythonTool σ) (s : σ) (arguments : Dict) : σ × ToolOutcome :=
  match bindKeywords tool.parameters arguments with
  | .ok values => tool.run s values
  | .error (.unexpected name) =>
    (s, .raised s!"{tool.name}() got an unexpected keyword argument '{name}'")
  | .error (.missing names) =>
    (s, .raised s!"{tool.name}() missing {names.length} required positional arguments")

/-- `call_tool`, as in `McpServer.callTool`. -/
def AuthConfig.callTool {σ : Type} (auth : AuthConfig) (serverName : String)
    (tools : List (PythonTool σ)) (s : σ) (apiKey tool : String) (arguments : Dict) :
    σ × HttpResponse :=
  if !auth.validateApiKey apiKey then
    (s, McpServer.httpException 401 "Invalid or missing API key")
  else
    match tools.find? (·.name == tool) with
    | none =>
      (s, McpServer.httpException 404 s!"Tool '{tool}' not found on server '{serverName}'")
    | some toolFn => (toolFn.call s arguments).map id McpServer.respond

section Refused

variable {σ : Type} {s : σ} {arguments : Dict} {name : String}

theorem PythonTool.call_of_unexpected {tool : PythonTool σ} (hgiven : name ∈ arguments.map (·.1))
    (hnone : name ∉ tool.parameters.map (·.1)) :
    ∃ message, tool.call s arguments = (s, .raised message) := by
  obtain ⟨refused, hbind⟩ := bindKeywords_of_unexpected hgiven hnone
  unfold call
  rw [hbind]
  exact ⟨_, rfl⟩

/-- Tools that lack a parameter leave the state as it is, and the response is an error. -/
theorem AuthConfig.callTool_of_unexpected (auth : AuthConfig) (serverName apiKey tool : String)
    {tools : List (PythonTool σ)} (hgiven : name ∈ arguments.map (·.1))
    (hnone : ∀ t ∈ tools, name ∉ t.parameters.map (·.1)) :
    ∃ status detail, 400 ≤ status ∧ auth.callTool serverName tools s apiKey tool arguments =
      (s, McpServer.httpException status detail) := by
  unfold callTool
  split_ifs with hauth
  · exact ⟨401, _, by decide, rfl⟩
  · cases hfind : tools.find? (·.name == tool) with
    | none => exact ⟨404, _, by decide, rfl⟩
    | some toolFn =>
      obtain ⟨message, hcall⟩ :=
        @PythonTool.call_of_unexpected _ s _ _ _ hgiven (hnone _ (List.mem_of_find?_eq_some hfind))
      refine ⟨500, message, by decide, ?_⟩
      dsimp only
      rw [hcall]
      rfl

/-- The client raises an `MCPCallError` for an error. -/
theorem McpClient.call_httpException (str : Json → String) (baseUrl tool : String)
    (timeout : Py.Float) {status : ℕ} (detail : String) (h : 400 ≤ status) :
    ∃ message, call str baseUrl tool timeout (.response (McpServer.httpException status detail)) =
      .mcpCallError message := by
  refine ⟨_, if_neg ?_⟩
  show ¬ (200 ≤ status ∧ status ≤ 299)
  omega

end Refused

namespace AuditLog.LogTool

variable {F : Type}

/-- A tool that writes, as a Python function. -/
def toPythonTool (cfg : AuditConfig F) (read : Json → JsonData F) (recordId : String) (now : Time)
    (tool : LogTool) : PythonTool AuditTable where
  name := tool.name
  parameters := tool.parameters.map (·, none)
  run table values :=
    let written :=
      match tool.agent, values with
      | true, .str operationId :: .str agentName :: values =>
        tool.call cfg table recordId now operationId agentName (values.map read)
      | false, .str operationId :: values =>
        tool.call cfg table recordId now operationId "" (values.map read)
      | _, _ => none
    match written with
    | some (table, reply) =>
      (table, .returned (.obj [("logged", .bool reply.logged), ("record_id", .str reply.recordId),
        ("checksum", .str reply.checksum)]))
    | none => (table, .raised "the row is refused")

end AuditLog.LogTool

namespace StoreArguments

/-- A value that may be `None`. -/
def optional {α : Type} (read : Json → Option α) : Json → Option (Option α)
  | .null => some none
  | value => (read value).map some

def int? : Json → Option ℤ
  | .int n => some n
  | _ => none

def numbers? : Json → Option (List Py.Float)
  | .arr items => items.mapM (·.number?)
  | _ => none

/-- The parameters of `store_operation`. -/
def parameters : List (String × Option Json) :=
  [("operation_id", none), ("tenant_id", none), ("intent_summary", none), ("affected_tables", none),
   ("operation_type", none), ("estimated_rows", none), ("outcome", none), ("decision_reason", none),
   ("actual_rows", some .null), ("blast_radius_delta", some .null),
   ("reanalysis_count", some (.int 0)), ("embedding", some .null)]

/-- The values of the parameters, when they have the types that are declared. -/
def ofValues : List Json → Option StoreArguments
  | [.str operationId, .str tenantId, .str intentSummary, .arr affectedTables, .str operationType,
      .int estimatedRows, .str outcome, .str decisionReason, actualRows, blastRadiusDelta,
      .int reanalysisCount, embedding] => do
    let affectedTables ← affectedTables.mapM (·.str?)
    let actualRows ← optional int? actualRows
    let blastRadiusDelta ← optional (·.number?) blastRadiusDelta
    let embedding ← optional numbers? embedding
    some { operationId, tenantId, intentSummary, affectedTables, operationType, estimatedRows
           outcome, decisionReason, actualRows, blastRadiusDelta, reanalysisCount, embedding }
  | _ => none

end StoreArguments

/-- What the server makes of the end of a tool. -/
def MemoryReply.toOutcome : MemoryReply → ToolOutcome
  | returned value => .returned value
  | foreign typeName => .foreign typeName
  | raised => .raised "the statement is refused"

/-- `store_operation`, as a Python function. -/
def OperationMemory.storeOperationTool {V : Type} (cfg : MemoryServerConfig V) (now : Time) :
    PythonTool (OperationMemory V) where
  name := "store_operation"
  parameters := StoreArguments.parameters
  run s values :=
    match StoreArguments.ofValues values with
    | some arguments => (storeOperation cfg s arguments now).map id MemoryReply.toOutcome
    | none => (s, .raised "an argument has another type than declared")

/-! ## `run_audit` -/

/-- The two servers with what their libraries do, and the client. -/
structure AuditServers (F V : Type) where
  auth : AuthConfig
  apiKey : String
  urls : McpClient.ServiceUrls
  log : AuditConfig F
  memory : MemoryServerConfig V
  /-- A value of a request, as `json` reads it. -/
  read : Json → JsonData F
  /-- Python's `str` of a JSON value. -/
  str : Json → String
  /-- The id that `uuid4` draws, and the time of the calls. -/
  recordId : String
  now : Time

namespace AuditServers

variable {F V : Type} (servers : AuditServers F V)

/-- The tools of the audit logger that write. -/
def logTools : List (PythonTool AuditTable) :=
  AuditLog.logTools.map
    (AuditLog.LogTool.toPythonTool servers.log servers.read servers.recordId servers.now)

/-- The tool of the memory store that is called. -/
def memoryTools : List (PythonTool (OperationMemory V)) :=
  [OperationMemory.storeOperationTool servers.memory servers.now]

end AuditServers

/-- What the servers keep. -/
structure AuditStores (V : Type) where
  log : AuditTable
  memory : OperationMemory V

/-- How the payload is written. -/
structure AuditFormats where
  isoformat : Time → String
  /-- The text of a JSON value. -/
  dumps : Json → String

namespace Audit

/-- `_determine_outcome`. -/
def determineOutcome (c : HandoffContract) : String :=
  if c.approvalState = .autoRejected ∨ c.autoRejectTriggered.truthy = true then "AUTO_REJECTED"
  else if c.approvalState = .timedOut then "TIMED_OUT"
  else if c.approvalState = .rejected then "REJECTED"
  else if c.approvalState = .modified then "MODIFIED"
  else if c.approvalState = .approved then
    if c.executionSuccess = some true then "APPROVED_EXECUTED" else "APPROVED_EXECUTION_FAILED"
  else "UNKNOWN"

/-- A value that may be `None`, as JSON. -/
def nullable {α : Type} (encode : α → Json) : Option α → Json
  | none => .null
  | some value => encode value

/-- `_build_audit_payload`. -/
def buildAuditPayload (formats : AuditFormats) (c : HandoffContract) (outcome : String) : Dict :=
  let time (t : Time) : Json := .str (formats.isoformat t ++ "Z")
  [("operation_id", .str c.operationId),
   ("tenant_id", .str c.tenantId),
   ("outcome", .str outcome),
   ("operation_type", .str c.operationType.value),
   ("primary_table", .str c.primaryTable),
   ("risk_tier", nullable (fun tier => .str tier.value) c.riskTier),
   ("reversibility", nullable (fun r => .str r.value) c.reversibility),
   ("estimated_rows", c.estimatedPrimaryRows.toJson),
   ("actual_rows", nullable Number.toJson c.actualPrimaryRows),
   ("blast_radius_delta", nullable .float c.blastRadiusAccuracyDelta),
   ("decision", nullable .str c.humanDecision),
   ("decision_reason", nullable .str c.decisionReason),
   ("decision_timestamp", nullable time c.decisionTimestamp),
   ("execution_success", nullable .bool c.executionSuccess),
   ("execution_timestamp", nullable time c.executionTimestamp),
   ("auto_reject_reason", c.autoRejectReason),
   ("policy_violations", .arr (c.policyViolations.map ContractJson.policyViolation.encode)),
   ("historical_precedents_count", .int c.historicalPrecedents.length),
   ("provenance_entries", .int c.workflowProvenance.length),
   ("contract_json", .str (formats.dumps c.modelDumpJson))]

/-- `_extract_tables`; the set is listed in one of its orders. -/
def extractTables (c : HandoffContract) : List String :=
  ((if c.primaryTable = "" then [] else [c.primaryTable]) ++ c.cascade.map (·.table)).eraseDups

/-- The arguments of the memory write-back. -/
def memoryPayload (c : HandoffContract) (outcome : String) : Dict :=
  let intent := c.intentSummary.or (.str (String.ofList (c.rawSql.toList.take 200)))
  [("operation_id", .str c.operationId),
   ("tenant_id", .str c.tenantId),
   ("intent_summary", intent),
   ("raw_sql", .str c.rawSql),
   ("operation_type", .str c.operationType.value),
   ("primary_table", .str c.primaryTable),
   ("tables", .arr ((extractTables c).map .str)),
   ("estimated_rows", c.estimatedPrimaryRows.toJson),
   ("actual_rows", nullable Number.toJson c.actualPrimaryRows),
   ("outcome", .str outcome),
   ("decision_reason", .str (c.decisionReason.getD "")),
   ("risk_tier", .str ((c.riskTier.map RiskTier.value).getD "UNKNOWN")),
   ("reversibility", .str ((c.reversibility.map ReversibilityClass.value).getD "UNKNOWN")),
   ("blast_radius_delta", nullable .float c.blastRadiusAccuracyDelta),
   ("historical_rejection_surfaced",
     .bool (c.historicalPrecedents.any fun o => o.outcome = "REJECTED"))]

variable {F V : Type} (servers : AuditServers F V) (formats : AuditFormats)

/-- The tool that writes the audit record. -/
def auditTool (c : HandoffContract) : String :=
  if c.executionSuccess = some true then "log_execution" else "log_auto_reject"

/-- The call of the audit logger. -/
def writeAuditRecord (c : HandoffContract) (table : AuditTable) : AuditTable × TargetReply :=
  (servers.auth.callTool "audit-logger" servers.logTools table servers.apiKey (auditTool c)
      (buildAuditPayload formats c (determineOutcome c))).map id fun response =>
    McpClient.auditLogger servers.str servers.urls (auditTool c) (.response response)

/-- The call of the memory store. -/
def writeMemory (c : HandoffContract) (memory : OperationMemory V) :
    OperationMemory V × TargetReply :=
  (servers.auth.callTool "memory-store" servers.memoryTools memory servers.apiKey "store_operation"
      (memoryPayload c (determineOutcome c))).map id fun response =>
    McpClient.memoryStore servers.str servers.urls "store_operation" (.response response)

/-- `run_audit`: the stores that it leaves, and the contract if it does not raise. An
`MCPCallError` is only logged. -/
def runAudit (cfg : PipelineConfig) (c : HandoffContract) (s : AuditStores V) :
    AuditStores V × Option HandoffContract :=
  let (log, logged) := writeAuditRecord servers formats c s.log
  let s := { s with log }
  match logged with
  | .otherError => (s, none)
  | _ =>
    let (memory, remembered) := writeMemory servers c s.memory
    let s := { s with memory }
    match remembered with
    | .otherError => (s, none)
    | _ => (s, some (Graph.finishAudit cfg servers.now c))

/-! ## What is recorded -/

/-- The payload has the tenant, which none of the tools takes. -/
theorem writeAuditRecord_eq (c : HandoffContract) (table : AuditTable) :
    ∃ message, writeAuditRecord servers formats c table = (table, .mcpCallError message) := by
  have hnone : ∀ tool ∈ servers.logTools, "tenant_id" ∉ tool.parameters.map (·.1) := by
    have hall : ∀ tool ∈ AuditLog.logTools, "tenant_id" ∉ tool.parameters := by decide
    intro tool htool
    obtain ⟨logTool, hlogTool, rfl⟩ := List.mem_map.mp htool
    show "tenant_id" ∉ (logTool.parameters.map (·, none)).map Prod.fst
    rw [List.map_map]
    exact (List.map_id _).symm ▸ hall logTool hlogTool
  obtain ⟨status, detail, hstatus, hcall⟩ :=
    @AuthConfig.callTool_of_unexpected _ table (buildAuditPayload formats c (determineOutcome c))
      "tenant_id" servers.auth "audit-logger" servers.apiKey (auditTool c) _
      (List.mem_cons_of_mem _ List.mem_cons_self) hnone
  obtain ⟨message, hmessage⟩ := McpClient.call_httpException servers.str servers.urls.auditLogger
    (auditTool c) (.finite 10) detail hstatus
  exact ⟨message, by rw [writeAuditRecord, hcall]; exact congrArg (table, ·) hmessage⟩

/-- The payload has the statement, which `store_operation` does not take. -/
theorem writeMemory_eq (c : HandoffContract) (memory : OperationMemory V) :
    ∃ message, writeMemory servers c memory = (memory, .mcpCallError message) := by
  have hnone : ∀ tool ∈ servers.memoryTools, "raw_sql" ∉ tool.parameters.map (·.1) := by
    intro tool htool
    obtain rfl := List.mem_singleton.mp htool
    show "raw_sql" ∉ StoreArguments.parameters.map Prod.fst
    decide
  have hgiven : "raw_sql" ∈ (memoryPayload c (determineOutcome c)).map (·.1) :=
    List.mem_cons_of_mem _ (List.mem_cons_of_mem _ (List.mem_cons_of_mem _ List.mem_cons_self))
  obtain ⟨status, detail, hstatus, hcall⟩ :=
    @AuthConfig.callTool_of_unexpected _ memory _ _ servers.auth "memory-store" servers.apiKey
      "store_operation" _ hgiven hnone
  obtain ⟨message, hmessage⟩ := McpClient.call_httpException servers.str servers.urls.memoryStore
    "store_operation" (.finite 10) detail hstatus
  exact ⟨message, by rw [writeMemory, hcall]; exact congrArg (memory, ·) hmessage⟩

/-- Nothing is recorded, and nothing is raised. -/
theorem runAudit_eq (cfg : PipelineConfig) (c : HandoffContract) (s : AuditStores V) :
    runAudit servers formats cfg c s = (s, some (Graph.finishAudit cfg servers.now c)) := by
  obtain ⟨logError, hlog⟩ := writeAuditRecord_eq servers formats c s.log
  obtain ⟨memoryError, hmemory⟩ := writeMemory_eq servers c s.memory
  unfold runAudit
  rw [hlog]
  dsimp only
  rw [hmemory]

/-- The node of the graph goes on, with the contract of `run_audit`. -/
theorem runTask_audit (cfg : PipelineConfig) (approvalId : String) (manifest : Dict)
    (contract : Ref) (m : Memory) (s : AuditStores V) :
    let logged := (writeAuditRecord servers formats (m.contracts contract) s.log).2
    let remembered := (writeMemory servers (m.contracts contract) s.memory).2
    Graph.runTask cfg approvalId manifest contract m (.audit .logging)
        (.auditReply logged servers.now) = some { mem := m, pc := .audit .remembering } ∧
      Graph.runTask cfg approvalId manifest contract m (.audit .remembering)
          (.auditReply remembered servers.now) =
        some { mem := m.modifyContract contract (Graph.finishAudit cfg servers.now)
               pc := .syncContract } := by
  obtain ⟨logError, hlog⟩ := writeAuditRecord_eq servers formats (m.contracts contract) s.log
  obtain ⟨memoryError, hmemory⟩ := writeMemory_eq servers (m.contracts contract) s.memory
  dsimp only
  rw [hlog, hmemory]
  exact ⟨rfl, rfl⟩

/-- A row is appended for the operation, whatever it says, and a row of the memory store is inserted
or updated. -/
structure Recorded (c : HandoffContract) (s s' : AuditStores V) : Prop where
  log : ∃ row : AuditRow, row.operationId = c.operationId ∧ s'.log = s.log ++ [row]
  memory : ∃ row : MemoryRow V, row.operationId = c.operationId ∧
    (s'.memory.memory = s.memory.memory ++ [row] ∨
      ∃ before old after, old.operationId = c.operationId ∧
        s.memory.memory = before ++ old :: after ∧ s'.memory.memory = before ++ row :: after)

theorem not_recorded_self (c : HandoffContract) (s : AuditStores V) : ¬ Recorded c s s := by
  rintro ⟨⟨row, -, hlog⟩, -⟩
  exact List.cons_ne_nil row [] (List.append_right_eq_self.mp hlog.symm)

/-- No operation is recorded: the stores stay as they were. -/
theorem runAudit_unrecorded (cfg : PipelineConfig) (c : HandoffContract) (s : AuditStores V) :
    (runAudit servers formats cfg c s).1 = s ∧
      ¬ Recorded c s (runAudit servers formats cfg c s).1 := by
  rw [runAudit_eq]
  exact ⟨rfl, not_recorded_self c s⟩

/-- Servers with the sample databases. The tools of the log that are called take scalars only. -/
def sampleAuditServers : AuditServers AuditLog.SampleFloat Unit where
  auth := { useMockAuth := true, validKey := "" }
  apiKey := "dev-mcp-key"
  urls := {}
  log := AuditLog.sampleAuditConfig
  memory := OperationMemory.sampleMemoryServer
  read
    | .bool b => .bool b
    | .int n => .int n
    | .str s => .str s
    | _ => .null
  str _ := ""
  recordId := "d2719b54-6d5b-4a36-9f0c-8b8f0a4c4f11"
  now := 0

/-- A tool that gets its parameters writes a row. -/
example :
    (sampleAuditServers.auth.callTool "audit-logger" sampleAuditServers.logTools [] "dev-mcp-key"
        "log_auto_reject"
        [("operation_id", .str "cg_1"), ("rule_name", .str "hard_violation"),
          ("matched_pattern", .str ""), ("timestamp", .str "1970-01-01T00:00:00")]).1.map
      (·.operationId) = ["cg_1"] := rfl

def sampleAuditFormats : AuditFormats where
  isoformat _ := "1970-01-01T00:00:00"
  dumps _ := "{}"

/-- A reviewer has rejected the operation. -/
def rejectedContract : HandoffContract where
  operationId := "cg_1"
  tenantId := "demo_tenant"
  submittedBy := "agent"
  sourceType := .externalAgent
  submissionTimestamp := 0
  rawSql := "DELETE FROM orders"
  operationType := .delete
  primaryTable := "orders"
  approvalState := .rejected
  humanDecision := some "REJECT"
  decisionReason := some "The orders are still billed"
  decisionTimestamp := some 0

/-- Neither server has recorded the rejection. -/
theorem rejectedContract_unrecorded :
    ¬ Recorded rejectedContract ⟨[], OperationMemory.emptyMemory⟩
      (runAudit sampleAuditServers sampleAuditFormats Gateway.sampleConfig rejectedContract
        ⟨[], OperationMemory.emptyMemory⟩).1 := by
  rw [runAudit_eq]
  exact not_recorded_self _ _

/-! ## The outcomes -/

/-- The operation was rejected without a human. -/
def AutoRejected (c : HandoffContract) : Prop :=
  c.approvalState = .autoRejected ∨ c.autoRejectTriggered.truthy = true

instance (c : HandoffContract) : Decidable (AutoRejected c) :=
  inferInstanceAs (Decidable (_ ∨ _))

/-- The kinds of outcome that the ranking is documented for. -/
inductive Severity
  | rejected | rolledBack | modified | approved
deriving DecidableEq

/-- The documented score, of the first that applies: `REJECTED=1.0`, `ROLLED_BACK=0.9`,
`high-delta=0.7`, `MODIFIED=0.5`, `APPROVED=0.1*similarity`. -/
def documentedScore (severity : Option Severity) (delta similarity : ℚ) : Option ℚ :=
  if severity = some .rejected then some 1
  else if severity = some .rolledBack then some (9 / 10)
  else if |delta| > 2 / 10 then some (7 / 10)
  else if severity = some .modified then some (5 / 10)
  else if severity = some .approved then some (1 / 10 * similarity)
  else none

/-- What has become of the operation. -/
def severityOf (c : HandoffContract) : Option Severity :=
  if AutoRejected c then none
  else if c.approvalState = .rejected then some .rejected
  else if c.approvalState = .modified then some .modified
  else if c.approvalState = .approved ∧ c.executionSuccess = some true then some .approved
  else none

/-- The outcome can be stored, and a candidate that comes back with it is ranked as documented. -/
structure Understood (c : HandoffContract) : Prop where
  admitted : determineOutcome c ∈ OperationMemory.admittedOutcomes
  ranked : ∀ (cfg : MemoryStoreConfig) (candidates : List MemoryRecord),
    ∀ record ∈ MemoryStore.rerankByOutcome cfg candidates,
      record.outcome = some (determineOutcome c) →
      record.blastRadiusDelta.map Py.Float.finite = c.blastRadiusAccuracyDelta →
      ∀ score, documentedScore (severityOf c) (record.blastRadiusDelta.getD 0)
          (record.similarityScore.getD 0) = some score →
        record.rerankScore = some (cfg.round4 score)

/-- More than a fifth off the estimate. -/
def LargeDelta (c : HandoffContract) : Prop :=
  ∃ delta, c.blastRadiusAccuracyDelta = some (.finite delta) ∧ |delta| > 2 / 10

/-- The outcomes that the memory store admits. -/
theorem admitted_iff {c : HandoffContract} :
    determineOutcome c ∈ OperationMemory.admittedOutcomes ↔
      AutoRejected c ∨ c.approvalState = .rejected ∨ c.approvalState = .modified := by
  unfold determineOutcome AutoRejected
  cases c.approvalState <;> split_ifs with h h' <;> simp_all [OperationMemory.admittedOutcomes]

section Ranked

variable {c : HandoffContract} {record : MemoryRecord}

theorem determineOutcome_of_autoRejected (h : AutoRejected c) :
    determineOutcome c = "AUTO_REJECTED" := if_pos h

theorem determineOutcome_of_rejected (hauto : ¬ AutoRejected c)
    (h : c.approvalState = .rejected) : determineOutcome c = "REJECTED" := by
  refine (if_neg hauto).trans ?_
  rw [h]
  rfl

theorem determineOutcome_of_modified (hauto : ¬ AutoRejected c)
    (h : c.approvalState = .modified) : determineOutcome c = "MODIFIED" := by
  refine (if_neg hauto).trans ?_
  rw [h]
  rfl

theorem severityOf_of_modified (hauto : ¬ AutoRejected c) (h : c.approvalState = .modified) :
    severityOf c = some .modified := by
  refine (if_neg hauto).trans ?_
  rw [h]
  rfl

theorem score_of_modified (h : record.outcome = some "MODIFIED") :
    MemoryStore.score record = 5 / 10 := by
  simp [MemoryStore.score, h]

/-- A large delta of the contract is one of the rows that are stored for it. -/
theorem largeDelta_iff (h : record.blastRadiusDelta.map Py.Float.finite =
    c.blastRadiusAccuracyDelta) : LargeDelta c ↔ |record.blastRadiusDelta.getD 0| > 2 / 10 := by
  unfold LargeDelta
  rw [← h]
  cases record.blastRadiusDelta with
  | none =>
    refine iff_of_false ?_ (by norm_num)
    rintro ⟨delta, hnone, -⟩
    cases hnone
  | some delta => simp

/-- The score of the outcome is the documented one, when there is one. -/
theorem score_eq_documentedScore (h : AutoRejected c ∨ c.approvalState = .rejected ∨
      c.approvalState = .modified ∧ ¬ LargeDelta c)
    (houtcome : record.outcome = some (determineOutcome c))
    (hdelta : record.blastRadiusDelta.map Py.Float.finite = c.blastRadiusAccuracyDelta) {score : ℚ}
    (hscore : documentedScore (severityOf c) (record.blastRadiusDelta.getD 0)
      (record.similarityScore.getD 0) = some score) : MemoryStore.score record = score := by
  by_cases hauto : AutoRejected c
  · -- such an operation is only documented with a large delta
    rw [determineOutcome_of_autoRejected hauto] at houtcome
    have hseverity : severityOf c = none := if_pos hauto
    simp only [hseverity, documentedScore, reduceCtorEq, if_false] at hscore
    split_ifs at hscore with hlarge
    cases hscore
    simp [MemoryStore.score, houtcome, hlarge]
  · obtain hrejected | ⟨hmodified, hsmall⟩ := h.resolve_left hauto
    · rw [determineOutcome_of_rejected hauto hrejected] at houtcome
      have hseverity : severityOf c = some .rejected := by
        exact (if_neg hauto).trans (if_pos hrejected)
      simp only [hseverity, documentedScore, if_true] at hscore
      cases hscore
      exact MemoryStore.score_of_rejected houtcome
    · rw [determineOutcome_of_modified hauto hmodified] at houtcome
      rw [largeDelta_iff hdelta] at hsmall
      simp only [severityOf_of_modified hauto hmodified, documentedScore, Option.some.injEq,
        reduceCtorEq, if_false, hsmall, if_true] at hscore
      rw [score_of_modified houtcome, hscore]

/-- A modification with a large delta is ranked as one without. -/
theorem Understood.not_largeDelta (h : Understood c) (hauto : ¬ AutoRejected c)
    (hmodified : c.approvalState = .modified) : ¬ LargeDelta c := by
  rintro ⟨delta, hdelta, hlarge⟩
  let stored : MemoryRecord := { outcome := some "MODIFIED", blastRadiusDelta := some delta }
  have hranked := h.ranked ⟨0, id⟩ [stored] _ (MemoryStore.mem_rerankByOutcome_singleton _ _)
    (congrArg some (determineOutcome_of_modified hauto hmodified).symm) hdelta.symm (7 / 10) (by
      simp [severityOf_of_modified hauto hmodified, documentedScore, stored,
        MemoryStore.withRerank, hlarge])
  have hscore : MemoryStore.score stored = 7 / 10 := Option.some.inj hranked
  rw [score_of_modified rfl] at hscore
  norm_num at hscore

/-- The outcomes that are understood. -/
theorem understood_iff (c : HandoffContract) :
    Understood c ↔ AutoRejected c ∨ c.approvalState = .rejected ∨
      c.approvalState = .modified ∧ ¬ LargeDelta c := by
  constructor
  · intro h
    by_cases hauto : AutoRejected c
    · exact .inl hauto
    · right
      refine ((admitted_iff.mp h.admitted).resolve_left hauto).imp_right fun hmodified => ?_
      exact ⟨hmodified, h.not_largeDelta hauto hmodified⟩
  · intro h
    refine ⟨admitted_iff.mpr (h.imp_right (Or.imp_right And.left)), ?_⟩
    intro cfg candidates record hrecord houtcome hdelta score hscore
    rw [MemoryStore.rerankScore_of_mem hrecord, score_eq_documentedScore h houtcome hdelta hscore]

end Ranked

/-- An approved operation has been executed. -/
def executedContract : HandoffContract where
  operationId := "cg_1"
  tenantId := "demo_tenant"
  submittedBy := "agent"
  sourceType := .externalAgent
  submissionTimestamp := 0
  rawSql := "DELETE FROM orders"
  operationType := .delete
  primaryTable := "orders"
  approvalState := .approved
  humanDecision := some "APPROVE"
  executionSuccess := some true

/-- Its outcome is `APPROVED_EXECUTED`, which no row can have. -/
theorem executedContract_not_understood : ¬ Understood executedContract := by
  intro h
  have houtcome : determineOutcome executedContract = "APPROVED_EXECUTED" := rfl
  have hadmitted := h.admitted
  rw [houtcome] at hadmitted
  revert hadmitted
  decide

end Audit
