import ContraGate.AutoExecute
import ContraGate.ManifestBinding

/-!
# The two interception endpoints (`proxy/main.py`)

`POST /v1/mcp` reads three headers: the source, the caller and the tenant.
`POST /v1/mcp/jsonrpc` calls the handler of the first as a function and wraps its response; it
hands the source and the caller over, and `None` for the tenant.
-/

structure ProxyConfig where
  /-- `TENANT_ID`. -/
  tenantId : String
  /-- `TARGET_MCP_URL`. -/
  targetMcpUrl : String
  /-- `repr` of a tool name, for a message; it escapes lone surrogates. -/
  repr : Py.Json → String
  surrogates : Py.Surrogates
  encodes_repr : ∀ value, surrogates.encodes (repr value) = true
  /-- The message of the error that `JSONResponse` raises for a content. -/
  renderError : Py.Dict → String
  execution : ExecutionConfig
  intake : IntakeConfig

/-- The headers of a request that the endpoints know; a header can be missing. -/
structure ContragateHeaders where
  source : Option String := none
  caller : Option String := none
  tenant : Option String := none

/-- What else a request meets: the servers, the clock, the ids that are drawn. -/
structure ProxyWorld where
  gate : QuickCheck
  hour : ℤ
  /-- `mcp_client.call(TARGET_MCP_URL, ..)`, by tool and arguments. -/
  target : Py.Json → Py.Dict → TargetReply
  generatedId : String
  now : Time

/-- How a handler ends. -/
inductive Answer
  | response (statusCode : ℕ) (content : Py.Dict)
  /-- It raises an `HTTPException`. -/
  | httpException (statusCode : ℕ) (detail : String)
  /-- It raises anything else. -/
  | exception

/-- What an interception does: the manifest, the routing of the gate, the record that it stores,
and how the handler ends. -/
structure Intercepted where
  manifest : Option ToolCallManifest := none
  routing : Option Guards.RiskGateRoute := none
  stored : Option (HandoffContract × Py.Dict) := none
  answer : Answer

namespace Proxy

/-- `JSONResponse(..)`, which raises for a number that JSON does not have, and for a text that
UTF-8 does not. -/
def jsonResponse (cfg : ProxyConfig) (statusCode : ℕ) (content : Py.Dict) : Answer :=
  if cfg.surrogates.sendable (.obj content) then .response statusCode content else .exception

/-- `intercept` on any decoded body: what is no object does not have its methods. -/
def interceptBody (cfg : ProxyConfig) (body : Py.Json) (caller source tenantId : String) :
    Except InterceptFailure ToolCallManifest :=
  match body with
  | .obj entries =>
    Interceptor.intercept cfg.repr entries caller source tenantId cfg.targetMcpUrl
  | _ => .error .other

/-- The content of an automatic rejection. -/
def rejectedContent (gate : RiskGateResult) : Py.Dict :=
  [("status", .str "AUTO_REJECTED"), ("reason", gate.autoRejectReason.or (.str "Policy violation")),
    ("contragate_version", .str "0.2.0")]

/-- The content of an automatic execution. -/
def executedContent (gate : RiskGateResult) (result : Py.Json) : Py.Dict :=
  [("status", .str "AUTO_EXECUTED"), ("result", result), ("explain_cost", .float gate.explainCost),
    ("contragate_version", .str "0.2.0")]

/-- `build_pending_response`. -/
def pendingContent (approvalId : String) : Py.Dict :=
  [("status", .str "PENDING_HUMAN_APPROVAL"), ("approval_id", .str approvalId),
    ("message", .str "Action paused for ContraGate consequence review."),
    ("poll_url", .str s!"/v1/approvals/{approvalId}/status"),
    ("sse_url", .str s!"/v1/approvals/{approvalId}/stream"),
    ("estimated_review_seconds", .int 300), ("contragate_version", .str "0.2.0")]

/-- The automatic execution; everything that it raises becomes an error of the target. -/
def autoExecute (cfg : ProxyConfig) (world : ProxyWorld) (manifest : ToolCallManifest)
    (gate : RiskGateResult) : Answer :=
  match world.target manifest.toolName
    [("sql", .str manifest.sql), ("tenant_id", .str manifest.tenantId)] with
  | .result result =>
    match jsonResponse cfg 200 (executedContent gate result) with
    | .exception =>
      .httpException 502 ("MCP target error: " ++ cfg.renderError (executedContent gate result))
    | answer => answer
  | .mcpCallError message => .httpException 502 s!"MCP target error: {message}"
  | .otherError => .httpException 502 "MCP target error"

/-- The full pipeline: the record is stored and the client told to wait. -/
def startPipeline (cfg : ProxyConfig) (world : ProxyWorld) (manifest : ToolCallManifest) :
    Option (HandoffContract × Py.Dict) × Answer :=
  match Intake.runIntake cfg.intake
    (manifest.withHash (cfg.execution.manifestHash manifest.toDict)) world.generatedId
    world.now with
  | none => (none, .exception)
  | some c =>
    (some (c, manifest.bound cfg.execution c.operationId),
      jsonResponse cfg 202 (pendingContent c.operationId))

/-- What `intercept_tool_call` does with a manifest. -/
def handle (cfg : ProxyConfig) (world : ProxyWorld) (manifest : ToolCallManifest) : Intercepted :=
  let gate := world.gate.gateResult manifest world.hour
  match gate.routing with
  | .autoReject =>
    { manifest := some manifest, routing := some .autoReject
      answer := jsonResponse cfg 200 (rejectedContent gate) }
  | .autoExecute =>
    { manifest := some manifest, routing := some .autoExecute
      answer := autoExecute cfg world manifest gate }
  | .fullPipeline =>
    let (stored, answer) := startPipeline cfg world manifest
    { manifest := some manifest, routing := some .fullPipeline, stored, answer }

/-- `x_contragate_tenant or TENANT_ID`. -/
def tenantOf (cfg : ProxyConfig) (tenant : Option String) : String :=
  match tenant with
  | some tenant => if tenant = "" then cfg.tenantId else tenant
  | none => cfg.tenantId

/-- `intercept_tool_call`. -/
def interceptToolCall (cfg : ProxyConfig) (world : ProxyWorld) (source caller : String)
    (tenant : Option String) (body : Py.Json) : Intercepted :=
  match interceptBody cfg body caller source (tenantOf cfg tenant) with
  | .ok manifest => handle cfg world manifest
  | .error (.interception message) => { answer := .httpException 422 message }
  | .error .other => { answer := .exception }

variable (cfg : ProxyConfig) (world : ProxyWorld) (headers : ContragateHeaders)

/-- The source of a request, which both endpoints read. -/
def sourceOf : String := headers.source.getD "internal_system"

def callerOf : String := headers.caller.getD "unknown"

/-- `POST /v1/mcp`. -/
def postMcp (body : Py.Json) : Intercepted :=
  interceptToolCall cfg world (sourceOf headers) (callerOf headers) headers.tenant body

variable {cfg world headers} {body : Py.Json} {caller source : String} {manifest : ToolCallManifest}

/-- The manifest of a call that is not refused. -/
theorem interceptToolCall_of_ok {tenant : Option String}
    (h : interceptBody cfg body caller source (tenantOf cfg tenant) = .ok manifest) :
    interceptToolCall cfg world source caller tenant body = handle cfg world manifest := by
  unfold interceptToolCall
  rw [h]

/-- A proxy of the tenant `demo_tenant`. -/
def demoProxy : ProxyConfig where
  tenantId := "demo_tenant"
  targetMcpUrl := "http://contragate-mcp:8010"
  repr _ := ""
  surrogates :=
    { lone := fun c => c == '\ufffd'
      lone_ascii := fun c hc => beq_eq_false_iff_ne.mpr fun h => by rw [h] at hc; revert hc; decide }
  encodes_repr _ := rfl
  renderError _ := ""
  execution :=
    { manifestHash := Py.Dict.canonicalText
      isoformat := fun _ => ""
      postgresReaderUrl := "http://contragate-mcp:8010" }
  intake := ⟨"demo_tenant", fun _ => .delete⟩

end Proxy
