import ContraGate.Coroutine
import ContraGate.McpServer

/-!
# The MCP client (`orchestrator/mcp_client.py`)

`call` posts the tool name and the arguments, and reads the envelope. How it ends is a
`TargetReply`: the caller sees a result, an `MCPCallError`, or an exception of another
class.
-/

/-- How the HTTP exchange of a call ends. -/
inductive Transport
  | response (response : HttpResponse)
  /-- `httpx.TimeoutException`. -/
  | timeout
  /-- Another `httpx.TransportError`: the connection is refused, reset or broken off. -/
  | connectionError

namespace McpClient

/-- The text of an `MCPCallError`. -/
def errorText (server tool detail : String) : String :=
  s!"MCP call {server}/{tool} failed: {detail}"

-- Python's `str` of a JSON value, which only the texts of errors use
variable (str : Py.Json → String)

/-- `call` once the status is fine and the body is decoded. -/
def readData (baseUrl tool : String) : Py.Json → TargetReply
  | .obj data =>
    match data.lookup "error" with
    | some error => .mcpCallError (errorText baseUrl tool (str error))
    | none => .result (Py.Dict.getD data "result" (.obj data))
  -- the test `"error" in data` or the access after it raises for all other values
  | _ => .otherError

/-- `call`, given how its HTTP exchange ends. -/
def call (baseUrl tool : String) (timeout : Py.Float) : Transport → TargetReply
  | .response response =>
    if 200 ≤ response.statusCode ∧ response.statusCode ≤ 299 then
      match response.body with
      | .json data => readData str baseUrl tool data
      | .other => .otherError
    else .mcpCallError (errorText baseUrl tool s!"HTTP {response.statusCode}")
  | .timeout =>
    .mcpCallError (errorText baseUrl tool s!"timeout after {str (Py.Json.float timeout)}s")
  | .connectionError => .otherError

/-- The base URLs of the servers, which environment variables override. -/
structure ServiceUrls where
  postgresReader : String := "http://contragate-mcp:8010"
  memoryStore : String := "http://contragate-mcp:8012"
  auditLogger : String := "http://contragate-mcp:8013"
  policyStore : String := "http://contragate-mcp:8014"

/-! The wrappers for each server, with the default timeout of ten seconds. -/

/-- `postgres_reader`. -/
def postgresReader (urls : ServiceUrls) (tool : String) : Transport → TargetReply :=
  call str urls.postgresReader tool (.finite 10)

/-- `memory_store`. -/
def memoryStore (urls : ServiceUrls) (tool : String) : Transport → TargetReply :=
  call str urls.memoryStore tool (.finite 10)

/-- `audit_logger`. -/
def auditLogger (urls : ServiceUrls) (tool : String) : Transport → TargetReply :=
  call str urls.auditLogger tool (.finite 10)

/-- `policy_store`. -/
def policyStore (urls : ServiceUrls) (tool : String) : Transport → TargetReply :=
  call str urls.policyStore tool (.finite 10)

end McpClient
