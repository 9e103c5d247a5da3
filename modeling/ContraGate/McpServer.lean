import ContraGate.Library.PyValue

/-!
# The MCP server base (`mcp_servers/base/server_base.py`, `mcp_servers/base/auth.py`)

All servers answer `POST /call` the same way: the result of the tool is put into an
envelope, and every failure becomes an `HTTPException`, which reaches the client as a
status and a `detail`. A tool is a Python function called with keyword arguments; what one
call of it does is a function of these arguments.
-/

/-- The body of an HTTP response, decoded; `other` is a text that is not JSON. -/
inductive HttpBody
  | json (value : Py.Json)
  | other

structure HttpResponse where
  statusCode : ℕ
  body : HttpBody

/-- How a tool ends that is called with keyword arguments. -/
inductive ToolOutcome
  /-- It returns a value of JSON types. -/
  | returned (value : Py.Json)
  /-- It returns a value of a type that `json.dumps` refuses. -/
  | foreign (typeName : String)
  /-- It raises, or its arguments do not fit its parameters. -/
  | raised (message : String)

/-- The environment of `auth.py`. -/
structure AuthConfig where
  useMockAuth : Bool
  validKey : String

structure McpServer extends AuthConfig where
  serverName : String
  requireAuth : Bool
  /-- `_tools`, by registered name. -/
  tools : List (String × (Py.Dict → ToolOutcome))

namespace AuthConfig

/-- `_constant_time_compare`. -/
def constantTimeCompare (a b : String) : Bool :=
  if a.length ≠ b.length then false
  else (a.toUTF8.data.toList.zip b.toUTF8.data.toList).foldl
    (fun result byte => result ||| (byte.1 ^^^ byte.2)) 0 == 0

/-- `validate_api_key` returns. -/
def validateApiKey (auth : AuthConfig) (providedKey : String) : Bool :=
  auth.useMockAuth || auth.validKey = "" || constantTimeCompare providedKey auth.validKey

end AuthConfig

namespace McpServer

/-- The response to an `HTTPException`. -/
def httpException (statusCode : ℕ) (detail : String) : HttpResponse :=
  { statusCode, body := .json (.obj [("detail", .str detail)]) }

/-- `JSONResponse(content={"result": result, "error": None})`. -/
def envelope (result : Py.Json) : HttpResponse :=
  { statusCode := 200, body := .json (.obj [("result", result), ("error", .null)]) }

/-- What `call_tool` makes of the end of the tool; encoding the response is inside its `try`. -/
def respond : ToolOutcome → HttpResponse
  | .returned result =>
    if result.encodable then envelope result
    else httpException 500 "Out of range float values are not JSON compliant"
  | .foreign typeName => httpException 500 s!"Object of type {typeName} is not JSON serializable"
  | .raised message => httpException 500 message

/-- `call_tool`, for a request with the key `apiKey`. -/
def callTool (server : McpServer) (apiKey tool : String) (arguments : Py.Dict) : HttpResponse :=
  if server.requireAuth && !server.validateApiKey apiKey then
    httpException 401 "Invalid or missing API key"
  else
    match server.tools.lookup tool with
    | none => httpException 404 s!"Tool '{tool}' not found on server '{server.serverName}'"
    | some toolFn => respond (toolFn arguments)

end McpServer
