import ContraGate.McpClient

/-!
# The client against the server's envelope

The server wraps every result in an envelope whose `error` key is always there, and the
client takes the presence of that key for a failure. So the client undoes the envelope of
failures only.
-/

namespace McpServer

/-- The call returns `r`, a value that JSON can represent. -/
def Returns (server : McpServer) (apiKey tool : String) (arguments : Py.Dict)
    (r : Py.Json) : Prop :=
  (server.requireAuth = true → server.validateApiKey apiKey = true) ∧
    (∃ toolFn, server.tools.lookup tool = some toolFn ∧ toolFn arguments = .returned r) ∧
    r.encodable = true

/-- The ways in which a tool call fails. -/
inductive Fails (server : McpServer) (apiKey tool : String) (arguments : Py.Dict) : Prop
  | keyRejected (hauth : server.requireAuth = true) (hkey : server.validateApiKey apiKey = false)
  | unknownTool (hlookup : server.tools.lookup tool = none)
  | raised (toolFn : Py.Dict → ToolOutcome) (message : String)
      (hlookup : server.tools.lookup tool = some toolFn)
      (houtcome : toolFn arguments = .raised message)
  | foreign (toolFn : Py.Dict → ToolOutcome) (typeName : String)
      (hlookup : server.tools.lookup tool = some toolFn)
      (houtcome : toolFn arguments = .foreign typeName)
  | notFinite (toolFn : Py.Dict → ToolOutcome) (r : Py.Json)
      (hlookup : server.tools.lookup tool = some toolFn)
      (houtcome : toolFn arguments = .returned r) (hr : r.encodable = false)

variable {server : McpServer} {apiKey tool : String} {arguments : Py.Dict}

/-- A call fails or returns a value, never both. -/
theorem fails_iff_not_returns :
    server.Fails apiKey tool arguments ↔ ¬ ∃ r, server.Returns apiKey tool arguments r := by
  constructor
  · rintro hfails ⟨r, hkey, ⟨toolFn, hlookup, hreturned⟩, hr⟩
    cases hfails with
    | keyRejected hauth hrejected =>
      rw [hkey hauth] at hrejected
      cases hrejected
    | unknownTool hnone =>
      rw [hnone] at hlookup
      cases hlookup
    | raised toolFn' message hlookup' houtcome
    | foreign toolFn' typeName hlookup' houtcome =>
      -- the registry has one function under a name
      obtain rfl : toolFn' = toolFn := Option.some.inj (hlookup'.symm.trans hlookup)
      rw [houtcome] at hreturned
      cases hreturned
    | notFinite toolFn' r' hlookup' houtcome hr' =>
      obtain rfl : toolFn' = toolFn := Option.some.inj (hlookup'.symm.trans hlookup)
      obtain rfl : r' = r := by
        have hsame : ToolOutcome.returned r' = .returned r := houtcome.symm.trans hreturned
        exact ToolOutcome.returned.inj hsame
      rw [hr] at hr'
      cases hr'
  · intro hnot
    -- the checks in the order in which the route makes them
    by_cases hrejected : server.requireAuth = true ∧ server.validateApiKey apiKey = false
    · exact .keyRejected hrejected.1 hrejected.2
    · have hkey : server.requireAuth = true → server.validateApiKey apiKey = true := by
        intro hauth
        simpa using fun hfalse => hrejected ⟨hauth, hfalse⟩
      cases hlookup : server.tools.lookup tool with
      | none => exact .unknownTool hlookup
      | some toolFn =>
        cases houtcome : toolFn arguments with
        | returned r =>
          cases hr : r.encodable with
          | true => exact absurd ⟨r, hkey, ⟨toolFn, hlookup, houtcome⟩, hr⟩ hnot
          | false => exact .notFinite toolFn r hlookup houtcome hr
        | foreign typeName => exact .foreign toolFn typeName hlookup houtcome
        | raised message => exact .raised toolFn message hlookup houtcome

/-- A returned value is sent in an envelope. -/
theorem callTool_of_returns {r : Py.Json} (hreturns : server.Returns apiKey tool arguments r) :
    server.callTool apiKey tool arguments = envelope r := by
  obtain ⟨hkey, ⟨toolFn, hlookup, houtcome⟩, hr⟩ := hreturns
  have haccepted : (server.requireAuth && !server.validateApiKey apiKey) = false := by
    cases hauth : server.requireAuth with
    | false => rfl
    | true => rw [hkey hauth]; rfl
  unfold callTool
  rw [haccepted, hlookup]
  simp only [Bool.false_eq_true, if_false, houtcome, respond, hr, if_true]

/-- A failure is sent as an error status with a detail. -/
theorem callTool_of_fails (hfails : server.Fails apiKey tool arguments) :
    ∃ statusCode detail, 400 ≤ statusCode ∧
      server.callTool apiKey tool arguments = httpException statusCode detail := by
  unfold callTool
  split
  · exact ⟨401, _, by omega, rfl⟩
  next haccepted =>
    cases hfails with
    | keyRejected hauth hrejected =>
      rw [hauth, hrejected] at haccepted
      exact absurd rfl haccepted
    | unknownTool hlookup =>
      rw [hlookup]
      exact ⟨404, _, by omega, rfl⟩
    | raised toolFn message hlookup houtcome
    | foreign toolFn typeName hlookup houtcome =>
      rw [hlookup]
      simp only [houtcome, respond]
      exact ⟨500, _, by omega, rfl⟩
    | notFinite toolFn r hlookup houtcome hr =>
      rw [hlookup]
      simp only [houtcome, respond, hr, Bool.false_eq_true, if_false]
      exact ⟨500, _, by omega, rfl⟩

end McpServer

namespace McpClient

variable {str : Py.Json → String} {baseUrl tool : String} {timeout : Py.Float}

/-- `call` raises `MCPCallError`. -/
def Raises (reply : TargetReply) : Prop := ∃ message, reply = .mcpCallError message

/-- An `HTTPException` of the server is an `MCPCallError` of the client. -/
theorem raises_httpException {statusCode : ℕ} (detail : String) (hstatus : 400 ≤ statusCode) :
    Raises (call str baseUrl tool timeout
      (.response (McpServer.httpException statusCode detail))) := by
  refine ⟨errorText baseUrl tool s!"HTTP {statusCode}", ?_⟩
  have herror : ¬ (200 ≤ statusCode ∧ statusCode ≤ 299) := by omega
  unfold call McpServer.httpException
  exact if_neg herror

/-- The client reads `"error": null` as an error. -/
theorem raises_envelope (r : Py.Json) :
    Raises (call str baseUrl tool timeout (.response (McpServer.envelope r))) :=
  ⟨errorText baseUrl tool (str .null), rfl⟩

/-- `call`, given the response of the server's route. -/
def callServer (str : Py.Json → String) (baseUrl : String) (timeout : Py.Float)
    (server : McpServer) (apiKey tool : String) (arguments : Py.Dict) : TargetReply :=
  call str baseUrl tool timeout (.response (server.callTool apiKey tool arguments))

/-- What the two halves owe each other: the client returns what the tool returned, it raises
`MCPCallError` when the call failed, and it does so only then. -/
structure Undoes (server : McpServer) (apiKey tool : String) (arguments : Py.Dict)
    (reply : TargetReply) : Prop where
  returned : ∀ r, server.Returns apiKey tool arguments r → reply = .result r
  failed : server.Fails apiKey tool arguments → Raises reply
  raises_iff : Raises reply ↔ server.Fails apiKey tool arguments

/-- The client raises `MCPCallError` whatever the tool does. -/
theorem callServer_raises (server : McpServer) (apiKey : String) (arguments : Py.Dict) :
    Raises (callServer str baseUrl timeout server apiKey tool arguments) := by
  unfold callServer
  by_cases hfails : server.Fails apiKey tool arguments
  · obtain ⟨statusCode, detail, hstatus, hcall⟩ := McpServer.callTool_of_fails hfails
    rw [hcall]
    exact raises_httpException detail hstatus
  · rw [McpServer.fails_iff_not_returns, not_not] at hfails
    obtain ⟨r, hreturns⟩ := hfails
    rw [McpServer.callTool_of_returns hreturns]
    exact raises_envelope r

/-- The client undoes the envelope of the server exactly when the call failed. -/
theorem callServer_undoes_iff (str : Py.Json → String) (baseUrl : String) (timeout : Py.Float)
    (server : McpServer) (apiKey tool : String) (arguments : Py.Dict) :
    Undoes server apiKey tool arguments
        (callServer str baseUrl timeout server apiKey tool arguments) ↔
      server.Fails apiKey tool arguments := by
  have hraises : Raises (callServer str baseUrl timeout server apiKey tool arguments) :=
    callServer_raises server apiKey arguments
  constructor
  · intro hundoes
    exact hundoes.raises_iff.mp hraises
  · intro hfails
    constructor
    · intro r hreturns
      exact absurd ⟨r, hreturns⟩ (McpServer.fails_iff_not_returns.mp hfails)
    · intro _
      exact hraises
    · exact ⟨fun _ => hfails, fun _ => hraises⟩

/-- A server with one tool, which returns its arguments. -/
def echoServer : McpServer where
  useMockAuth := true
  validKey := ""
  serverName := "echo"
  requireAuth := true
  tools := [("echo", fun arguments => .returned (.obj arguments))]

/-- A successful call raises `MCPCallError`. -/
theorem echo_raises : ¬ ∀ (server : McpServer) (apiKey tool : String) (arguments : Py.Dict),
    Undoes server apiKey tool arguments
      (callServer (fun _ => "None") "http://contragate-mcp:8010" (.finite 10) server apiKey tool
        arguments) := by
  intro hall
  have hundoes := hall echoServer "dev-mcp-key" "echo" []
  have hreturns : echoServer.Returns "dev-mcp-key" "echo" [] (.obj []) :=
    ⟨fun _ => rfl, ⟨_, rfl, rfl⟩, rfl⟩
  have hreturned := hundoes.returned (.obj []) hreturns
  cases hreturned

end McpClient
