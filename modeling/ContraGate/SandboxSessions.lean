import ContraGate.SandboxIsolation
import ContraGate.SimulationData

/-!
# The sessions that a simulation leaves behind

The sandbox server keeps the connection of every session in `_sessions` until `rollback_sandbox`.
The client rolls back in a `finally`, but only a session whose id it has received, and it gives up
if the call fails. A call can fail before it reaches the server, or be executed while its response
is lost.
-/

open Pg

/-- How a call without a result ends for the caller. -/
inductive CallError
  | mcpCallError (message : String)
  | otherError

def CallError.reply : CallError → TargetReply
  | mcpCallError message => .mcpCallError message
  | otherError => .otherError

/-- What becomes of a call. -/
inductive Fate
  /-- The server executes it, and the caller gets the response. -/
  | answered
  /-- It fails before it reaches the server. -/
  | unreached (error : CallError)
  /-- The server executes it, but the response is lost. -/
  | lost (error : CallError)

/-- The server executes the call. -/
def Fate.reaches : Fate → Bool
  | unreached _ => false
  | _ => true

/-- The state of the server after a call of a tool, and what the caller sees. -/
def Fate.call {σ : Type} (fate : Fate) (tool : σ → σ × TargetReply) (server : σ) :
    σ × TargetReply :=
  match fate with
  | answered => tool server
  | unreached error => (server, error.reply)
  | lost error => ((tool server).1, error.reply)

/-- `_sessions`: the open connection of each session id. -/
structure SandboxServer (Rows Counters : Type) where
  sessions : String → Option (TransactionSandbox.Connection Rows Counters)

namespace SandboxServer

variable {Query Rows Counters : Type} (pg : TransactionSandbox.Postgres Query Rows Counters)
  (timeoutMs : ℤ) (caught : TransactionSandbox.ToolError → CallError)

def set (server : SandboxServer Rows Counters) (sessionId : String)
    (entry : Option (TransactionSandbox.Connection Rows Counters)) :
    SandboxServer Rows Counters where
  sessions := Function.update server.sessions sessionId entry

/-- `begin_sandbox`, which takes this session id and connects to staging, if it can. -/
def beginSandbox (sessionId : String) (staging : Option (Rows × Counters))
    (server : SandboxServer Rows Counters) : SandboxServer Rows Counters × TargetReply :=
  match staging with
  | none => (server, (caught (.database "could not connect to server")).reply)
  | some (rows, counters) =>
    match TransactionSandbox.beginSandbox pg timeoutMs sessionId
      (TransactionSandbox.connect pg rows counters) with
    | .ok conn =>
      (server.set sessionId (some conn),
        .result (.obj [("session_id", .str sessionId), ("transaction_open", .bool true)]))
    | .error message => (server, (caught (.database message)).reply)

/-- A tool of an open session, which raises for an unknown one. -/
def onSession {α : Type} (sessionId : String)
    (tool : TransactionSandbox.Sandbox Query Rows Counters →
      TransactionSandbox.Sandbox Query Rows Counters × Except TransactionSandbox.ToolError α)
    (render : α → Py.Dict) (server : SandboxServer Rows Counters) :
    SandboxServer Rows Counters × TargetReply :=
  let (sandbox, result) := tool { entry := server.sessions sessionId, ran := [] }
  (server.set sessionId sandbox.entry,
    match result with
    | .ok value => .result (.obj (render value))
    | .error error => (caught error).reply)

def captureDiff (sessionId : String) (tables : List String) :
    SandboxServer Rows Counters → SandboxServer Rows Counters × TargetReply :=
  onSession caught sessionId (TransactionSandbox.captureDiff pg · sessionId tables)
    fun counts => [("table_counts", .obj counts)]

def executeInSandbox (sessionId sql : String) :
    SandboxServer Rows Counters → SandboxServer Rows Counters × TargetReply :=
  onSession caught sessionId (TransactionSandbox.executeInSandbox pg · sessionId sql)
    fun rowsAffected => [("rows_affected", .int rowsAffected), ("status", .str "executed")]

def getTriggerLog (sessionId : String) :
    SandboxServer Rows Counters → SandboxServer Rows Counters × TargetReply :=
  onSession caught sessionId (TransactionSandbox.getTriggerLog pg · sessionId)
    fun entries => [("trigger_log", .arr (entries.map .obj))]

/-- `rollback_sandbox`. -/
def rollbackSandbox (sessionId : String) (server : SandboxServer Rows Counters) :
    SandboxServer Rows Counters × TargetReply :=
  let entry : TransactionSandbox.Sandbox Query Rows Counters :=
    { entry := server.sessions sessionId, ran := [] }
  let (sandbox, closed) := TransactionSandbox.rollbackSandbox pg entry
  (server.set sessionId sandbox.entry,
    .result (.obj (match closed with
      | some _ => [("rolled_back", .bool true)]
      | none =>
        [("rolled_back", .bool true), ("note", .str "Session already closed or not found")])))

end SandboxServer

/-! ## The client on a server with sessions -/

/-- One attempt: the id and the connection that `begin_sandbox` gets, and the fates of the calls. -/
structure Attempt (Rows Counters : Type) where
  sessionId : String
  staging : Option (Rows × Counters)
  begin : Fate
  pre : Fate
  execute : Fate
  post : Fate
  log : Fate
  rollback : Fate

namespace Attempt

open SandboxClient (expect tablesToCount buildResult)

/-! What the client makes of a reply. -/

def resultOf (reply : TargetReply) : Except SimulationError Py.Json :=
  match reply with
  | .result value => .ok value
  | _ => .error .failed

/-- `begin_resp.get("session_id")`, which must not be empty. -/
def sessionOf (reply : TargetReply) : Except SimulationError String := do
  match Py.Dict.get (← expect (← resultOf reply).dict?) "session_id" with
  | .str sessionId => if sessionId = "" then .error .failed else .ok sessionId
  -- `begin_sandbox` returns a text
  | _ => .error .failed

def countsOf (reply : TargetReply) : Except SimulationError Py.Json := do
  .ok (Py.Dict.getD (← expect (← resultOf reply).dict?) "table_counts" (.obj []))

def executedOf (reply : TargetReply) : Except SimulationError Unit :=
  match reply with
  | .result _ => .ok ()
  | .mcpCallError message =>
    .error (if SandboxClient.isTimeoutText message then .timeout else .failed)
  | .otherError => .error .failed

def logOf (reply : TargetReply) : Except SimulationError Py.Json := do
  expect (SandboxClient.triggerLogOf (← resultOf reply))

variable {Query Rows Counters : Type}

/-- Go on with what a call returns, or raise. -/
def receive {α β : Type} (called : SandboxServer Rows Counters × TargetReply)
    (read : TargetReply → Except SimulationError α)
    (next : α → SandboxServer Rows Counters →
      SandboxServer Rows Counters × Except SimulationError β) :
    SandboxServer Rows Counters × Except SimulationError β :=
  match read called.2 with
  | .ok a => next a called.1
  | .error e => (called.1, .error e)

variable (pg : TransactionSandbox.Postgres Query Rows Counters) (timeoutMs : ℤ)
  (caught : TransactionSandbox.ToolError → CallError) (contract : HandoffContract)
  (attempt : Attempt Rows Counters) (server : SandboxServer Rows Counters)

/-- The call of `begin_sandbox`. -/
def begun : SandboxServer Rows Counters × TargetReply :=
  attempt.begin.call (SandboxServer.beginSandbox pg timeoutMs caught attempt.sessionId
    attempt.staging) server

/-- The calls with the session, up to the rollback. -/
def body (sessionId : String) :
    SandboxServer Rows Counters × Except SimulationError SimulationResult :=
  let capture := SandboxServer.captureDiff pg caught sessionId (tablesToCount contract)
  receive (attempt.pre.call capture server) countsOf fun pre server =>
  receive (attempt.execute.call
    (SandboxServer.executeInSandbox pg caught sessionId contract.rawSql) server) executedOf
    fun _ server =>
  receive (attempt.post.call capture server) countsOf fun post server =>
  receive (attempt.log.call (SandboxServer.getTriggerLog pg caught sessionId) server) logOf
    fun log server => (server, buildResult contract pre post log)

/-- `_run_once`. The `finally` rolls a session back whose id the client has. -/
def runOnce : SandboxServer Rows Counters × Except SimulationError SimulationResult :=
  receive (attempt.begun pg timeoutMs caught server) sessionOf fun sessionId server =>
    let (server, result) := attempt.body pg caught contract server sessionId
    ((attempt.rollback.call (SandboxServer.rollbackSandbox pg sessionId) server).1, result)

/-- `simulate`. -/
def simulate : SandboxServer Rows Counters × SimulationResult :=
  if contract.operationType = .select then
    (server, { skippedReason := some "select_operation" })
  else if contract.primaryTable = "" then (server, { skippedReason := some "no_primary_table" })
  else
    match attempt.runOnce pg timeoutMs caught contract server with
    | (server, .ok result) => (server, result)
    | (server, .error .timeout) => (server, { available := false, timeoutOccurred := true })
    | (server, .error .failed) => (server, { available := false })

/-- `_run_simulation_with_retry`. -/
def runSimulationWithRetry (first second : Attempt Rows Counters) :
    SandboxServer Rows Counters × SimulationResult :=
  let (server, result) := first.simulate pg timeoutMs caught contract server
  if result.available ∨ result.skippedReason.isSome then (server, result)
  else if result.timeoutOccurred then
    let (server, result) := second.simulate pg timeoutMs caught contract server
    if result.available ∨ result.skippedReason.isSome then (server, result)
    else (server, ContextSimAgent.gaveUp)
  else (server, ContextSimAgent.gaveUp)

/-- The session is in `_sessions` with an open transaction. -/
def HasOpenTransaction (server : SandboxServer Rows Counters) (sessionId : String) : Prop :=
  ∃ conn, server.sessions sessionId = some conn ∧ conn.session.block.isSome = true

/-- If `begin_sandbox` opens a session, its response is not lost, and then the rollback reaches the
server, unless the transaction has ended before. -/
structure Closes : Prop where
  begin : ∀ error, attempt.begin = .lost error → attempt.staging = none
  rollback : attempt.begin = .answered → attempt.staging ≠ none →
    attempt.rollback.reaches = true ∨
      ¬ HasOpenTransaction (attempt.body pg caught contract
        (attempt.begun pg timeoutMs caught server).1 attempt.sessionId).1 attempt.sessionId

/-! ## What the client sees -/

/-- The server after each call of the session, whatever the client makes of the replies. -/
def afterPre (server : SandboxServer Rows Counters) : SandboxServer Rows Counters × TargetReply :=
  attempt.pre.call (SandboxServer.captureDiff pg caught attempt.sessionId (tablesToCount contract))
    server

def afterExecute (server : SandboxServer Rows Counters) :
    SandboxServer Rows Counters × TargetReply :=
  attempt.execute.call
    (SandboxServer.executeInSandbox pg caught attempt.sessionId contract.rawSql)
    (attempt.afterPre pg caught contract server).1

def afterPost (server : SandboxServer Rows Counters) :
    SandboxServer Rows Counters × TargetReply :=
  attempt.post.call (SandboxServer.captureDiff pg caught attempt.sessionId (tablesToCount contract))
    (attempt.afterExecute pg caught contract server).1

def afterLog (server : SandboxServer Rows Counters) : SandboxServer Rows Counters × TargetReply :=
  attempt.log.call (SandboxServer.getTriggerLog pg caught attempt.sessionId)
    (attempt.afterPost pg caught contract server).1

/-- The replies to the calls of the attempt, each at its turn. -/
def replies : SandboxTools := fun tool arguments =>
  let opened := attempt.begun pg timeoutMs caught server
  match tool with
  | "begin_sandbox" => opened.2
  | "capture_diff" =>
    match Py.Dict.get arguments "phase" with
    | .str "pre" => (attempt.afterPre pg caught contract opened.1).2
    | _ => (attempt.afterPost pg caught contract opened.1).2
  | "execute_in_sandbox" => (attempt.afterExecute pg caught contract opened.1).2
  | "get_trigger_log" => (attempt.afterLog pg caught contract opened.1).2
  | _ => .otherError

variable {pg timeoutMs caught contract attempt server} {sessionId : String}

theorem receive_snd {α β : Type} (called : SandboxServer Rows Counters × TargetReply)
    (read : TargetReply → Except SimulationError α)
    (next : α → SandboxServer Rows Counters →
      SandboxServer Rows Counters × Except SimulationError β) :
    (receive called read next).2 = (do let a ← read called.2; (next a called.1).2) := by
  unfold receive
  cases read called.2 with
  | error e => rfl
  | ok a => rfl

/-- `begin_sandbox` ends with an error, or the client gets the session id. -/
theorem begun_cases (pg : TransactionSandbox.Postgres Query Rows Counters) (timeoutMs : ℤ)
    (caught : TransactionSandbox.ToolError → CallError) (attempt : Attempt Rows Counters)
    (server : SandboxServer Rows Counters) :
    (∃ error : CallError, (attempt.begun pg timeoutMs caught server).2 = error.reply) ∨
      (attempt.begun pg timeoutMs caught server).2 = .result (.obj
        [("session_id", .str attempt.sessionId), ("transaction_open", .bool true)]) := by
  unfold begun
  cases attempt.begin with
  | unreached error => exact .inl ⟨error, rfl⟩
  | lost error => exact .inl ⟨error, rfl⟩
  | answered =>
    show (∃ error : CallError, (SandboxServer.beginSandbox pg timeoutMs caught attempt.sessionId
      attempt.staging server).2 = error.reply) ∨ (SandboxServer.beginSandbox pg timeoutMs caught
        attempt.sessionId attempt.staging server).2 = _
    unfold SandboxServer.beginSandbox
    cases attempt.staging with
    | none => exact .inl ⟨_, rfl⟩
    | some staging =>
      dsimp only
      split
      · exact .inr rfl
      · exact .inl ⟨_, rfl⟩

theorem callTool_eq (tools : SandboxTools) (tool : String) (arguments : Py.Dict) :
    SandboxClient.callTool tools tool arguments = resultOf (tools tool arguments) := by
  unfold SandboxClient.callTool resultOf
  cases tools tool arguments <;> rfl

theorem captureDiff_eq (tools : SandboxTools) (session : Py.Json) (tables : List String)
    (phase : String) : SandboxClient.captureDiff tools session tables phase =
      countsOf (tools "capture_diff" [("session_id", session), ("tables", .arr (tables.map .str)),
        ("phase", .str phase)]) := by
  unfold SandboxClient.captureDiff countsOf
  rw [callTool_eq]

theorem executeInSandbox_eq (tools : SandboxTools) (session : Py.Json) (sql : String) :
    SandboxClient.executeInSandbox tools session sql =
      executedOf (tools "execute_in_sandbox" [("session_id", session), ("sql", .str sql)]) := rfl

/-- The calls of the session. -/
theorem body_eq {tools : SandboxTools}
    (hpre : tools "capture_diff" [("session_id", .str attempt.sessionId),
      ("tables", .arr ((tablesToCount contract).map .str)), ("phase", .str "pre")] =
        (attempt.afterPre pg caught contract server).2)
    (hexecute : tools "execute_in_sandbox" [("session_id", .str attempt.sessionId),
      ("sql", .str contract.rawSql)] = (attempt.afterExecute pg caught contract server).2)
    (hpost : tools "capture_diff" [("session_id", .str attempt.sessionId),
      ("tables", .arr ((tablesToCount contract).map .str)), ("phase", .str "post")] =
        (attempt.afterPost pg caught contract server).2)
    (hlog : tools "get_trigger_log" [("session_id", .str attempt.sessionId)] =
      (attempt.afterLog pg caught contract server).2) :
    (attempt.body pg caught contract server attempt.sessionId).2 = (do
      let pre ← SandboxClient.captureDiff tools (.str attempt.sessionId) (tablesToCount contract)
        "pre"
      SandboxClient.executeInSandbox tools (.str attempt.sessionId) contract.rawSql
      let post ← SandboxClient.captureDiff tools (.str attempt.sessionId) (tablesToCount contract)
        "post"
      let log ← SandboxClient.callTool tools "get_trigger_log"
        [("session_id", .str attempt.sessionId)]
      buildResult contract pre post (← expect (SandboxClient.triggerLogOf log))) := by
  rw [captureDiff_eq, captureDiff_eq, executeInSandbox_eq, callTool_eq, hpre, hexecute, hpost, hlog]
  unfold body
  simp only [receive_snd, logOf, bind_assoc]
  rfl

/-- The attempt ends as one whose calls have these replies. -/
theorem runOnce_eq : (attempt.runOnce pg timeoutMs caught contract server).2 =
    SandboxClient.runOnce (attempt.replies pg timeoutMs caught contract server) contract := by
  unfold runOnce SandboxClient.runOnce
  rw [receive_snd, callTool_eq]
  have hbegin : attempt.replies pg timeoutMs caught contract server "begin_sandbox"
      [("tenant_id", .str contract.tenantId)] = (attempt.begun pg timeoutMs caught server).2 := rfl
  rw [hbegin]
  rcases begun_cases pg timeoutMs caught attempt server with ⟨error, hreply⟩ | hreply
  · rw [hreply]
    cases error <;> rfl
  · rw [hreply]
    by_cases hid : attempt.sessionId = ""
    · have hsession : sessionOf (.result (.obj [("session_id", .str attempt.sessionId),
          ("transaction_open", .bool true)])) = .error .failed := if_pos hid
      have htruthy : (Py.Json.str attempt.sessionId).truthy = false := by
        simp [Py.Json.truthy, hid]
      rw [hsession]
      show Except.error _ = if (Py.Json.str attempt.sessionId).truthy = true then _ else _
      rw [htruthy]
      rfl
    · have hsession : sessionOf (.result (.obj [("session_id", .str attempt.sessionId),
          ("transaction_open", .bool true)])) = .ok attempt.sessionId := if_neg hid
      have htruthy : (Py.Json.str attempt.sessionId).truthy = true := by
        simp [Py.Json.truthy, hid]
      rw [hsession]
      show (attempt.body pg caught contract _ attempt.sessionId).2 =
        if (Py.Json.str attempt.sessionId).truthy = true then _ else _
      rw [htruthy, if_pos rfl]
      exact body_eq rfl rfl rfl rfl

/-- A simulation ends as one whose calls have the same replies. -/
theorem simulate_eq : (attempt.simulate pg timeoutMs caught contract server).2 =
    SandboxClient.simulate (attempt.replies pg timeoutMs caught contract server) contract := by
  unfold simulate SandboxClient.simulate
  rw [← runOnce_eq]
  split_ifs
  · rfl
  · rfl
  · rcases attempt.runOnce pg timeoutMs caught contract server with ⟨after, error | result⟩
    · cases error <;> rfl
    · rfl

/-- Both attempts end as those of the agent, with the replies that each gets. -/
theorem runSimulationWithRetry_eq (first second : Attempt Rows Counters) :
    (runSimulationWithRetry pg timeoutMs caught contract server first second).2 =
      ContextSimAgent.runSimulationWithRetry (first.replies pg timeoutMs caught contract server)
        (second.replies pg timeoutMs caught contract
          (first.simulate pg timeoutMs caught contract server).1) contract := by
  unfold runSimulationWithRetry ContextSimAgent.runSimulationWithRetry
  rw [← simulate_eq, ← simulate_eq]
  rcases first.simulate pg timeoutMs caught contract server with ⟨after, result⟩
  dsimp only
  split_ifs <;> rfl

/-- The second attempt is made if the statement of the first runs into its timeout. -/
theorem timeoutOccurred_iff (htype : contract.operationType ≠ .select)
    (hprimary : contract.primaryTable ≠ "") :
    (attempt.simulate pg timeoutMs caught contract server).2.timeoutOccurred = true ↔
      SandboxClient.TimesOut (attempt.replies pg timeoutMs caught contract server) contract := by
  rw [simulate_eq, ← SandboxClient.runOnce_eq_timeout_iff,
    SandboxClient.simulate_eq_runOnce htype hprimary]
  rcases hresult : SandboxClient.runOnce (attempt.replies pg timeoutMs caught contract server)
    contract with error | result
  · cases error
    · exact iff_of_true rfl rfl
    · exact iff_of_false nofun nofun
  · have hfinished := (SandboxClient.runOnce_executed hresult).2.2
    refine iff_of_false ?_ nofun
    show ¬ result.timeoutOccurred = true
    rw [hfinished]
    exact Bool.false_ne_true

/-! ## Other sessions -/

/-- A step of the client leaves all other sessions as they are. -/
def Confined {β : Type} (sessionId : String)
    (run : SandboxServer Rows Counters → SandboxServer Rows Counters × β) : Prop :=
  ∀ server other, other ≠ sessionId → (run server).1.sessions other = server.sessions other

theorem confined_set {β : Type} (sessionId : String)
    (entry : SandboxServer Rows Counters → Option (TransactionSandbox.Connection Rows Counters))
    (value : SandboxServer Rows Counters → β) :
    Confined sessionId fun server => (server.set sessionId (entry server), value server) := by
  intro server other hother
  exact Function.update_of_ne hother _ _

theorem confined_call {sessionId : String}
    {tool : SandboxServer Rows Counters → SandboxServer Rows Counters × TargetReply}
    (htool : Confined sessionId tool) (fate : Fate) : Confined sessionId (fate.call tool) := by
  intro server other hother
  cases fate with
  | answered => exact htool server other hother
  | unreached error => rfl
  | lost error => exact htool server other hother

theorem confined_receive {α β : Type} {sessionId : String}
    {call : SandboxServer Rows Counters → SandboxServer Rows Counters × TargetReply}
    (hcall : Confined sessionId call) {read : TargetReply → Except SimulationError α}
    {next : α → SandboxServer Rows Counters →
      SandboxServer Rows Counters × Except SimulationError β}
    (hnext : ∀ a, Confined sessionId (next a)) :
    Confined sessionId fun server => receive (call server) read next := by
  intro server other hother
  dsimp only
  unfold receive
  cases read (call server).2 with
  | error e => exact hcall server other hother
  | ok a => exact (hnext a _ other hother).trans (hcall server other hother)

variable (pg caught contract) in
theorem confined_body (attempt : Attempt Rows Counters) (sessionId : String) :
    Confined sessionId fun server => attempt.body pg caught contract server sessionId := by
  unfold body
  dsimp only
  refine confined_receive (confined_call (confined_set _ _ _) _) fun pre => ?_
  refine confined_receive (confined_call (confined_set _ _ _) _) fun _ => ?_
  refine confined_receive (confined_call (confined_set _ _ _) _) fun post => ?_
  exact confined_receive (confined_call (confined_set _ _ _) _) fun log _ _ _ => rfl

variable (pg timeoutMs caught server) in
theorem sessionOf_begun (hid : attempt.sessionId ≠ "") :
    sessionOf (attempt.begun pg timeoutMs caught server).2 = .error .failed ∨
      sessionOf (attempt.begun pg timeoutMs caught server).2 = .ok attempt.sessionId := by
  rcases begun_cases pg timeoutMs caught attempt server with ⟨error, hreply⟩ | hreply
  · rw [hreply]
    cases error <;> exact .inl rfl
  · rw [hreply]
    exact .inr (if_neg hid)

theorem runOnce_of_error {e : SimulationError}
    (h : sessionOf (attempt.begun pg timeoutMs caught server).2 = .error e) :
    attempt.runOnce pg timeoutMs caught contract server =
      ((attempt.begun pg timeoutMs caught server).1, .error e) := by
  unfold runOnce receive
  rw [h]

theorem runOnce_of_ok
    (h : sessionOf (attempt.begun pg timeoutMs caught server).2 = .ok attempt.sessionId) :
    (attempt.runOnce pg timeoutMs caught contract server).1 =
      (attempt.rollback.call (SandboxServer.rollbackSandbox pg attempt.sessionId)
        (attempt.body pg caught contract (attempt.begun pg timeoutMs caught server).1
          attempt.sessionId).1).1 := by
  unfold runOnce receive
  rw [h]

variable (pg timeoutMs caught) in
theorem confined_begun (attempt : Attempt Rows Counters) :
    Confined attempt.sessionId (attempt.begun pg timeoutMs caught) := by
  refine confined_call (fun server other hother => ?_) attempt.begin
  unfold SandboxServer.beginSandbox
  cases attempt.staging with
  | none => rfl
  | some staging =>
    dsimp only
    split
    · exact Function.update_of_ne hother _ _
    · rfl

/-- An attempt touches no session but its own. -/
theorem confined_runOnce (hid : attempt.sessionId ≠ "") :
    Confined attempt.sessionId (attempt.runOnce pg timeoutMs caught contract) := by
  intro server other hother
  have hbegun := confined_begun pg timeoutMs caught attempt server other hother
  rcases sessionOf_begun pg timeoutMs caught server hid with h | h
  · rw [runOnce_of_error h]
    exact hbegun
  · rw [runOnce_of_ok h]
    have hbody := confined_body pg caught contract attempt attempt.sessionId
      (attempt.begun pg timeoutMs caught server).1 other hother
    have hrollback : Confined attempt.sessionId
        (attempt.rollback.call (SandboxServer.rollbackSandbox pg attempt.sessionId)) :=
      confined_call (confined_set _ _ _) _
    exact (hrollback _ other hother).trans (hbody.trans hbegun)

theorem simulate_fst (htype : contract.operationType ≠ .select)
    (hprimary : contract.primaryTable ≠ "") :
    (attempt.simulate pg timeoutMs caught contract server).1 =
      (attempt.runOnce pg timeoutMs caught contract server).1 := by
  unfold simulate
  rw [if_neg htype, if_neg hprimary]
  rcases attempt.runOnce pg timeoutMs caught contract server with ⟨after, error | result⟩
  · cases error <;> rfl
  · rfl

/-! ## The session of an attempt -/

variable (caught) in
/-- `begin_sandbox` leaves an open transaction, if it can connect. -/
theorem beginSandbox_some (hreads : TransactionSandbox.ReadsSetup pg timeoutMs sessionId)
    {staging : Option (Rows × Counters)} (hstaging : staging ≠ none)
    (server : SandboxServer Rows Counters) :
    HasOpenTransaction
        (SandboxServer.beginSandbox pg timeoutMs caught sessionId staging server).1 sessionId ∧
      (SandboxServer.beginSandbox pg timeoutMs caught sessionId staging server).2 =
        .result (.obj [("session_id", .str sessionId), ("transaction_open", .bool true)]) := by
  obtain ⟨⟨rows, counters⟩, rfl⟩ := Option.ne_none_iff_exists'.mp hstaging
  obtain ⟨g, -, hopened⟩ := TransactionSandbox.beginSandbox_isOk hreads rows counters
  unfold SandboxServer.beginSandbox
  dsimp only
  rw [hopened]
  exact ⟨⟨_, Function.update_self .., rfl⟩, rfl⟩

/-- Without a session id the attempt ends after `begin_sandbox`. -/
theorem runOnce_fst_of_no_session (h : attempt.begin = .answered → attempt.staging = none) :
    (attempt.runOnce pg timeoutMs caught contract server).1 =
      (attempt.begun pg timeoutMs caught server).1 := by
  have hreply : ∃ error : CallError,
      (attempt.begun pg timeoutMs caught server).2 = error.reply := by
    unfold begun
    cases hbegin : attempt.begin with
    | unreached error => exact ⟨error, rfl⟩
    | lost error => exact ⟨error, rfl⟩
    | answered =>
      rw [h hbegin]
      exact ⟨_, rfl⟩
  obtain ⟨error, hreply⟩ := hreply
  have hsession : sessionOf (attempt.begun pg timeoutMs caught server).2 = .error .failed := by
    rw [hreply]
    cases error <;> rfl
  rw [runOnce_of_error hsession]

/-- With one it ends with the rollback. -/
theorem runOnce_fst_of_session
    (hreads : TransactionSandbox.ReadsSetup pg timeoutMs attempt.sessionId)
    (hid : attempt.sessionId ≠ "") (hbegin : attempt.begin = .answered)
    (hstaging : attempt.staging ≠ none) :
    (attempt.runOnce pg timeoutMs caught contract server).1 =
      (attempt.rollback.call (SandboxServer.rollbackSandbox pg attempt.sessionId)
        (attempt.body pg caught contract (attempt.begun pg timeoutMs caught server).1
          attempt.sessionId).1).1 := by
  apply runOnce_of_ok
  have hreply := (beginSandbox_some caught hreads hstaging server).2
  unfold begun
  rw [hbegin]
  show sessionOf (SandboxServer.beginSandbox pg timeoutMs caught attempt.sessionId
    attempt.staging server).2 = _
  rw [hreply]
  exact if_neg hid

theorem not_hasOpenTransaction (h : server.sessions sessionId = none) :
    ¬ HasOpenTransaction server sessionId := by
  intro hopen
  obtain ⟨conn, hconn, -⟩ := hopen
  rw [h] at hconn
  cases hconn

/-- After a rollback that reaches the server the session is gone. -/
theorem rollback_closed {fate : Fate} (hreaches : fate.reaches = true) :
    ¬ HasOpenTransaction (fate.call (SandboxServer.rollbackSandbox pg sessionId) server).1
      sessionId := by
  apply not_hasOpenTransaction
  cases fate with
  | answered => exact Function.update_self ..
  | unreached error => exact absurd hreaches Bool.false_ne_true
  | lost error => exact Function.update_self ..

/-- One that does not leaves everything as it is. -/
theorem rollback_unreached {fate : Fate} (hreaches : ¬ fate.reaches = true)
    {tool : SandboxServer Rows Counters → SandboxServer Rows Counters × TargetReply} :
    (fate.call tool server).1 = server := by
  cases fate with
  | unreached error => rfl
  | answered => exact absurd rfl hreaches
  | lost error => exact absurd rfl hreaches

variable (caught) in
/-- An attempt leaves no open transaction if and only if it closes its session. -/
theorem simulate_closed_iff
    (hreads : TransactionSandbox.ReadsSetup pg timeoutMs attempt.sessionId)
    (hid : attempt.sessionId ≠ "") (hnew : server.sessions attempt.sessionId = none)
    (htype : contract.operationType ≠ .select) (hprimary : contract.primaryTable ≠ "") :
    ¬ HasOpenTransaction (attempt.simulate pg timeoutMs caught contract server).1
        attempt.sessionId ↔ attempt.Closes pg timeoutMs caught contract server := by
  have hfresh := not_hasOpenTransaction hnew
  rw [simulate_fst htype hprimary]
  by_cases hsession : attempt.begin = .answered ∧ attempt.staging ≠ none
  · obtain ⟨hbegin, hstaging⟩ := hsession
    rw [runOnce_fst_of_session hreads hid hbegin hstaging]
    by_cases hreaches : attempt.rollback.reaches = true
    · refine iff_of_true (rollback_closed hreaches) ⟨fun e he => ?_, fun _ _ => .inl hreaches⟩
      rw [hbegin] at he
      cases he
    · rw [rollback_unreached hreaches]
      constructor
      · intro hclosed
        refine ⟨fun e he => ?_, fun _ _ => .inr hclosed⟩
        rw [hbegin] at he
        cases he
      · intro hcloses
        exact (hcloses.rollback hbegin hstaging).resolve_left hreaches
  · have hno : attempt.begin = .answered → attempt.staging = none := by
      intro hbegin
      by_contra hstaging
      exact hsession ⟨hbegin, hstaging⟩
    rw [runOnce_fst_of_no_session hno]
    -- the session is open exactly if its response is lost
    by_cases hstaging : attempt.staging = none
    · have hsame : (attempt.begun pg timeoutMs caught server).1 = server := by
        unfold begun
        rw [hstaging]
        cases attempt.begin <;> rfl
      rw [hsame]
      exact iff_of_true hfresh ⟨fun _ _ => hstaging, fun _ h => absurd hstaging h⟩
    · cases hbegin : attempt.begin with
      | answered => exact absurd (hno hbegin) hstaging
      | unreached error =>
        have hsame : (attempt.begun pg timeoutMs caught server).1 = server := by
          unfold begun
          rw [hbegin]
          rfl
        rw [hsame]
        refine iff_of_true hfresh ⟨fun e he => ?_, fun h => ?_⟩
        · rw [hbegin] at he
          cases he
        · rw [hbegin] at h
          cases h
      | lost error =>
        have hopen : HasOpenTransaction (attempt.begun pg timeoutMs caught server).1
            attempt.sessionId := by
          unfold begun
          rw [hbegin]
          exact (beginSandbox_some caught hreads hstaging server).1
        exact iff_of_false (not_not_intro hopen) fun hcloses =>
          hstaging (hcloses.begin error hbegin)

/-! ## Both attempts -/

/-- A result with a timeout is no result. -/
theorem simulate_of_timeout
    (h : (attempt.simulate pg timeoutMs caught contract server).2.timeoutOccurred = true) :
    (attempt.simulate pg timeoutMs caught contract server).2 =
      { available := false, timeoutOccurred := true } := by
  by_cases htype : contract.operationType = .select
  · simp [simulate, htype] at h
  · by_cases hprimary : contract.primaryTable = ""
    · simp [simulate, htype, hprimary] at h
    · have htimeout := SandboxClient.runOnce_eq_timeout_iff.mpr
        ((timeoutOccurred_iff htype hprimary).mp h)
      rw [simulate_eq, SandboxClient.simulate_eq_runOnce htype hprimary, htimeout]

/-- The server after the last attempt that is made. -/
theorem runSimulationWithRetry_fst (first second : Attempt Rows Counters) :
    (runSimulationWithRetry pg timeoutMs caught contract server first second).1 =
      if (first.simulate pg timeoutMs caught contract server).2.timeoutOccurred then
        (second.simulate pg timeoutMs caught contract
          (first.simulate pg timeoutMs caught contract server).1).1
      else (first.simulate pg timeoutMs caught contract server).1 := by
  unfold runSimulationWithRetry
  by_cases htimeout :
      (first.simulate pg timeoutMs caught contract server).2.timeoutOccurred = true
  · have hresult := simulate_of_timeout htimeout
    rcases hfirst : first.simulate pg timeoutMs caught contract server with ⟨after, result⟩
    rw [hfirst] at hresult
    obtain rfl : result = _ := hresult
    dsimp only
    rw [if_neg (by simp), if_pos rfl, if_pos rfl]
    split_ifs <;> rfl
  · rcases hfirst : first.simulate pg timeoutMs caught contract server with ⟨after, result⟩
    rw [hfirst] at htimeout
    dsimp only at htimeout ⊢
    rw [if_neg htimeout, if_neg htimeout]
    split_ifs <;> rfl

variable {first second : Attempt Rows Counters}

variable (pg timeoutMs caught contract) in
theorem confined_simulate (hid : attempt.sessionId ≠ "") :
    Confined attempt.sessionId (attempt.simulate pg timeoutMs caught contract) := by
  intro server other hother
  by_cases htype : contract.operationType = .select
  · unfold simulate
    rw [if_pos htype]
  · by_cases hprimary : contract.primaryTable = ""
    · unfold simulate
      rw [if_neg htype, if_pos hprimary]
    · rw [simulate_fst htype hprimary]
      exact confined_runOnce hid server other hother

/-- **Every session is closed** when both attempts are over, if and only if each attempt that is
made closes its own. -/
theorem sessionsClosed_iff
    (hfirst : TransactionSandbox.ReadsSetup pg timeoutMs first.sessionId)
    (hsecond : TransactionSandbox.ReadsSetup pg timeoutMs second.sessionId)
    (hid : first.sessionId ≠ "") (hid' : second.sessionId ≠ "")
    (hne : first.sessionId ≠ second.sessionId)
    (hnew : server.sessions first.sessionId = none)
    (hnew' : server.sessions second.sessionId = none) :
    (∀ attempt ∈ [first, second], ¬ HasOpenTransaction
        (runSimulationWithRetry pg timeoutMs caught contract server first second).1
        attempt.sessionId) ↔
      (contract.operationType ≠ .select → contract.primaryTable ≠ "" →
        first.Closes pg timeoutMs caught contract server ∧
        (SandboxClient.TimesOut (first.replies pg timeoutMs caught contract server) contract →
          second.Closes pg timeoutMs caught contract
            (first.simulate pg timeoutMs caught contract server).1)) := by
  rw [List.forall_mem_cons, List.forall_mem_singleton, runSimulationWithRetry_fst]
  by_cases htype : contract.operationType = .select
  · have hskipped (attempt : Attempt Rows Counters) (server : SandboxServer Rows Counters) :
        attempt.simulate pg timeoutMs caught contract server =
          (server, { skippedReason := some "select_operation" }) := if_pos htype
    rw [hskipped]
    exact iff_of_true ⟨not_hasOpenTransaction hnew, not_hasOpenTransaction hnew'⟩
      fun h => absurd htype h
  by_cases hprimary : contract.primaryTable = ""
  · have hskipped (attempt : Attempt Rows Counters) (server : SandboxServer Rows Counters) :
        attempt.simulate pg timeoutMs caught contract server =
          (server, { skippedReason := some "no_primary_table" }) :=
      (if_neg htype).trans (if_pos hprimary)
    rw [hskipped]
    exact iff_of_true ⟨not_hasOpenTransaction hnew, not_hasOpenTransaction hnew'⟩
      fun _ h => absurd hprimary h
  rw [← timeoutOccurred_iff htype hprimary]
  have hclosed := simulate_closed_iff caught hfirst hid hnew htype hprimary
  have hstillNew : (first.simulate pg timeoutMs caught contract server).1.sessions
      second.sessionId = none :=
    (confined_simulate pg timeoutMs caught contract hid server second.sessionId
      (Ne.symm hne)).trans hnew'
  by_cases htimeout :
      (first.simulate pg timeoutMs caught contract server).2.timeoutOccurred = true
  · rw [if_pos htimeout]
    have hclosed' := simulate_closed_iff caught hsecond hid' hstillNew htype hprimary
    -- the second attempt leaves the session of the first as it is
    have hsame := confined_simulate pg timeoutMs caught contract hid'
      (first.simulate pg timeoutMs caught contract server).1 first.sessionId hne
    have hopen : HasOpenTransaction (second.simulate pg timeoutMs caught contract
        (first.simulate pg timeoutMs caught contract server).1).1 first.sessionId ↔
        HasOpenTransaction (first.simulate pg timeoutMs caught contract server).1
          first.sessionId := by
      unfold HasOpenTransaction
      rw [hsame]
    rw [hopen, hclosed, hclosed']
    exact ⟨fun h _ _ => ⟨h.1, fun _ => h.2⟩, fun h => ⟨(h htype hprimary).1,
      (h htype hprimary).2 htimeout⟩⟩
  · rw [if_neg htimeout, hclosed]
    exact ⟨fun h _ _ => ⟨h.1, fun h => absurd h htimeout⟩, fun h => ⟨(h htype hprimary).1,
      not_hasOpenTransaction hstillNew⟩⟩

/-! ## A session whose id is lost -/

/-- The sample server, which reads the setup of a second session as well. -/
def twoSessions : TransactionSandbox.Postgres String (List String) Nat :=
  { TransactionSandbox.samplePostgres with
    parse := fun text =>
      if text = "SET LOCAL app.sandbox_session_id = 'r'" then
        some [.set .transaction "app.sandbox_session_id" (some "r")]
      else TransactionSandbox.samplePostgres.parse text }

/-- What the caller sees of an exception of a tool. -/
def httpError : TransactionSandbox.ToolError → CallError := fun _ =>
  .mcpCallError "MCP call transaction-sandbox failed: HTTP 500"

/-- A deletion to be simulated. -/
def deleteContract : HandoffContract where
  operationId := "op-1"
  tenantId := "tenant"
  submittedBy := "agent"
  sourceType := .internalSystem
  submissionTimestamp := 0
  rawSql := "DELETE FROM t"
  operationType := .delete
  primaryTable := "t"

/-- All calls are answered. -/
def answeredAttempt (sessionId : String) : Attempt (List String) Nat where
  sessionId := sessionId
  staging := some (["a", "b"], 0)
  begin := .answered
  pre := .answered
  execute := .answered
  post := .answered
  log := .answered
  rollback := .answered

/-- The response of `begin_sandbox` comes too late. -/
def lateAttempt : Attempt (List String) Nat :=
  { answeredAttempt "s" with
    begin := .lost (.mcpCallError "MCP call begin_sandbox failed: timeout after 8.0s") }

/-- A server without sessions. -/
def noSessions : SandboxServer (List String) Nat := ⟨fun _ => none⟩

/-- The transaction that was opened stays open. -/
theorem late_session_left : ¬ ∀ attempt ∈ [lateAttempt, answeredAttempt "r"],
    ¬ HasOpenTransaction (runSimulationWithRetry twoSessions 5000 httpError deleteContract
      noSessions lateAttempt (answeredAttempt "r")).1 attempt.sessionId := by
  intro hclosed
  apply hclosed lateAttempt List.mem_cons_self
  exact ⟨_, rfl, rfl⟩

/-- With all calls answered no transaction stays open. -/
theorem sessionsClosed_iff_answered : ¬ ∃ attempt ∈ [answeredAttempt "s", answeredAttempt "r"],
    HasOpenTransaction (runSimulationWithRetry twoSessions 5000 httpError deleteContract
      noSessions (answeredAttempt "s") (answeredAttempt "r")).1 attempt.sessionId := by
  have hclosed : ∀ attempt ∈ [answeredAttempt "s", answeredAttempt "r"],
      ¬ HasOpenTransaction (runSimulationWithRetry twoSessions 5000 httpError deleteContract
        noSessions (answeredAttempt "s") (answeredAttempt "r")).1 attempt.sessionId := by
    refine (sessionsClosed_iff ⟨rfl, rfl, rfl, rfl, rfl⟩ ⟨rfl, rfl, rfl, rfl, rfl⟩ (by decide)
      (by decide) (by decide) rfl rfl).mpr fun _ _ => ⟨⟨nofun, fun _ _ => .inl rfl⟩, fun _ => ?_⟩
    exact ⟨nofun, fun _ _ => .inl rfl⟩
  intro hopen
  obtain ⟨attempt, hattempt, hopen⟩ := hopen
  exact hclosed attempt hattempt hopen

end Attempt
