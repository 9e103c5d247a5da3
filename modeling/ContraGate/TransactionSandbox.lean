import ContraGate.Library.Machine
import ContraGate.Library.PgSession
import ContraGate.Library.PyValue
import ContraGate.Library.Scan

/-!
# The transaction sandbox (`mcp_servers/transaction_sandbox/server.py`)

One session: the psycopg2 connection that `begin_sandbox` opens and keeps in `_sessions`, and
the tools that use it. A psycopg2 connection without autocommit sends a `BEGIN` of its own
before the first statement of a transaction, and `rollback` sends nothing if it has begun none.
The trigger log's `fired_at` is left as the database returns it.
-/

namespace TransactionSandbox

open Pg

/-- What a cursor holds after a statement: `rowcount`, and the rows with their columns. -/
structure Reply where
  rowcount : Int
  rows : List Py.Dict

/-- A PostgreSQL server with these replies. -/
abbrev Postgres (Query Rows Counters : Type) := Server Query Rows Counters Reply

/-- A statement that PostgreSQL has executed, and the session before it. -/
abbrev Executed (Query Rows Counters : Type) := Statement Query × Session Rows Counters

/-- A psycopg2 connection. -/
structure Connection (Rows Counters : Type) where
  session : Session Rows Counters
  /-- A `BEGIN` has been sent, and no `rollback` since. -/
  begun : Bool

variable {Query Rows Counters : Type} (pg : Postgres Query Rows Counters)

namespace Connection

/-- The session in which the next text is sent. -/
def begin (conn : Connection Rows Counters) : Outcome Query Rows Counters Reply :=
  if conn.begun then { session := conn.session, ran := [], result := .ok none }
  else conn.session.message pg "BEGIN"

/-- `cur.execute(text)`: the connection afterwards, what was executed, and the result. -/
def execute (conn : Connection Rows Counters) (text : String) :
    Connection Rows Counters × List (Executed Query Rows Counters) ×
      Except String (Option Reply) :=
  let began := conn.begin pg
  let sent := began.session.message pg text
  ({ session := sent.session, begun := true }, began.ran ++ sent.ran, sent.result)

/-- `conn.rollback()`. -/
def rollback (conn : Connection Rows Counters) : Connection Rows Counters :=
  if conn.begun then
    { session := (conn.session.message pg "ROLLBACK").session, begun := false }
  else conn

/-- `conn.close()`. -/
def close (conn : Connection Rows Counters) : Connection Rows Counters :=
  { conn with session := conn.session.close }

end Connection

/-! ## The tools -/

/-- What `begin_sandbox` executes, with `STATEMENT_TIMEOUT_MS` and the new session id. -/
def beginTexts (timeoutMs : Int) (sessionId : String) : List String :=
  ["BEGIN",
    "SET LOCAL statement_timeout = '" ++ toString timeoutMs ++ "ms'",
    "SET LOCAL app.sandbox_mode = 'true'",
    "SET LOCAL app.sandbox_session_id = '" ++ sessionId ++ "'"]

/-- Execute texts until one fails. -/
def executeAll (conn : Connection Rows Counters) :
    List String → Except String (Connection Rows Counters)
  | [] => .ok conn
  | text :: texts =>
    match conn.execute pg text with
    | (conn, _, .ok _) => executeAll conn texts
    | (_, _, .error message) => .error message

/-- The session of a new connection. -/
def connect (rows : Rows) (counters : Counters) : Session Rows Counters where
  rows := rows
  counters := counters
  settings := ⟨pg.defaults, pg.defaults⟩
  block := none

/-- `begin_sandbox`, on a new connection; if it returns, the connection is in `_sessions`. -/
def beginSandbox (timeoutMs : Int) (sessionId : String) (session : Session Rows Counters) :
    Except String (Connection Rows Counters) :=
  executeAll pg { session := session, begun := false } (beginTexts timeoutMs sessionId)

/-- What a tool of an open session raises. -/
inductive ToolError
  /-- `No active sandbox session: ..` -/
  | noSession (sessionId : String)
  /-- The error of `cur.execute`. -/
  | database (message : String)

/-- The entry of one session in `_sessions`, and what PostgreSQL has executed for it since
`begin_sandbox`. -/
structure Sandbox (Query Rows Counters : Type) where
  entry : Option (Connection Rows Counters)
  ran : List (Executed Query Rows Counters)

/-- `cur.execute` on the session's connection. -/
def Sandbox.execute (sandbox : Sandbox Query Rows Counters) (conn : Connection Rows Counters)
    (text : String) : Sandbox Query Rows Counters × Connection Rows Counters ×
      Except String (Option Reply) :=
  let (conn, ran, result) := conn.execute pg text
  ({ entry := some conn, ran := sandbox.ran ++ ran }, conn, result)

/-- `execute_in_sandbox`: `rows_affected`. -/
def executeInSandbox (sandbox : Sandbox Query Rows Counters) (sessionId sql : String) :
    Sandbox Query Rows Counters × Except ToolError Int :=
  match sandbox.entry with
  | none => (sandbox, .error (.noSession sessionId))
  | some conn =>
    match sandbox.execute pg conn sql with
    | (sandbox, _, .ok reply) => (sandbox, .ok (reply.elim (-1) Reply.rowcount))
    | (sandbox, _, .error message) => (sandbox, .error (.database message))

/-- `psycopg2.sql.Identifier`. -/
def identifier (name : List Char) : String :=
  String.ofList ('"' :: name.flatMap (fun c => if c = '"' then ['"', '"'] else [c]) ++ ['"'])

/-- The query of `capture_diff` for one table. -/
def countText (table : String) : String :=
  match cut ['.'] table.toList with
  | some (schema, tbl) => "SELECT COUNT(*) FROM " ++ identifier schema ++ "." ++ identifier tbl
  | none =>
    "SELECT COUNT(*) FROM " ++ identifier "contragate_staging".toList ++ "." ++
      identifier table.toList

/-- `row[0] if row else 0`, for the row of `cur.fetchone()`, which fails without a result. -/
def countOf : Except String (Option Reply) → Py.Json
  | .ok (some reply) => (reply.rows.head?.bind fun row => row.head?.map (·.2)).getD (.int 0)
  | _ => .int (-1)

/-- The loop of `capture_diff`. -/
def countTables : Sandbox Query Rows Counters → Connection Rows Counters → List String →
    Py.Dict → Sandbox Query Rows Counters × Py.Dict
  | sandbox, _, [], counts => (sandbox, counts)
  | sandbox, conn, table :: tables, counts =>
    let (sandbox, conn, result) := sandbox.execute pg conn (countText table)
    countTables sandbox conn tables (counts.set table (countOf result))

/-- `capture_diff`: `table_counts`. -/
def captureDiff (sandbox : Sandbox Query Rows Counters) (sessionId : String)
    (tables : List String) : Sandbox Query Rows Counters × Except ToolError Py.Dict :=
  match sandbox.entry with
  | none => (sandbox, .error (.noSession sessionId))
  | some conn =>
    let (sandbox, counts) := countTables pg sandbox conn tables []
    (sandbox, .ok counts)

/-- The query of `get_trigger_log`; the session id is passed as a literal. -/
def triggerLogText (sessionId : String) : String :=
  "SELECT trigger_name, table_name, operation, target_url, payload_summary, estimated_calls, " ++
    "fired_at FROM contragate_staging.sandbox_trigger_log WHERE session_id = '" ++
    sessionId.replace "'" "''" ++ "' ORDER BY fired_at"

/-- `get_trigger_log`: `trigger_log`. -/
def getTriggerLog (sandbox : Sandbox Query Rows Counters) (sessionId : String) :
    Sandbox Query Rows Counters × Except ToolError (List Py.Dict) :=
  match sandbox.entry with
  | none => (sandbox, .error (.noSession sessionId))
  | some conn =>
    match sandbox.execute pg conn (triggerLogText sessionId) with
    | (sandbox, _, .ok (some reply)) => (sandbox, .ok reply.rows)
    | (sandbox, _, _) => (sandbox, .ok [])

/-- `rollback_sandbox`: the entry is removed; what is left is the closed connection, if there
was one. -/
def rollbackSandbox (sandbox : Sandbox Query Rows Counters) :
    Sandbox Query Rows Counters × Option (Connection Rows Counters) :=
  ({ sandbox with entry := none }, sandbox.entry.map fun conn => (conn.rollback pg).close)

/-! ## Runs -/

/-- A tool call between `begin_sandbox` and `rollback_sandbox`. -/
inductive Call
  | execute (sql : String)
  | captureDiff (tables : List String)
  | getTriggerLog

/-- A call, successful or not. -/
def Sandbox.call (sessionId : String) (sandbox : Sandbox Query Rows Counters) :
    Call → Sandbox Query Rows Counters
  | .execute sql => (executeInSandbox pg sandbox sessionId sql).1
  | .captureDiff tables => (TransactionSandbox.captureDiff pg sandbox sessionId tables).1
  | .getTriggerLog => (TransactionSandbox.getTriggerLog pg sandbox sessionId).1

/-- The calls on a session, in any order. -/
def sandboxMachine (sessionId : String) : Machine (Sandbox Query Rows Counters) Call where
  step sandbox c := some (sandbox.call pg sessionId c)

end TransactionSandbox
