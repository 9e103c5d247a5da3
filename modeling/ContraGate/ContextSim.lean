import ContraGate.Coroutine
import ContraGate.Library.Scan
import ContraGate.Retrieval

/-!
# The Context and Simulation Agent (`agents/context_sim/agent.py`, `sandbox_client.py`)

Two tasks side by side: the retrieval, and a simulation in the sandbox with at most two attempts.
Neither raises. The simulation opens a session, counts the rows before and after the statement,
reads the trigger log and rolls back; the reply to the rollback is not looked at. The counts and
the log are used as they come, and an operation that they do not allow fails the simulation. The
text of a failure, which only the log gets, is left out.
-/

/-- What a caller of the transaction-sandbox sees, by tool and arguments. -/
abbrev SandboxTools := String → Py.Dict → TargetReply

structure SimulationResult where
  executed : Bool := false
  available : Bool := true
  timeoutOccurred : Bool := false
  actualPrimaryRows : Option Py.Number := none
  actualCascade : List CascadeEntry := []
  triggerLog : Py.Json := .arr []
  skippedReason : Option String := none

/-- How an attempt fails. -/
inductive SimulationError
  /-- `SimulationTimeoutError`. -/
  | timeout
  /-- `SimulationFailedError`, or any other exception. -/
  | failed

namespace SandboxClient

variable (tools : SandboxTools)

/-- The result of a tool; all exceptions of the call are alike here. -/
def callTool (tool : String) (arguments : Py.Dict) : Except SimulationError Py.Json :=
  match tools tool arguments with
  | .result value => .ok value
  | .mcpCallError _ | .otherError => .error .failed

/-- A value of the expected type, or an exception. -/
def expect {α : Type} (value : Option α) : Except SimulationError α :=
  match value with
  | some v => .ok v
  | none => .error .failed

/-- The error text is one of a statement timeout. -/
def isTimeoutText (err : String) : Bool :=
  let lower := err.toList.map Char.toLower
  (cut "statement_timeout".toList lower).isSome || (cut "canceling statement".toList lower).isSome

/-- Step 4, in its own `try`. -/
def executeInSandbox (session : Py.Json) (sql : String) : Except SimulationError Unit :=
  match tools "execute_in_sandbox" [("session_id", session), ("sql", .str sql)] with
  | .result _ => .ok ()
  | .mcpCallError message => .error (if isTimeoutText message then .timeout else .failed)
  | .otherError => .error .failed

/-- `table_counts` of `capture_diff`. -/
def captureDiff (session : Py.Json) (tables : List String) (phase : String) :
    Except SimulationError Py.Json := do
  let reply ← callTool tools "capture_diff"
    [("session_id", session), ("tables", .arr (tables.map .str)), ("phase", .str phase)]
  .ok (Py.Dict.getD (← expect reply.dict?) "table_counts" (.obj []))

/-- `table in counts`: a key of a dictionary, an item of a list or a part of a text. -/
def counted (counts : Py.Json) (table : String) : Except SimulationError Bool :=
  match counts with
  | .obj entries => .ok (entries.lookup table).isSome
  | .arr items => .ok (items.any fun item => item.str? == some table)
  | .str text => .ok (cut table.toList text.toList).isSome
  | _ => .error .failed

/-- `counts[table]`, which only a dictionary allows. -/
def countOf (counts : Py.Json) (table : String) : Except SimulationError Py.Json :=
  expect ((counts.dict?).bind fun entries => entries.lookup table)

/-- `count >= 0`. -/
def nonNegative (count : Py.Json) : Except SimulationError Bool := do
  .ok ((← expect count.num?).value.ge (.finite 0))

/-- `a and b`: the second is looked at only when the first is true. -/
def both (a b : Except SimulationError Bool) : Except SimulationError Bool := do
  if ← a then b else .ok false

/-- `abs(before - after)`. -/
def change (before after : Py.Json) : Except SimulationError Py.Number := do
  expect ((← expect before.num?).absDiff (← expect after.num?))

/-- The rows that the primary table lost or gained, when both counts are there and not negative. -/
def primaryDelta (pre post : Py.Json) (table : String) :
    Except SimulationError (Option Py.Number) := do
  if ← both (counted pre table) (counted post table) then
    let before ← countOf pre table
    let after ← countOf post table
    if ← both (nonNegative before) (nonNegative after) then .ok (some (← change before after))
    else .ok none
  else .ok none

/-- The measured entry of `actual_cascade`, or the estimated one. Here a count is read only when it
is compared. -/
def measuredEntry (pre post : Py.Json) (entry : CascadeEntry) :
    Except SimulationError CascadeEntry := do
  let table := entry.table
  if ← both (both (both (counted pre table) (counted post table))
      (countOf pre table >>= nonNegative)) (countOf post table >>= nonNegative) then
    let rows ← change (← countOf pre table) (← countOf post table)
    .ok { entry with actualRows := some (← expect rows.int?) }
  else .ok entry

/-- `_build_result`. -/
def buildResult (contract : HandoffContract) (pre post triggerLog : Py.Json) :
    Except SimulationError SimulationResult := do
  let actualPrimary ←
    if contract.primaryTable = "" then .ok none else primaryDelta pre post contract.primaryTable
  let actualCascade ← contract.cascade.mapM (measuredEntry pre post)
  .ok { executed := true, actualPrimaryRows := actualPrimary, actualCascade, triggerLog }

/-- `trigger_log` of the reply. -/
def triggerLogOf (reply : Py.Json) : Option Py.Json := do
  some (Py.Dict.getD (← reply.dict?) "trigger_log" (.arr []))

/-- `tables_to_count`. -/
def tablesToCount (contract : HandoffContract) : List String :=
  (contract.primaryTable ::
    (contract.cascade.map (·.table)).filter (· ≠ "")).eraseDups

/-- `_run_once`. -/
def runOnce (contract : HandoffContract) : Except SimulationError SimulationResult := do
  let begun ← callTool tools "begin_sandbox" [("tenant_id", .str contract.tenantId)]
  let session := Py.Dict.get (← expect begun.dict?) "session_id"
  if session.truthy then do
    let pre ← captureDiff tools session (tablesToCount contract) "pre"
    executeInSandbox tools session contract.rawSql
    let post ← captureDiff tools session (tablesToCount contract) "post"
    let log ← callTool tools "get_trigger_log" [("session_id", session)]
    buildResult contract pre post (← expect (triggerLogOf log))
  else .error .failed

/-- `simulate`. -/
def simulate (contract : HandoffContract) : SimulationResult :=
  if contract.operationType = .select then { skippedReason := some "select_operation" }
  else if contract.primaryTable = "" then { skippedReason := some "no_primary_table" }
  else
    match runOnce tools contract with
    | .ok result => result
    | .error .timeout => { available := false, timeoutOccurred := true }
    | .error .failed => { available := false }

/-- `apply_to_contract`. -/
def applyToContract (contract : HandoffContract) (result : SimulationResult) : HandoffContract :=
  let c := { contract with
    simulationAvailable := result.available
    simulationExecuted := result.executed
    simulationTimeout := result.timeoutOccurred }
  if result.executed then
    { c with
      actualPrimaryRows := result.actualPrimaryRows
      actualCascade := result.actualCascade
      sandboxTriggerLog := result.triggerLog }
  else c

end SandboxClient

namespace ContextSimAgent

/-- The result that `_run_simulation_with_retry` returns once it gives up. -/
def gaveUp : SimulationResult := { available := false, timeoutOccurred := true }

/-- `_run_simulation_with_retry`, on sandboxes that behave as they do at the two attempts. Giving
up also sets `simulation_timeout`, which the result sets again. -/
def runSimulationWithRetry (first second : SandboxTools) (contract : HandoffContract) :
    SimulationResult :=
  let result := SandboxClient.simulate first contract
  if result.available ∨ result.skippedReason.isSome then result
  else if result.timeoutOccurred then
    let result := SandboxClient.simulate second contract
    if result.available ∨ result.skippedReason.isSome then result else gaveUp
  else gaveUp

/-- `run`. -/
def run (memory : MemoryTools) (first second : SandboxTools) (now : Time)
    (contract : HandoffContract) : HandoffContract :=
  let retrieval := RetrievalClient.retrieve memory contract
  let simulation := runSimulationWithRetry first second contract
  let c := RetrievalClient.applyToContract contract retrieval
  let c := SandboxClient.applyToContract c simulation
  let c :=
    if c.operationType = .insert ∧ c.simulationExecuted then { c with sequenceGapWarning := true }
    else c
  c.addProvenance now "CONTEXT_SIM_AGENT"
    ("retrieval_available,historical_precedents," ++ "simulation_available,simulation_executed," ++
      "actual_primary_rows,actual_cascade,sandbox_trigger_log," ++
      "simulation_timeout,sequence_gap_warning")

end ContextSimAgent
