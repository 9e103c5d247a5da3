import ContraGate.Library.Machine
import ContraGate.WorkflowStore

/-!
# Coroutines and what is observed of them

A state of the pipeline is a coroutine: it runs alone between two `await` points and
anything may happen at them. Its model is a program counter, with one constructor per point
where it is suspended, and one function that says what the next stretch of code does. A
store call is two stretches, its critical section and the code after it.

What the code reads from outside (the clock, the replies of servers) is the input of a
step. What others observe of a step (a call that reaches the target, a decision that was
accepted) is in its events; a run collects them in a log, newest first.
-/

/-- The call that `mcp_client.call` sends to the target server. -/
structure ToolCall where
  targetUrl : Py.Json
  toolName : Py.Json
  sql : Py.Json
  tenantId : String

/-- How `mcp_client.call` ends: it returns, raises `MCPCallError`, or raises anything else
(a refused connection, a body that is not JSON). -/
inductive TargetReply
  | result (value : Py.Json)
  | mcpCallError (message : String)
  | otherError

/-- What happened in a run, as seen from outside the coroutines. -/
inductive Event
  /-- `record_decision` returned; `written` is what it recorded when it returned `True`. -/
  | decided (d : Decision) (written : Option DecisionFields)
  /-- HUMAN_REVIEW has read the stored contract. -/
  | storeRead
  /-- HUMAN_REVIEW recorded a timeout. -/
  | timedOut
  /-- EXECUTION sent the operation to the target. -/
  | sent (call : ToolCall)
  /-- The target call came back. -/
  | replied (reply : TargetReply)

namespace Event

/-- The event is a call to the target. -/
def isSent : Event → Bool
  | sent _ => true
  | _ => false

end Event

/-- Where a coroutine stands after one stretch of code. -/
structure Resumed (κ : Type) where
  mem : Memory
  pc : κ
  events : List Event := []

/-- A coroutine that runs alone, as a machine: every input ends one `await`. -/
def Resumed.machine {κ ι : Type} (resume : Memory → κ → ι → Option (Resumed κ)) :
    Machine (Memory × κ) ι where
  step s input := (resume s.1 s.2 input).map fun o => (o.mem, o.pc)

/-- A `record_decision` call, as a step of a run. -/
def WorkflowStore.decide (m : Memory) (approvalId : String) (d : Decision) (now : Time) :
    Memory × Event :=
  let result := recordDecision m approvalId d now
  (result.1, .decided d (if result.2 then result.1.decision? approvalId else none))
