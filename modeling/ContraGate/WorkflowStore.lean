import Mathlib.Logic.Function.Basic
import ContraGate.HandoffSchema

/-!
# The workflow store (`orchestrator/workflow_store.py`)

Records and contracts are Python objects: `update_contract` makes the record point to the
caller's own contract, and from then on a decision recorded in the store is written into
the object the pipeline works on. So both kinds of object live in a heap, a `Memory`, and
are passed by reference.

Each operation is its critical section (the body of `async with self._lock`), taken in one
step: what interleaves is decided where the operations are called. Writing the record
through to PostgreSQL and notifying subscribers change nothing that an operation reads.
-/

inductive WorkflowStatus
  | running | pendingHumanApproval | approved | rejected | autoRejected
  | autoExecuted | completed | failed | timedOut
deriving DecidableEq, Repr

/-- The identity of a Python object. -/
abbrev Ref := ℕ

/-- `WorkflowRecord`; a new record is `RUNNING` and has not been executed. -/
structure WorkflowRecord where
  operationId : String
  approvalId : String
  status : WorkflowStatus := .running
  contract : Ref
  toolCallManifest : Option Py.Dict := none
  executionResult : Option Py.Dict := none
  createdAt : Time
  updatedAt : Time
  executionCompleted : Bool := false

/-- The objects in memory, and the dictionary `_store`. -/
structure Memory where
  contracts : Ref → HandoffContract
  records : Ref → WorkflowRecord
  store : String → Option Ref
  /-- The identity of the next record to be constructed. -/
  nextRecord : Ref

namespace Memory

/-- Update one contract object in place. -/
def modifyContract (m : Memory) (c : Ref) (f : HandoffContract → HandoffContract) : Memory :=
  { m with contracts := Function.update m.contracts c (f (m.contracts c)) }

/-- Update one record object in place. -/
def modifyRecord (m : Memory) (r : Ref) (f : WorkflowRecord → WorkflowRecord) : Memory :=
  { m with records := Function.update m.records r (f (m.records r)) }

/-- The record stored under an id. -/
def record? (m : Memory) (approvalId : String) : Option WorkflowRecord :=
  (m.store approvalId).map m.records

/-- The stored contract of an id. -/
def contract? (m : Memory) (approvalId : String) : Option HandoffContract :=
  (m.record? approvalId).map fun record => m.contracts record.contract

/-- The decision fields of the stored contract of an id. -/
def decision? (m : Memory) (approvalId : String) : Option DecisionFields :=
  (m.contract? approvalId).map (·.toDecisionFields)

/-- The stored contract of the id, if there is one, is the object `c` itself. -/
def Aliased (m : Memory) (approvalId : String) (c : Ref) : Prop :=
  ∀ r, m.store approvalId = some r → (m.records r).contract = c

/-- The record stored under an id is `execution_completed`. -/
def executed (m : Memory) (approvalId : String) : Bool :=
  (m.record? approvalId).any (·.executionCompleted)

/-- An execution result that says so. -/
def isSuccess (result : Py.Dict) : Bool :=
  match result.get "success" with
  | .bool b => b
  | _ => false

/-- The record stored under an id is `execution_completed`, with `success: True`. -/
def succeeded (m : Memory) (approvalId : String) : Bool :=
  (m.record? approvalId).any fun record =>
    record.executionCompleted && record.executionResult.any isSuccess

@[simp] theorem modifyContract_records (m : Memory) (c : Ref) (f) :
    (m.modifyContract c f).records = m.records := rfl

@[simp] theorem modifyContract_store (m : Memory) (c : Ref) (f) :
    (m.modifyContract c f).store = m.store := rfl

@[simp] theorem modifyContract_nextRecord (m : Memory) (c : Ref) (f) :
    (m.modifyContract c f).nextRecord = m.nextRecord := rfl

@[simp] theorem modifyContract_self (m : Memory) (c : Ref) (f) :
    (m.modifyContract c f).contracts c = f (m.contracts c) := by
  simp [modifyContract]

theorem modifyContract_of_ne (m : Memory) {c d : Ref} (f) (h : d ≠ c) :
    (m.modifyContract c f).contracts d = m.contracts d := by
  simp [modifyContract, h]

@[simp] theorem modifyRecord_contracts (m : Memory) (r : Ref) (f) :
    (m.modifyRecord r f).contracts = m.contracts := rfl

@[simp] theorem modifyRecord_store (m : Memory) (r : Ref) (f) :
    (m.modifyRecord r f).store = m.store := rfl

@[simp] theorem modifyRecord_nextRecord (m : Memory) (r : Ref) (f) :
    (m.modifyRecord r f).nextRecord = m.nextRecord := rfl

@[simp] theorem modifyRecord_self (m : Memory) (r : Ref) (f) :
    (m.modifyRecord r f).records r = f (m.records r) := by
  simp [modifyRecord]

theorem modifyRecord_of_ne (m : Memory) {r q : Ref} (f) (h : q ≠ r) :
    (m.modifyRecord r f).records q = m.records q := by
  simp [modifyRecord, h]

theorem record?_of_store {m : Memory} {id : String} {r : Ref} (h : m.store id = some r) :
    m.record? id = some (m.records r) := by
  simp [record?, h]

theorem contract?_of_store {m : Memory} {id : String} {r : Ref} (h : m.store id = some r) :
    m.contract? id = some (m.contracts (m.records r).contract) := by
  simp [contract?, record?, h]

theorem executed_of_store {m : Memory} {id : String} {r : Ref} (h : m.store id = some r) :
    m.executed id = (m.records r).executionCompleted := by
  simp [executed, record?, h]

@[simp] theorem executed_modifyContract (m : Memory) (c : Ref) (f) (id : String) :
    (m.modifyContract c f).executed id = m.executed id := rfl

/-- A record update that leaves the flag alone. -/
theorem executed_modifyRecord (m : Memory) (r : Ref) (f : WorkflowRecord → WorkflowRecord)
    (hf : ∀ record, (f record).executionCompleted = record.executionCompleted) (id : String) :
    (m.modifyRecord r f).executed id = m.executed id := by
  cases h : m.store id with
  | none => simp [executed, record?, h]
  | some q =>
    have hq : (m.modifyRecord r f).store id = some q := h
    rw [executed_of_store h, executed_of_store hq]
    by_cases hqr : q = r
    · subst hqr; simp [hf]
    · rw [m.modifyRecord_of_ne f hqr]

end Memory

/-- The arguments of `record_decision`. -/
structure Decision where
  decision : String
  reason : String
  approverId : String := "unknown"
  modificationConstraints : Option String := none
deriving DecidableEq

namespace Decision

/-- `decision_map.get(decision, AS.REJECTED)`. -/
def state : String → ApprovalState
  | "APPROVE" => .approved
  | "REJECT" => .rejected
  | "MODIFY" => .modified
  | "REQUEST_PREREQUISITE" => .rejected
  | _ => .rejected

/-- What an accepted decision leaves in the decision fields. An absent or empty
`modification_constraints` leaves the earlier one in place. -/
def write (d : Decision) (now : Time) (fields : DecisionFields) : DecisionFields where
  approvalState := state d.decision
  humanDecision := some d.decision
  decisionReason := some d.reason
  approverId := some d.approverId
  decisionTimestamp := some now
  modificationConstraints :=
    match d.modificationConstraints with
    | none => fields.modificationConstraints
    | some constraints =>
      if constraints = "" then fields.modificationConstraints else some constraints

@[simp] theorem write_approvalState (d : Decision) (now : Time) (fields : DecisionFields) :
    (d.write now fields).approvalState = state d.decision := rfl

theorem state_eq_approved {decision : String} : state decision = .approved ↔ decision = "APPROVE" := by
  unfold state
  split <;> simp_all

theorem state_ne_pending (decision : String) : state decision ≠ .pending := by
  unfold state
  split <;> simp

theorem state_eq_modified {decision : String} : state decision = .modified ↔ decision = "MODIFY" := by
  unfold state
  split <;> simp_all

end Decision

/-- The states `update_contract` preserves: `_terminal`. -/
def ApprovalState.terminal : ApprovalState → Bool
  | .approved | .rejected | .timedOut => true
  | .pending | .modified | .autoRejected => false

namespace WorkflowStore

/-- `create`: a new record for the contract, stored under its operation id. -/
def create (m : Memory) (contract : Ref) (manifest : Py.Dict) (now : Time) : Memory :=
  let operationId := (m.contracts contract).operationId
  let record : WorkflowRecord :=
    { operationId, approvalId := operationId, contract, toolCallManifest := some manifest,
      createdAt := now, updatedAt := now }
  { m with
    records := Function.update m.records m.nextRecord record
    store := Function.update m.store operationId (some m.nextRecord)
    nextRecord := m.nextRecord + 1 }

/-- `get`. -/
def get (m : Memory) (approvalId : String) : Option Ref := m.store approvalId

/-- `update_status`. -/
def updateStatus (m : Memory) (approvalId : String) (status : WorkflowStatus) (now : Time) :
    Memory :=
  match m.store approvalId with
  | none => m
  | some r => m.modifyRecord r fun record => { record with status, updatedAt := now }

/-- `update_contract`: a terminal decision of the stored contract is copied into the new
contract, field by field, before it replaces the stored one. -/
def updateContract (m : Memory) (approvalId : String) (contract : Ref) (now : Time) : Memory :=
  match m.store approvalId with
  | none => m
  | some r =>
    let existing := m.contracts (m.records r).contract
    let m := if existing.approvalState.terminal then
        m.modifyContract contract fun c =>
          { c with
            approvalState := existing.approvalState
            humanDecision := existing.humanDecision
            decisionReason := existing.decisionReason
            decisionTimestamp := existing.decisionTimestamp
            approverId := existing.approverId
            modificationConstraints := existing.modificationConstraints }
      else m
    m.modifyRecord r fun record => { record with contract, updatedAt := now }

/-- `set_execution_result`. -/
def setExecutionResult (m : Memory) (approvalId : String) (result : Py.Dict) (now : Time) :
    Memory :=
  match m.store approvalId with
  | none => m
  | some r =>
    m.modifyRecord r fun record =>
      { record with
        executionResult := some result, executionCompleted := true, updatedAt := now }

/-- `record_decision`: only a pending contract can be decided. -/
def recordDecision (m : Memory) (approvalId : String) (d : Decision) (now : Time) :
    Memory × Bool :=
  match m.store approvalId with
  | none => (m, false)
  | some r =>
    let contract := (m.records r).contract
    if (m.contracts contract).approvalState = .pending then
      ((m.modifyContract contract fun c =>
          { c with toDecisionFields := d.write now c.toDecisionFields }).modifyRecord r
        fun record => { record with updatedAt := now }, true)
    else (m, false)

end WorkflowStore

/-! ## A concrete store, for runs that are evaluated -/

/-- A store without records; every contract object holds `c`. -/
def Memory.blank (c : HandoffContract) : Memory where
  contracts _ := c
  records _ :=
    { operationId := c.operationId, approvalId := c.operationId, contract := 0,
      createdAt := 0, updatedAt := 0 }
  store _ := none
  nextRecord := 0

/-- A contract as `run_intake` builds it for a `DELETE`. -/
def sampleContract : HandoffContract where
  operationId := "cg_1"
  tenantId := "demo_tenant"
  submittedBy := "agent"
  sourceType := .internalSystem
  submissionTimestamp := 0
  rawSql := "DELETE FROM t"
  operationType := .delete

/-- The manifest that goes with `sampleContract`. -/
def sampleManifest : Py.Dict := [("sql", .str "DELETE FROM t"), ("operation_id", .str "cg_1")]

/-- The store right after `create`. -/
def sampleMemory : Memory :=
  WorkflowStore.create (Memory.blank sampleContract) 0 sampleManifest 0

/-- A decision with a reason of ten characters or more. -/
def sampleDecision (decision : String) : Decision where
  decision := decision
  reason := "looked at the plan"
