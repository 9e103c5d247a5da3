import ContraGate.Library.Machine
import ContraGate.StatusResponse

/-!
# Store calls, the database and the subscribers (`orchestrator/workflow_store.py`)

A store call that changes a record has three phases: its critical section, the upsert of
`_persist`, and, for three of the operations, `_notify_subscribers`. Between them anything may
happen. The arguments of the upsert are computed when a connection of the pool has been acquired;
the upsert takes effect some time later, and upserts on different connections do not wait for
each other.

The lock is never held across an `await` that suspends, and a `put` into an unbounded queue does
not suspend either: a critical section is one step, and so is a notification, from reading the
record to the last `put`.

Everything is about the records of one operation id.
-/

/-- A row of `workflow_records`; `contract_json` stands for the contract that it encodes. -/
structure WorkflowRow where
  operationId : String
  status : WorkflowStatus
  contract : HandoffContract
  toolCallManifest : Option Py.Dict
  executionResult : Option Py.Dict
  createdAt : Time
  updatedAt : Time
  executionCompleted : Bool

namespace WorkflowRow

/-- `json.dumps(value) if value else None`. -/
def orNull (value : Option Py.Dict) : Option Py.Dict := value.filter fun d => !d.isEmpty

/-- The arguments of the upsert for a record. -/
def ofRecord (m : Memory) (r : Ref) : WorkflowRow where
  operationId := (m.records r).operationId
  status := (m.records r).status
  contract := m.contracts (m.records r).contract
  toolCallManifest := orNull (m.records r).toolCallManifest
  executionResult := orNull (m.records r).executionResult
  createdAt := (m.records r).createdAt
  updatedAt := (m.records r).updatedAt
  executionCompleted := (m.records r).executionCompleted

/-- `_UPSERT_SQL`: a row that exists keeps its `created_at`. -/
def upsert (old : Option WorkflowRow) (new : WorkflowRow) : WorkflowRow :=
  match old with
  | none => new
  | some row => { new with createdAt := row.createdAt }

end WorkflowRow

/-- An operation that changes the record of the id. -/
inductive StoreCall
  | create (contract : Ref) (manifest : Py.Dict)
  | updateStatus (status : WorkflowStatus)
  | updateContract (contract : Ref)
  | setExecutionResult (result : Py.Dict)
  | recordDecision (d : Decision)

/-- Where a store call is suspended. -/
inductive CallAt
  /-- Not called yet. -/
  | idle
  /-- In `_persist` of this record, before a connection is acquired. -/
  | acquiring (record : Ref) (notifies : Bool)
  /-- The upsert with these arguments has been sent; it is the `ticket`-th that was computed. -/
  | upserting (record : Ref) (notifies : Bool) (row : WorkflowRow) (ticket : ℕ)
  /-- Before the critical section of `_notify_subscribers`. -/
  | notifying
  | returned

/-- A subscriber of the id: `subscribe`, then `get`, in the stream's generator. -/
structure Subscriber where
  /-- Its `get` has returned. -/
  hasRead : Bool := false
  /-- What the record reported then. -/
  snapshot : Option Py.Dict := none
  /-- What was put into its queue, oldest first. -/
  received : List Py.Dict := []

/-- The store, its calls in progress, the row of the id and its subscribers. -/
structure StoreSystem where
  mem : Memory
  calls : ℕ → CallAt
  row : Option WorkflowRow
  /-- The number of upserts whose arguments have been computed. -/
  computed : ℕ
  /-- `_subscribers.get(approval_id, [])`. -/
  registered : List ℕ
  subscribers : ℕ → Subscriber

/-- One step. -/
inductive StoreAction
  /-- The critical section of a call. -/
  | call (i : ℕ) (operation : StoreCall) (now : Time)
  /-- A connection is acquired and the arguments of the upsert are computed. -/
  | acquire (i : ℕ)
  /-- The upsert takes effect. -/
  | land (i : ℕ)
  /-- The persistence fails, or there is no database. -/
  | persistFails (i : ℕ)
  | notify (i : ℕ)
  | subscribe (q : ℕ)
  /-- The subscriber reads the record. -/
  | read (q : ℕ)
  | unsubscribe (q : ℕ)

namespace StoreCall

variable (opId : String)

/-- The memory after the critical section. -/
def apply (operation : StoreCall) (m : Memory) (now : Time) : Memory :=
  match operation with
  | create contract manifest => WorkflowStore.create m contract manifest now
  | updateStatus status => WorkflowStore.updateStatus m opId status now
  | updateContract contract => WorkflowStore.updateContract m opId contract now
  | setExecutionResult result => WorkflowStore.setExecutionResult m opId result now
  | recordDecision d => (WorkflowStore.recordDecision m opId d now).1

/-- The call goes on to `_notify_subscribers`. -/
def notifies : StoreCall → Bool
  | create .. | updateContract _ => false
  | updateStatus _ | setExecutionResult _ | recordDecision _ => true

/-- The record that the critical section has changed. -/
def changed (operation : StoreCall) (m : Memory) (now : Time) : Option Ref :=
  match operation with
  | create .. => some m.nextRecord
  | updateStatus _ | updateContract _ | setExecutionResult _ => m.store opId
  | recordDecision d => if (WorkflowStore.recordDecision m opId d now).2 then m.store opId else none

/-- Where the call is after the critical section. A refused decision returns at once; without a
record the other operations have nothing to persist. -/
def next (operation : StoreCall) (m : Memory) (now : Time) : CallAt :=
  match operation.changed opId m now with
  | some r => .acquiring r operation.notifies
  | none =>
    match operation with
    | recordDecision _ => .returned
    | _ => if operation.notifies then .notifying else .returned

/-- A record is created for a contract of the id. -/
def allowed (operation : StoreCall) (m : Memory) : Prop :=
  match operation with
  | create contract _ => (m.contracts contract).operationId = opId
  | _ => True

instance (operation : StoreCall) (m : Memory) : Decidable (operation.allowed opId m) := by
  unfold allowed
  split <;> infer_instance

end StoreCall

namespace CallAt

/-- The phase after the persistence. -/
def afterPersist (notifies : Bool) : CallAt := if notifies then .notifying else .returned

/-- The upsert of the call is not in the database yet. -/
def inFlight : CallAt → Bool
  | acquiring .. | upserting .. => true
  | _ => false

/-- The call has changed the record and has not yet notified the subscribers of it. -/
def owesNotification : CallAt → Bool
  | acquiring _ notifies | upserting _ notifies _ _ => notifies
  | notifying => true
  | _ => false

end CallAt

namespace StoreSystem

variable (opId : String) (isoformat : Time → String)

/-- `to_status_response` of the stored record, if there is one. -/
def report? (s : StoreSystem) : Option Py.Dict :=
  (s.mem.store opId).map fun r =>
    (s.mem.records r).toStatusResponse isoformat (s.mem.contracts (s.mem.records r).contract)

/-- `_notify_subscribers`: one event of the current record for everyone registered. -/
def deliver (s : StoreSystem) : ℕ → Subscriber :=
  match s.report? opId isoformat with
  | none => s.subscribers
  | some event => fun q =>
    if q ∈ s.registered then
      { s.subscribers q with received := (s.subscribers q).received ++ [event] }
    else s.subscribers q

/-- The call `i` goes on. -/
def setCall (s : StoreSystem) (i : ℕ) (pc : CallAt) : StoreSystem :=
  { s with calls := Function.update s.calls i pc }

/-- The store of one operation id, with any number of calls and subscribers. -/
def machine : Machine StoreSystem StoreAction where
  step s
    | .call i operation now =>
      match s.calls i with
      | .idle =>
        if operation.allowed opId s.mem then
          some { s.setCall i (operation.next opId s.mem now) with
            mem := operation.apply opId s.mem now }
        else none
      | _ => none
    | .acquire i =>
      match s.calls i with
      | .acquiring r notifies =>
        some { s.setCall i (.upserting r notifies (.ofRecord s.mem r) (s.computed + 1)) with
          computed := s.computed + 1 }
      | _ => none
    | .land i =>
      match s.calls i with
      | .upserting _ notifies row _ =>
        some { s.setCall i (.afterPersist notifies) with row := some (WorkflowRow.upsert s.row row) }
      | _ => none
    | .persistFails i =>
      match s.calls i with
      | .acquiring _ notifies | .upserting _ notifies _ _ =>
        some (s.setCall i (.afterPersist notifies))
      | _ => none
    | .notify i =>
      match s.calls i with
      | .notifying => some { s.setCall i .returned with subscribers := s.deliver opId isoformat }
      | _ => none
    | .subscribe q =>
      -- every subscription has a queue of its own
      if q ∈ s.registered then none
      else some
        { s with
          registered := s.registered ++ [q]
          subscribers := Function.update s.subscribers q {} }
    | .read q =>
      if q ∈ s.registered ∧ (s.subscribers q).hasRead = false then
        some { s with
          subscribers := Function.update s.subscribers q
            { s.subscribers q with hasRead := true, snapshot := s.report? opId isoformat } }
      else none
    | .unsubscribe q => some { s with registered := s.registered.filter (· ≠ q) }

/-- What a step can do. -/
inductive Steps (s : StoreSystem) : StoreAction → StoreSystem → Prop
  | call {i : ℕ} {operation : StoreCall} {now : Time} (hidle : s.calls i = .idle)
      (hallowed : operation.allowed opId s.mem) :
      Steps s (.call i operation now)
        { s.setCall i (operation.next opId s.mem now) with mem := operation.apply opId s.mem now }
  | acquire {i : ℕ} {r : Ref} {notifies : Bool} (hi : s.calls i = .acquiring r notifies) :
      Steps s (.acquire i)
        { s.setCall i (.upserting r notifies (.ofRecord s.mem r) (s.computed + 1)) with
          computed := s.computed + 1 }
  | land {i : ℕ} {r : Ref} {notifies : Bool} {row : WorkflowRow} {number : ℕ}
      (hi : s.calls i = .upserting r notifies row number) :
      Steps s (.land i)
        { s.setCall i (.afterPersist notifies) with row := some (WorkflowRow.upsert s.row row) }
  | failsAcquiring {i : ℕ} {r : Ref} {notifies : Bool} (hi : s.calls i = .acquiring r notifies) :
      Steps s (.persistFails i) (s.setCall i (.afterPersist notifies))
  | failsUpserting {i : ℕ} {r : Ref} {notifies : Bool} {row : WorkflowRow} {number : ℕ}
      (hi : s.calls i = .upserting r notifies row number) :
      Steps s (.persistFails i) (s.setCall i (.afterPersist notifies))
  | notify {i : ℕ} (hi : s.calls i = .notifying) :
      Steps s (.notify i) { s.setCall i .returned with subscribers := s.deliver opId isoformat }
  | subscribe {q : ℕ} (hq : q ∉ s.registered) :
      Steps s (.subscribe q)
        { s with
          registered := s.registered ++ [q]
          subscribers := Function.update s.subscribers q {} }
  | read {q : ℕ} (hq : q ∈ s.registered) (hread : (s.subscribers q).hasRead = false) :
      Steps s (.read q)
        { s with
          subscribers := Function.update s.subscribers q
            { s.subscribers q with hasRead := true, snapshot := s.report? opId isoformat } }
  | unsubscribe {q : ℕ} :
      Steps s (.unsubscribe q) { s with registered := s.registered.filter (· ≠ q) }

variable {opId isoformat}

variable {s t : StoreSystem}

theorem steps_of_call {i : ℕ} {operation : StoreCall} {now : Time}
    (h : (machine opId isoformat).step s (.call i operation now) = some t) :
    Steps opId isoformat s (.call i operation now) t := by
  simp only [machine] at h
  split at h
  · rename_i hidle
    split_ifs at h with hallowed
    obtain rfl := Option.some.inj h
    exact .call hidle hallowed
  · cases h

theorem steps_of_acquire {i : ℕ}
    (h : (machine opId isoformat).step s (.acquire i) = some t) :
    Steps opId isoformat s (.acquire i) t := by
  simp only [machine] at h
  split at h
  · rename_i hi
    obtain rfl := Option.some.inj h
    exact .acquire hi
  · cases h

theorem steps_of_land {i : ℕ}
    (h : (machine opId isoformat).step s (.land i) = some t) :
    Steps opId isoformat s (.land i) t := by
  simp only [machine] at h
  split at h
  · rename_i hi
    obtain rfl := Option.some.inj h
    exact .land hi
  · cases h

theorem steps_of_persistFails {i : ℕ}
    (h : (machine opId isoformat).step s (.persistFails i) = some t) :
    Steps opId isoformat s (.persistFails i) t := by
  simp only [machine] at h
  split at h
  · rename_i hi
    obtain rfl := Option.some.inj h
    exact .failsAcquiring hi
  · rename_i hi
    obtain rfl := Option.some.inj h
    exact .failsUpserting hi
  · cases h

theorem steps_of_notify {i : ℕ}
    (h : (machine opId isoformat).step s (.notify i) = some t) :
    Steps opId isoformat s (.notify i) t := by
  simp only [machine] at h
  split at h
  · rename_i hi
    obtain rfl := Option.some.inj h
    exact .notify hi
  · cases h

theorem steps_of_step {a : StoreAction}
    (h : (machine opId isoformat).step s a = some t) : Steps opId isoformat s a t := by
  cases a with
  | call i operation now => exact steps_of_call h
  | acquire i => exact steps_of_acquire h
  | land i => exact steps_of_land h
  | persistFails i => exact steps_of_persistFails h
  | notify i => exact steps_of_notify h
  | subscribe q =>
    simp only [machine] at h
    split_ifs at h with hq
    obtain rfl := Option.some.inj h
    exact .subscribe hq
  | read q =>
    simp only [machine] at h
    split_ifs at h with hq
    obtain rfl := Option.some.inj h
    exact .read hq.1 hq.2
  | unsubscribe q =>
    obtain rfl := Option.some.inj h
    exact .unsubscribe

end StoreSystem
