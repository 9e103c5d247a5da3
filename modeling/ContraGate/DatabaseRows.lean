import ContraGate.ContractJson
import ContraGate.StoreCalls

/-!
# Rows of `workflow_records`, written and loaded (`orchestrator/workflow_store.py`)

`_persist` upserts the columns of a record, and `_load_from_db` builds the records again when the
process starts. A JSON column holds the JSON value of its text: JSONB is taken to keep JSON values
as they are. A row that cannot be loaded is logged and left out.
-/

/-- A row of the table. -/
structure WorkflowColumns where
  operationId : String
  status : String
  contractJson : Py.Json
  toolCallManifest : Option Py.Json
  executionResult : Option Py.Json
  createdAt : Time
  updatedAt : Time
  executionCompleted : Bool

namespace WorkflowColumns

/-- The arguments of the upsert that `_persist` makes for a record. -/
def ofRecord (m : Memory) (r : Ref) : WorkflowColumns :=
  let row := WorkflowRow.ofRecord m r
  { operationId := row.operationId
    status := row.status.value
    contractJson := row.contract.modelDumpJson
    toolCallManifest := row.toolCallManifest.map .obj
    executionResult := row.executionResult.map .obj
    createdAt := row.createdAt
    updatedAt := row.updatedAt
    executionCompleted := row.executionCompleted }

/-- `_UPSERT_SQL`: a row that exists keeps its `created_at`. -/
def upsert (old : Option WorkflowColumns) (new : WorkflowColumns) : WorkflowColumns :=
  match old with
  | none => new
  | some row => { new with createdAt := row.createdAt }

/-- The upsert succeeds: no JSON column is given `NaN` or an infinity. -/
def accepted (row : WorkflowColumns) : Bool :=
  row.toolCallManifest.all Py.Json.encodable && row.executionResult.all Py.Json.encodable

end WorkflowColumns

namespace WorkflowStore

variable (lax : Py.Lax) (now : Time)

/-- `json.loads(column) if column else None`; only objects are ever written there. -/
def loadColumn (column : Option Py.Json) : Option Py.Dict := column.bind Py.Json.dict?

/-- The body of the loop of `_load_from_db`: a new record and a new contract object, under the
next identity. -/
def loadRow (m : Memory) (row : WorkflowColumns) : Memory :=
  match HandoffContract.modelValidateJson lax now row.contractJson,
    WorkflowStatus.ofValue? row.status with
  | some contract, some status =>
    let record : WorkflowRecord :=
      { operationId := row.operationId, approvalId := row.operationId, status
        contract := m.nextRecord
        toolCallManifest := loadColumn row.toolCallManifest
        executionResult := loadColumn row.executionResult
        createdAt := row.createdAt, updatedAt := row.updatedAt
        executionCompleted := row.executionCompleted }
    { contracts := Function.update m.contracts m.nextRecord contract
      records := Function.update m.records m.nextRecord record
      store := Function.update m.store row.operationId (some m.nextRecord)
      nextRecord := m.nextRecord + 1 }
  | _, _ => m

/-- `_load_from_db`, for the rows in the order in which they are fetched. -/
def loadFromDb (m : Memory) (rows : List WorkflowColumns) : Memory :=
  rows.foldl (loadRow lax now) m

/-! ## What loading gives -/

/-- Under the id there is the record `q` with a contract object of its own, both loaded. -/
structure Loaded (m : Memory) (id : String) (record : WorkflowRecord) (contract : HandoffContract)
    (q : Ref) : Prop where
  store : m.store id = some q
  allocated : q < m.nextRecord
  own : (m.records q).contract = q
  /-- The identity of the contract object is all that is new. -/
  record : { m.records q with contract := record.contract } = record
  contract : m.contracts q = contract

variable {lax now} {m : Memory} {id : String} {record : WorkflowRecord}
  {contract : HandoffContract} {q : Ref}

/-- Another row leaves what is loaded alone. -/
theorem Loaded.loadRow (h : Loaded m id record contract q) {row : WorkflowColumns}
    (hid : row.operationId ≠ id) : Loaded (loadRow lax now m row) id record contract q := by
  have hq : q ≠ m.nextRecord := h.allocated.ne
  unfold WorkflowStore.loadRow
  split
  · constructor
    · dsimp only
      rw [Function.update_of_ne hid.symm, h.store]
    · exact Nat.lt_succ_of_lt h.allocated
    · dsimp only
      rw [Function.update_of_ne hq, h.own]
    · dsimp only
      rw [Function.update_of_ne hq]
      exact h.record
    · dsimp only
      rw [Function.update_of_ne hq, h.contract]
  · exact h

theorem Loaded.loadFromDb (h : Loaded m id record contract q) {rows : List WorkflowColumns}
    (hids : ∀ row ∈ rows, row.operationId ≠ id) :
    Loaded (loadFromDb lax now m rows) id record contract q := by
  unfold WorkflowStore.loadFromDb
  induction rows generalizing m with
  | nil => exact h
  | cons row rows ih =>
    exact ih (h.loadRow (hids row List.mem_cons_self))
      fun row' hrow' => hids row' (List.mem_cons_of_mem _ hrow')

/-- An empty object is written as `NULL`; every other value comes back. -/
theorem loadColumn_orNull {value : Option Py.Dict} (h : value ≠ some []) :
    loadColumn ((WorkflowRow.orNull value).map .obj) = value := by
  match value with
  | none => rfl
  | some [] => exact absurd rfl h
  | some (entry :: entries) => rfl

variable {mem : Memory} {r : Ref}

/-- **A row gives its record back**: its contract comes back, and neither of its JSON columns is an
empty object. -/
theorem loaded_ofRecord (htyped : (mem.contracts (mem.records r).contract).WellTyped)
    (hreason : (mem.contracts (mem.records r).contract).reasonAccepted = true)
    (happroval : (mem.records r).approvalId = (mem.records r).operationId)
    (hmanifest : (mem.records r).toolCallManifest ≠ some [])
    (hresult : (mem.records r).executionResult ≠ some []) (m : Memory) :
    Loaded (loadRow lax now m (.ofRecord mem r)) (mem.records r).operationId (mem.records r)
      (mem.contracts (mem.records r).contract) m.nextRecord := by
  have hcontract : HandoffContract.modelValidateJson lax now
      (WorkflowColumns.ofRecord mem r).contractJson =
        some (mem.contracts (mem.records r).contract) :=
    HandoffContract.modelValidateJson_modelDumpJson lax now htyped hreason
  have hstatus : WorkflowStatus.ofValue? (WorkflowColumns.ofRecord mem r).status =
      some (mem.records r).status := WorkflowStatus.ofValue?_value _
  unfold loadRow
  rw [hcontract, hstatus]
  constructor
  · exact Function.update_self ..
  · exact Nat.lt_succ_self _
  · dsimp only
    rw [Function.update_self]
  · dsimp only
    rw [Function.update_self]
    simp only [WorkflowColumns.ofRecord, WorkflowRow.ofRecord, loadColumn_orNull hmanifest,
      loadColumn_orNull hresult]
    exact congrArg (fun approvalId => { mem.records r with approvalId }) happroval.symm
  · exact Function.update_self ..

/-- Loading all rows, of which each has an id of its own, loads every one that can be loaded. -/
theorem loaded_of_mem {row : WorkflowColumns} {rows : List WorkflowColumns} (hrow : row ∈ rows)
    (hids : (rows.map (·.operationId)).Nodup)
    (hload : ∀ m : Memory,
      Loaded (loadRow lax now m row) row.operationId record contract m.nextRecord) :
    ∃ q, Loaded (loadFromDb lax now m rows) row.operationId record contract q := by
  obtain ⟨before, after, rfl⟩ := List.append_of_mem hrow
  -- the rows before it do not matter, and those after it have other ids
  have hafter : ∀ row' ∈ after, row'.operationId ≠ row.operationId := by
    rw [List.map_append, List.map_cons] at hids
    have hnotMem := (List.nodup_cons.mp (List.nodup_append.mp hids).2.1).1
    intro row' hrow' heq
    exact hnotMem (heq ▸ List.mem_map_of_mem hrow')
  unfold loadFromDb
  rw [List.foldl_append, List.foldl_cons]
  exact ⟨_, (hload _).loadFromDb hafter⟩

end WorkflowStore
