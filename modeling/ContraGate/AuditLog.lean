import ContraGate.HandoffSchema
import ContraGate.Library.Jsonb
import ContraGate.Library.StableSort

/-!
# The audit log (`mcp_servers/audit_logger/server.py`, `mcp_servers/audit_logger/checksum.py`)

The five tools that write build a dict of event data from their arguments and leave the rest to
`_append`, which adds a row with a checksum; `list_operations` lists rows and `verify_checksum`
recomputes the checksum of one. `none` is the result of a call that raises: it leaves the table as
it was.
-/

open Py

/-- A row of `audit_log`. -/
structure AuditRow where
  id : String
  operationId : String
  tenantId : String
  eventType : String
  agentName : Option String
  eventData : Jsonb
  checksum : String
  loggedAt : Time

/-- The rows, in the order in which they were inserted. -/
abbrev AuditTable := List AuditRow

structure AuditConfig (F : Type) where
  floats : Floats F
  /-- `hashlib.sha256(text.encode()).hexdigest()`. -/
  sha256 : String → String

namespace AuditLog

variable {F : Type} (cfg : AuditConfig F)

/-- `compute_checksum`. -/
def computeChecksum (data : JsonData F) : String := cfg.sha256 (data.dumps cfg.floats)

/-- The dict that a checksum is computed of. -/
def checkedData (recordId operationId eventType : String) (agentName : Option String)
    (eventData : JsonData F) : JsonData F :=
  .obj [("id", .str recordId), ("operation_id", .str operationId), ("event_type", .str eventType),
    ("agent_name", agentName.elim .null .str), ("event_data", eventData)]

/-! ## Writing -/

/-- The answer of a tool that writes. -/
structure Logged where
  logged : Bool
  recordId : String
  checksum : String

/-- `_append`. The id is the one that `uuid4` draws, and `NOW()` is the time; the tenant is the
default of its column. -/
def append (table : AuditTable) (recordId : String) (now : Time) (operationId eventType : String)
    (eventData : JsonData F) (agentName : Option String := none) : Option (AuditTable × Logged) :=
  let checksum :=
    computeChecksum cfg (checkedData recordId operationId eventType agentName eventData)
  if Pg.isText operationId && agentName.all Pg.isText then
    (Jsonb.ofData cfg.floats eventData).map fun stored =>
      (table ++ [{ id := recordId, operationId, tenantId := "demo_tenant", eventType, agentName
                   eventData := stored, checksum, loggedAt := now }],
        { logged := true, recordId, checksum })
  else none

/-- A tool that writes: the parameters after `operation_id`, of which `agent_name` has a column of
its own and the others become the event data. -/
structure LogTool where
  name : String
  eventType : String
  agent : Bool
  keys : List String

def logToolCall : LogTool where
  name := "log_tool_call"
  eventType := "TOOL_CALL"
  agent := true
  keys := ["tool_name", "input_hash", "output_hash", "timestamp"]

def logAgentOutput : LogTool where
  name := "log_agent_output"
  eventType := "AGENT_OUTPUT"
  agent := true
  keys := ["output_summary", "handoff_contract_hash", "timestamp"]

def logHumanDecision : LogTool where
  name := "log_human_decision"
  eventType := "HUMAN_DECISION"
  agent := false
  keys := ["decision", "reason", "approver_id", "timestamp"]

def logExecution : LogTool where
  name := "log_execution"
  eventType := "EXECUTION"
  agent := false
  keys := ["execution_success", "actual_rows", "blast_radius_delta", "timestamp"]

def logAutoReject : LogTool where
  name := "log_auto_reject"
  eventType := "AUTO_REJECT"
  agent := false
  keys := ["rule_name", "matched_pattern", "timestamp"]

def logTools : List LogTool :=
  [logToolCall, logAgentOutput, logHumanDecision, logExecution, logAutoReject]

namespace LogTool

variable (tool : LogTool)

/-- The parameters of the function; none has a default. -/
def parameters : List String :=
  "operation_id" :: ((if tool.agent then ["agent_name"] else []) ++ tool.keys)

/-- The function, called with its arguments. -/
def call (table : AuditTable) (recordId : String) (now : Time) (operationId agentName : String)
    (values : List (JsonData F)) : Option (AuditTable × Logged) :=
  append cfg table recordId now operationId tool.eventType (.obj (tool.keys.zip values))
    (if tool.agent then some agentName else none)

end LogTool

/-! ## Reading -/

/-- A row as `list_operations` returns it. -/
structure AuditRecord where
  id : String
  operationId : String
  eventType : String
  agentName : Option String
  loggedAt : Time
  checksum : String

structure Listing where
  records : List AuditRecord
  count : ℕ

/-- The columns that are selected. -/
def record (row : AuditRow) : AuditRecord :=
  { id := row.id, operationId := row.operationId, eventType := row.eventType
    agentName := row.agentName, loggedAt := row.loggedAt, checksum := row.checksum }

/-- `list_operations`; rows of one time stay in the order of the table. -/
def listOperations (table : AuditTable) (tenantId : String) (limit : ℤ := 50) (offset : ℤ := 0) :
    Option Listing :=
  if Pg.isText tenantId && Pg.isLimit limit && Pg.isLimit offset then
    let rows := sortDesc AuditRow.loggedAt (table.filter (·.tenantId == tenantId))
    let records := ((rows.drop offset.toNat).take limit.toNat).map record
    some { records, count := records.length }
  else none

/-- The answer of `verify_checksum`. -/
inductive Verified
  | notFound
  | checked (valid : Bool) (storedChecksum computedChecksum : String)

/-- `verify_checksum`, for the text of a UUID. -/
def verifyChecksum (table : AuditTable) (recordId : String) : Option Verified :=
  match table.find? (·.id == recordId) with
  | none => some .notFound
  | some row =>
    (Jsonb.loads cfg.floats row.eventData).map fun eventData =>
      let computed := computeChecksum cfg
        (checkedData row.id row.operationId row.eventType row.agentName eventData)
      .checked (computed == row.checksum) row.checksum computed

/-! ## What `_append` does -/

variable {cfg} {table table' : AuditTable} {recordId operationId eventType : String} {now : Time}
  {eventData : JsonData F} {agentName : Option String} {reply : Logged}

/-- A call that returns has added one row. -/
theorem append_eq_some_iff :
    append cfg table recordId now operationId eventType eventData agentName =
        some (table', reply) ↔
      (Pg.isText operationId && agentName.all Pg.isText) = true ∧
      ∃ stored, Jsonb.ofData cfg.floats eventData = some stored ∧
        table' = table ++
          [{ id := recordId, operationId, tenantId := "demo_tenant", eventType, agentName
             eventData := stored
             checksum := computeChecksum cfg
               (checkedData recordId operationId eventType agentName eventData)
             loggedAt := now }] ∧
        reply = { logged := true, recordId
                  checksum := computeChecksum cfg
                    (checkedData recordId operationId eventType agentName eventData) } := by
  unfold append
  rw [Option.ite_none_right_eq_some, Option.map_eq_some_iff]
  simp only [Prod.mk.injEq, eq_comm]

/-! ## A configuration -/

/-- The floats `0.5` and `1e16`. -/
inductive SampleFloat
  | half
  | tenQuadrillion

def SampleFloat.decimal : SampleFloat → Decimal
  | half => { negative := false, coefficient := 5, exponent := -1 }
  | tenQuadrillion => { negative := false, coefficient := 1, exponent := 16 }

theorem SampleFloat.magnitude_half : half.decimal.magnitude = 1 / 2 := by
  norm_num [decimal, Decimal.magnitude]

theorem SampleFloat.magnitude_tenQuadrillion : tenQuadrillion.decimal.magnitude = 10 ^ 16 := by
  norm_num [decimal, Decimal.magnitude]

def sampleFloats : Floats SampleFloat where
  decimal := SampleFloat.decimal
  nearest negative q :=
    if negative then none
    else if q = 1 / 2 then some .half
    else if q = 10 ^ 16 then some .tenQuadrillion
    else none
  normal x := by cases x <;> decide
  coefficient_lt x := by cases x <;> decide
  point_le x := by cases x <;> decide
  nearest_decimal x := by
    cases x with
    | half =>
      rw [SampleFloat.magnitude_half]
      norm_num [SampleFloat.decimal]
    | tenQuadrillion =>
      rw [SampleFloat.magnitude_tenQuadrillion]
      norm_num [SampleFloat.decimal]
  negative_nearest {negative q x} h := by
    cases negative with
    | true => cases h
    | false => cases x <;> rfl

/-- A configuration with these floats, whose checksums are the texts themselves. -/
def sampleAuditConfig : AuditConfig SampleFloat where
  floats := sampleFloats
  sha256 := id

end AuditLog
