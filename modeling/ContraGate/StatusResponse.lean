import ContraGate.WorkflowStore

/-!
# What a record reports (`WorkflowRecord.to_status_response`)

The answer of the polling endpoint, and the event that subscribers receive.
-/

namespace WorkflowStatus

/-- `status.value`. -/
def value : WorkflowStatus → String
  | running => "RUNNING"
  | pendingHumanApproval => "PENDING_HUMAN_APPROVAL"
  | approved => "APPROVED"
  | rejected => "REJECTED"
  | autoRejected => "AUTO_REJECTED"
  | autoExecuted => "AUTO_EXECUTED"
  | completed => "COMPLETED"
  | failed => "FAILED"
  | timedOut => "TIMED_OUT"

/-- `WorkflowStatus(text)`; `none` when it raises. -/
def ofValue? : String → Option WorkflowStatus
  | "RUNNING" => some running
  | "PENDING_HUMAN_APPROVAL" => some pendingHumanApproval
  | "APPROVED" => some approved
  | "REJECTED" => some rejected
  | "AUTO_REJECTED" => some autoRejected
  | "AUTO_EXECUTED" => some autoExecuted
  | "COMPLETED" => some completed
  | "FAILED" => some failed
  | "TIMED_OUT" => some timedOut
  | _ => none

@[simp] theorem ofValue?_value (status : WorkflowStatus) : ofValue? status.value = some status := by
  cases status <;> rfl

/-- The statuses that report the execution result. -/
def reportsResult (status : WorkflowStatus) : Bool :=
  status ∈ [approved, autoExecuted, completed]

/-- The statuses that report a reason. -/
def reportsReason (status : WorkflowStatus) : Bool :=
  status ∈ [rejected, autoRejected]

end WorkflowStatus

namespace WorkflowRecord

/-- `execution_result`, as a JSON value. -/
def resultJson (record : WorkflowRecord) : Py.Json :=
  match record.executionResult with
  | none => .null
  | some result => .obj result

/-- `contract.decision_reason or contract.auto_reject_reason`. -/
def reason (contract : HandoffContract) : Py.Json :=
  (match contract.decisionReason with
    | none => Py.Json.null
    | some text => .str text).or contract.autoRejectReason

/-- `to_status_response`, of a record with this contract. -/
def toStatusResponse (isoformat : Time → String) (contract : HandoffContract)
    (record : WorkflowRecord) : Py.Dict :=
  [("status", .str record.status.value), ("approval_id", .str record.approvalId),
   ("updated_at", .str (isoformat record.updatedAt))] ++
    (if record.status.reportsResult then [("execution_result", record.resultJson)] else []) ++
    (if record.status.reportsReason then [("reason", reason contract)] else [])

/-- The event carries the status, and the execution result if the status reports one. -/
structure Carries (record : WorkflowRecord) (event : Py.Dict) : Prop where
  status : event.get "status" = .str record.status.value
  result : record.status.reportsResult = true →
    event.get "execution_result" = record.resultJson

/-- What a record reports, it carries. -/
theorem carries_toStatusResponse (isoformat : Time → String) (contract : HandoffContract)
    (record : WorkflowRecord) : record.Carries (record.toStatusResponse isoformat contract) where
  status := rfl
  result h := by
    unfold toStatusResponse
    rw [h]
    rfl

/-- Only the status and the result count. -/
theorem Carries.congr {record record' : WorkflowRecord} {event : Py.Dict}
    (hstatus : record'.status = record.status)
    (hresult : record'.executionResult = record.executionResult) (h : record.Carries event) :
    record'.Carries event where
  status := hstatus ▸ h.status
  result hreports := by
    have hjson : record'.resultJson = record.resultJson := by
      unfold resultJson
      rw [hresult]
    rw [hjson]
    exact h.result (hstatus ▸ hreports)

end WorkflowRecord
