import ContraGate.Coroutine

/-!
# The HUMAN_REVIEW state (`orchestrator/states/human_review.py`)

`run_human_review` notifies the approver, puts the pipeline's contract into the store, and
polls the stored contract until somebody has decided or the deadline has passed. Two
branches come before the polling: the re-entry after a MODIFY, which resets the contract to
`PENDING`, and a decision that was recorded before the state was reached, which is merged
into the pipeline's contract.

The text of the notification is not modelled; nothing reads it back.
-/

/-- Where `run_human_review` is suspended. A point named after a store call is before the
critical section of that call. -/
inductive ReviewAt
  /-- In `notifier("send_approval_request", ..)`. -/
  | notifying
  | resetContract
  | resetStatus
  /-- The first `get` of a first entry. -/
  | firstGet
  /-- It has returned this record. -/
  | firstGot (current : Option Ref)
  | mergeContract (pre : ApprovalState)
  | mergeStatus (pre : ApprovalState)
  | merged
  | persistContract
  | persistStatus
  /-- At the test of the loop. -/
  | waiting
  | sleeping
  /-- The `get` of the loop has returned this record. -/
  | pollGot (record : Option Ref)
  | returned
  | raised
deriving DecidableEq

/-- `run_human_review` in the middle of its work. -/
structure ReviewPc where
  /-- `start.timestamp() + REVIEW_TIMEOUT_SECONDS`. -/
  deadline : Time
  point : ReviewAt

/-- What resumes `run_human_review`. -/
inductive ReviewInput
  /-- The notifier has answered. -/
  | notified (r : TargetReply) (now : Time)
  | resume (now : Time)

namespace HumanReview

/-- `run_human_review` is called. -/
def enter (reviewTimeout now : Time) : ReviewPc where
  deadline := now + reviewTimeout
  point := .notifying

/-- The six assignments that copy a recorded decision into the pipeline's contract. -/
def copyDecision (source c : HandoffContract) : HandoffContract :=
  { c with
    approvalState := source.approvalState
    humanDecision := source.humanDecision
    decisionReason := source.decisionReason
    decisionTimestamp := source.decisionTimestamp
    approverId := source.approverId
    modificationConstraints := source.modificationConstraints }

/-- `_pre_status_map.get(pre_state, WorkflowStatus.REJECTED)`. -/
def preStatus : ApprovalState → WorkflowStatus
  | .approved => .approved
  | .rejected => .rejected
  | .timedOut => .timedOut
  | .modified => .running
  | .pending | .autoRejected => .rejected

/-- The `else` branch of the loop. -/
def timeOut (now : Time) (c : HandoffContract) : HandoffContract :=
  { c with
    approvalState := .timedOut
    decisionReason := some "Human review timed out — auto-rejected by ContraGate."
    decisionTimestamp := some now }

/-- The provenance entry that both exits write. -/
def addReviewProvenance (now : Time) (c : HandoffContract) : HandoffContract :=
  c.addProvenance now "HUMAN_REVIEW"
    "approval_state,human_decision,decision_reason,decision_timestamp"

/-- One stretch of `run_human_review(contract)`. -/
def runHumanReview (contract : Ref) (m : Memory) (pc : ReviewPc) :
    ReviewInput → Option (Resumed ReviewPc) :=
  let opId := (m.contracts contract).operationId
  let goto (point : ReviewAt) : ReviewPc := { pc with point }
  fun input =>
  match pc.point, input with
  | .notifying, .notified .otherError _ => some { mem := m, pc := goto .raised }
  -- a failed notification is logged and the review goes on
  | .notifying, .notified _ now =>
    let m := m.modifyContract contract fun c =>
      c.addProvenance now "HUMAN_REVIEW" "approval_notification_sent"
    if (m.contracts contract).approvalState = .modified then
      some
        { mem := m.modifyContract contract fun c => { c with approvalState := .pending }
          pc := goto .resetContract }
    else some { mem := m, pc := goto .firstGet }
  | .resetContract, .resume now =>
    some { mem := WorkflowStore.updateContract m opId contract now, pc := goto .resetStatus }
  | .resetStatus, .resume now =>
    some
      { mem := WorkflowStore.updateStatus m opId .pendingHumanApproval now
        pc := goto .waiting }
  | .firstGet, .resume _ =>
    some { mem := m, pc := goto (.firstGot (WorkflowStore.get m opId)), events := [.storeRead] }
  | .firstGot none, .resume _ => some { mem := m, pc := goto .persistContract }
  | .firstGot (some r), .resume _ =>
    let stored := m.contracts (m.records r).contract
    if stored.approvalState = .pending then some { mem := m, pc := goto .persistContract }
    else
      some
        { mem := m.modifyContract contract (copyDecision stored)
          pc := goto (.mergeContract stored.approvalState) }
  | .mergeContract pre, .resume now =>
    some { mem := WorkflowStore.updateContract m opId contract now, pc := goto (.mergeStatus pre) }
  | .mergeStatus pre, .resume now =>
    some { mem := WorkflowStore.updateStatus m opId (preStatus pre) now, pc := goto .merged }
  | .merged, .resume now =>
    some { mem := m.modifyContract contract (addReviewProvenance now), pc := goto .returned }
  | .persistContract, .resume now =>
    some { mem := WorkflowStore.updateContract m opId contract now, pc := goto .persistStatus }
  | .persistStatus, .resume now =>
    some
      { mem := WorkflowStore.updateStatus m opId .pendingHumanApproval now
        pc := goto .waiting }
  | .waiting, .resume now =>
    if now < pc.deadline then some { mem := m, pc := goto .sleeping }
    else
      some
        { mem := m.modifyContract contract fun c => addReviewProvenance now (timeOut now c)
          pc := goto .returned
          events := [.timedOut] }
  | .sleeping, .resume _ =>
    some { mem := m, pc := goto (.pollGot (WorkflowStore.get m opId)), events := [.storeRead] }
  -- the record is gone: leave the loop as things stand
  | .pollGot none, .resume now =>
    some { mem := m.modifyContract contract (addReviewProvenance now), pc := goto .returned }
  | .pollGot (some r), .resume now =>
    let stored := m.contracts (m.records r).contract
    if stored.approvalState = .pending then some { mem := m, pc := goto .waiting }
    else
      some
        { mem := m.modifyContract contract fun c => addReviewProvenance now (copyDecision stored c)
          pc := goto .returned }
  | _, _ => none

end HumanReview
