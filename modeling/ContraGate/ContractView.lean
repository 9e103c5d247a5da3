import ContraGate.ContractJson
import ContraGate.Library.JsValue
import ContraGate.Library.PyFormat
import ContraGate.Pipeline
import ContraGate.StatusResponse

/-!
# The page on which a person decides
# (`pages/ContractView.jsx` and `components/decision/DecisionPanel.jsx` of the UI)

The page fetches the contract when it is opened, when the status that it follows changes and after
a decision that it has sent. Several fetches can be under way; the one that arrives last is shown,
whatever it has read. The panel is part of what is shown: where there is an error in its place, what
was entered is gone. It asks for an acknowledgement where the contract that is shown is `PERMANENT`.

The status that `useApprovalPolling` returns is an input here, and the page stays open.
-/

/-- What a person has entered, and what the panel shows beside the contract. -/
structure DecisionPanel where
  reason : String := ""
  permanentAck : Bool := false
  modifyOpen : Bool := false
  prereqOpen : Bool := false
  modifyConstraints : String := ""
  prereqText : String := ""
  submitting : Bool := false
  error : Option String := none

/-- The buttons that send a decision. -/
inductive DecisionButton
  | approve | reject | sendModification | requestPrerequisite
deriving DecidableEq

/-- What can be entered. -/
inductive PanelInput
  | setReason (text : String)
  | setPermanentAck (checked : Bool)
  | toggleModify
  | togglePrereq
  | setModifyConstraints (text : String)
  | setPrereqText (text : String)

namespace DecisionPanel

/-- `MIN_REASON`. -/
def minReason : ℕ := 10

/-- `reasonOk`. -/
def reasonOk (p : DecisionPanel) : Bool := minReason ≤ Js.length (Js.trim p.reason)

/-- The button is there, and not disabled. -/
def enabled (isPermanent : Bool) (p : DecisionPanel) : DecisionButton → Bool
  | .approve => p.reasonOk && (!isPermanent || p.permanentAck) && !p.submitting
  | .reject => p.reasonOk && !p.submitting
  | .sendModification => p.modifyOpen &&
      !(!p.reasonOk || Js.trim p.modifyConstraints == "" || p.submitting)
  | .requestPrerequisite => p.prereqOpen &&
      !(!p.reasonOk || Js.trim p.prereqText == "" || p.submitting)

/-- The body of `sendDecision`, as `DecisionPayload` reads it: `prerequisite` is no field of it, and
`approver_id` has a default. -/
def payload (p : DecisionPanel) (button : DecisionButton) : Decision where
  decision :=
    match button with
    | .approve => "APPROVE"
    | .reject => "REJECT"
    | .sendModification => "MODIFY"
    | .requestPrerequisite => "REQUEST_PREREQUISITE"
  reason := Js.trim p.reason
  approverId := "notifier"
  modificationConstraints :=
    match button with
    | .sendModification => some (Js.trim p.modifyConstraints)
    | _ => none

/-- Something is entered; the texts are disabled while a decision is being sent, and the box is
there for a permanent operation only. -/
def input (isPermanent : Bool) (p : DecisionPanel) : PanelInput → Option DecisionPanel
  | .setReason text => if p.submitting then none else some { p with reason := text }
  | .setPermanentAck checked =>
    if isPermanent then some { p with permanentAck := checked } else none
  | .toggleModify => some { p with modifyOpen := !p.modifyOpen, prereqOpen := false }
  | .togglePrereq => some { p with prereqOpen := !p.prereqOpen, modifyOpen := false }
  | .setModifyConstraints text =>
    if p.modifyOpen && !p.submitting then some { p with modifyConstraints := text } else none
  | .setPrereqText text =>
    if p.prereqOpen && !p.submitting then some { p with prereqText := text } else none

end DecisionPanel

/-- How `fetchContract` ends: with the data, or with the message that it throws. -/
inductive ContractAnswer
  | data (json : Py.Json)
  | failed (message : String)

/-- A fetch under way. -/
inductive ContractRequest
  | sent
  | answered (answer : ContractAnswer)

/-- The state of the page. -/
structure ContractView where
  contractData : Py.Json := .null
  loading : Bool := true
  fetchError : Option String := none
  /-- What `useApprovalPolling` returns. -/
  status : Option String := none
  panel : DecisionPanel := {}
  /-- How often the panel was taken away. -/
  mounts : ℕ := 0

namespace ContractView

/-- `TERMINAL`. -/
def terminal : List String :=
  ["APPROVED", "REJECTED", "AUTO_REJECTED", "AUTO_EXECUTED", "COMPLETED", "FAILED", "TIMED_OUT"]

/-- The contract that is shown. -/
def contract (v : ContractView) : Py.Json := Js.field v.contractData "contract"

/-- `isPermanent`. -/
def isPermanent (v : ContractView) : Bool :=
  Js.isText (Js.field v.contract "reversibility") "PERMANENT"

/-- `status || wsStatus`. -/
def currentStatus (v : ContractView) : Py.Json :=
  match v.status with
  | none | some "" => Js.field v.contractData "status"
  | some status => .str status

/-- `isTerminal`. -/
def isTerminal (v : ContractView) : Bool :=
  match v.currentStatus with
  | .str status => terminal.contains status
  | _ => false

/-- The page shows a contract with its panel. -/
def showsPanel (v : ContractView) : Bool :=
  !v.loading && !v.fetchError.any (· != "") && Js.truthy v.contract

/-- The panel takes decisions. -/
def decides (v : ContractView) : Bool := v.showsPanel && !v.isTerminal

/-- What is shown has changed: a panel that is not shown is unmounted. -/
def render (v : ContractView) : ContractView :=
  if v.showsPanel then v else { v with panel := {}, mounts := v.mounts + 1 }

/-- `fetchContract` goes on. -/
def fetched (v : ContractView) : ContractAnswer → ContractView
  | .data json => { v with contractData := json, fetchError := none, loading := false }.render
  | .failed message => { v with fetchError := some message, loading := false }.render

/-- `sendDecision` ends, in the panel that has sent it; another one is left alone. -/
def sendEnded (v : ContractView) (mount : ℕ) (error : Option String) : ContractView :=
  if mount = v.mounts then
    { v with panel := { v.panel with submitting := false, error := error.or v.panel.error } }
  else v

end ContractView

/-- How `POST /v1/decisions` answers. -/
inductive DecisionAnswer
  | recorded
  | refused (detail : String)

/-- A decision that is being sent, by the panel of a mount. -/
structure DecisionRequest where
  mount : ℕ
  decision : Decision
  answer : Option DecisionAnswer := none

/-- A workflow and one page of its contract. -/
structure DecisionPage where
  server : Gateway
  view : ContractView
  fetches : List ContractRequest
  sends : List DecisionRequest

/-- One step. -/
inductive DecisionPageAction
  | server (a : PipelineAction)
  /-- `useApprovalPolling` returns a status. -/
  | status (value : String)
  /-- The endpoint answers a fetch. -/
  | answerFetch (i : ℕ)
  /-- The answer of a fetch arrives. -/
  | fetched (i : ℕ)
  /-- A fetch fails on its way. -/
  | fetchFails (i : ℕ) (message : String)
  | input (a : PanelInput)
  | click (button : DecisionButton)
  /-- The endpoint answers a decision. -/
  | answerSend (i : ℕ) (now : Time)
  /-- The answer of a decision arrives. -/
  | sent (i : ℕ)
  /-- A decision fails on its way. -/
  | sendFails (i : ℕ) (message : String)

namespace DecisionPage

variable (cfg : PipelineConfig) (agents : AgentSettings) (approvalId : String) (manifest : Py.Dict)
  (printable : Char → Bool)

/-- `get_full_contract`. -/
def getFullContract (g : Gateway) : ContractAnswer :=
  match g.mem.store approvalId with
  | none => .failed "Contract not found"
  | some r =>
    let record := g.mem.records r
    .data (.obj
      [("status", .str record.status.value), ("approval_id", .str record.approvalId),
        ("contract", (g.mem.contracts record.contract).modelDumpJson)])

/-- The answer of the endpoint `record_decision`. -/
def decisionAnswer (g : Gateway) (d : Decision) (now : Time) : DecisionAnswer :=
  if d.reason.length < 10 then .refused "Decision reason must be at least 10 characters"
  else if ¬["APPROVE", "REJECT", "MODIFY", "REQUEST_PREREQUISITE"].contains d.decision then
    .refused ("Invalid decision: " ++ Py.reprText printable d.decision)
  else if (WorkflowStore.recordDecision g.mem approvalId d now).2 then .recorded
  else .refused ("Approval " ++ Py.reprText printable approvalId ++
    " not found or already decided (no replay allowed)")

/-- A status that is new, and not empty, is followed by a fetch. -/
def follow (v : ContractView) (value : String) : List ContractRequest :=
  if v.status = some value ∨ value = "" then [] else [.sent]

/-- The fetch that `onDecisionSent` makes. -/
def onDecisionSent : DecisionAnswer → List ContractRequest
  | .recorded => [.sent]
  | .refused _ => []

/-- What `sendDecision` throws. -/
def refusal : DecisionAnswer → Option String
  | .recorded => none
  | .refused detail => some detail

/-- The workflow and the page. -/
def machine : Machine DecisionPage DecisionPageAction where
  step s
    | .server a =>
      ((Pipeline.machine cfg agents approvalId manifest).step s.server a).map fun server =>
        { s with server }
    | .status value =>
      some
        { s with
          view := { s.view with status := some value }
          fetches := s.fetches ++ follow s.view value }
    | .answerFetch i =>
      match s.fetches[i]? with
      | some .sent =>
        some { s with fetches := s.fetches.set i (.answered (getFullContract approvalId s.server)) }
      | _ => none
    | .fetched i =>
      match s.fetches[i]? with
      | some (.answered answer) =>
        some { s with view := s.view.fetched answer, fetches := s.fetches.eraseIdx i }
      | _ => none
    | .fetchFails i message =>
      if i < s.fetches.length then
        some
          { s with view := s.view.fetched (.failed message), fetches := s.fetches.eraseIdx i }
      else none
    | .input a =>
      if s.view.decides then
        (s.view.panel.input s.view.isPermanent a).map fun panel =>
          { s with view := { s.view with panel } }
      else none
    | .click button =>
      if s.view.decides && s.view.panel.enabled s.view.isPermanent button then
        some
          { s with
            view := { s.view with panel := { s.view.panel with submitting := true, error := none } }
            sends := s.sends ++ [⟨s.view.mounts, s.view.panel.payload button, none⟩] }
      else none
    -- the status that the endpoint then sets is a step of the workflow
    | .answerSend i now =>
      match s.sends[i]? with
      | some ⟨mount, d, none⟩ =>
        ((Pipeline.machine cfg agents approvalId manifest).step s.server
          (.other (.postDecision d now))).map fun server =>
            { s with
              server
              sends := s.sends.set i
                ⟨mount, d, some (decisionAnswer approvalId printable s.server d now)⟩ }
      | _ => none
    | .sent i =>
      match s.sends[i]? with
      | some ⟨mount, _, some answer⟩ =>
        some
          { s with
            view := s.view.sendEnded mount (refusal answer)
            fetches := s.fetches ++ onDecisionSent answer
            sends := s.sends.eraseIdx i }
      | _ => none
    | .sendFails i message =>
      match s.sends[i]? with
      | some request =>
        some
          { s with
            view := s.view.sendEnded request.mount (some message)
            sends := s.sends.eraseIdx i }
      | none => none

/-- The page has been opened. -/
structure Opened (s : DecisionPage) : Prop where
  view : s.view = {}
  fetches : s.fetches = [.sent]
  sends : s.sends = []

/-! ## What a step does -/

/-- What each step needs, and what it does. -/
inductive Steps (s : DecisionPage) : DecisionPageAction → DecisionPage → Prop
  | server {a : PipelineAction} {server : Gateway}
      (hstep : (Pipeline.machine cfg agents approvalId manifest).step s.server a = some server) :
      Steps s (.server a) { s with server }
  | status {value : String} :
      Steps s (.status value)
        { s with
          view := { s.view with status := some value }
          fetches := s.fetches ++ follow s.view value }
  | answerFetch {i : ℕ} (hi : s.fetches[i]? = some .sent) :
      Steps s (.answerFetch i)
        { s with fetches := s.fetches.set i (.answered (getFullContract approvalId s.server)) }
  | fetched {i : ℕ} {answer : ContractAnswer} (hi : s.fetches[i]? = some (.answered answer)) :
      Steps s (.fetched i)
        { s with view := s.view.fetched answer, fetches := s.fetches.eraseIdx i }
  | fetchFails {i : ℕ} {message : String} (hi : i < s.fetches.length) :
      Steps s (.fetchFails i message)
        { s with view := s.view.fetched (.failed message), fetches := s.fetches.eraseIdx i }
  | input {a : PanelInput} {panel : DecisionPanel} (hdecides : s.view.decides = true)
      (hpanel : s.view.panel.input s.view.isPermanent a = some panel) :
      Steps s (.input a) { s with view := { s.view with panel } }
  | click {button : DecisionButton} (hdecides : s.view.decides = true)
      (henabled : s.view.panel.enabled s.view.isPermanent button = true) :
      Steps s (.click button)
        { s with
          view := { s.view with panel := { s.view.panel with submitting := true, error := none } }
          sends := s.sends ++ [⟨s.view.mounts, s.view.panel.payload button, none⟩] }
  | answerSend {i mount : ℕ} {d : Decision} {now : Time} {server : Gateway}
      (hi : s.sends[i]? = some ⟨mount, d, none⟩)
      (hstep : (Pipeline.machine cfg agents approvalId manifest).step s.server
        (.other (.postDecision d now)) = some server) :
      Steps s (.answerSend i now)
        { s with
          server
          sends := s.sends.set i
            ⟨mount, d, some (decisionAnswer approvalId printable s.server d now)⟩ }
  | sent {i mount : ℕ} {d : Decision} {answer : DecisionAnswer}
      (hi : s.sends[i]? = some ⟨mount, d, some answer⟩) :
      Steps s (.sent i)
        { s with
          view := s.view.sendEnded mount (refusal answer)
          fetches := s.fetches ++ onDecisionSent answer
          sends := s.sends.eraseIdx i }
  | sendFails {i : ℕ} {message : String} {request : DecisionRequest}
      (hi : s.sends[i]? = some request) :
      Steps s (.sendFails i message)
        { s with
          view := s.view.sendEnded request.mount (some message)
          sends := s.sends.eraseIdx i }

variable {cfg agents approvalId manifest printable}

variable {s t : DecisionPage}

theorem steps_of_answerFetch {i : ℕ}
    (h : (machine cfg agents approvalId manifest printable).step s (.answerFetch i) = some t) :
    Steps cfg agents approvalId manifest printable s (.answerFetch i) t := by
  simp only [machine] at h
  split at h
  · rename_i hi
    obtain rfl := Option.some.inj h
    exact .answerFetch hi
  · cases h

theorem steps_of_fetched {i : ℕ}
    (h : (machine cfg agents approvalId manifest printable).step s (.fetched i) = some t) :
    Steps cfg agents approvalId manifest printable s (.fetched i) t := by
  simp only [machine] at h
  split at h
  · rename_i hi
    obtain rfl := Option.some.inj h
    exact .fetched hi
  · cases h

theorem steps_of_input {b : PanelInput}
    (h : (machine cfg agents approvalId manifest printable).step s (.input b) = some t) :
    Steps cfg agents approvalId manifest printable s (.input b) t := by
  simp only [machine] at h
  split_ifs at h with hdecides
  obtain ⟨panel, hpanel, rfl⟩ := Option.map_eq_some_iff.mp h
  exact .input hdecides hpanel

theorem steps_of_click {button : DecisionButton}
    (h : (machine cfg agents approvalId manifest printable).step s (.click button) = some t) :
    Steps cfg agents approvalId manifest printable s (.click button) t := by
  simp only [machine] at h
  split_ifs at h with hclick
  obtain rfl := Option.some.inj h
  rw [Bool.and_eq_true] at hclick
  exact .click hclick.1 hclick.2

theorem steps_of_answerSend {i : ℕ} {now : Time}
    (h : (machine cfg agents approvalId manifest printable).step s (.answerSend i now) = some t) :
    Steps cfg agents approvalId manifest printable s (.answerSend i now) t := by
  simp only [machine] at h
  split at h
  · rename_i hi
    obtain ⟨server, hserver, rfl⟩ := Option.map_eq_some_iff.mp h
    exact .answerSend hi hserver
  · cases h

theorem steps_of_sent {i : ℕ}
    (h : (machine cfg agents approvalId manifest printable).step s (.sent i) = some t) :
    Steps cfg agents approvalId manifest printable s (.sent i) t := by
  simp only [machine] at h
  split at h
  · rename_i hi
    obtain rfl := Option.some.inj h
    exact .sent hi
  · cases h

theorem steps_of_sendFails {i : ℕ} {message : String}
    (h : (machine cfg agents approvalId manifest printable).step s (.sendFails i message) = some t) :
    Steps cfg agents approvalId manifest printable s (.sendFails i message) t := by
  simp only [machine] at h
  split at h
  · rename_i hi
    obtain rfl := Option.some.inj h
    exact .sendFails hi
  · cases h

theorem steps_of_step {a : DecisionPageAction}
    (h : (machine cfg agents approvalId manifest printable).step s a = some t) :
    Steps cfg agents approvalId manifest printable s a t := by
  cases a with
  | server b =>
    obtain ⟨server, hb, rfl⟩ := Option.map_eq_some_iff.mp h
    exact .server hb
  | status value =>
    obtain rfl := Option.some.inj h
    exact .status
  | answerFetch i => exact steps_of_answerFetch h
  | fetched i => exact steps_of_fetched h
  | fetchFails i message =>
    simp only [machine] at h
    split_ifs at h with hi
    obtain rfl := Option.some.inj h
    exact .fetchFails hi
  | input b => exact steps_of_input h
  | click button => exact steps_of_click h
  | answerSend i now => exact steps_of_answerSend h
  | sent i => exact steps_of_sent h
  | sendFails i message => exact steps_of_sendFails h

end DecisionPage
