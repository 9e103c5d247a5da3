import ContraGate.StatusStream

/-!
# The page of one approval (`useApprovalPolling` in `ui/src/hooks/useApprovalPolling.js`)

The hook shows the events of the status stream. If the connection fails it polls
`GET /v1/approvals/{id}/status`, at once and then every 3 seconds; it does not wait for one poll
before the next, so the answers may overlap. It stops at a terminal status, and when the approval
is not found.

The system is the workflow with its stream, the hook and the polls in flight. The page stays with
one approval id until it is left.
-/

/-- `state` of the hook. -/
structure PollingState where
  status : Py.Json := .null
  result : Py.Json := .null
  reason : Py.Json := .null
  error : Option String := none
  isLoading : Bool := true
  isTerminal : Bool := false

/-- The hook. -/
structure ApprovalPolling where
  state : PollingState := {}
  /-- `esRef` holds an event source. -/
  es : Bool := false
  /-- `pollTimerRef` holds a timer. -/
  pollTimer : Bool := false
  mounted : Bool := true

/-- What the polling endpoint answers. -/
inductive PollResponse
  | ok (data : Py.Dict)
  | notFound
  | serverError

/-- A poll in flight. -/
inductive PollRequest
  | sent
  | answered (response : PollResponse)

/-- `TERMINAL_STATUSES`. -/
def terminalStatuses : List String :=
  ["APPROVED", "REJECTED", "AUTO_REJECTED", "AUTO_EXECUTED", "COMPLETED", "FAILED", "TIMED_OUT"]

namespace ApprovalPolling

/-- `TERMINAL_STATUSES.has(status)`. -/
def isTerminalStatus : Py.Json → Bool
  | .str status => terminalStatuses.contains status
  | _ => false

def cleanup (h : ApprovalPolling) : ApprovalPolling :=
  { h with es := false, pollTimer := false }

def applyUpdate (h : ApprovalPolling) (data : Py.Dict) : ApprovalPolling :=
  if h.mounted then
    let terminal := isTerminalStatus (data.get "status")
    let h' :=
      { h with
        state :=
          { status := data.get "status"
            result := data.get "execution_result"
            reason := data.get "reason"
            error := none
            isLoading := false
            isTerminal := terminal } }
    if terminal then h'.cleanup else h'
  else h

/-- The requests that `poll` makes. -/
def poll (h : ApprovalPolling) : List PollRequest := if h.mounted then [.sent] else []

/-- The response of a poll has arrived. -/
def pollAnswered (h : ApprovalPolling) : PollResponse → ApprovalPolling
  | .ok data => h.applyUpdate data
  | .notFound =>
    if h.mounted then
      cleanup
        { h with state := { h.state with error := some "Approval not found", isLoading := false } }
    else h
  | .serverError => h

/-- A poll has failed. -/
def pollFailed (h : ApprovalPolling) (message : String) : ApprovalPolling :=
  if h.mounted then
    { h with
      state := { h.state with error := some ("Poll error: " ++ message), isLoading := false } }
  else h

def startPolling (h : ApprovalPolling) : ApprovalPolling × List PollRequest :=
  if h.pollTimer then (h, []) else ({ h with pollTimer := true }, h.poll)

/-- `es.onmessage`: `JSON.parse` does not read a `NaN` or an infinity. -/
def onmessage (h : ApprovalPolling) (event : Py.Dict) : ApprovalPolling :=
  if (Py.Json.obj event).encodable then h.applyUpdate event else h

/-- `es.onerror`. -/
def onerror (h : ApprovalPolling) : ApprovalPolling × List PollRequest :=
  startPolling { h with es := false }

/-- The effect of the hook; the event source may fail to be built. -/
def mount (built : Bool) : ApprovalPolling × List PollRequest :=
  if built then ({ es := true }, []) else startPolling {}

/-- The cleanup of the effect. -/
def unmount (h : ApprovalPolling) : ApprovalPolling := cleanup { h with mounted := false }

end ApprovalPolling

/-- A workflow with its stream, and a page that shows it. -/
structure ApprovalPage where
  stream : StatusStream
  /-- How many of the events that were sent have reached the page. -/
  received : ℕ
  hook : ApprovalPolling
  requests : List PollRequest

/-- One step. -/
inductive PageAction
  | server (a : StreamAction)
  /-- The next event arrives. -/
  | message
  /-- The connection fails or ends. -/
  | error
  /-- The timer fires. -/
  | tick
  /-- The endpoint answers a poll. -/
  | answer (i : ℕ)
  /-- The answer of a poll arrives. -/
  | arrive (i : ℕ)
  /-- A poll fails. -/
  | fail (i : ℕ) (message : String)
  | unmount

namespace ApprovalPage

variable (cfg : PipelineConfig) (approvalId : String) (manifest : Py.Dict)
  (isoformat : Time → String)

/-- `get_approval_status`; a response with a `NaN` or an infinity cannot be written. -/
def getApprovalStatus (g : Gateway) : PollResponse :=
  match StatusStream.report? approvalId isoformat g with
  | none => .notFound
  | some event => if (Py.Json.obj event).encodable then .ok event else .serverError

/-- The workflow, its stream and the page. -/
def machine : Machine ApprovalPage PageAction where
  step s
    | .server a =>
      ((StatusStream.machine cfg approvalId manifest isoformat).step s.stream a).map fun stream =>
        { s with stream }
    -- a source that was closed hands over nothing
    | .message =>
      if s.hook.es then
        (s.stream.sent[s.received]?).map fun event =>
          { s with received := s.received + 1, hook := s.hook.onmessage event }
      else none
    | .error =>
      if s.hook.es then
        some
          { s with
            hook := s.hook.onerror.1
            requests := s.requests ++ s.hook.onerror.2 }
      else none
    | .tick =>
      if s.hook.pollTimer then some { s with requests := s.requests ++ s.hook.poll } else none
    | .answer i =>
      match s.requests[i]? with
      | some .sent =>
        some
          { s with
            requests :=
              s.requests.set i (.answered (getApprovalStatus approvalId isoformat s.stream.gateway)) }
      | _ => none
    | .arrive i =>
      match s.requests[i]? with
      | some (.answered response) =>
        some
          { s with
            hook := s.hook.pollAnswered response
            requests := s.requests.eraseIdx i }
      | _ => none
    | .fail i message =>
      if i < s.requests.length then
        some { s with hook := s.hook.pollFailed message, requests := s.requests.eraseIdx i }
      else none
    | .unmount => if s.hook.mounted then some { s with hook := s.hook.unmount } else none

/-- The page is opened; the task is about to start. -/
structure Opened (s : ApprovalPage) : Prop where
  stream : s.stream.Opened approvalId
  received : s.received = 0
  mounted : ∃ built, s.hook = (ApprovalPolling.mount built).1 ∧
    s.requests = (ApprovalPolling.mount built).2

/-- What each step needs, and what it does. -/
inductive Steps (s : ApprovalPage) : PageAction → ApprovalPage → Prop
  | server {a : StreamAction} {stream : StatusStream}
      (hstream : (StatusStream.machine cfg approvalId manifest isoformat).step s.stream a =
        some stream) :
      Steps s (.server a) { s with stream }
  | message {event : Py.Dict} (hes : s.hook.es = true)
      (hevent : s.stream.sent[s.received]? = some event) :
      Steps s .message { s with received := s.received + 1, hook := s.hook.onmessage event }
  | error (hes : s.hook.es = true) :
      Steps s .error
        { s with hook := s.hook.onerror.1, requests := s.requests ++ s.hook.onerror.2 }
  | tick (htimer : s.hook.pollTimer = true) :
      Steps s .tick { s with requests := s.requests ++ s.hook.poll }
  | answer {i : ℕ} (hi : s.requests[i]? = some .sent) :
      Steps s (.answer i)
        { s with
          requests :=
            s.requests.set i (.answered (getApprovalStatus approvalId isoformat s.stream.gateway)) }
  | arrive {i : ℕ} {response : PollResponse} (hi : s.requests[i]? = some (.answered response)) :
      Steps s (.arrive i)
        { s with hook := s.hook.pollAnswered response, requests := s.requests.eraseIdx i }
  | fail {i : ℕ} {message : String} (hi : i < s.requests.length) :
      Steps s (.fail i message)
        { s with hook := s.hook.pollFailed message, requests := s.requests.eraseIdx i }
  | unmount (hmounted : s.hook.mounted = true) :
      Steps s .unmount { s with hook := s.hook.unmount }

variable {cfg approvalId manifest isoformat} in
theorem steps_of_step {s t : ApprovalPage} {a : PageAction}
    (h : (machine cfg approvalId manifest isoformat).step s a = some t) :
    Steps cfg approvalId manifest isoformat s a t := by
  cases a with
  | server b =>
    obtain ⟨stream, hstream, rfl⟩ := Option.map_eq_some_iff.mp h
    exact .server hstream
  | message =>
    simp only [machine] at h
    split_ifs at h with hes
    obtain ⟨event, hevent, rfl⟩ := Option.map_eq_some_iff.mp h
    exact .message hes hevent
  | error =>
    simp only [machine] at h
    split_ifs at h with hes
    obtain rfl := Option.some.inj h
    exact .error hes
  | tick =>
    simp only [machine] at h
    split_ifs at h with htimer
    obtain rfl := Option.some.inj h
    exact .tick htimer
  | answer i =>
    simp only [machine] at h
    split at h
    · rename_i hi
      obtain rfl := Option.some.inj h
      exact .answer hi
    · cases h
  | arrive i =>
    simp only [machine] at h
    split at h
    · rename_i hi
      obtain rfl := Option.some.inj h
      exact .arrive hi
    · cases h
  | fail i message =>
    simp only [machine] at h
    split_ifs at h with hi
    obtain rfl := Option.some.inj h
    exact .fail hi
  | unmount =>
    simp only [machine] at h
    split_ifs at h with hmounted
    obtain rfl := Option.some.inj h
    exact .unmount hmounted

/-- The page of the sample workflow. -/
def samplePage : ApprovalPage where
  stream := StatusStream.sampleStream
  received := 0
  hook := (ApprovalPolling.mount true).1
  requests := []

theorem samplePage_opened : samplePage.Opened "cg_1" where
  stream := StatusStream.sampleStream_opened
  received := rfl
  mounted := ⟨true, rfl, rfl⟩

end ApprovalPage
