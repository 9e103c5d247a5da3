import ContraGate.GatewayTheorems
import ContraGate.StatusResponse

/-!
# A status stream beside the pipeline (`stream_approval_status` in `proxy/async_protocol.py`)

The stream subscribes, sends what the record reports now, and then whatever arrives in its
queue, until it comes to a terminal status. `APPROVED` is one of these, but a decision endpoint
sets it before the operation is executed, and HUMAN_REVIEW when it merges an early decision.

A change of the record is followed by a notification, which reads the record when it is sent.
The model only counts the notifications that are owed, so it has every schedule of the code, and
those in which a caller goes on before its own notification. Heartbeats carry no status, and a
client that disconnects is not considered.
-/

/-- Where the generator of a stream is suspended. -/
inductive StreamAt
  /-- Before `subscribe`. -/
  | opening
  /-- Before `get`. -/
  | subscribed
  /-- The current state is being sent. -/
  | sendingFirst
  /-- In `queue.get`. -/
  | waiting
  /-- The stream has terminated. -/
  | ended
deriving DecidableEq

namespace StreamAt

/-- The queue of the stream is registered. -/
def listening : StreamAt → Bool
  | opening | ended => false
  | subscribed | sendingFirst | waiting => true

/-- Nothing has been sent. -/
def unread : StreamAt → Bool
  | opening | subscribed => true
  | sendingFirst | waiting | ended => false

end StreamAt

/-- A workflow and one stream of its status. -/
structure StatusStream where
  gateway : Gateway
  /-- The changes whose notification is still to come. -/
  owed : ℕ
  stream : StreamAt
  /-- What was put into the queue and not yet taken out, oldest first. -/
  queue : List Py.Dict
  /-- The events that were sent, oldest first. -/
  sent : List Py.Dict

/-- One step. -/
inductive StreamAction
  | gateway (a : GatewayAction)
  /-- `_notify_subscribers`. -/
  | notify
  | subscribe
  /-- The `get`, and the current state is sent. -/
  | read
  /-- The test behind the first `yield`. -/
  | check
  /-- An event is taken out of the queue and sent. -/
  | send

/-- `terminal`. -/
def WorkflowStatus.endsStream (status : WorkflowStatus) : Bool :=
  status ∈ [approved, rejected, autoRejected, autoExecuted, completed, failed, timedOut]

namespace StatusStream

/-- `WorkflowStatus(event.get("status", "RUNNING")) in terminal`. -/
def isTerminal (event : Py.Dict) : Bool :=
  match event.getD "status" (.str "RUNNING") with
  | .str status => (WorkflowStatus.ofValue? status).any (·.endsStream)
  | _ => false

/-- The stretch of the task ends in a store call that notifies. -/
def taskNotifies : TaskAt → Bool
  | .statusRunning | .syncStatus _ | .failed | .execution (.storing _) => true
  | .humanReview pc =>
    match pc.point with
    | .resetStatus | .mergeStatus _ | .persistStatus => true
    | _ => false
  | _ => false

/-- The step from `g` to `g'` is followed by a notification. A decision notifies if it is
accepted. -/
def notifies (g : Gateway) (a : GatewayAction) (g' : Gateway) : Bool :=
  match a with
  | .task _ => taskNotifies g.task
  | .endpointStatus .. => true
  | .recordDecision .. | .postDecision .. | .viewSubmission .. =>
    (g'.log.take (g'.log.length - g.log.length)).any Gateway.accepted

variable (cfg : PipelineConfig) (approvalId : String) (manifest : Py.Dict)
  (isoformat : Time → String)

/-- `to_status_response` of the record, if there is one. -/
def report? (g : Gateway) : Option Py.Dict :=
  (g.mem.record? approvalId).map fun record =>
    record.toStatusResponse isoformat (g.mem.contracts record.contract)

/-- `current.status in terminal`. -/
def statusEnds (g : Gateway) : Bool :=
  (g.mem.record? approvalId).any (·.status.endsStream)

/-- The workflow with its stream. -/
def machine : Machine StatusStream StreamAction where
  step s
    | .gateway a =>
      ((Gateway.machine cfg approvalId manifest).step s.gateway a).map fun g =>
        { s with
          gateway := g
          owed := if notifies s.gateway a g then s.owed + 1 else s.owed }
    | .notify =>
      if s.owed = 0 then none
      else some
        { s with
          owed := s.owed - 1
          queue := if s.stream.listening then
            s.queue ++ (report? approvalId isoformat s.gateway).toList else s.queue }
    | .subscribe => if s.stream = .opening then some { s with stream := .subscribed } else none
    | .read =>
      if s.stream = .subscribed then
        match report? approvalId isoformat s.gateway with
        | some event => some { s with stream := .sendingFirst, sent := s.sent ++ [event] }
        | none => some { s with stream := .waiting }
      else none
    | .check =>
      -- the record may have changed since it was read
      if s.stream = .sendingFirst then
        some { s with stream := if statusEnds approvalId s.gateway then .ended else .waiting }
      else none
    | .send =>
      match s.stream, s.queue with
      | .waiting, event :: rest =>
        some
          { s with
            stream := if isTerminal event then .ended else .waiting
            queue := rest
            sent := s.sent ++ [event] }
      | _, _ => none

/-- The event carries the status that the task has set last and, if the operation was executed,
the stored execution result. -/
def Outcome (g : Gateway) (event : Py.Dict) : Prop :=
  ∃ status, g.task = .finished status ∧ event.get "status" = .str status.value ∧
    ∀ record, g.mem.record? approvalId = some record → record.executionCompleted = true →
      event.get "execution_result" = record.resultJson

/-- A stream that has terminated has sent the outcome. -/
def EndsWithOutcome (s : StatusStream) : Prop :=
  s.stream = .ended → ∃ event ∈ s.sent, Outcome approvalId s.gateway event

/-- The task is about to start, and the stream about to open. -/
structure Opened (s : StatusStream) : Prop where
  started : Gateway.Started approvalId s.gateway
  stream : s.stream = .opening
  queue : s.queue = []
  sent : s.sent = []

/-! ## A stream that ends at `APPROVED` -/

/-- The sample workflow, before the stream is opened. -/
def sampleStream : StatusStream where
  gateway := Gateway.sample
  owed := 0
  stream := .opening
  queue := []
  sent := []

theorem sampleStream_opened : sampleStream.Opened "cg_1" where
  started := Gateway.sample_started
  stream := rfl
  queue := rfl
  sent := rfl

/-- A store call and its notification. -/
def announced (a : GatewayAction) : List StreamAction := [.gateway a, .notify]

/-- From the start to HUMAN_REVIEW. -/
def toReview : List StreamAction :=
  announced (.task (.resume 1)) ++ (Gateway.toReview.drop 1).map .gateway

/-- EXECUTION and AUDIT, up to the final status. -/
def executing : List StreamAction :=
  [.gateway (.task (.resume 3)), .gateway (.task (.execution (.resume 3))),
    .gateway (.task (.execution (.resume 3))),
    .gateway (.task (.execution (.reply (.result .null) 4)))] ++
    announced (.task (.execution (.resume 4))) ++
    [.gateway (.task (.execution (.resume 4))), .gateway (.task (.auditReply (.result .null) 4)),
      .gateway (.task (.auditReply (.result .null) 4)), .gateway (.task (.resume 4)),
      .gateway (.task (.resume 4))] ++
    announced (.task (.resume 4))

/-- The approval comes while the stream waits: it is notified of `APPROVED`, and terminates.
Then the operation is executed. -/
def endingEarly : List StreamAction :=
  toReview ++ [.subscribe, .read, .check] ++
    announced (.postDecision (sampleDecision "APPROVE") 2) ++ announced (.endpointStatus 0 2) ++
    [.send, .send, .gateway (.task (.review (.notified (.result .null) 3))),
      .gateway (.task (.review (.resume 3))), .gateway (.task (.review (.resume 3))),
      .gateway (.task (.review (.resume 3)))] ++
    announced (.task (.review (.resume 3))) ++ [.gateway (.task (.review (.resume 3)))] ++ executing

/-- What that run leaves behind: the last event said `APPROVED`, with no result. -/
theorem endingEarly_run :
    ∃ t, (machine Gateway.sampleConfig "cg_1" sampleManifest fun _ => "").exec sampleStream
        endingEarly = some t ∧
      t.stream = .ended ∧ t.gateway.task = .finished .completed ∧
      t.gateway.mem.executed "cg_1" = true ∧
      t.sent.map (fun e => (e.get "status", e.get "execution_result")) =
        [(.str "RUNNING", .null), (.str "RUNNING", .null), (.str "APPROVED", .null)] :=
  ⟨_, rfl, rfl, rfl, rfl, rfl⟩

/-- The stream has not sent the final status. -/
theorem stream_ends_early :
    ¬ ∀ actions t,
      (machine Gateway.sampleConfig "cg_1" sampleManifest fun _ => "").exec sampleStream actions =
        some t → t.EndsWithOutcome "cg_1" := by
  intro hlaw
  obtain ⟨t, hrun, hended, hfinished, -, hsent⟩ := endingEarly_run
  obtain ⟨e, he, status, hstatus, hreported, -⟩ := hlaw _ t hrun hended
  obtain rfl := TaskAt.finished.inj (hfinished.symm.trans hstatus)
  have hmem : (e.get "status", e.get "execution_result") ∈
      t.sent.map fun e => (e.get "status", e.get "execution_result") := List.mem_map_of_mem he
  rw [hsent, hreported] at hmem
  simp [WorkflowStatus.value] at hmem

/-! ## The task has finished -/

section
variable {cfg : PipelineConfig} {approvalId : String} {manifest : Py.Dict}
  {isoformat : Time → String} {g g' : Gateway} {a : GatewayAction} {event : Py.Dict}

/-- An event is terminal when the status that it reports is. -/
theorem isTerminal_toStatusResponse (contract : HandoffContract) (record : WorkflowRecord) :
    isTerminal (record.toStatusResponse isoformat contract) = record.status.endsStream := by
  show (WorkflowStatus.ofValue? record.status.value).any (·.endsStream) = record.status.endsStream
  rw [WorkflowStatus.ofValue?_value]
  rfl

/-- A task that has finished is not resumed; what else happens leaves the execution result of
the record alone. -/
theorem kept_of_finished {status : WorkflowStatus} (hfinished : g.task = .finished status)
    (hstep : (Gateway.machine cfg approvalId manifest).step g a = some g') :
    g'.task = .finished status ∧ g.mem.Kept g'.mem := by
  cases a with
  | task input =>
    obtain ⟨hresume, -⟩ := Gateway.resumeTask_of_step hstep
    obtain ⟨o, ho, -⟩ := Option.map_eq_some_iff.mp hresume
    rw [hfinished] at ho
    cases ho
  | recordDecision d now =>
    obtain rfl := Option.some.inj hstep
    exact ⟨hfinished, g.mem.kept_decide approvalId d now⟩
  | postDecision d now =>
    obtain rfl := Option.some.inj hstep
    split
    · exact ⟨hfinished, g.mem.kept_decide approvalId d now⟩
    · exact ⟨hfinished, .refl _⟩
  | viewSubmission approve reason approverId now =>
    obtain rfl := Option.some.inj hstep
    split
    · exact ⟨hfinished, g.mem.kept_decide approvalId _ now⟩
    · exact ⟨hfinished, .refl _⟩
  | endpointStatus i now =>
    obtain ⟨status, -, rfl⟩ := Option.map_eq_some_iff.mp hstep
    exact ⟨hfinished, g.mem.kept_updateStatus approvalId status now⟩

/-- The outcome does not change any more. -/
theorem Outcome.step (h : Outcome approvalId g event)
    (hstep : (Gateway.machine cfg approvalId manifest).step g a = some g') :
    Outcome approvalId g' event := by
  obtain ⟨status, hfinished, hstatus, hresult⟩ := h
  obtain ⟨hfinished', hkept⟩ := kept_of_finished hfinished hstep
  refine ⟨status, hfinished', hstatus, fun record hrecord hcompleted => ?_⟩
  obtain ⟨r, hr, rfl⟩ := Option.map_eq_some_iff.mp hrecord
  rw [hkept.store] at hr
  have hbefore := hresult (g.mem.records r) (Memory.record?_of_store hr)
    (hkept.completed r ▸ hcompleted)
  have hjson : (g'.mem.records r).resultJson = (g.mem.records r).resultJson := by
    unfold WorkflowRecord.resultJson
    rw [hkept.result r]
  rw [hjson]
  exact hbefore

end

/-! ## The runs in which it holds -/

/-- A terminal status of the record is the one that the task has set last, and reports the
execution result if the operation was executed. -/
def OutcomeShown (g : Gateway) : Prop :=
  ∀ record, g.mem.record? approvalId = some record → record.status.endsStream = true →
    g.task = .finished record.status ∧
      (record.executionCompleted = true → record.status.reportsResult = true)

/-- The stream comes upon a terminal status only where it is the outcome: when it reads the
record, when a notification is the first to bring one, and when the first state has been sent. -/
def InTime (s : StatusStream) : StreamAction → Prop
  | .read => OutcomeShown approvalId s.gateway
  | .notify => s.stream.listening = true → (∀ e ∈ s.sent ++ s.queue, isTerminal e = false) →
      OutcomeShown approvalId s.gateway
  | .check => statusEnds approvalId s.gateway = true → ∃ e ∈ s.sent, isTerminal e = true
  | _ => True

instance (task : TaskAt) (status : WorkflowStatus) : Decidable (task = .finished status) :=
  match task with
  | .finished last => decidable_of_iff (last = status) ⟨fun h => h ▸ rfl, TaskAt.finished.inj⟩
  | .statusRunning | .intake | .riskGate _ | .routeRiskGate | .agent _ | .humanReview _
  | .routeHumanReview | .execution _ | .audit _ | .syncContract | .mapStatus | .syncStatus _
  | .failed => .isFalse nofun

instance (g : Gateway) : Decidable (OutcomeShown approvalId g) :=
  match h : g.mem.record? approvalId with
  | none => .isTrue fun record hrecord => by rw [h] at hrecord; cases hrecord
  | some record =>
    decidable_of_iff (record.status.endsStream = true → g.task = .finished record.status ∧
        (record.executionCompleted = true → record.status.reportsResult = true))
      ⟨fun hshown record' hrecord => (Option.some.inj (h.symm.trans hrecord)) ▸ hshown,
        fun hshown => hshown record h⟩

instance (s : StatusStream) (a : StreamAction) : Decidable (s.InTime approvalId a) := by
  cases a <;> unfold InTime <;> infer_instance

/-- The first terminal event carries the outcome, and a stream that has terminated has sent
one. -/
structure Truthful (s : StatusStream) : Prop where
  first : ∀ e, (s.sent ++ s.queue).find? isTerminal = some e → Outcome approvalId s.gateway e
  ended : s.stream = .ended → ∃ e ∈ s.sent, isTerminal e = true
  unread : s.stream.unread = true → s.sent = []

section
variable {cfg : PipelineConfig} {approvalId : String} {manifest : Py.Dict}
  {isoformat : Time → String} {g : Gateway} {event : Py.Dict} {s t : StatusStream}

theorem Opened.truthful (h : s.Opened approvalId) : s.Truthful approvalId where
  first e he := by
    rw [h.sent, h.queue] at he
    cases he
  ended hended := by
    rw [h.stream] at hended
    cases hended
  unread _ := h.sent

/-- A terminal event that shows the outcome carries it. -/
theorem OutcomeShown.outcome (h : OutcomeShown approvalId g)
    (hreport : report? approvalId isoformat g = some event) (hterminal : isTerminal event = true) :
    Outcome approvalId g event := by
  obtain ⟨record, hrecord, rfl⟩ := Option.map_eq_some_iff.mp hreport
  rw [isTerminal_toStatusResponse] at hterminal
  obtain ⟨hfinished, hreports⟩ := h record hrecord hterminal
  have hcarries := record.carries_toStatusResponse isoformat (g.mem.contracts record.contract)
  refine ⟨record.status, hfinished, hcarries.status, fun record' hrecord' hcompleted => ?_⟩
  obtain rfl := Option.some.inj (hrecord.symm.trans hrecord')
  exact hcarries.result (hreports hcompleted)

/-- The workflow goes on. -/
theorem Truthful.gateway (h : s.Truthful approvalId) {a : GatewayAction} {g : Gateway}
    (hstep : (Gateway.machine cfg approvalId manifest).step s.gateway a = some g) (owed : ℕ) :
    Truthful approvalId { s with gateway := g, owed } where
  first e he := (h.first e he).step hstep
  ended := h.ended
  unread := h.unread

/-- A notification: only the first terminal event counts. -/
theorem Truthful.notify (h : s.Truthful approvalId)
    (htime : s.InTime approvalId .notify) (owed : ℕ) :
    Truthful approvalId
      { s with
        owed
        queue := if s.stream.listening then
          s.queue ++ (report? approvalId isoformat s.gateway).toList else s.queue } where
  first e he := by
    cases hlistening : s.stream.listening with
    | false =>
      rw [if_neg (by simp [hlistening])] at he
      exact h.first e he
    | true =>
      rw [if_pos hlistening, ← List.append_assoc, List.find?_append] at he
      cases hfirst : (s.sent ++ s.queue).find? isTerminal with
      | some e' =>
        rw [hfirst, Option.some_or] at he
        obtain rfl := Option.some.inj he
        exact h.first e' hfirst
      | none =>
        rw [hfirst, Option.none_or] at he
        have hnone : ∀ e ∈ s.sent ++ s.queue, isTerminal e = false := by
          simpa using List.find?_eq_none.mp hfirst
        have hreport : report? approvalId isoformat s.gateway = some e := by
          simpa using List.mem_of_find?_eq_some he
        exact (htime hlistening hnone).outcome hreport (List.find?_some he)
  ended := h.ended
  unread := h.unread

/-- What the stream reads it sends first. -/
theorem Truthful.read (h : s.Truthful approvalId) (hstream : s.stream = .subscribed)
    (htime : OutcomeShown approvalId s.gateway)
    (hreport : report? approvalId isoformat s.gateway = some event) :
    Truthful approvalId { s with stream := .sendingFirst, sent := s.sent ++ [event] } where
  first e he := by
    have hsent : s.sent = [] := h.unread (by rw [hstream]; rfl)
    rw [hsent, List.nil_append, List.cons_append, List.nil_append, List.find?_cons] at he
    cases hterminal : isTerminal event with
    | true =>
      rw [hterminal] at he
      obtain rfl := Option.some.inj he
      exact htime.outcome hreport hterminal
    | false =>
      rw [hterminal] at he
      refine h.first e ?_
      rw [hsent, List.nil_append]
      exact he
  ended := nofun
  unread := nofun

/-- An event moves from the queue to what was sent. -/
theorem Truthful.send (h : s.Truthful approvalId) {rest : List Py.Dict}
    (hqueue : s.queue = event :: rest) :
    Truthful approvalId
      { s with
        stream := if isTerminal event then .ended else .waiting
        queue := rest
        sent := s.sent ++ [event] } where
  first e he := by
    refine h.first e ?_
    rw [hqueue]
    simpa using he
  ended hended := by
    refine ⟨event, by simp, ?_⟩
    by_contra hterminal
    rw [if_neg hterminal] at hended
    cases hended
  unread hunread := by
    split at hunread <;> cases hunread

/-- Every step in time keeps the invariant. -/
theorem truthful_step {a : StreamAction} (h : s.Truthful approvalId)
    (htime : s.InTime approvalId a)
    (hstep : (machine cfg approvalId manifest isoformat).step s a = some t) :
    t.Truthful approvalId := by
  cases a with
  | gateway a =>
    obtain ⟨g, hg, rfl⟩ := Option.map_eq_some_iff.mp hstep
    exact h.gateway hg _
  | notify =>
    simp only [machine] at hstep
    by_cases howed : s.owed = 0
    · rw [if_pos howed] at hstep
      cases hstep
    · rw [if_neg howed] at hstep
      obtain rfl := Option.some.inj hstep
      exact h.notify htime _
  | subscribe =>
    simp only [machine] at hstep
    split_ifs at hstep with hopening
    obtain rfl := Option.some.inj hstep
    exact
      { first := h.first
        ended := nofun
        unread := fun _ => h.unread (by rw [hopening]; rfl) }
  | read =>
    simp only [machine] at hstep
    split_ifs at hstep with hstream
    split at hstep
    · rename_i event hreport
      obtain rfl := Option.some.inj hstep
      exact h.read hstream htime hreport
    · obtain rfl := Option.some.inj hstep
      exact { first := h.first, ended := nofun, unread := nofun }
  | check =>
    simp only [machine] at hstep
    split_ifs at hstep with hstream hends
    · obtain rfl := Option.some.inj hstep
      exact { first := h.first, ended := fun _ => htime hends, unread := nofun }
    · obtain rfl := Option.some.inj hstep
      exact { first := h.first, ended := nofun, unread := nofun }
  | send =>
    simp only [machine] at hstep
    split at hstep
    · rename_i event rest hstream hqueue
      obtain rfl := Option.some.inj hstep
      exact h.send hqueue
    · cases hstep

/-- **A stream that is in time ends with the outcome.** If the stream comes upon a terminal
status only where the task has set it last, it terminates only after it has sent an event with
the final status and, if the operation was executed, with the stored result. -/
theorem stream_endsWithOutcome {s₀ : StatusStream} {actions : List StreamAction}
    (hopened : s₀.Opened approvalId)
    (htime : (machine cfg approvalId manifest isoformat).Guarded (InTime approvalId) s₀ actions)
    (hrun : (machine cfg approvalId manifest isoformat).exec s₀ actions = some t) :
    t.EndsWithOutcome approvalId := by
  intro hended
  have h := (machine cfg approvalId manifest isoformat).exec_invariant
    (fun _ _ _ hs hG hst => truthful_step hs hG hst) hopened.truthful htime hrun
  obtain ⟨e, he, hterminal⟩ := h.ended hended
  -- the first terminal event was sent
  obtain ⟨first, hfirst⟩ := Option.isSome_iff_exists.mp
    (List.find?_isSome.mpr ⟨e, he, hterminal⟩)
  exact ⟨first, List.mem_of_find?_eq_some hfirst,
    h.first first (by rw [List.find?_append, hfirst]; rfl)⟩

end

/-- The approval comes while HUMAN_REVIEW polls, and the endpoint is slow: the task has set the
final status before the endpoint sets `APPROVED`. -/
def endingInTime : List StreamAction :=
  toReview ++
    [.gateway (.task (.review (.notified (.result .null) 1))),
      .gateway (.task (.review (.resume 1))), .gateway (.task (.review (.resume 1))),
      .gateway (.task (.review (.resume 1)))] ++
    announced (.task (.review (.resume 1))) ++ [.subscribe, .read, .check] ++
    announced (.postDecision (sampleDecision "APPROVE") 2) ++
    [.send, .gateway (.task (.review (.resume 3))), .gateway (.task (.review (.resume 3))),
      .gateway (.task (.review (.resume 3)))] ++ executing ++ [.send, .send]

theorem endingInTime_run :
    ∃ t, (machine Gateway.sampleConfig "cg_1" sampleManifest fun _ => "").exec sampleStream
        endingInTime = some t ∧
      t.stream = .ended ∧ t.gateway.task = .finished .completed ∧
      t.sent.map (fun e => e.get "status") =
        [.str "PENDING_HUMAN_APPROVAL", .str "PENDING_HUMAN_APPROVAL",
          .str "PENDING_HUMAN_APPROVAL", .str "COMPLETED"] :=
  ⟨_, rfl, rfl, rfl, rfl⟩

/-- Until `COMPLETED`, whatever the stream comes upon is `PENDING_HUMAN_APPROVAL`. -/
theorem endingInTime_inTime :
    (machine Gateway.sampleConfig "cg_1" sampleManifest fun _ => "").Guarded (InTime "cg_1")
      sampleStream endingInTime :=
  Machine.guarded_of_guardedBy _ (by decide)

theorem stream_endsWithOutcome_in_time :
    ∃ t, (machine Gateway.sampleConfig "cg_1" sampleManifest fun _ => "").exec sampleStream
        endingInTime = some t ∧
      t.stream = .ended ∧ ∃ event ∈ t.sent, Outcome "cg_1" t.gateway event := by
  obtain ⟨t, hrun, hended, -, -⟩ := endingInTime_run
  exact ⟨t, hrun, hended,
    stream_endsWithOutcome sampleStream_opened endingInTime_inTime hrun hended⟩

end StatusStream
