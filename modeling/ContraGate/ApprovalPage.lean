import ContraGate.ApprovalPolling
import ContraGate.ExecutionResults
import ContraGate.Library.Components

/-!
# What the page of an approval shows

Whatever the page shows, the record reported at some moment (`shows_reported`), and a result that it
shows was made from a reply of the target. Where the record reports a terminal status only as the
outcome, a page that has stopped shows the outcome (`shows_outcome`).
-/

namespace PollingState

/-- Nothing has been shown yet. -/
structure Blank (st : PollingState) : Prop where
  status : st.status = .null
  result : st.result = .null
  isTerminal : st.isTerminal = false

/-- The event is shown. -/
structure Shows (st : PollingState) (event : Py.Dict) : Prop where
  status : st.status = event.get "status"
  result : st.result = event.get "execution_result"
  reason : st.reason = event.get "reason"
  isTerminal : st.isTerminal = ApprovalPolling.isTerminalStatus (event.get "status")

/-- What is shown is an event with the property, if anything. -/
def Knows (st : PollingState) (P : Py.Dict → Prop) : Prop := st.Blank ∨ ∃ e, P e ∧ st.Shows e

theorem Knows.mono {st : PollingState} {P Q : Py.Dict → Prop} (h : st.Knows P)
    (hPQ : ∀ e, P e → Q e) : st.Knows Q := by
  rcases h with hblank | ⟨e, hP, he⟩
  · exact .inl hblank
  · exact .inr ⟨e, hPQ e hP, he⟩

end PollingState

namespace ApprovalPolling

variable {h : ApprovalPolling} {P : Py.Dict → Prop}

@[simp] theorem cleanup_state (h : ApprovalPolling) : h.cleanup.state = h.state := rfl

@[simp] theorem startPolling_state (h : ApprovalPolling) : h.startPolling.1.state = h.state := by
  unfold startPolling
  split_ifs <;> rfl

/-- The terminal statuses of the hook are those that end the stream. -/
theorem isTerminalStatus_get (event : Py.Dict) :
    isTerminalStatus (event.get "status") = StatusStream.isTerminal event := by
  unfold StatusStream.isTerminal Py.Dict.get Py.Dict.getD
  cases event.lookup "status" with
  | none => rfl
  | some status =>
    cases status with
    | str text =>
      show terminalStatuses.contains text = (WorkflowStatus.ofValue? text).any (·.endsStream)
      unfold WorkflowStatus.ofValue?
      split
      case h_10 h₁ h₂ h₃ h₄ h₅ h₆ h₇ h₈ h₉ =>
        simpa [terminalStatuses] using ⟨h₃, h₄, h₅, h₆, h₇, h₈, h₉⟩
      all_goals rfl
    | _ => rfl

theorem applyUpdate_shows (hmounted : h.mounted = true) (data : Py.Dict) :
    (h.applyUpdate data).state.Shows data := by
  unfold applyUpdate
  rw [if_pos hmounted]
  dsimp only
  split_ifs <;> exact ⟨rfl, rfl, rfl, rfl⟩

/-- The page is not there any more. -/
theorem applyUpdate_unmounted (hmounted : h.mounted = false) (data : Py.Dict) :
    h.applyUpdate data = h := by
  rw [applyUpdate, hmounted]
  rfl

theorem knows_applyUpdate {data : Py.Dict} (hstate : h.state.Knows P) (hdata : P data) :
    (h.applyUpdate data).state.Knows P := by
  cases hmounted : h.mounted with
  | true => exact .inr ⟨data, hdata, applyUpdate_shows hmounted data⟩
  | false => exact (applyUpdate_unmounted hmounted data).symm ▸ hstate

theorem knows_onmessage {event : Py.Dict} (hstate : h.state.Knows P) (hevent : P event) :
    (h.onmessage event).state.Knows P := by
  unfold onmessage
  split_ifs
  · exact knows_applyUpdate hstate hevent
  · exact hstate

/-- An error message leaves what is shown. -/
theorem knows_error {error : Option String} (hstate : h.state.Knows P) :
    PollingState.Knows { h.state with error, isLoading := false } P := by
  rcases hstate with hblank | ⟨e, he, hshows⟩
  · exact .inl ⟨hblank.status, hblank.result, hblank.isTerminal⟩
  · exact .inr ⟨e, he, hshows.status, hshows.result, hshows.reason, hshows.isTerminal⟩

theorem knows_pollAnswered {response : PollResponse} (hstate : h.state.Knows P)
    (hresponse : ∀ data, response = .ok data → P data) :
    (h.pollAnswered response).state.Knows P := by
  cases response with
  | ok data => exact knows_applyUpdate hstate (hresponse data rfl)
  | notFound =>
    rw [pollAnswered]
    split_ifs
    · exact knows_error hstate
    · exact hstate
  | serverError => exact hstate

theorem knows_pollFailed {message : String} (hstate : h.state.Knows P) :
    (h.pollFailed message).state.Knows P := by
  unfold pollFailed
  split_ifs
  · exact knows_error hstate
  · exact hstate

end ApprovalPolling

namespace ApprovalPage

variable {cfg : PipelineConfig} {approvalId : String} {manifest : Py.Dict}
  {isoformat : Time → String} {s t : ApprovalPage} {a : PageAction}
  {P : Gateway → Py.Dict → Prop}

/-! ## From the record to the page -/

/-- The record is read, for the page or for the stream. -/
def Reports (s : ApprovalPage) : PageAction → Prop
  | .server .notify => s.stream.stream.listening = true
  | .server .read | .answer _ => True
  | _ => False

instance (s : ApprovalPage) : ∀ a, Decidable (s.Reports a)
  | .server .notify => inferInstanceAs (Decidable (s.stream.stream.listening = true))
  | .server .read | .answer _ => .isTrue trivial
  | .server (.gateway _) | .server .subscribe | .server .check | .server .send => .isFalse id
  | .message | .error | .tick | .arrive _ | .fail .. | .unmount => .isFalse id

/-- Every event on its way has the property, and so has the one that is shown. -/
structure Told (P : Gateway → Py.Dict → Prop) (s : ApprovalPage) : Prop where
  events : ∀ e ∈ s.stream.sent ++ s.stream.queue, P s.stream.gateway e
  answers : ∀ e, .answered (.ok e) ∈ s.requests → P s.stream.gateway e
  shown : s.hook.state.Knows (P s.stream.gateway)

/-- Requests that are made have no answer. -/
theorem Told.requests (h : s.Told P) {requests : List PollRequest} (hook : ApprovalPolling)
    (hshown : hook.state.Knows (P s.stream.gateway))
    (hrequests : ∀ e, .answered (.ok e) ∈ requests → .answered (.ok e) ∈ s.requests) :
    Told P { s with hook, requests } where
  events := h.events
  answers e he := h.answers e (hrequests e he)
  shown := hshown

theorem mem_poll {e : Py.Dict} {h : ApprovalPolling} {requests : List PollRequest}
    (he : .answered (.ok e) ∈ requests ++ h.poll) : .answered (.ok e) ∈ requests := by
  rcases List.mem_append.mp he with he | he
  · exact he
  · unfold ApprovalPolling.poll at he
    split_ifs at he <;> simp at he

theorem mem_startPolling {e : Py.Dict} {h : ApprovalPolling} {requests : List PollRequest}
    (he : .answered (.ok e) ∈ requests ++ h.startPolling.2) : .answered (.ok e) ∈ requests := by
  unfold ApprovalPolling.startPolling at he
  split_ifs at he
  · simpa using he
  · exact mem_poll he

/-- A step of the server: what is sent was in the queue, or is reported now. -/
theorem server_events {b : StreamAction} {stream : StatusStream}
    (hreport : s.Reports (.server b) →
      ∀ e, StatusStream.report? approvalId isoformat s.stream.gateway = some e →
        P s.stream.gateway e)
    (hevents : ∀ e ∈ s.stream.sent ++ s.stream.queue, P s.stream.gateway e)
    (hstep : (StatusStream.machine cfg approvalId manifest isoformat).step s.stream b =
      some stream) :
    ∀ e ∈ stream.sent ++ stream.queue, P s.stream.gateway e := by
  intro e he
  cases b with
  | gateway b =>
    obtain ⟨g, -, rfl⟩ := Option.map_eq_some_iff.mp hstep
    exact hevents e he
  | notify =>
    simp only [StatusStream.machine] at hstep
    split_ifs at hstep with howed hlistening
    · obtain rfl := Option.some.inj hstep
      rw [← List.append_assoc] at he
      rcases List.mem_append.mp he with he | he
      · exact hevents e he
      · exact hreport hlistening e (by simpa using he)
    · obtain rfl := Option.some.inj hstep
      exact hevents e he
  | subscribe | check =>
    simp only [StatusStream.machine] at hstep
    split_ifs at hstep
    all_goals
      obtain rfl := Option.some.inj hstep
      exact hevents e he
  | read =>
    simp only [StatusStream.machine] at hstep
    split_ifs at hstep
    split at hstep
    all_goals obtain rfl := Option.some.inj hstep
    · rename_i event hevent
      have hmem : e = event ∨ e ∈ s.stream.sent ++ s.stream.queue := by
        simp only [List.mem_append, List.mem_singleton] at he ⊢
        tauto
      rcases hmem with rfl | hmem
      · exact hreport trivial e hevent
      · exact hevents e hmem
    · exact hevents e he
  | send =>
    simp only [StatusStream.machine] at hstep
    split at hstep
    · rename_i event rest hstream hqueue
      obtain rfl := Option.some.inj hstep
      refine hevents e ?_
      rw [hqueue]
      simpa using he
    · cases hstep

/-- The workflow goes on only in steps of its own. -/
theorem server_gateway {b : StreamAction} {stream stream' : StatusStream}
    (hstep : (StatusStream.machine cfg approvalId manifest isoformat).step stream b =
      some stream') :
    stream'.gateway = stream.gateway ∨
      ∃ c, (Gateway.machine cfg approvalId manifest).step stream.gateway c =
        some stream'.gateway := by
  cases b with
  | gateway b =>
    obtain ⟨g, hg, rfl⟩ := Option.map_eq_some_iff.mp hstep
    exact .inr ⟨b, hg⟩
  | notify | subscribe | check =>
    simp only [StatusStream.machine] at hstep
    split_ifs at hstep
    all_goals
      obtain rfl := Option.some.inj hstep
      exact .inl rfl
  | read =>
    simp only [StatusStream.machine] at hstep
    split_ifs at hstep
    split at hstep
    all_goals
      obtain rfl := Option.some.inj hstep
      exact .inl rfl
  | send =>
    simp only [StatusStream.machine] at hstep
    split at hstep
    · obtain rfl := Option.some.inj hstep
      exact .inl rfl
    · cases hstep

/-- **What reaches the page was reported.** If a property of the events persists while the
workflow goes on, and the record has it whenever it is read, then so has what the page shows. -/
theorem told_step (h : s.Told P)
    (hstable : ∀ g b g' e, (Gateway.machine cfg approvalId manifest).step g b = some g' →
      P g e → P g' e)
    (hreport : s.Reports a →
      ∀ e, StatusStream.report? approvalId isoformat s.stream.gateway = some e →
        P s.stream.gateway e)
    (hstep : (machine cfg approvalId manifest isoformat).step s a = some t) : t.Told P := by
  cases steps_of_step hstep with
  | @server b stream hstream =>
    have hP (e : Py.Dict) (he : P s.stream.gateway e) : P stream.gateway e := by
      rcases server_gateway hstream with hsame | ⟨c, hc⟩
      · rw [hsame]
        exact he
      · exact hstable _ c _ e hc he
    exact
      { events := fun e he => hP e (server_events hreport h.events hstream e he)
        answers := fun e he => hP e (h.answers e he)
        shown := h.shown.mono hP }
  | @message event hes hevent =>
    have hmem : event ∈ s.stream.sent ++ s.stream.queue :=
      List.mem_append_left _ (List.mem_of_getElem? hevent)
    exact
      { events := h.events
        answers := h.answers
        shown := ApprovalPolling.knows_onmessage h.shown (h.events event hmem) }
  | error hes =>
    refine h.requests _ ?_ fun e he => mem_startPolling he
    rw [ApprovalPolling.onerror, ApprovalPolling.startPolling_state]
    exact h.shown
  | tick htimer => exact h.requests _ h.shown fun e he => mem_poll he
  | answer hi =>
    refine { events := h.events, answers := fun e he => ?_, shown := h.shown }
    rcases List.mem_or_eq_of_mem_set he with he | he
    · exact h.answers e he
    · obtain he := PollRequest.answered.inj he
      unfold getApprovalStatus at he
      split at he
      · cases he
      · rename_i event hevent
        split_ifs at he
        · obtain rfl := PollResponse.ok.inj he
          exact hreport trivial e hevent
  | arrive hresponse =>
    refine h.requests _ (ApprovalPolling.knows_pollAnswered h.shown fun data hdata => ?_)
      fun e he => List.mem_of_mem_eraseIdx he
    exact h.answers data (hdata ▸ List.mem_of_getElem? hresponse)
  | fail hi =>
    exact h.requests _ (ApprovalPolling.knows_pollFailed h.shown)
      fun e he => List.mem_of_mem_eraseIdx he
  | unmount => exact { events := h.events, answers := h.answers, shown := h.shown }

/-- Nothing has been told to a page that has just been opened. -/
theorem Opened.told (h : s.Opened approvalId) : s.Told P := by
  obtain ⟨built, hhook, hrequests⟩ := h.mounted
  refine { events := fun e he => ?_, answers := fun e he => ?_, shown := .inl ?_ }
  · rw [h.stream.sent, h.stream.queue] at he
    cases he
  · rw [hrequests] at he
    cases built <;> simp [ApprovalPolling.mount, ApprovalPolling.startPolling,
      ApprovalPolling.poll] at he
  · rw [hhook]
    cases built <;> exact ⟨rfl, rfl, rfl⟩

/-! ## What is shown was reported -/

/-- A result in an event was made from a reply of the target. -/
def Genuine (cfg : PipelineConfig) (g : Gateway) (event : Py.Dict) : Prop :=
  event.get "execution_result" ≠ .null → ∃ result, event.get "execution_result" = .obj result ∧
    RepliedResult cfg.toExecutionConfig g.log result

theorem Genuine.step {g g' : Gateway} {b : GatewayAction} {event : Py.Dict}
    (h : Genuine cfg g event)
    (hstep : (Gateway.machine cfg approvalId manifest).step g b = some g') :
    Genuine cfg g' event := by
  intro hne
  obtain ⟨result, hresult, hreplied⟩ := h hne
  obtain ⟨events, hlog⟩ := Gateway.machine_log hstep
  exact ⟨result, hresult, hlog ▸ hreplied.mono events⟩

/-- What the record reports as a result is the stored one. -/
theorem genuine_report {g : Gateway} {event : Py.Dict} (h : g.TrueResults cfg approvalId)
    (hreport : StatusStream.report? approvalId isoformat g = some event) :
    Genuine cfg g event := by
  intro hne
  obtain ⟨record, hrecord, rfl⟩ := Option.map_eq_some_iff.mp hreport
  obtain ⟨r, hr, rfl⟩ := Option.map_eq_some_iff.mp hrecord
  have hget : ((g.mem.records r).toStatusResponse isoformat
      (g.mem.contracts (g.mem.records r).contract)).get "execution_result" =
        if (g.mem.records r).status.reportsResult then (g.mem.records r).resultJson else .null := by
    unfold WorkflowRecord.toStatusResponse
    cases (g.mem.records r).status.reportsResult <;> cases (g.mem.records r).status.reportsReason <;>
      rfl
  rw [hget] at hne ⊢
  split_ifs at hne ⊢ with hreports
  · unfold WorkflowRecord.resultJson at hne ⊢
    cases hresult : (g.mem.records r).executionResult with
    | none =>
      rw [hresult] at hne
      exact absurd rfl hne
    | some result => exact ⟨result, rfl, h.stored r result hr hresult⟩
  · exact absurd rfl hne

/-- The workflow of a page that runs. -/
theorem gateway_step {I : Gateway → Prop}
    (hI : ∀ g b g', I g → (Gateway.machine cfg approvalId manifest).step g b = some g' → I g')
    (h : I s.stream.gateway)
    (hstep : (machine cfg approvalId manifest isoformat).step s a = some t) :
    I t.stream.gateway := by
  cases steps_of_step hstep with
  | server hstream =>
    rcases server_gateway hstream with hsame | ⟨c, hc⟩
    · exact hsame ▸ h
    · exact hI _ c _ h hc
  | _ => exact h

/-- What every report of a run has, the page knows of what it shows. -/
theorem told_exec {I : Gateway → Prop} {actions : List PageAction}
    (hI : ∀ g b g', I g → (Gateway.machine cfg approvalId manifest).step g b = some g' → I g')
    (hstable : ∀ g b g' e, (Gateway.machine cfg approvalId manifest).step g b = some g' →
      P g e → P g' e)
    (hstart : I s.stream.gateway) (hopened : s.Opened approvalId)
    (hreport : (machine cfg approvalId manifest isoformat).Guarded
      (fun u a => I u.stream.gateway → u.Reports a →
        ∀ e, StatusStream.report? approvalId isoformat u.stream.gateway = some e →
          P u.stream.gateway e) s actions)
    (hrun : (machine cfg approvalId manifest isoformat).exec s actions = some t) : t.Told P :=
  ((machine cfg approvalId manifest isoformat).exec_invariant
    (I := fun u => I u.stream.gateway ∧ u.Told P)
    (fun _ _ _ hu hG hstep => ⟨gateway_step hI hu.1 hstep, told_step hu.2 hstable (hG hu.1) hstep⟩)
    ⟨hstart, hopened.told⟩ hreport hrun).2

/-- **The page shows what was reported.** What it shows, if anything, the record reported in some
state of the run; and a result among it was made from a reply of the target to a call that was
sent. -/
theorem shows_reported {actions : List PageAction} (hopened : s.Opened approvalId)
    (hnone : ∀ r, s.stream.gateway.mem.store approvalId = some r →
      (s.stream.gateway.mem.records r).executionResult = none)
    (hrun : (machine cfg approvalId manifest isoformat).exec s actions = some t) :
    t.hook.state.Blank ∨ ∃ u event,
      (machine cfg approvalId manifest isoformat).Visits s actions u ∧
      StatusStream.report? approvalId isoformat u.stream.gateway = some event ∧
      t.hook.state.Shows event ∧
      (t.hook.state.result ≠ .null → ∃ result, t.hook.state.result = .obj result ∧
        RepliedResult cfg.toExecutionConfig t.stream.gateway.log result) := by
  let Reported (event : Py.Dict) : Prop := ∃ u,
    (machine cfg approvalId manifest isoformat).Visits s actions u ∧
      StatusStream.report? approvalId isoformat u.stream.gateway = some event
  have htold : t.Told fun g event => Reported event ∧ Genuine cfg g event := by
    refine told_exec (I := fun g => Gateway.WellFormed approvalId g ∧ g.TrueResults cfg approvalId)
      (fun g b g' hg hstep => ⟨(Gateway.machine_step hg.1 hstep).1,
        Gateway.trueResults_step hg.1 hg.2 hstep⟩)
      (fun g b g' event hstep h => ⟨h.1, h.2.step hstep⟩)
      ⟨hopened.stream.started.wellFormed, hopened.stream.started.trueResults hnone⟩ hopened
      (Machine.guarded_mono _ (fun u _ hu hI _ event hevent => ?_)
        ((machine cfg approvalId manifest isoformat).guarded_visits s actions)) hrun
    exact ⟨⟨u, hu, hevent⟩, genuine_report hI.2 hevent⟩
  rcases htold.shown with hblank | ⟨event, ⟨⟨u, hu, hevent⟩, hgenuine⟩, hshows⟩
  · exact .inl hblank
  · refine .inr ⟨u, event, hu, hevent, hshows, ?_⟩
    rw [hshows.result]
    exact hgenuine

/-- A run of the sample page. -/
def runSample (actions : List PageAction) : Option ApprovalPage :=
  (machine Gateway.sampleConfig "cg_1" sampleManifest fun _ => "").exec samplePage actions

/-- The stream ends in time, and all of it arrives. -/
def completing : List PageAction :=
  StatusStream.endingInTime.map .server ++ [.message, .message, .message, .message]

/-- The page shows `COMPLETED` with a result. -/
def showsCompleted (s : ApprovalPage) : Bool :=
  s.hook.mounted && s.hook.state.isTerminal && s.hook.state.status.str? == some "COMPLETED" &&
    s.hook.state.result.truthy

theorem completing_run : ∃ t, runSample completing = some t ∧ showsCompleted t = true := by
  have hany : (runSample completing).any showsCompleted = true := by decide +kernel
  exact (Option.any_eq_true _ _).mp hany

theorem shows_reported_completing :
    ∃ t, runSample completing = some t ∧ ∃ u event,
      (machine Gateway.sampleConfig "cg_1" sampleManifest fun _ => "").Visits samplePage completing
        u ∧
      StatusStream.report? "cg_1" (fun _ => "") u.stream.gateway = some event ∧
      t.hook.state.Shows event ∧ ∃ result, t.hook.state.result = .obj result ∧
        RepliedResult Gateway.sampleConfig.toExecutionConfig t.stream.gateway.log result := by
  obtain ⟨t, hrun, ht⟩ := completing_run
  simp only [showsCompleted, Bool.and_eq_true] at ht
  obtain ⟨⟨⟨hmounted, hterminal⟩, hstatus⟩, hresult⟩ := ht
  have hnone (r : Ref) (hr : Gateway.sample.mem.store "cg_1" = some r) :
      (Gateway.sample.mem.records r).executionResult = none := by
    obtain rfl : 0 = r := Option.some.inj hr
    rfl
  rcases shows_reported samplePage_opened hnone hrun with hblank | ⟨u, event, hu, hevent, hshows, hr⟩
  · rw [hblank.isTerminal] at hterminal
    cases hterminal
  · refine ⟨t, hrun, u, event, hu, hevent, hshows, hr fun hnull => ?_⟩
    rw [hnull] at hresult
    cases hresult

/-! ## The outcome -/

/-- The record is read in time: it reports a terminal status only as the outcome. -/
def InTime (approvalId : String) (s : ApprovalPage) (a : PageAction) : Prop :=
  s.Reports a → StatusStream.OutcomeShown approvalId s.stream.gateway

instance (s : ApprovalPage) (a : PageAction) : Decidable (s.InTime approvalId a) :=
  inferInstanceAs
    (Decidable (s.Reports a → StatusStream.OutcomeShown approvalId s.stream.gateway))

/-- **A page that has stopped shows the outcome**, if whatever reads the record is in time: the
final status of the task and, if the operation was executed, the stored result. -/
theorem shows_outcome {actions : List PageAction} (hopened : s.Opened approvalId)
    (htime : (machine cfg approvalId manifest isoformat).Guarded (InTime approvalId) s actions)
    (hrun : (machine cfg approvalId manifest isoformat).exec s actions = some t)
    (hterminal : t.hook.state.isTerminal = true) :
    ∃ status, t.stream.gateway.task = .finished status ∧
      t.hook.state.status = .str status.value ∧
      ∀ record, t.stream.gateway.mem.record? approvalId = some record →
        record.executionCompleted = true → t.hook.state.result = record.resultJson := by
  have htold : t.Told fun g event => StatusStream.isTerminal event = true →
      StatusStream.Outcome approvalId g event := by
    refine told_exec (I := fun _ => True) (fun _ _ _ _ _ => trivial)
      (fun g b g' event hstep h hevent => (h hevent).step hstep) trivial hopened
      (Machine.guarded_mono _ (fun u a hu _ hreports event hevent hend => ?_) htime) hrun
    exact (hu hreports).outcome hevent hend
  rcases htold.shown with hblank | ⟨event, houtcome, hshows⟩
  · rw [hblank.isTerminal] at hterminal
    cases hterminal
  · rw [hshows.isTerminal, ApprovalPolling.isTerminalStatus_get] at hterminal
    obtain ⟨status, hfinished, hstatus, hresult⟩ := houtcome hterminal
    exact ⟨status, hfinished, hshows.status.trans hstatus, fun record hrecord hcompleted =>
      hshows.result.trans (hresult record hrecord hcompleted)⟩

theorem completing_inTime :
    (machine Gateway.sampleConfig "cg_1" sampleManifest fun _ => "").Guarded (InTime "cg_1")
      samplePage completing :=
  Machine.guarded_of_guardedBy _ (by decide +kernel)

theorem shows_outcome_completing :
    ∃ t status, runSample completing = some t ∧ t.stream.gateway.task = .finished status ∧
      t.hook.state.status = .str status.value := by
  obtain ⟨t, hrun, ht⟩ := completing_run
  simp only [showsCompleted, Bool.and_eq_true] at ht
  obtain ⟨status, hfinished, hstatus, -⟩ :=
    shows_outcome samplePage_opened completing_inTime hrun ht.1.1.2
  exact ⟨t, status, hrun, hfinished, hstatus⟩

end ApprovalPage
