import ContraGate.Library.Components
import ContraGate.ProxyIsolation
import ContraGate.SlackWebhook

/-!
# Who decides in the Slack channel

Requests can be made by anyone, delayed, repeated and sent out of order. Where nobody can forge a
signature, every decision that the webhook takes to the store goes back to a user who submitted
the modal for it, which was opened because somebody clicked on that very button of the message for
that approval id (`slack_decisions_genuine`). So an operation that reaches the target was approved
in this way, or by a caller that does not come through Slack (`approved_in_slack`).
-/

/-- Exactly what stands behind the prefix is left. -/
theorem removePrefix?_eq_some {start text rest : String} :
    removePrefix? start text = some rest ↔ text = start ++ rest := by
  unfold removePrefix?
  rw [Option.map_eq_some_iff]
  constructor
  · rintro ⟨cs, hcs, rfl⟩
    obtain ⟨p, hp, hsame⟩ := List.dropPrefix?_eq_some_iff.mp hcs
    obtain rfl := eq_of_beq hsame
    apply String.toList_inj.mp
    rw [String.toList_append, String.toList_ofList, hp]
  · rintro rfl
    refine ⟨rest.toList, List.dropPrefix?_eq_some_iff.mpr ⟨start.toList, ?_, beq_self_eq_true _⟩, ?_⟩
    · exact String.toList_append
    · exact String.ofList_toList

namespace SlackWebhook

variable {slack : SlackConfig} {approve approve' : Bool} {id id' : String}

/-! ## What the ids say -/

theorem buttonId_inj (h : buttonId approve id = buttonId approve' id') :
    approve = approve' ∧ id = id' := by
  have htext := String.toList_inj.mpr h
  cases approve <;> cases approve' <;> simp [buttonId, String.toList_append] at htext
  all_goals exact ⟨rfl, String.toList_inj.mp htext⟩

theorem callbackId_inj (h : callbackId approve id = callbackId approve' id') :
    approve = approve' ∧ id = id' := by
  have htext := String.toList_inj.mpr h
  cases approve <;> cases approve' <;> simp [callbackId, String.toList_append] at htext
  all_goals exact ⟨rfl, String.toList_inj.mp htext⟩

/-- A button of a message for an id that opens a modal, opens it for this id. -/
theorem eq_of_buttonId_mem (h : buttonId approve id ∈ messageButtons id') : id = id' := by
  simp only [messageButtons, List.mem_cons, List.not_mem_nil, or_false] at h
  rcases h with hview | htrue | hfalse
  · have htext := String.toList_inj.mpr hview
    cases approve <;> simp [buttonId, String.toList_append] at htext
  · exact (buttonId_inj htrue).2
  · exact (buttonId_inj hfalse).2

/-- Texts end where the first separator stands. -/
theorem append_separator_inj {c : Char} {xs xs' ys ys' : List Char} (h : c ∉ xs) (h' : c ∉ xs')
    (heq : xs ++ c :: ys = xs' ++ c :: ys') : xs = xs' ∧ ys = ys' := by
  induction xs generalizing xs' with
  | nil =>
    cases xs' with
    | nil => exact ⟨rfl, (List.cons.inj heq).2⟩
    | cons x xs' =>
      obtain rfl : c = x := (List.cons.inj heq).1
      exact absurd List.mem_cons_self h'
  | cons x xs ih =>
    cases xs' with
    | nil =>
      obtain rfl : x = c := (List.cons.inj heq).1
      exact absurd List.mem_cons_self h
    | cons x' xs' =>
      obtain ⟨rfl, hrest⟩ := List.cons.inj heq
      obtain ⟨rfl, hys⟩ := ih (fun hc => h (List.mem_cons_of_mem _ hc))
        (fun hc => h' (List.mem_cons_of_mem _ hc)) hrest
      exact ⟨rfl, hys⟩

/-- The timestamp and the body can be read off the text that is signed. -/
theorem basestring_inj {timestamp timestamp' body body' : String} (h : ':' ∉ timestamp.toList)
    (h' : ':' ∉ timestamp'.toList)
    (heq : basestring timestamp body = basestring timestamp' body') :
    timestamp = timestamp' ∧ body = body' := by
  have htext := String.toList_inj.mpr heq
  simp only [basestring, String.toList_append, List.append_assoc] at htext
  have hrest := List.append_cancel_left htext
  obtain ⟨ht, hb⟩ := append_separator_inj h h' hrest
  exact ⟨String.toList_inj.mp ht, String.toList_inj.mp hb⟩

/-! ## What the webhook does -/

/-- A click opens the modal that the button names, or nothing happens. -/
theorem handleBlockAction_click (slack : SlackConfig) (actionId : String) (triggerId : Py.Json)
    (more : Py.Dict) :
    handleBlockAction slack (SlackChannel.blockActions actionId triggerId more) = .acknowledged ∨
      handleBlockAction slack (SlackChannel.blockActions actionId triggerId more) = .noToken ∨
      ∃ approve id, actionId = buttonId approve id ∧
        handleBlockAction slack (SlackChannel.blockActions actionId triggerId more) =
          .opensModal triggerId (callbackId approve id) := by
  have hmodal (decision approvalId : String) :
      openDecisionModal slack triggerId decision approvalId = .noToken ∨
        openDecisionModal slack triggerId decision approvalId =
          .opensModal triggerId (decision ++ "_" ++ approvalId) := by
    unfold openDecisionModal
    split_ifs
    · exact .inl rfl
    · exact .inr rfl
  have hclick : handleBlockAction slack (SlackChannel.blockActions actionId triggerId more) =
      handleActionId slack triggerId actionId := rfl
  rw [hclick, handleActionId]
  split_ifs
  · exact .inl rfl
  · split
    · rename_i approvalId hprefix
      exact .inr ((hmodal "approve" approvalId).imp id fun h =>
        ⟨true, approvalId, removePrefix?_eq_some.mp hprefix, h⟩)
    · split
      · rename_i approvalId hprefix
        exact .inr ((hmodal "reject" approvalId).imp id fun h =>
          ⟨false, approvalId, removePrefix?_eq_some.mp hprefix, h⟩)
      · exact .inl rfl

/-- A submitted modal decides what its `callback_id` says, for the reason that was given, or
nothing happens. -/
theorem handleViewSubmission_modal (x : SlackSubmission) (more : Py.Dict) :
    handleViewSubmission (SlackChannel.viewSubmission x more) = .acknowledged ∨
      handleViewSubmission (SlackChannel.viewSubmission x more) = .tooShort ∨
      ∃ approve id, x.callbackId = callbackId approve id ∧ 10 ≤ x.reason.length ∧
        handleViewSubmission (SlackChannel.viewSubmission x more) =
          .decides approve id x.reason x.userId := by
  have hreason (approve : Bool) (id : String) :
      submitReason (SlackChannel.viewSubmission x more) (SlackChannel.modalView x) approve id =
        .tooShort ∨
      10 ≤ x.reason.length ∧
        submitReason (SlackChannel.viewSubmission x more) (SlackChannel.modalView x) approve id =
          .decides approve id x.reason x.userId := by
    have heq : submitReason (SlackChannel.viewSubmission x more) (SlackChannel.modalView x)
        approve id = if x.reason.length < 10 then .tooShort else
          .decides approve id x.reason x.userId := rfl
    rw [heq]
    split_ifs with hshort
    · exact .inl rfl
    · exact .inr ⟨by omega, rfl⟩
  have hsubmit : handleViewSubmission (SlackChannel.viewSubmission x more) =
      handleCallbackId (SlackChannel.viewSubmission x more) (SlackChannel.modalView x)
        x.callbackId := rfl
  rw [hsubmit, handleCallbackId]
  split
  · rename_i id hprefix
    exact .inr ((hreason true id).imp_right fun h =>
      ⟨true, id, removePrefix?_eq_some.mp hprefix, h.1, h.2⟩)
  · split
    · rename_i id hprefix
      exact .inr ((hreason false id).imp_right fun h =>
        ⟨false, id, removePrefix?_eq_some.mp hprefix, h.1, h.2⟩)
    · exact .inl rfl

/-- The signature was found to be one of Slack, not more than 5 minutes old. -/
theorem verified {clock : ℚ} {body timestamp signature : String}
    (h : verifySlackSignature slack clock body timestamp signature = some true) :
    ∃ ts, Py.int? slack.wideDigit timestamp.toList = some ts ∧ |clock - ts| ≤ 300 ∧
      signature = "v0=" ++ slack.hmacHex slack.signingSecret (basestring timestamp body) := by
  unfold verifySlackSignature at h
  by_cases hsecret : slack.signingSecret = ""
  · rw [if_pos hsecret] at h
    cases h
  · rw [if_neg hsecret] at h
    split at h
    · cases h
    · rename_i ts hts
      split_ifs at h with hold hascii
      · cases h
      · exact ⟨ts, hts, not_lt.mp hold, by simpa using h⟩

end SlackWebhook

/-- What a decision of the webhook says was submitted in its modal, within 5 minutes. -/
structure SlackDecision.From (x : SlackDecision) (y : SlackSubmission) : Prop where
  modal : y.callbackId = SlackWebhook.callbackId x.approve x.approvalId
  reason : y.reason = x.reason
  approver : y.userId = x.approverId
  long : 10 ≤ x.reason.length
  recent : |x.clock - y.time| ≤ 300

namespace SlackChannel

open SlackWebhook

variable {cfg : PipelineConfig} {slack : SlackConfig} {form : Py.Json → String}
  {s t : SlackChannel} {a : SlackAction}

/-! ## From the button to the decision -/

/-- What Slack knows: buttons that were clicked are those of messages, modals that were opened
belong to such buttons, and what Slack signs was clicked or submitted. -/
structure Honest (slack : SlackConfig) (s : SlackChannel) : Prop where
  clicks : ∀ actionId ∈ s.clicks, ∃ approvalId ∈ s.messages, actionId ∈ messageButtons approvalId
  views : ∀ view ∈ s.views, ∃ approve approvalId, view = callbackId approve approvalId ∧
    buttonId approve approvalId ∈ s.clicks
  submissions : ∀ y ∈ s.submissions, y.callbackId ∈ s.views
  signed : ∀ r ∈ s.signed,
    (∃ actionId ∈ s.clicks, ∃ triggerId more,
      slack.payload? r.body = some (.obj (blockActions actionId triggerId more))) ∨
    ∃ y ∈ s.submissions, ∃ more,
      slack.payload? r.body = some (.obj (viewSubmission y more)) ∧ r.time = y.time
  decisions : ∀ x ∈ s.decisions, ∃ y ∈ s.submissions, x.From y

/-- A request that the webhook acts upon was signed by Slack. -/
theorem signed_of_request {clock : ℚ} {body timestamp signature : String} {now : Time}
    {opened : Bool} {reply : WebhookReply} (hmock : slack.useMock = false)
    (hunforged : s.Unforged slack (.request body timestamp signature clock now opened))
    (hreply : slackWebhook slack clock body timestamp signature = reply)
    (hraised : reply ≠ .raised) (hunauthorized : reply ≠ .unauthorized) :
    ∃ r ∈ s.signed, r.body = body ∧ |clock - r.time| ≤ 300 ∧ handleBody slack body = reply := by
  rw [slackWebhook, if_neg (by simp [hmock])] at hreply
  split at hreply
  · exact absurd hreply.symm hraised
  · exact absurd hreply.symm hunauthorized
  · rename_i hverified
    obtain ⟨ts, hts, hrecent, hsignature⟩ := verified hverified
    obtain ⟨r, hr, htext⟩ := hunforged hsignature
    have hdigits : (toString r.time).toList = Nat.toDigits 10 r.time := Nat.toList_repr
    have hcolon : ':' ∉ (toString r.time).toList := by
      rw [hdigits]
      intro hmem
      exact absurd (Nat.isDigit_of_mem_toDigits (by decide) (by decide) hmem) (by decide)
    obtain ⟨htime, hbody⟩ := basestring_inj hcolon (Py.colon_notMem hts) htext
    refine ⟨r, hr, hbody, ?_, hreply⟩
    rw [← htime, hdigits] at hts
    rw [Py.int?_toDigits hts] at hrecent
    exact_mod_cast hrecent

/-- A modal that the webhook asks for belongs to a button that was clicked. -/
theorem Honest.opensModal (h : s.Honest slack) {r : SignedRequest} (hr : r ∈ s.signed)
    {triggerId : Py.Json} {view : String}
    (hreply : handleBody slack r.body = .opensModal triggerId view) :
    ∃ approve approvalId, view = callbackId approve approvalId ∧
      buttonId approve approvalId ∈ s.clicks := by
  rcases h.signed r hr with ⟨actionId, hclick, triggerId', more, hbody⟩ | ⟨y, -, more, hbody, -⟩
  · have hhandle : handleBody slack r.body =
        handleBlockAction slack (blockActions actionId triggerId' more) := by
      rw [handleBody, hbody]
      rfl
    rw [hhandle] at hreply
    rcases handleBlockAction_click slack actionId triggerId' more with
      heq | heq | ⟨approve, approvalId, rfl, heq⟩
    · rw [heq] at hreply
      cases hreply
    · rw [heq] at hreply
      cases hreply
    · rw [heq] at hreply
      obtain ⟨-, rfl⟩ := WebhookReply.opensModal.inj hreply
      exact ⟨approve, approvalId, rfl, hclick⟩
  · have hhandle : handleBody slack r.body = handleViewSubmission (viewSubmission y more) := by
      rw [handleBody, hbody]
      rfl
    rw [hhandle] at hreply
    rcases handleViewSubmission_modal y more with heq | heq | ⟨_, _, -, -, heq⟩
    all_goals
      rw [heq] at hreply
      cases hreply

/-- A decision of the webhook was submitted in its modal. -/
theorem Honest.decides (h : s.Honest slack) {r : SignedRequest} (hr : r ∈ s.signed) {clock : ℚ}
    (hclock : |clock - r.time| ≤ 300) {approve : Bool} {approvalId reason approverId : String}
    (hreply : handleBody slack r.body = .decides approve approvalId reason approverId) :
    ∃ y ∈ s.submissions,
      SlackDecision.From { approve, approvalId, reason, approverId, clock } y := by
  rcases h.signed r hr with
    ⟨actionId, -, triggerId', more, hbody⟩ | ⟨y, hy, more, hbody, htime⟩
  · have hhandle : handleBody slack r.body =
        handleBlockAction slack (blockActions actionId triggerId' more) := by
      rw [handleBody, hbody]
      rfl
    rw [hhandle] at hreply
    rcases handleBlockAction_click slack actionId triggerId' more with
      heq | heq | ⟨_, _, -, heq⟩
    all_goals
      rw [heq] at hreply
      cases hreply
  · have hhandle : handleBody slack r.body = handleViewSubmission (viewSubmission y more) := by
      rw [handleBody, hbody]
      rfl
    rw [hhandle] at hreply
    rcases handleViewSubmission_modal y more with heq | heq | ⟨approve', id, hmodal, hlong, heq⟩
    · rw [heq] at hreply
      cases hreply
    · rw [heq] at hreply
      cases hreply
    · rw [heq] at hreply
      obtain ⟨rfl, rfl, rfl, rfl⟩ := WebhookReply.decides.inj hreply
      exact ⟨y, hy, hmodal, rfl, rfl, hlong, htime ▸ hclock⟩

/-- A user clicks on a button of a message. -/
theorem Honest.click (h : s.Honest slack) {actionId : String} {triggerId : Py.Json} {more : Py.Dict}
    {time : ℕ} (hreadable : Readable slack form (.click actionId triggerId more time))
    (hstep : (machine cfg slack form).step s (.click actionId triggerId more time) = some t) :
    t.Honest slack := by
  simp only [machine] at hstep
  split_ifs at hstep with hbutton
  obtain rfl := Option.some.inj hstep
  obtain ⟨id, hid, hbutton⟩ := List.any_eq_true.mp hbutton
  refine
    { h with
      clicks := fun actionId' hclick => ?_
      views := fun view hview => ?_
      signed := fun r hr => ?_ }
  · rcases List.mem_append.mp hclick with hclick | hclick
    · exact h.clicks actionId' hclick
    · obtain rfl := List.mem_singleton.mp hclick
      exact ⟨id, hid, by simpa using hbutton⟩
  · obtain ⟨approve, approvalId, heq, hclick⟩ := h.views view hview
    exact ⟨approve, approvalId, heq, List.mem_append_left _ hclick⟩
  · rcases List.mem_append.mp hr with hr | hr
    · rcases h.signed r hr with ⟨actionId', hclick, hbody⟩ | hmodal
      · exact .inl ⟨actionId', List.mem_append_left _ hclick, hbody⟩
      · exact .inr hmodal
    · obtain rfl := List.mem_singleton.mp hr
      exact .inl ⟨actionId, List.mem_append_right _ (List.mem_singleton_self _), triggerId, more,
        hreadable⟩

/-- A user submits a modal. -/
theorem Honest.submitModal (h : s.Honest slack) {x : SlackSubmission} {more : Py.Dict}
    (hreadable : Readable slack form (.submitModal x more))
    (hstep : (machine cfg slack form).step s (.submitModal x more) = some t) :
    t.Honest slack := by
  simp only [machine] at hstep
  split_ifs at hstep with hview
  obtain rfl := Option.some.inj hstep
  refine
    { h with
      submissions := fun y hy => ?_
      signed := fun r hr => ?_
      decisions := fun d hd => ?_ }
  · rcases List.mem_append.mp hy with hy | hy
    · exact h.submissions y hy
    · obtain rfl := List.mem_singleton.mp hy
      simpa using hview
  · rcases List.mem_append.mp hr with hr | hr
    · rcases h.signed r hr with hclick | ⟨y, hy, hbody⟩
      · exact .inl hclick
      · exact .inr ⟨y, List.mem_append_left _ hy, hbody⟩
    · obtain rfl := List.mem_singleton.mp hr
      exact .inr ⟨x, List.mem_append_right _ (List.mem_singleton_self _), more, hreadable, rfl⟩
  · obtain ⟨y, hy, hfrom⟩ := h.decisions d hd
    exact ⟨y, List.mem_append_left _ hy, hfrom⟩

/-- Somebody makes a request to the webhook. -/
theorem Honest.request (h : s.Honest slack) {body timestamp signature : String} {clock : ℚ}
    {now : Time} {opened : Bool} (hmock : slack.useMock = false)
    (hunforged : s.Unforged slack (.request body timestamp signature clock now opened))
    (hstep : (machine cfg slack form).step s (.request body timestamp signature clock now opened) =
      some t) : t.Honest slack := by
  simp only [machine] at hstep
  generalize hreply : slackWebhook slack clock body timestamp signature = reply at hstep
  cases reply with
  | opensModal triggerId view =>
    obtain rfl := Option.some.inj hstep
    obtain ⟨r, hr, rfl, -, hhandle⟩ := signed_of_request hmock hunforged hreply nofun nofun
    split_ifs
    · refine { h with views := fun view' hview => ?_, submissions := fun y hy => ?_ }
      · rcases List.mem_append.mp hview with hview | hview
        · exact h.views view' hview
        · obtain rfl := List.mem_singleton.mp hview
          exact h.opensModal hr hhandle
      · exact List.mem_append_left _ (h.submissions y hy)
    · exact h
  | decides approve approvalId reason approverId =>
    rw [webhook] at hstep
    obtain ⟨proxy, -, rfl⟩ := Option.map_eq_some_iff.mp hstep
    obtain ⟨r, hr, rfl, hrecent, hhandle⟩ := signed_of_request hmock hunforged hreply nofun nofun
    refine { h with decisions := fun d hd => ?_ }
    rcases List.mem_append.mp hd with hd | hd
    · exact h.decisions d hd
    · obtain rfl := List.mem_singleton.mp hd
      exact h.decides hr hrecent hhandle
  | _ =>
    obtain rfl := Option.some.inj hstep
    exact h

/-- Every step keeps it, if no signature is forged. -/
theorem honest_step (hmock : slack.useMock = false) (h : s.Honest slack)
    (hunforged : s.Unforged slack a) (hreadable : Readable slack form a)
    (hstep : (machine cfg slack form).step s a = some t) : t.Honest slack := by
  cases a with
  | proxy b =>
    simp only [machine] at hstep
    split_ifs at hstep
    obtain ⟨proxy, -, rfl⟩ := Option.map_eq_some_iff.mp hstep
    exact { h with }
  | post approvalId =>
    obtain rfl := Option.some.inj hstep
    refine { h with clicks := fun actionId hclick => ?_ }
    obtain ⟨id, hid, hbutton⟩ := h.clicks actionId hclick
    exact ⟨id, List.mem_append_left _ hid, hbutton⟩
  | click actionId triggerId more time => exact h.click hreadable hstep
  | submitModal x more => exact h.submitModal hreadable hstep
  | request body timestamp signature clock now opened => exact h.request hmock hunforged hstep

/-- A channel in which nothing has happened. -/
theorem Started.honest (h : s.Started) : s.Honest slack where
  clicks actionId hclick := by rw [h.clicks] at hclick; cases hclick
  views view hview := by rw [h.views] at hview; cases hview
  submissions y hy := by rw [h.submissions] at hy; cases hy
  signed r hr := by rw [h.signed] at hr; cases hr
  decisions x hx := by rw [h.decisions] at hx; cases hx

/-- What a run keeps of it. -/
theorem honest_exec {actions : List SlackAction} (hmock : slack.useMock = false)
    (hstarted : s.Started)
    (hunforged : (machine cfg slack form).Guarded (Unforged slack) s actions)
    (hreadable : ∀ a ∈ actions, Readable slack form a)
    (hrun : (machine cfg slack form).exec s actions = some t) : t.Honest slack := by
  have hguarded : (machine cfg slack form).Guarded
      (fun s a => s.Unforged slack a ∧ Readable slack form a) s actions :=
    Machine.guarded_and _ hunforged (Machine.guarded_of_mem _ (fun a ha _ => hreadable a ha) s)
  exact (machine cfg slack form).exec_invariant
    (fun _ _ _ hs hG hstep => honest_step hmock hs hG.1 hG.2 hstep) hstarted.honest hguarded hrun

/-- A user has submitted the decision in its modal, which was opened from its button in the message
for its approval id. -/
structure Genuine (s : SlackChannel) (x : SlackDecision) : Prop where
  message : x.approvalId ∈ s.messages
  click : buttonId x.approve x.approvalId ∈ s.clicks
  view : callbackId x.approve x.approvalId ∈ s.views
  submission : ∃ y ∈ s.submissions, x.From y

theorem Honest.genuine (h : s.Honest slack) {x : SlackDecision} (hx : x ∈ s.decisions) :
    s.Genuine x := by
  obtain ⟨y, hy, hfrom⟩ := h.decisions x hx
  have hview := h.submissions y hy
  rw [hfrom.modal] at hview
  obtain ⟨approve, id, heq, hclick⟩ := h.views _ hview
  obtain ⟨rfl, rfl⟩ := callbackId_inj heq
  obtain ⟨id', hmessage, hbutton⟩ := h.clicks _ hclick
  exact ⟨eq_of_buttonId_mem hbutton ▸ hmessage, hclick, hview, y, hy, hfrom⟩

/-- **Decisions of the webhook are genuine.** In every run in which no signature is forged, whatever
requests are made in whatever order, a decision that the webhook has taken to the store was
submitted by a user within 5 minutes, for the same reason, in the modal for this decision and this
approval id; the modal had been opened because that button was clicked, in a message which the
notifier had posted for this approval id. -/
theorem slack_decisions_genuine {actions : List SlackAction} (hmock : slack.useMock = false)
    (hstarted : s.Started)
    (hunforged : (machine cfg slack form).Guarded (Unforged slack) s actions)
    (hreadable : ∀ a ∈ actions, Readable slack form a)
    (hrun : (machine cfg slack form).exec s actions = some t) :
    ∀ x ∈ t.decisions, t.Genuine x :=
  fun _ hx => (honest_exec hmock hstarted hunforged hreadable hrun).genuine hx

/-- The operation is intercepted, approved in the channel, and the target is called. -/
def executed : List SlackAction :=
  .proxy (.submit (Proxy.sampleCall "DELETE FROM users WHERE id = 1") "1" 0) ::
    ((Gateway.approved.take 13).map fun a => .proxy (.workflow "cg_1" a)) ++ clicked ++
    ((Gateway.approved.drop 14).map fun a => .proxy (.workflow "cg_1" a))

theorem executed_readable : ∀ a ∈ executed, Readable sampleSlack sampleForm a := by
  intro a ha
  simp only [executed, List.mem_append, List.mem_cons, List.mem_map] at ha
  rcases ha with ((rfl | ⟨b, -, rfl⟩) | ha) | ⟨b, -, rfl⟩
  · trivial
  · trivial
  · simp only [clicked, List.mem_cons, List.not_mem_nil, or_false] at ha
    have hbodies : sampleSubmissionBody ≠ sampleClickBody := by decide +kernel
    rcases ha with rfl | rfl | rfl | rfl | rfl | rfl
    · trivial
    · simp [Readable, sampleForm, blockActions, sampleSlack]
    · trivial
    · trivial
    · simp [Readable, sampleForm, viewSubmission, sampleSlack, hbodies]
    · trivial
  · trivial

theorem executed_unforged :
    (machine Gateway.sampleConfig sampleSlack sampleForm).Guarded (Unforged sampleSlack) sample
      executed :=
  Machine.guarded_of_guardedBy _ (by decide +kernel)

theorem slack_decisions_genuine_clicked :
    ∃ t x, (machine Gateway.sampleConfig sampleSlack sampleForm).exec sample executed = some t ∧
      x ∈ t.decisions ∧ t.Genuine x := by
  have hany : ((machine Gateway.sampleConfig sampleSlack sampleForm).exec sample executed).any
      (fun t => !t.decisions.isEmpty) = true := by decide +kernel
  obtain ⟨t, hrun, ht⟩ := (Option.any_eq_true _ _).mp hany
  obtain ⟨x, hx⟩ := List.exists_mem_of_ne_nil t.decisions (by simpa using ht)
  exact ⟨t, x, hrun, hx,
    slack_decisions_genuine rfl sample_started executed_unforged executed_readable hrun x hx⟩

end SlackChannel

/-! ## From the decision to the target -/

/-- No stretch of the task decides. -/
theorem TaskStep.decided_notMem {v v' : TaskView} {input : TaskInput} {t t' : TaskAt}
    {events : List Event} (h : TaskStep v input t v' t' events) {d : Decision}
    {written : Option DecisionFields} : .decided d written ∉ events := by
  intro hmem
  cases h with
  | review hlinked hreview => rcases hreview.events _ hmem with heq | heq <;> cases heq
  | reviewUnlinked hunlinked hevents => rcases hevents _ hmem with heq | heq <;> cases heq
  | _ => simp at hmem

namespace Gateway

variable {cfg : PipelineConfig} {approvalId : String} {manifest : Py.Dict} {s t : Gateway}
  {a : GatewayAction} {d : Decision} {written : Option DecisionFields}

/-- A decision in the log was there, or is what the action decides. -/
theorem decided_step (hwf : WellFormed approvalId s)
    (hstep : (machine cfg approvalId manifest).step s a = some t)
    (hd : .decided d written ∈ t.log) :
    .decided d written ∈ s.log ∨ ∃ now, a.decision? = some (d, now) := by
  have hdecided {d' : Decision} {now : Time}
      (hd : .decided d written ∈ (WorkflowStore.decide s.mem approvalId d' now).2 :: s.log) :
      .decided d written ∈ s.log ∨ d' = d := by
    rcases List.mem_cons.mp hd with heq | hd
    · rw [(s.mem.view_decide approvalId pipelineContract d' now).2] at heq
      exact .inr (Event.decided.inj heq).1.symm
    · exact .inl hd
  cases a with
  | task input =>
    obtain ⟨o, ho, rfl⟩ := Option.map_eq_some_iff.mp (resumeTask_of_step hstep).1
    obtain ⟨r, hr⟩ := hwf.record
    have htask := Graph.runTask_taskStep hr hwf.link hwf.fresh ho
    exact .inl ((List.mem_append.mp hd).resolve_left htask.decided_notMem)
  | recordDecision d' now =>
    obtain rfl := Option.some.inj hstep
    exact (hdecided hd).imp id fun heq => ⟨now, by rw [GatewayAction.decision?, heq]⟩
  | postDecision d' now =>
    obtain rfl := Option.some.inj hstep
    split at hd
    · rename_i hvalid
      exact (hdecided hd).imp id fun heq =>
        ⟨now, by rw [GatewayAction.decision?, if_pos hvalid, heq]⟩
    · exact .inl hd
  | viewSubmission approve reason approverId now =>
    obtain rfl := Option.some.inj hstep
    split at hd
    · rename_i hreason
      exact (hdecided hd).imp id fun heq =>
        ⟨now, by rw [GatewayAction.decision?, if_pos hreason, heq]⟩
    · exact .inl hd
  | endpointStatus i now =>
    obtain ⟨status, -, rfl⟩ := Option.map_eq_some_iff.mp hstep
    exact .inl hd

/-- A decision in the log was made in the run. -/
theorem decided_exec {actions : List GatewayAction} (hstarted : Started approvalId s)
    (hrun : (machine cfg approvalId manifest).exec s actions = some t)
    (hd : .decided d written ∈ t.log) : ∃ a ∈ actions, ∃ now, a.decision? = some (d, now) := by
  have h := (machine cfg approvalId manifest).exec_invariant
    (I := fun u => WellFormed approvalId u ∧ ∀ d written, .decided d written ∈ u.log →
      ∃ a ∈ actions, ∃ now, a.decision? = some (d, now))
    (G := fun _ a => a ∈ actions)
    (fun u a v hu ha hstep => ⟨(machine_step hu.1 hstep).1, fun d written hd => by
      rcases decided_step hu.1 hstep hd with hd | hdecides
      · exact hu.2 d written hd
      · exact ⟨a, ha, hdecides⟩⟩)
    ⟨hstarted.wellFormed, fun d written hd => by rw [hstarted.log] at hd; cases hd⟩
    (Machine.guarded_of_mem _ (fun a ha _ => ha) s) hrun
  exact h.2 d written hd

/-- A call was approved by one of the actions. -/
theorem approved_of_sent {actions : List GatewayAction} {call : ToolCall}
    (hstarted : Started approvalId s)
    (hrun : (machine cfg approvalId manifest).exec s actions = some t) (hsent : .sent call ∈ t.log) :
    ∃ a ∈ actions, ∃ d now, a.decision? = some (d, now) ∧ d.decision = "APPROVE" := by
  obtain ⟨newer, older, hlog⟩ := List.append_of_mem hsent
  obtain ⟨newer', d, w, older', holder, happrove, -⟩ :=
    callsApproved_exec hstarted hrun newer call older hlog
  have hd : .decided d (some w) ∈ t.log := by
    rw [hlog, holder]
    simp
  obtain ⟨a, ha, now, hdecision⟩ := decided_exec hstarted hrun hd
  exact ⟨a, ha, d, now, hdecision, happrove⟩

end Gateway

/-- The step of the proxy that takes a decision of the webhook to the store. -/
def SlackDecision.action (x : SlackDecision) (now : Time) : ProxyAction :=
  .workflow x.approvalId (.viewSubmission x.approve x.reason x.approverId now)

namespace SlackChannel

open SlackWebhook

variable {cfg : PipelineConfig} {slack : SlackConfig} {form : Py.Json → String}
  {s t : SlackChannel} {a : SlackAction}

/-- What a step does to the proxy: nothing, a step of its own beside Slack, or the decision that the
webhook takes. -/
theorem proxy_step (hstep : (machine cfg slack form).step s a = some t) :
    t.proxy = s.proxy ∧ t.decisions = s.decisions ∨
      (∃ b, a = .proxy b ∧ (Proxy.machine cfg).step s.proxy b = some t.proxy ∧
        t.decisions = s.decisions) ∨
      ∃ x now, (Proxy.machine cfg).step s.proxy (x.action now) = some t.proxy ∧
        t.decisions = s.decisions ++ [x] := by
  cases a with
  | proxy b =>
    simp only [machine] at hstep
    split_ifs at hstep
    obtain ⟨proxy, hb, rfl⟩ := Option.map_eq_some_iff.mp hstep
    exact .inr (.inl ⟨b, rfl, hb, rfl⟩)
  | post approvalId =>
    obtain rfl := Option.some.inj hstep
    exact .inl ⟨rfl, rfl⟩
  | click actionId triggerId more time =>
    simp only [machine] at hstep
    split_ifs at hstep
    obtain rfl := Option.some.inj hstep
    exact .inl ⟨rfl, rfl⟩
  | submitModal x more =>
    simp only [machine] at hstep
    split_ifs at hstep
    obtain rfl := Option.some.inj hstep
    exact .inl ⟨rfl, rfl⟩
  | request body timestamp signature clock now opened =>
    simp only [machine] at hstep
    generalize slackWebhook slack clock body timestamp signature = reply at hstep
    cases reply with
    | opensModal triggerId view =>
      obtain rfl := Option.some.inj hstep
      refine .inl ⟨?_, ?_⟩
      · rw [apply_ite proxy, ite_self]
      · rw [apply_ite decisions, ite_self]
    | decides approve approvalId reason approverId =>
      rw [webhook] at hstep
      obtain ⟨proxy, hb, rfl⟩ := Option.map_eq_some_iff.mp hstep
      exact .inr (.inr ⟨{ approve, approvalId, reason, approverId, clock }, now, hb, rfl⟩)
    | _ =>
      obtain rfl := Option.some.inj hstep
      exact .inl ⟨rfl, rfl⟩

/-- To the proxy, the run is one of its own: what reaches it does so beside Slack, or is a decision
of the webhook. -/
theorem proxy_exec {actions : List SlackAction}
    (hrun : (machine cfg slack form).exec s actions = some t) :
    ∃ bs, (Proxy.machine cfg).exec s.proxy bs = some t.proxy ∧ ∀ b ∈ bs,
      .proxy b ∈ actions ∨ ∃ x ∈ t.decisions, ∃ now, b = x.action now := by
  have hstart : ∃ bs, (Proxy.machine cfg).exec s.proxy bs = some s.proxy ∧ ∀ b ∈ bs,
      .proxy b ∈ actions ∨ ∃ x ∈ s.decisions, ∃ now, b = x.action now :=
    ⟨[], rfl, fun b hb => by cases hb⟩
  refine (machine cfg slack form).exec_invariant
    (I := fun u => ∃ bs, (Proxy.machine cfg).exec s.proxy bs = some u.proxy ∧ ∀ b ∈ bs,
      .proxy b ∈ actions ∨ ∃ x ∈ u.decisions, ∃ now, b = x.action now)
    (G := fun _ a => a ∈ actions) ?_ hstart (Machine.guarded_of_mem _ (fun a ha _ => ha) s) hrun
  rintro u a v ⟨bs, hbs, hfrom⟩ ha hstep
  have hextend {b : ProxyAction} (hb : (Proxy.machine cfg).step u.proxy b = some v.proxy) :
      (Proxy.machine cfg).exec s.proxy (bs ++ [b]) = some v.proxy :=
    (Proxy.machine cfg).exec_append_eq_some.mpr
      ⟨_, hbs, (Proxy.machine cfg).exec_cons_eq_some.mpr ⟨v.proxy, hb, rfl⟩⟩
  obtain ⟨hproxy, hdecisions⟩ | ⟨b, rfl, hb, hdecisions⟩ | ⟨x, now, hb, hdecisions⟩ :=
    proxy_step hstep
  · rw [hproxy, hdecisions]
    exact ⟨bs, hbs, hfrom⟩
  · refine ⟨bs ++ [b], hextend hb, fun b' hb' => ?_⟩
    rw [hdecisions]
    rcases List.mem_append.mp hb' with hb' | hb'
    · exact hfrom b' hb'
    · obtain rfl := List.mem_singleton.mp hb'
      exact .inl ha
  · refine ⟨bs ++ [x.action now], hextend hb, fun b' hb' => ?_⟩
    rw [hdecisions]
    rcases List.mem_append.mp hb' with hb' | hb'
    · exact (hfrom b' hb').imp_right fun ⟨y, hy, h⟩ => ⟨y, List.mem_append_left _ hy, h⟩
    · obtain rfl := List.mem_singleton.mp hb'
      exact .inr ⟨x, List.mem_append_right _ (List.mem_singleton_self _), now, rfl⟩

/-- **What reaches the target was approved by a click.** In every run in which no signature is
forged, an operation for which the target is called was approved beside Slack, or by a user who
clicked on its button in the channel and gave a reason. -/
theorem approved_in_slack {actions : List SlackAction} {id : String} {w : Workflow}
    {call : ToolCall} (hmock : slack.useMock = false) (hstarted : s.Started)
    (hunforged : (machine cfg slack form).Guarded (Unforged slack) s actions)
    (hreadable : ∀ a ∈ actions, Readable slack form a)
    (hrun : (machine cfg slack form).exec s actions = some t)
    (hw : t.proxy.workflows id = some w) (hsent : .sent call ∈ t.proxy.log id) :
    (∃ a d now, .proxy (.workflow id a) ∈ actions ∧ a.decision? = some (d, now) ∧
      d.decision = "APPROVE") ∨
      ∃ x ∈ t.decisions, x.approvalId = id ∧ x.approve = true ∧ t.Genuine x := by
  obtain ⟨bs, hbs, hfrom⟩ := proxy_exec hrun
  obtain ⟨u, after, hbegins, hsound, hafter⟩ := Proxy.begins_of_exec hstarted.proxy hbs hw
  obtain rfl := hbegins.approvalId
  have hown := (Proxy.component cfg w).exec ⟨hsound, hbegins.workflows⟩ hafter
  obtain ⟨a, ha, d, now, hdecision, happrove⟩ :=
    Gateway.approved_of_sent hbegins.submitted.toStarted hown hsent
  obtain ⟨b, hb, hseen⟩ := List.mem_filterMap.mp ha
  have hmem : b ∈ bs := by
    obtain ⟨before, hex, submitted, c, hlist, -⟩ := hbegins.call
    rw [hlist]
    exact List.mem_append_right _ (List.mem_cons_of_mem _ hb)
  obtain rfl : b = .workflow w.approvalId a := by
    cases b with
    | submit call hex now => cases hseen
    | workflow id a' =>
      rw [ProxyAction.seenBy, Option.ite_none_right_eq_some] at hseen
      rw [hseen.1, Option.some.inj hseen.2]
  rcases hfrom _ hmem with hb | ⟨x, hx, now', hb⟩
  · exact .inl ⟨a, d, now, hb, hdecision, happrove⟩
  · obtain ⟨hid, rfl⟩ := ProxyAction.workflow.inj hb
    refine .inr ⟨x, hx, hid.symm, ?_,
      (honest_exec hmock hstarted hunforged hreadable hrun).genuine hx⟩
    rw [GatewayAction.decision?, Option.ite_none_right_eq_some] at hdecision
    obtain ⟨rfl, -⟩ := Prod.mk.inj (Option.some.inj hdecision.2)
    cases hx' : x.approve with
    | true => rfl
    | false => simp [Gateway.viewDecision, hx'] at happrove

theorem approved_in_slack_clicked :
    ∃ t w call, (machine Gateway.sampleConfig sampleSlack sampleForm).exec sample executed = some t ∧
      t.proxy.workflows "cg_1" = some w ∧ .sent call ∈ t.proxy.log "cg_1" ∧
      ((∃ a d now, .proxy (.workflow "cg_1" a) ∈ executed ∧ a.decision? = some (d, now) ∧
        d.decision = "APPROVE") ∨
        ∃ x ∈ t.decisions, x.approvalId = "cg_1" ∧ x.approve = true ∧ t.Genuine x) := by
  have hany : ((machine Gateway.sampleConfig sampleSlack sampleForm).exec sample executed).any
      (fun t => (t.proxy.workflows "cg_1").isSome && (t.proxy.log "cg_1").any Event.isSent) =
        true := by decide +kernel
  obtain ⟨t, hrun, ht⟩ := (Option.any_eq_true _ _).mp hany
  rw [Bool.and_eq_true, List.any_eq_true] at ht
  obtain ⟨hsome, e, he, hsent⟩ := ht
  obtain ⟨w, hw⟩ := Option.isSome_iff_exists.mp hsome
  cases e with
  | sent call =>
    exact ⟨t, w, call, hrun, hw, he, approved_in_slack rfl sample_started executed_unforged
      executed_readable hrun hw he⟩
  | _ => cases hsent

end SlackChannel
