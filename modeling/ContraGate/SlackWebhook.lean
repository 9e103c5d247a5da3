import ContraGate.Library.PyInt
import ContraGate.Proxy

/-!
# Decisions by Slack (`proxy/webhook_handler.py`, `mcp_servers/notifier/server.py`)

The notifier posts a message with two buttons for every approval request. A click on one of them
reaches the webhook, which opens a modal; the modal is submitted with a reason, and then the webhook
decides. The approval id travels in the ids of the buttons and of the modal.
-/

/-- Settings and library functions of the webhook. -/
structure SlackConfig where
  signingSecret : String
  botToken : String
  /-- `USE_MOCK_NOTIFIER`. -/
  useMock : Bool
  /-- `hmac.new(secret, text, sha256).hexdigest()`. -/
  hmacHex : String → String → String
  /-- The payload in the form body: `parse_qs` and `json.loads`; `none` when one of them raises. -/
  payload? : String → Option Py.Json
  /-- The decimal digits beyond ASCII. -/
  wideDigit : Char → Option ℕ

/-- What the webhook makes of a request. -/
inductive WebhookReply
  /-- 401, 400 and 500. -/
  | unauthorized | malformed | raised
  /-- There is nothing to do. -/
  | acknowledged
  | noToken
  /-- Slack is asked to open a modal. -/
  | opensModal (triggerId : Py.Json) (callbackId : String)
  | tooShort
  /-- The decision goes to the store. -/
  | decides (approve : Bool) (approvalId reason approverId : String)

/-- `text[len(start):]`, if `text.startswith(start)`. -/
def removePrefix? (start text : String) : Option String :=
  (text.toList.dropPrefix? start.toList).map String.ofList

namespace SlackWebhook

/-- The text that is signed. -/
def basestring (timestamp body : String) : String := "v0:" ++ timestamp ++ ":" ++ body

variable (cfg : SlackConfig)

/-- `_verify_slack_signature`; `compare_digest` raises when the signature is not ASCII. -/
def verifySlackSignature (clock : ℚ) (body timestamp signature : String) : Option Bool :=
  if cfg.signingSecret = "" then some false
  else
    match Py.int? cfg.wideDigit timestamp.toList with
    | none => some false
    | some ts =>
      if 300 < |clock - ts| then some false
      else if signature.toList.all (·.toNat < 128) then
        some (signature == "v0=" ++ cfg.hmacHex cfg.signingSecret (basestring timestamp body))
      else none

/-- `_open_decision_modal`. -/
def openDecisionModal (triggerId : Py.Json) (decision approvalId : String) : WebhookReply :=
  if cfg.botToken = "" then .noToken else .opensModal triggerId (decision ++ "_" ++ approvalId)

/-- The tests of the `action_id` in `_handle_block_action`. -/
def handleActionId (triggerId : Py.Json) (actionId : String) : WebhookReply :=
  if actionId = "view_contract" then .acknowledged
  else
    match removePrefix? "open_approve_modal_" actionId with
    | some approvalId => openDecisionModal cfg triggerId "approve" approvalId
    | none =>
      match removePrefix? "open_reject_modal_" actionId with
      | some approvalId => openDecisionModal cfg triggerId "reject" approvalId
      | none => .acknowledged

/-- `_handle_block_action`. -/
def handleBlockAction (payload : Py.Dict) : WebhookReply :=
  if !(payload.getD "actions" (.arr [])).truthy then .acknowledged
  else
    match payload.getD "actions" (.arr []) with
    | .arr (.obj action :: _) =>
      match Py.Dict.getD action "action_id" (.str "") with
      | .str actionId => handleActionId cfg (payload.getD "trigger_id" (.str "")) actionId
      | _ => .raised
    | _ => .raised

/-- The first text input of a block replaces the reason found so far. -/
def blockReason : Py.Dict → Py.Json → Option Py.Json
  | [], reason => some reason
  | (_, .obj element) :: rest, reason =>
    match Py.Dict.get element "type" with
    | .str "plain_text_input" => some (Py.Dict.getD element "value" (.str ""))
    | _ => blockReason rest reason
  | _ :: _, _ => none

/-- The reason in the blocks of a modal. -/
def stateReason : Py.Dict → Py.Json → Option Py.Json
  | [], reason => some reason
  | (_, .obj elements) :: rest, reason => (blockReason elements reason).bind (stateReason rest)
  | _ :: _, _ => none

/-- `payload.get("user", {}).get("id", "slack_user")`. -/
def approverOf (payload : Py.Dict) : Option String :=
  match payload.getD "user" (.obj []) with
  | .obj user =>
    match Py.Dict.getD user "id" (.str "slack_user") with
    | .str approverId => some approverId
    | _ => none
  | _ => none

/-- The rest of `_handle_view_submission`, for the decision in the `callback_id`. -/
def submitReason (payload view : Py.Dict) (approve : Bool) (approvalId : String) : WebhookReply :=
  match view.getD "state" (.obj []) with
  | .obj state =>
    match Py.Dict.getD state "values" (.obj []) with
    | .obj values =>
      match stateReason values (.str "") with
      | some (.str reason) =>
        if reason.length < 10 then .tooShort
        else
          match approverOf payload with
          | some approverId => .decides approve approvalId reason approverId
          | none => .raised
      | _ => .raised
    | _ => .raised
  | _ => .raised

/-- The tests of the `callback_id` in `_handle_view_submission`. -/
def handleCallbackId (payload view : Py.Dict) (callbackId : String) : WebhookReply :=
  match removePrefix? "approve_" callbackId with
  | some approvalId => submitReason payload view true approvalId
  | none =>
    match removePrefix? "reject_" callbackId with
    | some approvalId => submitReason payload view false approvalId
    | none => .acknowledged

/-- `_handle_view_submission`. -/
def handleViewSubmission (payload : Py.Dict) : WebhookReply :=
  match payload.getD "view" (.obj []) with
  | .obj view =>
    match Py.Dict.getD view "callback_id" (.str "") with
    | .str callbackId => handleCallbackId payload view callbackId
    | _ => .raised
  | _ => .raised

/-- The body of a request that is believed. -/
def handleBody (body : String) : WebhookReply :=
  match cfg.payload? body with
  | none => .malformed
  | some (.obj payload) =>
    match Py.Dict.getD payload "type" (.str "") with
    | .str "block_actions" => handleBlockAction cfg payload
    | .str "view_submission" => handleViewSubmission payload
    | _ => .acknowledged
  | some _ => .raised

/-- `slack_webhook`. -/
def slackWebhook (clock : ℚ) (body timestamp signature : String) : WebhookReply :=
  if cfg.useMock then handleBody cfg body
  else
    match verifySlackSignature cfg clock body timestamp signature with
    | none => .raised
    | some false => .unauthorized
    | some true => handleBody cfg body

/-- The `action_id` of the button that opens a modal. -/
def buttonId (approve : Bool) (approvalId : String) : String :=
  (if approve then "open_approve_modal_" else "open_reject_modal_") ++ approvalId

/-- The action ids in the message of `_send_slack_approval`. -/
def messageButtons (approvalId : String) : List String :=
  ["view_contract", buttonId true approvalId, buttonId false approvalId]

/-- The `callback_id` of a modal. -/
def callbackId (approve : Bool) (approvalId : String) : String :=
  (if approve then "approve" else "reject") ++ "_" ++ approvalId

end SlackWebhook

/-! ## Slack -/

/-- A user has submitted a modal. -/
structure SlackSubmission where
  callbackId : String
  reason : String
  userId : String
  /-- The clock of Slack. -/
  time : ℕ

/-- A request that Slack has signed. -/
structure SignedRequest where
  time : ℕ
  body : String

/-- The text that was signed. -/
def SignedRequest.text (r : SignedRequest) : String :=
  SlackWebhook.basestring (toString r.time) r.body

/-- A decision that the webhook has taken to the store. -/
structure SlackDecision where
  approve : Bool
  approvalId : String
  reason : String
  approverId : String
  /-- The clock of the proxy. -/
  clock : ℚ

/-- The proxy, and what Slack knows of it. -/
structure SlackChannel where
  proxy : Proxy
  /-- The approval ids of the messages in the channel. -/
  messages : List String
  /-- The buttons that were clicked. -/
  clicks : List String
  /-- The modals that were opened. -/
  views : List String
  submissions : List SlackSubmission
  signed : List SignedRequest
  decisions : List SlackDecision

/-- One step. Anyone can make a request, with any signature and any number of times. -/
inductive SlackAction
  | proxy (a : ProxyAction)
  /-- The notifier posts a message. -/
  | post (approvalId : String)
  /-- A user clicks a button of a message; `more` is the rest of the payload. -/
  | click (actionId : String) (triggerId : Py.Json) (more : Py.Dict) (time : ℕ)
  /-- A user submits a modal. -/
  | submitModal (x : SlackSubmission) (more : Py.Dict)
  /-- A request reaches the webhook; a modal that it asks for is opened or not. -/
  | request (body timestamp signature : String) (clock : ℚ) (now : Time) (opened : Bool)

/-- The decision goes through a modal. -/
def ProxyAction.isViewSubmission : ProxyAction → Bool
  | .workflow _ (.viewSubmission ..) => true
  | _ => false

namespace SlackChannel

open SlackWebhook

/-- The payload of a click. -/
def blockActions (actionId : String) (triggerId : Py.Json) (more : Py.Dict) : Py.Dict :=
  [("type", .str "block_actions"), ("trigger_id", triggerId),
    ("actions", .arr [.obj [("action_id", .str actionId)]])] ++ more

/-- The `view` of a submitted modal. -/
def modalView (x : SlackSubmission) : Py.Dict :=
  [("callback_id", .str x.callbackId),
    ("state", .obj [("values", .obj [("reason_block", .obj [("reason_input", .obj
      [("type", .str "plain_text_input"), ("value", .str x.reason)])])])])]

/-- The payload of a submitted modal. -/
def viewSubmission (x : SlackSubmission) (more : Py.Dict) : Py.Dict :=
  [("type", .str "view_submission"), ("user", .obj [("id", .str x.userId)]),
    ("view", .obj (modalView x))] ++ more

/-- The webhook handles a request. -/
def webhook (cfg : PipelineConfig) (s : SlackChannel) (clock : ℚ) (now : Time) (opened : Bool) :
    WebhookReply → Option SlackChannel
  | .opensModal _ callbackId =>
    some (if opened then { s with views := s.views ++ [callbackId] } else s)
  | .decides approve approvalId reason approverId =>
    ((Proxy.machine cfg).step s.proxy
      (.workflow approvalId (.viewSubmission approve reason approverId now))).map fun proxy =>
      { s with
        proxy
        decisions := s.decisions ++ [{ approve, approvalId, reason, approverId, clock }] }
  | _ => some s

/-- The proxy and Slack. `form` is the body that Slack makes of a payload. -/
def machine (cfg : PipelineConfig) (slack : SlackConfig) (form : Py.Json → String) :
    Machine SlackChannel SlackAction where
  step s
    | .proxy a =>
      if a.isViewSubmission then none
      else ((Proxy.machine cfg).step s.proxy a).map fun proxy => { s with proxy }
    | .post approvalId => some { s with messages := s.messages ++ [approvalId] }
    | .click actionId triggerId more time =>
      if s.messages.any fun approvalId => (messageButtons approvalId).contains actionId then
        some
          { s with
            clicks := s.clicks ++ [actionId]
            signed := s.signed ++ [⟨time, form (.obj (blockActions actionId triggerId more))⟩] }
      else none
    | .submitModal x more =>
      if s.views.contains x.callbackId then
        some
          { s with
            submissions := s.submissions ++ [x]
            signed := s.signed ++ [⟨x.time, form (.obj (viewSubmission x more))⟩] }
      else none
    | .request body timestamp signature clock now opened =>
      s.webhook cfg clock now opened (slackWebhook slack clock body timestamp signature)

/-- Nobody but Slack makes a signature that the webhook accepts. -/
def Unforged (slack : SlackConfig) (s : SlackChannel) : SlackAction → Prop
  | .request body timestamp signature .. =>
    signature = "v0=" ++ slack.hmacHex slack.signingSecret (basestring timestamp body) →
      ∃ r ∈ s.signed, r.text = basestring timestamp body
  | _ => True

instance (slack : SlackConfig) (s : SlackChannel) : ∀ a, Decidable (Unforged slack s a)
  | .request body timestamp signature .. =>
    inferInstanceAs (Decidable
      (signature = "v0=" ++ slack.hmacHex slack.signingSecret (basestring timestamp body) →
        ∃ r ∈ s.signed, r.text = basestring timestamp body))
  | .proxy _ | .post _ | .click .. | .submitModal .. => .isTrue trivial

/-- What Slack puts into the form, the webhook reads there. -/
def Readable (slack : SlackConfig) (form : Py.Json → String) : SlackAction → Prop
  | .click actionId triggerId more _ =>
    slack.payload? (form (.obj (blockActions actionId triggerId more))) =
      some (.obj (blockActions actionId triggerId more))
  | .submitModal x more =>
    slack.payload? (form (.obj (viewSubmission x more))) = some (.obj (viewSubmission x more))
  | _ => True

/-- Nothing has happened in the channel, and the proxy has just started. -/
structure Started (s : SlackChannel) : Prop where
  proxy : s.proxy.Booted
  messages : s.messages = []
  clicks : s.clicks = []
  views : s.views = []
  submissions : s.submissions = []
  signed : s.signed = []
  decisions : s.decisions = []

/-! ## A concrete channel, for runs that are evaluated -/

def sampleClickBody : String :=
  "payload=%7B%22type%22%3A%22block_actions%22%2C%22trigger_id%22%3A%22T1%22%2C%22actions%22" ++
    "%3A%5B%7B%22action_id%22%3A%22open_approve_modal_cg_1%22%7D%5D%7D"

def sampleSubmission : SlackSubmission where
  callbackId := "approve_cg_1"
  reason := "Checked with the owner"
  userId := "U1"
  time := 1060

def sampleSubmissionBody : String :=
  "payload=%7B%22type%22%3A%22view_submission%22%2C%22user%22%3A%7B%22id%22%3A%22U1%22%7D%2C" ++
    "%22view%22%3A%7B%22callback_id%22%3A%22approve_cg_1%22%2C%22state%22%3A%7B%22values%22%3A" ++
    "%7B%22reason_block%22%3A%7B%22reason_input%22%3A%7B%22type%22%3A%22plain_text_input%22" ++
    "%2C%22value%22%3A%22Checked+with+the+owner%22%7D%7D%7D%7D%7D%7D"

def sampleForm : Py.Json → String
  | .obj (("type", .str "block_actions") :: _) => sampleClickBody
  | _ => sampleSubmissionBody

/-- The library functions at the two bodies. -/
def sampleSlack : SlackConfig where
  signingSecret := "secret"
  botToken := "token"
  useMock := false
  hmacHex _ text :=
    if text = basestring "1000" sampleClickBody then
      "4f1d99b3deb44f48193f11719637d2e6e1ccd786b55a7ef5eaa060415ff585a0"
    else if text = basestring "1060" sampleSubmissionBody then
      "edad01f59506489b2bc73a67f1a6d1751239ed05191908898df23e1745ad2152"
    else ""
  payload? body :=
    if body = sampleClickBody then
      some (.obj (blockActions "open_approve_modal_cg_1" (.str "T1") []))
    else if body = sampleSubmissionBody then some (.obj (viewSubmission sampleSubmission []))
    else none
  wideDigit _ := none

def sample : SlackChannel where
  proxy := Proxy.sample
  messages := []
  clicks := []
  views := []
  submissions := []
  signed := []
  decisions := []

theorem sample_started : sample.Started where
  proxy := Proxy.sample_booted
  messages := rfl
  clicks := rfl
  views := rfl
  submissions := rfl
  signed := rfl
  decisions := rfl

/-- The review is polling; it is approved in the channel, and somebody else has tried to forge the
request. -/
def clicked : List SlackAction :=
  [.post "cg_1", .click "open_approve_modal_cg_1" (.str "T1") [] 1000,
    .request sampleClickBody "1000"
      "v0=4f1d99b3deb44f48193f11719637d2e6e1ccd786b55a7ef5eaa060415ff585a0" 1001 1 true,
    .request sampleSubmissionBody "1060" "v0=" 1061 1 false,
    .submitModal sampleSubmission [],
    .request sampleSubmissionBody "1060"
      "v0=edad01f59506489b2bc73a67f1a6d1751239ed05191908898df23e1745ad2152" 1061 2 false]

end SlackChannel
