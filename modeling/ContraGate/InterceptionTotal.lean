import ContraGate.Library.Fallible
import ContraGate.ProxyEndpoints

/-!
# Which bodies interception is made for

`intercept` reads a body in one of three formats and takes for granted that it is an object, and
that `params`, the arguments and the statement have the types that they are used at. Where they do
not, an `AttributeError` or a `TypeError` leaves the endpoint, and not an `InterceptionError`. The
name of the tool is not looked at, and the intent not before INTAKE; and where an `InterceptionError`
quotes a name with a lone surrogate, its message cannot be sent.
-/

namespace Proxy

/-- The tool and the arguments that a body names. -/
inductive Names (entries : Py.Dict) : Py.Json → Py.Json → Prop
  /-- `{"method": .., "params": {"name": .., "arguments": ..}}`. -/
  | jsonrpc (params : Py.Dict) (hmethod : entries.lookup "method" ≠ none)
      (hparams : entries.lookup "params" = some (.obj params)) :
      Names entries (params.getD "name" (.str "unknown_tool"))
        (params.getD "arguments" (params.getD "input" (.obj [])))
  /-- `{"tool": .., "args": ..}`. -/
  | tool (value : Py.Json)
      (hformat : entries.lookup "method" = none ∨ entries.lookup "params" = none)
      (htool : entries.lookup "tool" = some value) :
      Names entries value (entries.getD "args" (entries.getD "arguments" (.obj entries)))
  /-- `{"tool_name": .., "sql": ..}`. -/
  | simple (hformat : entries.lookup "method" = none ∨ entries.lookup "params" = none)
      (htool : entries.lookup "tool" = none) :
      Names entries (entries.getD "tool_name" (.str "unknown_tool")) (.obj entries)

/-- The arguments that can hold the statement. -/
def sqlKeys : List String := ["sql", "query", "statement", "command"]

/-- `args.get("intent") or args.get("description")`. -/
def intentArgument (args : Py.Dict) : Py.Json := (args.get "intent").or (args.get "description")

/-- The tool is named by a string, and the statement is a string from one of the arguments, without
the white space around it. -/
structure ManifestOf (body : Py.Json) (manifest : ToolCallManifest) : Prop where
  toolName : ∃ name, manifest.toolName = .str name
  nonblank : Py.isBlank manifest.sql.toList = false
  stripped : Py.strip manifest.sql.toList = manifest.sql.toList
  argument : ∃ (entries args : Py.Dict) (tool : Py.Json) (text : String), body = .obj entries ∧
    Names entries tool (.obj args) ∧ (∃ key ∈ sqlKeys, Py.Dict.get args key = .str text) ∧
    manifest.sql = String.ofList (Py.strip text.toList)

/-- A response, or an error of the client that can be sent. -/
def Answered (surrogates : Py.Surrogates) : Answer → Prop
  | .response _ _ => True
  | .httpException status detail => 400 ≤ status ∧ status < 500 ∧ surrogates.encodes detail = true
  | .exception => False

/-- The target answers, and what it and the servers send can be sent on; so can an id. -/
structure Healthy (surrogates : Py.Surrogates) (world : ProxyWorld) : Prop where
  target : ∀ tool arguments, ∃ result,
    world.target tool arguments = .result result ∧ surrogates.sendable result = true
  reason : ∀ manifest,
    surrogates.sendable (world.gate.gateResult manifest world.hour).autoRejectReason = true
  cost : ∀ manifest, surrogates.sendable
    (.float (world.gate.gateResult manifest world.hour).explainCost) = true
  generatedId : surrogates.encodes world.generatedId = true

/-- Interception is total on the body: no other exception than an `InterceptionError` leaves
`intercept`, and the endpoint answers. -/
structure TotalOn (cfg : ProxyConfig) (body : Py.Json) : Prop where
  intercepts : ∀ headers : ContragateHeaders,
    (∃ message, interceptBody cfg body (callerOf headers) (sourceOf headers)
      (tenantOf cfg headers.tenant) = .error (.interception message)) ∨
    ∃ manifest, interceptBody cfg body (callerOf headers) (sourceOf headers)
      (tenantOf cfg headers.tenant) = .ok manifest ∧ ManifestOf body manifest
  answers : ∀ (headers : ContragateHeaders) (world : ProxyWorld),
    Healthy cfg.surrogates world →
      Answered cfg.surrogates (postMcp cfg world headers body).answer

/-- A message can quote the name of the tool: as a text it has no lone surrogate. -/
def Quotable (surrogates : Py.Surrogates) (tool : Py.Json) : Prop :=
  ∀ name, tool = .str name → surrogates.encodes name = true

/-- The body and its arguments are objects, and a statement that is there is a string. Unless it is
blank, the name of the tool is a string, and so is the intent if there is one; if it is blank or
missing, an error can quote the name. -/
def WellTyped (surrogates : Py.Surrogates) (body : Py.Json) : Prop :=
  ∃ (entries args : Py.Dict) (tool : Py.Json), body = .obj entries ∧
    Names entries tool (.obj args) ∧
    if (Interceptor.sqlArgument args).truthy then
      ∃ text, Interceptor.sqlArgument args = .str text ∧
        if Py.strip text.toList = [] then Quotable surrogates tool
        else (∃ name, tool = .str name) ∧ (intentArgument args).isText = true
    else Quotable surrogates tool

variable {cfg : ProxyConfig} {world : ProxyWorld} {headers : ContragateHeaders}
  {entries args : Py.Dict} {tool : Py.Json} {caller source tenantId : String}
  {manifest : ToolCallManifest}

/-! ## The formats -/

theorem dict?_eq_some {value : Py.Json} {d : Py.Dict} : value.dict? = some d ↔ value = .obj d := by
  cases value <;> simp [Py.Json.dict?]

theorem expect_eq_ok {α : Type} {value : Option α} {v : α} :
    Interceptor.expect value = .ok v ↔ value = some v := by
  cases value <;> simp [Interceptor.expect]

/-- Without a method, or without parameters, the call is in one of the simple formats. -/
theorem toolAndArgs_simple
    (hformat : entries.lookup "method" = none ∨ entries.lookup "params" = none) :
    Interceptor.toolAndArgs entries =
      match entries.lookup "tool" with
      | some tool => .ok (tool, entries.getD "args" (entries.getD "arguments" (.obj entries)))
      | none => .ok (entries.getD "tool_name" (.str "unknown_tool"), .obj entries) := by
  unfold Interceptor.toolAndArgs
  rcases hformat with h | h
  · rw [h]
    cases entries.lookup "tool" <;> rfl
  · rw [h]
    cases entries.lookup "method" <;> cases entries.lookup "tool" <;> rfl

theorem toolAndArgs_jsonrpc {params : Py.Json} (hmethod : entries.lookup "method" ≠ none)
    (hparams : entries.lookup "params" = some params) :
    Interceptor.toolAndArgs entries = (do
      let params ← Interceptor.expect params.dict?
      .ok (params.getD "name" (.str "unknown_tool"),
        params.getD "arguments" (params.getD "input" (.obj [])))) := by
  obtain ⟨method, hmethod⟩ := Option.ne_none_iff_exists'.mp hmethod
  unfold Interceptor.toolAndArgs
  rw [hmethod, hparams]

/-- The formats are read as they are named. -/
theorem toolAndArgs_eq_ok_iff {arguments : Py.Json} :
    Interceptor.toolAndArgs entries = .ok (tool, arguments) ↔ Names entries tool arguments := by
  constructor
  · intro h
    by_cases hformat : entries.lookup "method" = none ∨ entries.lookup "params" = none
    · rw [toolAndArgs_simple hformat] at h
      cases htool : entries.lookup "tool" with
      | some value =>
        rw [htool] at h
        obtain ⟨rfl, rfl⟩ := Prod.mk.inj (Except.ok.inj h)
        exact .tool value hformat htool
      | none =>
        rw [htool] at h
        obtain ⟨rfl, rfl⟩ := Prod.mk.inj (Except.ok.inj h)
        exact .simple hformat htool
    · push Not at hformat
      obtain ⟨params, hparams⟩ := Option.ne_none_iff_exists'.mp hformat.2
      rw [toolAndArgs_jsonrpc hformat.1 hparams] at h
      obtain ⟨d, hdict, h⟩ := Fallible.bind_eq_ok.mp h
      obtain rfl := dict?_eq_some.mp (expect_eq_ok.mp hdict)
      obtain ⟨rfl, rfl⟩ := Prod.mk.inj (Except.ok.inj h)
      exact .jsonrpc d hformat.1 hparams
  · intro h
    cases h with
    | jsonrpc params hmethod hparams => exact toolAndArgs_jsonrpc hmethod hparams
    | tool value hformat htool => rw [toolAndArgs_simple hformat, htool]
    | simple hformat htool => rw [toolAndArgs_simple hformat, htool]

theorem toolAndArgs_error {failure : InterceptFailure}
    (h : Interceptor.toolAndArgs entries = .error failure) : failure = .other := by
  by_cases hformat : entries.lookup "method" = none ∨ entries.lookup "params" = none
  · rw [toolAndArgs_simple hformat] at h
    cases htool : entries.lookup "tool" <;> rw [htool] at h <;> cases h
  · push Not at hformat
    obtain ⟨params, hparams⟩ := Option.ne_none_iff_exists'.mp hformat.2
    rw [toolAndArgs_jsonrpc hformat.1 hparams] at h
    cases hdict : params.dict? with
    | none =>
      rw [hdict] at h
      exact (Except.error.inj h).symm
    | some d =>
      rw [hdict] at h
      cases h

/-! ## What `intercept` makes of a body -/

/-- What is said of a call without a statement. -/
def noSqlMessage (cfg : ProxyConfig) (tool : Py.Json) : String :=
  "Tool call '" ++ Interceptor.nameText cfg.repr tool ++
    "' does not contain a recognizable SQL argument"

/-- A body and arguments that are objects. -/
theorem interceptBody_of_names (h : Names entries tool (.obj args)) :
    interceptBody cfg (.obj entries) caller source tenantId =
      if (Interceptor.sqlArgument args).truthy then do
        let sql ← Interceptor.expect (Interceptor.sqlArgument args).str?
        if Py.strip sql.toList = [] then
          .error (.interception (noSqlMessage cfg tool))
        else
          .ok
            { toolName := tool
              sql := String.ofList (Py.strip sql.toList)
              intent := intentArgument args
              submittedBy := caller
              sourceType := source
              tenantId
              targetMcpUrl := cfg.targetMcpUrl }
      else .error (.interception (noSqlMessage cfg tool)) := by
  show Interceptor.intercept cfg.repr entries caller source tenantId cfg.targetMcpUrl = _
  unfold Interceptor.intercept
  rw [toolAndArgs_eq_ok_iff.mpr h]
  rfl

/-- A body that names no arguments, or arguments that are no object. -/
theorem interceptBody_of_not_names {body : Py.Json}
    (h : ¬ ∃ (entries args : Py.Dict) (tool : Py.Json), body = .obj entries ∧
      Names entries tool (.obj args)) :
    interceptBody cfg body caller source tenantId = .error .other := by
  cases body with
  | obj entries =>
    show Interceptor.intercept cfg.repr entries caller source tenantId cfg.targetMcpUrl = _
    unfold Interceptor.intercept
    cases hcall : Interceptor.toolAndArgs entries with
    | error failure =>
      obtain rfl := toolAndArgs_error hcall
      rfl
    | ok call =>
      obtain ⟨tool, arguments⟩ := call
      cases hargs : arguments.dict? with
      | none =>
        show (Interceptor.expect arguments.dict? >>= _) = _
        rw [hargs]
        rfl
      | some args =>
        obtain rfl := dict?_eq_some.mp hargs
        exact absurd ⟨entries, args, tool, rfl, toolAndArgs_eq_ok_iff.mp hcall⟩ h
  | _ => rfl

/-- The statement comes from one of the arguments. -/
theorem mem_sqlKeys_of_sqlArgument {text : String}
    (htext : Interceptor.sqlArgument args = .str text) :
    ∃ key ∈ sqlKeys, Py.Dict.get args key = .str text := by
  unfold Interceptor.sqlArgument Py.Json.or at htext
  split_ifs at htext
  · exact ⟨"sql", by decide, htext⟩
  · exact ⟨"query", by decide, htext⟩
  · exact ⟨"statement", by decide, htext⟩
  · exact ⟨"command", by decide, htext⟩

/-- The manifest of a call with a statement. -/
theorem interceptBody_of_statement (h : Names entries tool (.obj args)) {text : String}
    (htruthy : (Interceptor.sqlArgument args).truthy = true)
    (htext : Interceptor.sqlArgument args = .str text) (hstrip : Py.strip text.toList ≠ []) :
    interceptBody cfg (.obj entries) caller source tenantId = .ok
      { toolName := tool
        sql := String.ofList (Py.strip text.toList)
        intent := intentArgument args
        submittedBy := caller
        sourceType := source
        tenantId
        targetMcpUrl := cfg.targetMcpUrl } := by
  rw [interceptBody_of_names h, if_pos htruthy, htext]
  exact if_neg hstrip

/-- A statement that is no string has no `strip`. -/
theorem interceptBody_of_no_text (h : Names entries tool (.obj args))
    (htruthy : (Interceptor.sqlArgument args).truthy = true)
    (htext : ∀ text, Interceptor.sqlArgument args ≠ .str text) :
    interceptBody cfg (.obj entries) caller source tenantId = .error .other := by
  have hnone : (Interceptor.sqlArgument args).str? = none := by
    cases hvalue : Interceptor.sqlArgument args with
    | str text => exact absurd hvalue (htext text)
    | _ => rfl
  rw [interceptBody_of_names h, if_pos htruthy, hnone]
  rfl

/-- A call without a statement, or with a blank one, is refused. -/
theorem interceptBody_of_blank (h : Names entries tool (.obj args))
    (hblank : (Interceptor.sqlArgument args).truthy = true →
      ∃ text, Interceptor.sqlArgument args = .str text ∧ Py.strip text.toList = []) :
    interceptBody cfg (.obj entries) caller source tenantId =
      .error (.interception (noSqlMessage cfg tool)) := by
  rw [interceptBody_of_names h]
  by_cases htruthy : (Interceptor.sqlArgument args).truthy = true
  · obtain ⟨text, htext, hstrip⟩ := hblank htruthy
    rw [if_pos htruthy, htext]
    exact if_pos hstrip
  · rw [if_neg htruthy]

/-- The message can be sent when it can quote the name. -/
theorem encodes_noSqlMessage :
    cfg.surrogates.encodes (noSqlMessage cfg tool) = true ↔ Quotable cfg.surrogates tool := by
  have hfront : cfg.surrogates.encodes "Tool call '" = true :=
    Py.Surrogates.encodes_of_ascii (by decide)
  have hback : cfg.surrogates.encodes "' does not contain a recognizable SQL argument" = true :=
    Py.Surrogates.encodes_of_ascii (by decide)
  unfold noSqlMessage Quotable
  rw [Py.Surrogates.encodes_append, Py.Surrogates.encodes_append, hfront, hback, Bool.true_and,
    Bool.and_true]
  cases tool with
  | str name =>
    constructor
    · rintro hname _ ⟨⟩
      exact hname
    · exact fun hquotable => hquotable name rfl
  | _ => exact iff_of_true (cfg.encodes_repr _) nofun

/-- A well-typed body is refused with an `InterceptionError` that can be sent, or INTAKE can take
its manifest. -/
theorem intercepts_of_wellTyped {body : Py.Json} (h : WellTyped cfg.surrogates body) :
    (∃ message, interceptBody cfg body caller source tenantId = .error (.interception message) ∧
        cfg.surrogates.encodes message = true) ∨
      ∃ manifest, interceptBody cfg body caller source tenantId = .ok manifest ∧
        ManifestOf body manifest ∧ manifest.intent.isText = true := by
  obtain ⟨entries, args, tool, rfl, hnames, hsql⟩ := h
  split_ifs at hsql with htruthy
  · obtain ⟨text, htext, hsql⟩ := hsql
    split_ifs at hsql with hstrip
    · exact .inl ⟨_, interceptBody_of_blank hnames fun _ => ⟨text, htext, hstrip⟩,
        encodes_noSqlMessage.mpr hsql⟩
    · obtain ⟨hname, hintent⟩ := hsql
      refine .inr ⟨_, interceptBody_of_statement hnames htruthy htext hstrip, ⟨hname, ?_, ?_, ?_⟩,
        hintent⟩
      · rw [String.toList_ofList]
        exact Py.isBlank_strip hstrip
      · rw [String.toList_ofList]
        exact Py.strip_strip text.toList
      · exact ⟨entries, args, tool, text, rfl, hnames, mem_sqlKeys_of_sqlArgument htext, rfl⟩
  · exact .inl ⟨_, interceptBody_of_blank hnames fun h => absurd h htruthy,
      encodes_noSqlMessage.mpr hsql⟩

/-! ## The answer -/

/-- INTAKE takes a manifest with a statement if its intent is a text or missing. -/
theorem runIntake_isSome {cfg : IntakeConfig} {hash generatedId : String} {now : Time}
    (hsql : Py.isBlank manifest.sql.toList = false) (hintent : manifest.intent.isText = true) :
    ∃ c, Intake.runIntake cfg (manifest.withHash hash) generatedId now = some c := by
  have hne : manifest.sql ≠ "" := by
    intro hempty
    rw [hempty] at hsql
    cases hsql
  have hstatement : Intake.sqlOf (manifest.withHash hash) = .str manifest.sql := by
    have htruthy : (Py.Json.str manifest.sql).truthy = true := by simp [Py.Json.truthy, hne]
    show ((Py.Json.str manifest.sql).or .null).or .null = _
    unfold Py.Json.or
    rw [if_pos htruthy, if_pos htruthy]
  have htext : ∃ rawIntent, Intake.optionalText manifest.intent = some rawIntent := by
    cases hvalue : manifest.intent with
    | null => exact ⟨none, rfl⟩
    | str s => exact ⟨some s, rfl⟩
    | _ =>
      rw [hvalue] at hintent
      cases hintent
  obtain ⟨rawIntent, htext⟩ := htext
  have hget : (manifest.withHash hash).get "intent" = manifest.intent := rfl
  unfold Intake.runIntake
  rw [hstatement, hget, htext]
  show ∃ c, (if Py.isBlank manifest.sql.toList = true then _ else _ : Option _) = some c
  rw [hsql]
  exact ⟨_, rfl⟩

/-- The manifest has no id of its own. -/
theorem runIntake_operationId {cfg : IntakeConfig} {hash generatedId : String} {now : Time}
    {c : HandoffContract}
    (h : Intake.runIntake cfg (manifest.withHash hash) generatedId now = some c) :
    c.operationId = generatedId := by
  obtain ⟨_, _, _, operationId, _, -, -, -, -, hid, -, rfl⟩ := Intake.runIntake_eq_some h
  have hget : (manifest.withHash hash).get "operation_id" = .null := rfl
  rw [hget] at hid
  exact (Option.some.inj hid).symm

theorem jsonResponse_answered {status : ℕ} {content : Py.Dict}
    (h : cfg.surrogates.sendable (.obj content) = true) :
    Answered cfg.surrogates (jsonResponse cfg status content) := by
  unfold jsonResponse
  rw [if_pos h]
  trivial

/-- The keys and the fixed texts of the three contents are ASCII. -/
theorem encodes_content (surrogates : Py.Surrogates) :
    ∀ text ∈ ["status", "AUTO_REJECTED", "reason", "Policy violation", "contragate_version", "0.2.0",
        "AUTO_EXECUTED", "result", "explain_cost", "PENDING_HUMAN_APPROVAL", "approval_id",
        "message", "Action paused for ContraGate consequence review.", "poll_url", "sse_url",
        "estimated_review_seconds", "/v1/approvals/", "/status", "/stream"],
      surrogates.encodes text = true := by
  intro text htext
  apply Py.Surrogates.encodes_of_ascii
  revert text
  decide

/-- A manifest that INTAKE can take is answered, if the servers are healthy. -/
theorem handle_answered (hworld : Healthy cfg.surrogates world)
    (hsql : Py.isBlank manifest.sql.toList = false) (hintent : manifest.intent.isText = true) :
    Answered cfg.surrogates (handle cfg world manifest).answer := by
  have hreason := hworld.reason manifest
  have hcost := hworld.cost manifest
  have htexts := encodes_content cfg.surrogates
  simp only [List.forall_mem_cons] at htexts
  unfold handle
  dsimp only
  split
  · apply jsonResponse_answered
    have hor : cfg.surrogates.sendable
        ((world.gate.gateResult manifest world.hour).autoRejectReason.or
          (.str "Policy violation")) = true := by
      unfold Py.Json.or
      split_ifs
      · exact hreason
      · simp [htexts]
    simp [rejectedContent, hor, htexts]
  · obtain ⟨result, hresult, hsendable⟩ := hworld.target manifest.toolName
      [("sql", .str manifest.sql), ("tenant_id", .str manifest.tenantId)]
    have hcontent : cfg.surrogates.sendable (.obj (executedContent
        (world.gate.gateResult manifest world.hour) result)) = true := by
      simp [executedContent, hsendable, hcost, htexts]
    show Answered _ (autoExecute cfg world manifest (world.gate.gateResult manifest world.hour))
    unfold autoExecute jsonResponse
    rw [hresult]
    dsimp only
    rw [if_pos hcontent]
    trivial
  · have htaken : ∃ c, Intake.runIntake cfg.intake
        (manifest.withHash (cfg.execution.manifestHash manifest.toDict)) world.generatedId
        world.now = some c := runIntake_isSome hsql hintent
    obtain ⟨c, hc⟩ := htaken
    show Answered _ (startPipeline cfg world manifest).2
    unfold startPipeline
    rw [hc]
    show Answered _ (jsonResponse cfg 202 (pendingContent c.operationId))
    have hid : cfg.surrogates.encodes c.operationId = true := by
      rw [runIntake_operationId hc]
      exact hworld.generatedId
    have htext : ∀ text : String, toString text = text := fun _ => rfl
    apply jsonResponse_answered
    simp [pendingContent, Py.Surrogates.encodes_append, htext, hid, htexts]

/-! ## A request for the pipeline -/

/-- Servers that do not answer the gate. -/
def pipelineWorld : ProxyWorld where
  gate :=
    { texts := ⟨fun _ => none, fun _ => none⟩
      services := { postgresReader := fun _ _ => .timeout, policyStore := fun _ _ => .timeout }
      wide := fun _ => false }
  hour := 12
  target _ _ := .result .null
  generatedId := "cg_1"
  now := 0

theorem gateResult_pipelineWorld (manifest : ToolCallManifest) :
    pipelineWorld.gate.gateResult manifest pipelineWorld.hour =
      QuickCheck.route pipelineWorld.gate manifest.sql (manifest.opType fun _ => false)
        manifest.sourceType QuickCheck.unavailable (.bool false, .null) := by
  have hexplain : QuickCheck.readImpact pipelineWorld.gate manifest.sql manifest.tenantId =
      QuickCheck.unavailable := by
    unfold QuickCheck.readImpact
    dsimp only
    split_ifs <;> rfl
  unfold QuickCheck.gateResult QuickCheck.quickCheck
  dsimp only
  rw [hexplain]
  rfl

theorem healthy_pipelineWorld (surrogates : Py.Surrogates) : Healthy surrogates pipelineWorld where
  target _ _ := ⟨.null, rfl, by simp [Py.Surrogates.sendable]⟩
  reason manifest := by
    rw [gateResult_pipelineWorld]
    unfold QuickCheck.route
    split_ifs <;> simp [Py.Surrogates.sendable]
  cost manifest := by
    rw [gateResult_pipelineWorld, QuickCheck.route_explainCost]
    simp [Py.Surrogates.sendable, QuickCheck.unavailable]
  generatedId := Py.Surrogates.encodes_of_ascii (by decide)

/-- The headers of an agent outside. -/
def outsideHeaders : ContragateHeaders where
  source := some "external_agent"

/-- Its calls go to the pipeline there. -/
theorem handle_pipelineWorld (hsource : manifest.sourceType ≠ "internal_system") :
    (handle cfg pipelineWorld manifest).answer = (startPipeline cfg pipelineWorld manifest).2 := by
  have hrouting : (pipelineWorld.gate.gateResult manifest pipelineWorld.hour).routing =
      .fullPipeline := by
    rw [gateResult_pipelineWorld]
    simp [QuickCheck.route, Py.Json.truthy, hsource]
  unfold handle
  simp only [hrouting]

/-- INTAKE refuses any other intent, and nothing catches its error. -/
theorem startPipeline_exception (hintent : ¬ manifest.intent.isText = true) :
    (startPipeline cfg world manifest).2 = .exception := by
  cases htaken : Intake.runIntake cfg.intake
      (manifest.withHash (cfg.execution.manifestHash manifest.toDict)) world.generatedId
      world.now with
  | none =>
    unfold startPipeline
    rw [htaken]
  | some c => exact absurd (Intake.isText_intent htaken) hintent

/-! ## The result -/

/-- Where interception is total, the body and its arguments are objects. -/
theorem TotalOn.names {body : Py.Json} (h : TotalOn cfg body) :
    ∃ (entries args : Py.Dict) (tool : Py.Json), body = .obj entries ∧
      Names entries tool (.obj args) := by
  by_contra hnot
  have hintercepts := h.intercepts {}
  rw [interceptBody_of_not_names hnot] at hintercepts
  rcases hintercepts with ⟨message, h⟩ | ⟨manifest, h, -⟩ <;> cases h

/-- There a statement is a string. -/
theorem TotalOn.statement (h : TotalOn cfg (.obj entries)) (hnames : Names entries tool (.obj args))
    (htruthy : (Interceptor.sqlArgument args).truthy = true) :
    ∃ text, Interceptor.sqlArgument args = .str text := by
  by_contra hnot
  have hintercepts := h.intercepts {}
  rw [interceptBody_of_no_text hnames htruthy (not_exists.mp hnot)] at hintercepts
  rcases hintercepts with ⟨message, h⟩ | ⟨manifest, h, -⟩ <;> cases h

/-- There a refusal can be sent. -/
theorem TotalOn.quotable (h : TotalOn cfg (.obj entries)) (hnames : Names entries tool (.obj args))
    (hblank : (Interceptor.sqlArgument args).truthy = true →
      ∃ text, Interceptor.sqlArgument args = .str text ∧ Py.strip text.toList = []) :
    Quotable cfg.surrogates tool := by
  have hanswered := h.answers {} pipelineWorld (healthy_pipelineWorld _)
  unfold postMcp interceptToolCall at hanswered
  rw [interceptBody_of_blank hnames hblank] at hanswered
  exact encodes_noSqlMessage.mp hanswered.2.2

/-- There a manifest has a tool that is named, and an intent that INTAKE takes. -/
theorem TotalOn.taken (h : TotalOn cfg (.obj entries)) (hnames : Names entries tool (.obj args))
    {text : String} (htruthy : (Interceptor.sqlArgument args).truthy = true)
    (htext : Interceptor.sqlArgument args = .str text) (hstrip : Py.strip text.toList ≠ []) :
    (∃ name, tool = .str name) ∧ (intentArgument args).isText = true := by
  have hmanifest : interceptBody cfg (.obj entries) (callerOf outsideHeaders)
      (sourceOf outsideHeaders) (tenantOf cfg outsideHeaders.tenant) = .ok _ :=
    interceptBody_of_statement hnames htruthy htext hstrip
  constructor
  · have hintercepts := h.intercepts outsideHeaders
    rw [hmanifest] at hintercepts
    rcases hintercepts with ⟨message, h⟩ | ⟨manifest, h, hof⟩
    · cases h
    · obtain rfl := Except.ok.inj h
      exact hof.toolName
  · by_contra hintent
    have hanswered := h.answers outsideHeaders pipelineWorld (healthy_pipelineWorld _)
    have hsource : sourceOf outsideHeaders ≠ "internal_system" := by decide
    unfold postMcp at hanswered
    rw [interceptToolCall_of_ok hmanifest, handle_pipelineWorld hsource,
      startPipeline_exception hintent] at hanswered
    exact hanswered

/-- **Interception is total** exactly on the bodies that are well typed. -/
theorem totalOn_iff {body : Py.Json} : TotalOn cfg body ↔ WellTyped cfg.surrogates body := by
  constructor
  · intro h
    obtain ⟨entries, args, tool, rfl, hnames⟩ := h.names
    refine ⟨entries, args, tool, rfl, hnames, ?_⟩
    split_ifs with htruthy
    · obtain ⟨text, htext⟩ := h.statement hnames htruthy
      refine ⟨text, htext, ?_⟩
      split_ifs with hstrip
      · exact h.quotable hnames fun _ => ⟨text, htext, hstrip⟩
      · exact h.taken hnames htruthy htext hstrip
    · exact h.quotable hnames fun h => absurd h htruthy
  · intro h
    refine ⟨fun headers => ?_, fun headers world hworld => ?_⟩
    · rcases intercepts_of_wellTyped h with ⟨message, hrefused, -⟩ | ⟨manifest, hok, hof, -⟩
      · exact .inl ⟨message, hrefused⟩
      · exact .inr ⟨manifest, hok, hof⟩
    · rcases intercepts_of_wellTyped h with
        ⟨message, hrefused, hmessage⟩ | ⟨manifest, hok, hof, hintent⟩
      · unfold postMcp interceptToolCall
        rw [hrefused]
        exact ⟨by decide, by decide, hmessage⟩
      · unfold postMcp
        rw [interceptToolCall_of_ok hok]
        exact handle_answered hworld hof.nonblank hintent

/-- A call whose statement is a number. -/
def numberCall : Py.Json := .obj [("tool_name", .str "execute_query"), ("sql", .int 5)]

/-- It has no `strip`, and the endpoint fails. -/
theorem number_not_intercepted : ¬ TotalOn demoProxy numberCall := by
  intro h
  have hraised : interceptBody demoProxy numberCall (callerOf {}) (sourceOf {})
      (tenantOf demoProxy none) = .error .other := rfl
  rcases h.intercepts {} with ⟨message, hrefused⟩ | ⟨manifest, hok, -⟩
  · rw [hraised] at hrefused
    cases hrefused
  · rw [hraised] at hok
    cases hok

end Proxy
