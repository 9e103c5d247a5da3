import ContraGate.Classifiers
import ContraGate.Intake

/-!
# The intercepted tool call (`proxy/interceptor.py`, `proxy/main.py`)

`intercept_tool_call` gives one manifest to the quick gate and to INTAKE.
-/

structure ToolCallManifest where
  toolName : Py.Json
  sql : String
  intent : Py.Json
  submittedBy : String
  sourceType : String
  tenantId : String
  targetMcpUrl : String

/-! ## Parsing the call -/

/-- How `intercept` ends without a manifest. -/
inductive InterceptFailure
  /-- `InterceptionError`. -/
  | interception (message : String)
  /-- Any other exception. -/
  | other

namespace Interceptor

/-- A value of the expected type; the attribute access raises otherwise. -/
def expect {α : Type} (value : Option α) : Except InterceptFailure α :=
  match value with
  | some v => .ok v
  | none => .error .other

/-- `tool_name` and `args`, from the JSON-RPC format or the simple ones. -/
def toolAndArgs (body : Py.Dict) : Except InterceptFailure (Py.Json × Py.Json) :=
  match body.lookup "method", body.lookup "params", body.lookup "tool" with
  | some _, some params, _ => do
    let params ← expect params.dict?
    .ok (params.getD "name" (.str "unknown_tool"),
      params.getD "arguments" (params.getD "input" (.obj [])))
  | _, _, some tool => .ok (tool, body.getD "args" (body.getD "arguments" (.obj body)))
  | _, _, none => .ok (body.getD "tool_name" (.str "unknown_tool"), .obj body)

/-- `args.get("sql") or args.get("query") or args.get("statement") or args.get("command")`. -/
def sqlArgument (args : Py.Dict) : Py.Json :=
  (((args.get "sql").or (args.get "query")).or (args.get "statement")).or (args.get "command")

/-- `f"{tool_name}"`. -/
def nameText (repr : Py.Json → String) : Py.Json → String
  | .str name => name
  | value => repr value

/-- `intercept`; `repr` makes the text of a tool name that is none, for the message. -/
def intercept (repr : Py.Json → String) (body : Py.Dict)
    (callerId sourceType tenantId targetMcpUrl : String) :
    Except InterceptFailure ToolCallManifest := do
  let (toolName, args) ← toolAndArgs body
  let args ← expect args.dict?
  let noSql : Except InterceptFailure ToolCallManifest :=
    .error (.interception
      ("Tool call '" ++ nameText repr toolName ++ "' does not contain a recognizable SQL argument"))
  if (sqlArgument args).truthy then do
    let sql ← expect (sqlArgument args).str?
    if Py.strip sql.toList = [] then noSql
    else
      .ok
        { toolName
          sql := String.ofList (Py.strip sql.toList)
          intent := (args.get "intent").or (args.get "description")
          submittedBy := callerId
          sourceType
          tenantId
          targetMcpUrl }
  else noSql

/-- The statement of an intercepted call is not empty. -/
theorem sql_of_intercept {repr : Py.Json → String} {body : Py.Dict}
    {callerId sourceType tenantId targetMcpUrl : String} {manifest : ToolCallManifest}
    (h : intercept repr body callerId sourceType tenantId targetMcpUrl = .ok manifest) :
    manifest.sql ≠ "" := by
  unfold intercept at h
  cases htool : toolAndArgs body with
  | error failure => rw [htool] at h; cases h
  | ok tool =>
    rw [htool] at h
    cases hargs : tool.2.dict? with
    | none => simp [bind, Except.bind, hargs, expect] at h
    | some args =>
      simp only [bind, Except.bind, hargs, expect] at h
      split at h
      · cases hsql : (sqlArgument args).str? with
        | none => simp [hsql] at h
        | some sql =>
          simp only [hsql] at h
          split at h
          · cases h
          · rename_i hstrip
            obtain rfl := Except.ok.inj h
            intro hempty
            exact hstrip (String.ofList_eq_empty_iff.mp hempty)
      · cases h

end Interceptor

namespace ToolCallManifest

/-- `to_dict`. -/
def toDict (manifest : ToolCallManifest) : Py.Dict :=
  [("tool_name", manifest.toolName), ("sql", .str manifest.sql), ("intent", manifest.intent),
   ("submitted_by", .str manifest.submittedBy), ("source_type", .str manifest.sourceType),
   ("tenant_id", .str manifest.tenantId), ("target_mcp_url", .str manifest.targetMcpUrl)]

/-- `manifest_dict`, with the hash for the identity binding. -/
def withHash (manifest : ToolCallManifest) (hash : String) : Py.Dict :=
  manifest.toDict.set "_manifest_hash" (.str hash)

/-- The source type that INTAKE reads. -/
def readSourceType (manifest : ToolCallManifest) : SourceType :=
  if manifest.sourceType = "external_user_input" then .externalUserInput
  else if manifest.sourceType = "external_agent" then .externalAgent
  else .internalSystem

/-- The settings of INTAKE, with its classifier. -/
def intakeConfig (wide : Char → Bool) (tenantId : String) : IntakeConfig where
  tenantId
  detectOperationType := Classifiers.detectOperationType wide

theorem readSourceType_value_iff {manifest : ToolCallManifest} :
    manifest.readSourceType.value = "external_user_input" ↔
      manifest.sourceType = "external_user_input" := by
  unfold readSourceType
  split_ifs with huser hagent
  · exact iff_of_true rfl huser
  · exact iff_of_false (by decide) huser
  · exact iff_of_false (by decide) huser

variable {cfg : IntakeConfig} {manifest : ToolCallManifest} {hash generatedId : String}
  {now : Time} {c : HandoffContract}

theorem detectSourceType_withHash :
    Intake.detectSourceType (manifest.withHash hash) = manifest.readSourceType := by
  have hget : (manifest.withHash hash).getD "source_type" (.str "internal_system") =
      .str manifest.sourceType := rfl
  unfold Intake.detectSourceType readSourceType
  rw [hget]
  split
  · rename_i heq
    rw [if_pos (Py.Json.str.inj heq)]
  · rename_i heq
    have hsource : manifest.sourceType = "external_agent" := Py.Json.str.inj heq
    have hnot : manifest.sourceType ≠ "external_user_input" := by
      rw [hsource]
      decide
    rw [if_neg hnot, if_pos hsource]
  · rename_i huser hagent
    rw [if_neg fun h => huser (congrArg Py.Json.str h),
      if_neg fun h => hagent (congrArg Py.Json.str h)]

/-- The contract that INTAKE builds from the manifest. -/
structure Taken (cfg : IntakeConfig) (manifest : ToolCallManifest) (c : HandoffContract) : Prop where
  rawSql : c.rawSql = manifest.sql
  tenantId : c.tenantId = manifest.tenantId
  sourceType : c.sourceType = manifest.readSourceType
  operationType : c.operationType = cfg.detectOperationType manifest.sql

theorem runIntake_withHash
    (h : Intake.runIntake cfg (manifest.withHash hash) generatedId now = some c) :
    Taken cfg manifest c := by
  have hsql : ∀ rawSql, (Intake.sqlOf (manifest.withHash hash)).str? = some rawSql →
      rawSql = manifest.sql := by
    intro rawSql hraw
    have hof : Intake.sqlOf (manifest.withHash hash) =
        ((Py.Json.str manifest.sql).or .null).or .null := rfl
    rw [hof] at hraw
    unfold Py.Json.or at hraw
    split_ifs at hraw
    all_goals first
      | cases hraw; rfl
      | cases hraw
  obtain ⟨rawSql, _, tenantId, _, _, hraw, -, -, htenant, -, -, rfl⟩ := Intake.runIntake_eq_some h
  obtain rfl := hsql rawSql hraw
  have htenant' : tenantId = manifest.tenantId := (Option.some.inj htenant).symm
  exact ⟨rfl, htenant', detectSourceType_withHash, rfl⟩

/-- `op_type` of `intercept_tool_call`. -/
def opType (wide : Char → Bool) (manifest : ToolCallManifest) : String :=
  Classifiers.interceptedType wide manifest.sql

end ToolCallManifest
