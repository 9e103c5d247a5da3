import ContraGate.Execution
import ContraGate.Interception
import ContraGate.Library.PyDict

/-!
# The manifest that is executed is the one that was intercepted

The proxy hashes the manifest twice, before and after it injects the operation id, and EXECUTION
hashes what the store holds by then. A manifest that reads as the bound one passes the guard and
is executed as it is; one that reads otherwise at any key but the hash does not reach the target.
-/

/-- The hash of a manifest does not depend on the order of its keys and tells manifests of texts
apart. -/
structure ExecutionConfig.Binding (cfg : ExecutionConfig) : Prop where
  canonical : ∀ d d' : Py.Dict, d.keys.Nodup → d'.keys.Nodup → d.Same d' →
    cfg.manifestHash d = cfg.manifestHash d'
  injective : ∀ d d' : Py.Dict, d.keys.Nodup → d'.keys.Nodup → d.isText = true →
    d'.isText = true → cfg.manifestHash d = cfg.manifestHash d' → d.Same d'
  nonempty : ∀ d : Py.Dict, cfg.manifestHash d ≠ ""

namespace ToolCallManifest

variable (cfg : ExecutionConfig) (manifest : ToolCallManifest) (operationId : String)

/-- `manifest_dict` once the operation id is in it. -/
def withOperationId : Py.Dict :=
  (manifest.withHash (cfg.manifestHash manifest.toDict)).set "operation_id" (.str operationId)

/-- `manifest_dict` as `intercept_tool_call` stores it, with the hash of all of it. -/
def bound : Py.Dict :=
  (manifest.withOperationId cfg operationId).set "_manifest_hash"
    (.str (cfg.manifestHash
      ((manifest.withOperationId cfg operationId).without "_manifest_hash")))

/-- What the stored hash covers. -/
def body : Py.Dict := manifest.toDict ++ [("operation_id", .str operationId)]

theorem bound_without :
    (manifest.bound cfg operationId).without "_manifest_hash" = manifest.body operationId := rfl

theorem bound_hash :
    (manifest.bound cfg operationId).get "_manifest_hash" =
      .str (cfg.manifestHash (manifest.body operationId)) := rfl

theorem nodup_keys_body : (manifest.body operationId).keys.Nodup := by
  show ["tool_name", "sql", "intent", "submitted_by", "source_type", "tenant_id",
    "target_mcp_url", "operation_id"].Nodup
  decide

end ToolCallManifest

/-- INTAKE takes a manifest only if its intent is a text or missing. -/
theorem Intake.isText_intent {cfg : IntakeConfig} {manifest : ToolCallManifest}
    {hash generatedId : String} {now : Time} {c : HandoffContract}
    (h : runIntake cfg (manifest.withHash hash) generatedId now = some c) :
    manifest.intent.isText = true := by
  obtain ⟨_, _, _, _, rawIntent, -, -, -, -, -, hintent, -⟩ := runIntake_eq_some h
  have hget : (manifest.withHash hash).get "intent" = manifest.intent := rfl
  rw [hget] at hintent
  unfold optionalText at hintent
  split at hintent
  · rename_i hnull
    rw [hnull]
    rfl
  · rename_i hstr
    rw [hstr]
    rfl
  · cases hintent

namespace Execution

variable {cfg : ExecutionConfig} {manifest : ToolCallManifest} {operationId : String}
  {stored : Py.Dict}

/-! ## The guard -/

/-- A manifest that reads as the bound one passes. -/
theorem manifestIntact_of_same (hbinding : cfg.Binding) (hstored : stored.keys.Nodup)
    (hsame : stored.Same (manifest.bound cfg operationId)) :
    manifestIntact cfg stored = true := by
  have hhash : stored.get "_manifest_hash" =
      .str (cfg.manifestHash (manifest.body operationId)) := hsame.get "_manifest_hash"
  -- both sides hash the same dictionary
  have hcanonical : cfg.manifestHash (stored.without "_manifest_hash") =
      cfg.manifestHash (manifest.body operationId) :=
    hbinding.canonical _ _ (Py.Dict.nodup_keys_without hstored _)
      (manifest.nodup_keys_body operationId) (hsame.without "_manifest_hash")
  unfold manifestIntact
  rw [hhash]
  simp [hcanonical]

/-- The bound hash lets no other manifest of texts pass. -/
theorem same_of_manifestIntact (hbinding : cfg.Binding) (hstored : stored.keys.Nodup)
    (htext : stored.isText = true) (hbody : (manifest.body operationId).isText = true)
    (hhash : stored.get "_manifest_hash" = (manifest.bound cfg operationId).get "_manifest_hash")
    (hintact : manifestIntact cfg stored = true) {key : String} (hkey : key ≠ "_manifest_hash") :
    stored.lookup key = (manifest.bound cfg operationId).lookup key := by
  unfold manifestIntact at hintact
  rw [hhash, ToolCallManifest.bound_hash] at hintact
  have hne := hbinding.nonempty (manifest.body operationId)
  -- the hash is there, so it was compared
  have hequal : cfg.manifestHash (manifest.body operationId) =
      cfg.manifestHash (stored.without "_manifest_hash") := by simpa [hne] using hintact
  have hsame := hbinding.injective _ _ (manifest.nodup_keys_body operationId)
    (Py.Dict.nodup_keys_without hstored _) hbody (Py.Dict.isText_without htext _) hequal
  calc stored.lookup key = (stored.without "_manifest_hash").lookup key :=
        (Py.Dict.lookup_without_of_ne hkey).symm
    _ = (manifest.body operationId).lookup key := (hsame key).symm
    _ = ((manifest.bound cfg operationId).without "_manifest_hash").lookup key := by
        rw [ToolCallManifest.bound_without]
    _ = (manifest.bound cfg operationId).lookup key := Py.Dict.lookup_without_of_ne hkey

/-- The call is read off the manifest alone. -/
theorem toolCall_of_same (hsql : manifest.sql ≠ "")
    (hsame : stored.Same (manifest.bound cfg operationId)) (contract : HandoffContract) :
    toolCall cfg stored contract =
      { targetUrl := .str manifest.targetMcpUrl
        toolName := manifest.toolName
        sql := .str manifest.sql
        tenantId := contract.tenantId } := by
  have htarget : stored.getD "target_mcp_url" (.str cfg.postgresReaderUrl) =
      .str manifest.targetMcpUrl := hsame.getD _ _
  have htool : stored.getD "tool_name" (.str "execute_query") = manifest.toolName :=
    hsame.getD _ _
  have hstatement : stored.get "sql" = .str manifest.sql := hsame.get _
  have htruthy : (Py.Json.str manifest.sql).truthy = true := by simpa [Py.Json.truthy] using hsql
  -- the statement is not empty, so neither `query` nor the contract is asked
  unfold toolCall Py.Json.or
  rw [htarget, htool, hstatement, if_pos htruthy, if_pos htruthy]

/-! ## The execution -/

/-- What `run_execution` does with the manifest that it finds in a record which is not executed:
an intact one is executed as it was intercepted, whatever the contract says, and a changed one is
not executed and leaves the records alone. -/
theorem executes_bound_manifest (hbinding : cfg.Binding) {str : Py.Json → String}
    {call : Py.Dict} {caller source tenantId target : String} {intake : IntakeConfig}
    {generatedId : String} {submitted : Time} {initial : HandoffContract}
    (hintercept : Interceptor.intercept str call caller source tenantId target = .ok manifest)
    (hintake : Intake.runIntake intake
      (manifest.withHash (cfg.manifestHash manifest.toDict)) generatedId submitted = some initial)
    (contract r : Ref) (m₁ m₂ : Memory) (now₁ now₂ : Time)
    (hget : WorkflowStore.get m₁ (m₁.contracts contract).operationId = some r)
    (hmanifest : (m₂.records r).toolCallManifest = some stored) (hstored : stored.keys.Nodup)
    (hfresh : (m₂.records r).executionCompleted = false) :
    runExecution cfg contract m₁ .start (.resume now₁) = some { mem := m₁, pc := .got (some r) } ∧
    (stored.Same (manifest.bound cfg initial.operationId) →
      runExecution cfg contract m₂ (.got (some r)) (.resume now₂) =
        some
          { mem := m₂
            pc := .calling
            events := [.sent
              { targetUrl := .str manifest.targetMcpUrl
                toolName := manifest.toolName
                sql := .str manifest.sql
                tenantId := (m₂.contracts contract).tenantId }] }) ∧
    (stored.isText = true → manifest.toolName.isText = true →
      stored.get "_manifest_hash" =
        (manifest.bound cfg initial.operationId).get "_manifest_hash" →
      (∃ key, key ≠ "_manifest_hash" ∧
        stored.lookup key ≠ (manifest.bound cfg initial.operationId).lookup key) →
      ∃ o, runExecution cfg contract m₂ (.got (some r)) (.resume now₂) = some o ∧
        o.pc = .returned ∧ o.events = [] ∧
        (o.mem.contracts contract).executionSuccess = some false ∧
        o.mem.records = m₂.records) := by
  have hsql := Interceptor.sql_of_intercept hintercept
  refine ⟨?_, ?_, ?_⟩
  · show some _ = _
    rw [hget]
  · intro hsame
    show some (checkAndCall cfg contract m₂ (m₂.records r) now₂) = _
    unfold checkAndCall
    simp only [hmanifest, hfresh, Option.getD_some, Bool.false_eq_true, if_false,
      manifestIntact_of_same hbinding hstored hsame, if_true, toolCall_of_same hsql hsame]
  · rintro htext htool hhash ⟨key, hkey, hdiffers⟩
    have hbody : (manifest.body initial.operationId).isText = true := by
      simp [ToolCallManifest.body, ToolCallManifest.toDict, Py.Dict.isText, htool,
        Intake.isText_intent hintake]
    have hintact : manifestIntact cfg stored = false := by
      rw [Bool.eq_false_iff]
      exact fun h => hdiffers (same_of_manifestIntact hbinding hstored htext hbody hhash h hkey)
    refine ⟨_, rfl, ?_⟩
    unfold checkAndCall
    simp only [hmanifest, hfresh, Option.getD_some, Bool.false_eq_true, if_false, hintact]
    refine ⟨trivial, trivial, ?_, rfl⟩
    simp [Memory.modifyContract, HandoffContract.addProvenance]

/-! ## A `DELETE`, as it was bound and with another statement -/

/-- The canonical text stands for its hash. -/
def canonicalConfig : ExecutionConfig where
  manifestHash := Py.Dict.canonicalText
  isoformat _ := ""
  postgresReaderUrl := "http://contragate-mcp:8010"

theorem canonicalConfig_binding : canonicalConfig.Binding where
  canonical _ _ := Py.Dict.canonicalText_congr
  injective _ _ hd _ := Py.Dict.same_of_canonicalText hd
  nonempty := Py.Dict.canonicalText_ne_empty

/-- The manifest of the call below. -/
def deleteManifest : ToolCallManifest where
  toolName := .str "execute_query"
  sql := "DELETE FROM users WHERE id = 1"
  intent := .null
  submittedBy := "agent"
  sourceType := "external_agent"
  tenantId := "demo_tenant"
  targetMcpUrl := "http://target:8010"

theorem intercept_delete :
    Interceptor.intercept (fun _ => "")
      [("tool_name", .str "execute_query"), ("sql", .str " DELETE FROM users WHERE id = 1\n")]
      "agent" "external_agent" "demo_tenant" "http://target:8010" = .ok deleteManifest := by
  have hsql : String.ofList (Py.strip " DELETE FROM users WHERE id = 1\n".toList) =
      "DELETE FROM users WHERE id = 1" := by decide
  have hne : Py.strip " DELETE FROM users WHERE id = 1\n".toList ≠ [] := by decide
  unfold deleteManifest
  rw [← hsql]
  exact (if_neg hne : (if Py.strip " DELETE FROM users WHERE id = 1\n".toList = [] then
    Except.error (InterceptFailure.interception ("Tool call '" ++ "" ++
      "' does not contain a recognizable SQL argument")) else _) = _)

/-- The contract object `0` names another statement, and the record `0` holds this manifest. -/
def deleteMemory (stored : Py.Dict) : Memory where
  contracts _ :=
    { operationId := "cg_1", tenantId := "demo_tenant", submittedBy := "agent"
      sourceType := .externalAgent, submissionTimestamp := 0, rawSql := "DROP TABLE users" }
  records _ :=
    { operationId := "cg_1", approvalId := "cg_1", contract := 0, toolCallManifest := some stored
      createdAt := 0, updatedAt := 0 }
  store id := if id = "cg_1" then some 0 else none
  nextRecord := 1

/-- The bound manifest, in another order. -/
def reorderedManifest : Py.Dict := (deleteManifest.bound canonicalConfig "cg_1").reverse

/-- The bound manifest with another statement. -/
def tamperedManifest : Py.Dict :=
  (deleteManifest.bound canonicalConfig "cg_1").set "sql" (.str "TRUNCATE users")

theorem executes_delete :
    runExecution canonicalConfig 0 (deleteMemory reorderedManifest) (.got (some 0)) (.resume 1) =
      some
        { mem := deleteMemory reorderedManifest
          pc := .calling
          events := [.sent
            { targetUrl := .str "http://target:8010"
              toolName := .str "execute_query"
              sql := .str "DELETE FROM users WHERE id = 1"
              tenantId := "demo_tenant" }] } ∧
    ∃ o, runExecution canonicalConfig 0 (deleteMemory tamperedManifest) (.got (some 0))
        (.resume 1) = some o ∧
      o.pc = .returned ∧ o.events = [] := by
  -- INTAKE takes the call
  have hintake : ∃ initial, Intake.runIntake ⟨"demo_tenant", fun _ => .delete⟩
      (deleteManifest.withHash (canonicalConfig.manifestHash deleteManifest.toDict)) "cg_1" 0 =
        some initial ∧ initial.operationId = "cg_1" :=
    ⟨_, rfl, rfl⟩
  obtain ⟨initial, hintake, hid⟩ := hintake
  have hbound : (deleteManifest.bound canonicalConfig "cg_1").keys.Nodup := by
    show ["tool_name", "sql", "intent", "submitted_by", "source_type", "tenant_id",
      "target_mcp_url", "_manifest_hash", "operation_id"].Nodup
    decide
  have hreordered : reorderedManifest.keys.Nodup := by
    unfold reorderedManifest Py.Dict.keys
    rw [List.map_reverse]
    exact List.nodup_reverse.mpr hbound
  refine ⟨?_, ?_⟩
  · refine (executes_bound_manifest canonicalConfig_binding intercept_delete hintake 0 0
      (deleteMemory reorderedManifest) (deleteMemory reorderedManifest) 0 1 rfl rfl hreordered
      rfl).2.1 ?_
    rw [hid]
    exact (Py.Dict.Same.of_perm hbound (List.reverse_perm _).symm).symm
  · have hexecutes := (executes_bound_manifest canonicalConfig_binding intercept_delete hintake 0 0
      (deleteMemory tamperedManifest) (deleteMemory tamperedManifest) 0 1 rfl rfl hbound rfl).2.2
    rw [hid] at hexecutes
    obtain ⟨o, ho, hpc, hevents, -⟩ :=
      hexecutes rfl rfl rfl ⟨"sql", by decide, fun h => by
        exact absurd (Py.Json.str.inj (Option.some.inj h)) (by decide)⟩
    exact ⟨o, ho, hpc, hevents⟩

end Execution
