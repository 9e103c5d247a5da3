import ContraGate.Interception
import ContraGate.PolicyEvaluation

/-!
# DROP and TRUNCATE

The hard rule on `DROP` and `TRUNCATE` compares the operation type with these two words. Both
gates send `DDL` for them, so the rule never matches; such a statement is rejected only when
another hard rule is violated.
-/

namespace PolicyStore

variable (store : PolicyStore)

/-- The servers of the orchestrator's gate, with this policy store. -/
def gateServers (postgresReader : String → Py.Dict → TargetReply) : GateServers where
  postgresReader
  policyStore := store.reply

/-- The quick gate, with this policy store. -/
def quickCheckOn (cfg : QuickCheck) : QuickCheck :=
  { cfg with
    services :=
      { cfg.services with
        policyStore := fun tool arguments => .ofReply (store.reply tool arguments) } }

/-- Another hard rule is violated, whatever the operation and the tables are. -/
def HardElsewhere (manifest : ToolCallManifest) (hour : ℤ) : Prop :=
  ∃ rule ∈ store.activeRules manifest.tenantId, rule.severityOf = "HARD" ∧
    (rule.ruleId = "POLICY_EXTERNAL_INPUT" ∧ manifest.sourceType = "external_user_input" ∨
      rule.ruleId = "POLICY_AFTER_HOURS" ∧ inBusinessHours rule hour = .ok false)

/-- The rule on PII tables is hard, and `_extract_tables` reports such a table. -/
def HardOnPii (letters : Py.CaseMap) (wide : Char → Bool) (manifest : ToolCallManifest) : Prop :=
  ∃ rule ∈ store.activeRules manifest.tenantId, rule.severityOf = "HARD" ∧
    rule.ruleId = "POLICY_PII_STANDARD_REVIEW" ∧
    overlaps (RiskGate.extractTables letters wide manifest.sql) store.piiTables = true

end PolicyStore

/-- The first keyword is `DROP` or `TRUNCATE`. -/
def DropsOrTruncates (wide : Char → Bool) (sql : String) : Prop :=
  Classifiers.firstKeyword wide sql = "DROP".toList ∨
    Classifiers.firstKeyword wide sql = "TRUNCATE".toList

/-- Both gates reject the manifest, from which INTAKE built the contract; the proxy at the hour
`hour`, the orchestrator at the hour `hour'`. -/
structure AutoRejected (cfg : QuickCheck) (letters : Py.CaseMap) (store : PolicyStore)
    (postgresReader : String → Py.Dict → TargetReply) (manifest : ToolCallManifest)
    (c : HandoffContract) (hour hour' : ℤ) (now : Time) : Prop where
  orchestrator : ∃ c',
    RiskGate.gateOn cfg.texts letters cfg.wide (store.gateServers postgresReader) hour' now c =
      some c' ∧
    c'.autoRejectTriggered = .bool true ∧ Guards.routeFromRiskGate c' = .autoReject
  proxy : (QuickCheck.quickCheck (store.quickCheckOn cfg) manifest.sql
    (manifest.opType cfg.wide) manifest.sourceType manifest.tenantId hour).routing = .autoReject

namespace DropTruncate

variable {cfg : QuickCheck} {letters : Py.CaseMap} {store : PolicyStore}
  {postgresReader : String → Py.Dict → TargetReply} {manifest : ToolCallManifest}
  {c : HandoffContract} {hour hour' : ℤ} {now : Time}

/-- The orchestrator rejects exactly when it gets past the EXPLAIN reply and the evaluation
finds a hard violation. -/
theorem gateOn_rejects_iff :
    (∃ c',
      RiskGate.gateOn cfg.texts letters cfg.wide (store.gateServers postgresReader) hour now c =
        some c' ∧
      c'.autoRejectTriggered = .bool true ∧ Guards.routeFromRiskGate c' = .autoReject) ↔
    ∃ explain, RiskGate.explainOutcome cfg.texts
        (RiskGate.explainReply (store.gateServers postgresReader) c) = some explain ∧
      (store.outcome (RiskGate.policyArguments letters cfg.wide c explain hour)
        c.tenantId).hasHardViolation = true := by
  constructor
  · rintro ⟨c', hgate, htriggered, -⟩
    -- a result means that the EXPLAIN reply was read
    have hgate' := hgate
    unfold RiskGate.gateOn at hgate'
    obtain ⟨explain, hexplain, -⟩ := Option.bind_eq_some_iff.mp hgate'
    obtain ⟨c'', hc'', happlied⟩ := RiskGate.gateOn_healthy letters cfg.wide store rfl
      hexplain hour now
    obtain rfl : c'' = c' := Option.some.inj (hc''.symm.trans hgate)
    refine ⟨explain, hexplain, ?_⟩
    have hbool := happlied.triggered.symm.trans htriggered
    exact Py.Json.bool.inj hbool
  · rintro ⟨explain, hexplain, hhard⟩
    obtain ⟨c', hc', happlied⟩ := RiskGate.gateOn_healthy letters cfg.wide store rfl
      hexplain hour now
    have htriggered : c'.autoRejectTriggered = .bool true := by
      rw [happlied.triggered]
      exact congrArg Py.Json.bool hhard
    refine ⟨c', hc', htriggered, ?_⟩
    unfold Guards.routeFromRiskGate
    rw [htriggered]
    rfl

/-- The quick gate rejects exactly when the evaluation finds a hard violation. -/
theorem quickCheck_rejects_iff {operationType : String} :
    (QuickCheck.quickCheck (store.quickCheckOn cfg) manifest.sql operationType
      manifest.sourceType manifest.tenantId hour).routing = .autoReject ↔
    (store.outcome (QuickCheck.policyArguments operationType manifest.sourceType hour
      (QuickCheck.readImpact (store.quickCheckOn cfg) manifest.sql manifest.tenantId))
      manifest.tenantId).hasHardViolation = true := by
  unfold QuickCheck.quickCheck
  rw [QuickCheck.route_autoReject_iff]
  show (QuickCheck.readPolicy (.ofReply (store.reply _ _))).1.truthy = true ↔ _
  rw [PolicyStore.readPolicy_reply]
  rfl

/-- The rules that can match a call with operation type `DDL`. -/
theorem fires_ddl_iff {args : PolicyArguments} {piiTables : List String} {rule : PolicyRule}
    (hop : args.operationType = "DDL") (htriggers : args.hasExternalTriggers = false) :
    PolicyStore.fires args piiTables rule = true ↔
      rule.ruleId = "POLICY_PII_STANDARD_REVIEW" ∧
        PolicyStore.overlaps args.tables piiTables = true ∨
      rule.ruleId = "POLICY_EXTERNAL_INPUT" ∧ args.sourceType = "external_user_input" ∨
      rule.ruleId = "POLICY_AFTER_HOURS" ∧
        PolicyStore.inBusinessHours rule args.submissionHour = .ok false := by
  rw [PolicyStore.fires_iff, hop, htriggers]
  simp

/-- Rejected by the proxy, a statement with operation type `DDL` violates another hard rule. -/
theorem outcome_quick_iff {explain : ExplainSummary} :
    (store.outcome (QuickCheck.policyArguments "DDL" manifest.sourceType hour explain)
      manifest.tenantId).hasHardViolation = true ↔
      store.AllReadable manifest.tenantId hour ∧ store.HardElsewhere manifest hour := by
  rw [PolicyStore.outcome_hasHardViolation, PolicyStore.allEvaluable_iff]
  refine and_congr_right fun _ => exists_congr fun rule => and_congr_right fun _ =>
    and_congr_right fun _ => ?_
  rw [fires_ddl_iff rfl rfl]
  simp [QuickCheck.policyArguments, PolicyStore.overlaps]

/-- In the orchestrator it can also be the rule on PII tables. -/
theorem outcome_gate_iff {explain : ExplainSummary} (hddl : c.operationType = .ddl)
    (hsql : c.rawSql = manifest.sql) (htenant : c.tenantId = manifest.tenantId)
    (hsource : c.sourceType = manifest.readSourceType) :
    (store.outcome (RiskGate.policyArguments letters cfg.wide c explain hour)
      c.tenantId).hasHardViolation = true ↔
      store.AllReadable manifest.tenantId hour ∧
      (store.HardElsewhere manifest hour ∨ store.HardOnPii letters cfg.wide manifest) := by
  rw [PolicyStore.outcome_hasHardViolation, PolicyStore.allEvaluable_iff, htenant]
  refine and_congr_right fun _ => ?_
  unfold PolicyStore.HardElsewhere PolicyStore.HardOnPii
  have hop : (RiskGate.policyArguments letters cfg.wide c explain hour).operationType = "DDL" := by
    show c.operationType.value = _
    rw [hddl]
    rfl
  have htables : (RiskGate.policyArguments letters cfg.wide c explain hour).tables =
      RiskGate.extractTables letters cfg.wide manifest.sql := by
    show RiskGate.extractTables letters cfg.wide c.rawSql = _
    rw [hsql]
  have huser : (RiskGate.policyArguments letters cfg.wide c explain hour).sourceType =
      "external_user_input" ↔ manifest.sourceType = "external_user_input" := by
    show c.sourceType.value = _ ↔ _
    rw [hsource]
    exact ToolCallManifest.readSourceType_value_iff
  -- the two kinds of hard rules as one, then rule by rule
  rw [← exists_or]
  refine exists_congr fun rule => ?_
  rw [fires_ddl_iff hop rfl, huser, htables, ← and_or_left, ← and_or_left]
  exact and_congr_right fun _ => and_congr_right fun _ => or_comm

/-- A `DROP` or `TRUNCATE` is rejected by both gates exactly when the orchestrator gets past
the EXPLAIN reply, no rule raises, and each gate finds another hard rule violated. -/
theorem autoRejected_iff (cfg : QuickCheck) (letters : Py.CaseMap) (store : PolicyStore)
    (postgresReader : String → Py.Dict → TargetReply) (hour hour' : ℤ) (now : Time)
    {manifest : ToolCallManifest} {tenantId hash generatedId : String} {submitted : Time}
    {c : HandoffContract} (hclass : DropsOrTruncates cfg.wide manifest.sql)
    (hintake : Intake.runIntake (ToolCallManifest.intakeConfig cfg.wide tenantId)
      (manifest.withHash hash) generatedId submitted = some c) :
    AutoRejected cfg letters store postgresReader manifest c hour hour' now ↔
      (RiskGate.explainOutcome cfg.texts
        (RiskGate.explainReply (store.gateServers postgresReader) c)).isSome ∧
      store.AllReadable manifest.tenantId hour ∧ store.AllReadable manifest.tenantId hour' ∧
      store.HardElsewhere manifest hour ∧
      (store.HardElsewhere manifest hour' ∨ store.HardOnPii letters cfg.wide manifest) := by
  have htaken := ToolCallManifest.runIntake_withHash hintake
  have hddl : c.operationType = .ddl := by
    rw [htaken.operationType]
    exact Classifiers.detectOperationType_ddl hclass
  have hop : manifest.opType cfg.wide = "DDL" := Classifiers.interceptedType_ddl hclass
  have hgate : ∀ explain,
      (store.outcome (RiskGate.policyArguments letters cfg.wide c explain hour')
        c.tenantId).hasHardViolation = true ↔ _ := fun _ =>
    outcome_gate_iff hddl htaken.rawSql htaken.tenantId htaken.sourceType
  constructor
  · rintro ⟨horchestrator, hproxy⟩
    obtain ⟨explain, hexplain, hhard⟩ := gateOn_rejects_iff.mp horchestrator
    rw [hop, quickCheck_rejects_iff, outcome_quick_iff] at hproxy
    obtain ⟨hreadable', hhard'⟩ := (hgate explain).mp hhard
    exact ⟨Option.isSome_iff_exists.mpr ⟨explain, hexplain⟩, hproxy.1, hreadable', hproxy.2,
      hhard'⟩
  · rintro ⟨hsome, hreadable, hreadable', hhard, hhard'⟩
    obtain ⟨explain, hexplain⟩ := Option.isSome_iff_exists.mp hsome
    constructor
    · exact gateOn_rejects_iff.mpr ⟨explain, hexplain, (hgate explain).mpr ⟨hreadable', hhard'⟩⟩
    · rw [hop, quickCheck_rejects_iff, outcome_quick_iff]
      exact ⟨hreadable, hhard⟩

/-! ## A rejected and an accepted statement -/

def sampleManifest : ToolCallManifest where
  toolName := .str "execute_query"
  sql := "DROP TABLE users"
  intent := .null
  submittedBy := "agent"
  sourceType := "internal_system"
  tenantId := "demo_tenant"
  targetMcpUrl := ""

/-- A store with the default rule on `DROP` and `TRUNCATE`, and others. -/
def sampleStore (others : List PolicyRule) : PolicyStore where
  activeRules _ := { ruleId := "POLICY_DDL_NO_BACKUP", severity := some "HARD" } :: others
  piiTables := ["users"]

def sampleGate : QuickCheck where
  texts := ⟨fun _ => none, fun _ => none⟩
  services := ⟨fun _ _ => .timeout, fun _ _ => .timeout⟩
  wide _ := false

theorem sampleManifest_drops : DropsOrTruncates sampleGate.wide sampleManifest.sql :=
  .inl (by decide)

/-- Late in the evening, with a hard rule on business hours. -/
theorem autoRejected_late :
    ∃ c, Intake.runIntake (ToolCallManifest.intakeConfig sampleGate.wide "demo_tenant")
        (sampleManifest.withHash "") "cg_00000001" 0 = some c ∧
      AutoRejected sampleGate .ascii
        (sampleStore [{ ruleId := "POLICY_AFTER_HOURS", severity := some "HARD" }])
        (fun _ _ => .mcpCallError "timeout") sampleManifest c 23 23 0 := by
  refine ⟨_, rfl, ?_⟩
  have hreadable :
      (sampleStore [{ ruleId := "POLICY_AFTER_HOURS", severity := some "HARD" }]).AllReadable
        sampleManifest.tenantId 23 := by
    intro rule hmem hid
    rcases List.mem_cons.mp hmem with rfl | hmem
    · exact absurd hid (by decide)
    · obtain rfl := List.mem_singleton.mp hmem
      exact ⟨false, rfl⟩
  have hhard :
      (sampleStore [{ ruleId := "POLICY_AFTER_HOURS", severity := some "HARD" }]).HardElsewhere
        sampleManifest 23 :=
    ⟨_, List.mem_cons_of_mem _ (List.mem_singleton_self _), rfl, .inr ⟨rfl, rfl⟩⟩
  exact (autoRejected_iff sampleGate .ascii _ _ 23 23 0 sampleManifest_drops rfl).mpr
    ⟨rfl, hreadable, hreadable, hhard, .inl hhard⟩

/-- With the rule on `DROP` and `TRUNCATE` alone, the statement is not rejected. -/
theorem drop_not_rejected :
    ¬ ∀ (cfg : QuickCheck) (letters : Py.CaseMap) (store : PolicyStore)
      (postgresReader : String → Py.Dict → TargetReply) (hour hour' : ℤ) (now : Time)
      (manifest : ToolCallManifest) (tenantId hash generatedId : String) (submitted : Time)
      (c : HandoffContract), DropsOrTruncates cfg.wide manifest.sql →
      Intake.runIntake (ToolCallManifest.intakeConfig cfg.wide tenantId)
        (manifest.withHash hash) generatedId submitted = some c →
      (∃ rule ∈ store.activeRules manifest.tenantId,
        rule.ruleId = "POLICY_DDL_NO_BACKUP" ∧ rule.severityOf = "HARD") →
      AutoRejected cfg letters store postgresReader manifest c hour hour' now := by
  intro hall
  have hrejected := hall sampleGate .ascii (sampleStore [])
    (fun _ _ => .mcpCallError "timeout") 12 12 0 sampleManifest "demo_tenant" "" "cg_00000001" 0 _
    sampleManifest_drops rfl ⟨_, List.mem_singleton_self _, rfl, rfl⟩
  have hop : sampleManifest.opType sampleGate.wide = "DDL" :=
    Classifiers.interceptedType_ddl sampleManifest_drops
  have hproxy := hrejected.proxy
  rw [hop, quickCheck_rejects_iff, outcome_quick_iff] at hproxy
  obtain ⟨rule, hmem, -, hmatch⟩ := hproxy.2
  obtain rfl := List.mem_singleton.mp hmem
  rcases hmatch with ⟨hid, -⟩ | ⟨hid, -⟩
  · exact absurd hid (by decide)
  · exact absurd hid (by decide)

end DropTruncate
