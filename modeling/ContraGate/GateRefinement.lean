import ContraGate.FastPath
import ContraGate.Interception
import ContraGate.PolicyEvaluation

/-!
# The quick gate against the orchestrator's gate

Both gates get the same outcomes of their two calls. The quick gate sends no tables and looks
at hard violations only, so a rule on PII tables and a soft rule on business hours concern the
orchestrator alone; and where the orchestrator raises, the quick gate goes on.
-/

/-- How the policy store behaves in both calls. -/
inductive PolicyBackend
  | healthy (store : PolicyStore)
  /-- The call fails as the client reports it. -/
  | unavailable (message : String)
  /-- The call fails in another way. -/
  | broken

namespace PolicyBackend

/-- The reply to a call. -/
def reply : PolicyBackend → String → Py.Dict → TargetReply
  | healthy store => store.reply
  | unavailable message => fun _ _ => .mcpCallError message
  | broken => fun _ _ => .otherError

/-- The evaluation that a gate works with; without one, none of its rules matched. -/
def outcome : PolicyBackend → PolicyArguments → String → Evaluation
  | healthy store => store.outcome
  | _ => fun _ _ => {}

/-- The rules that decide: the active ones of a healthy store, if none of them raises. -/
def rules (backend : PolicyBackend) (tenantId : String) (hour : ℤ) (rule : PolicyRule) : Prop :=
  match backend with
  | healthy store => store.AllReadable tenantId hour ∧ rule ∈ store.activeRules tenantId
  | _ => False

/-- The tables in the PII registry. -/
def piiTables : PolicyBackend → List String
  | healthy store => store.piiTables
  | _ => []

variable {backend : PolicyBackend} {args : PolicyArguments} {tenantId : String}

theorem outcome_hasHardViolation :
    (backend.outcome args tenantId).hasHardViolation = true ↔
      ∃ rule, backend.rules tenantId args.submissionHour rule ∧ rule.severityOf = "HARD" ∧
        PolicyStore.fires args backend.piiTables rule = true := by
  cases backend with
  | healthy store =>
    show (store.outcome args tenantId).hasHardViolation = true ↔ _
    rw [PolicyStore.outcome_hasHardViolation, PolicyStore.allEvaluable_iff]
    constructor
    · rintro ⟨hreadable, rule, hmem, hrule⟩
      exact ⟨rule, ⟨hreadable, hmem⟩, hrule⟩
    · rintro ⟨rule, ⟨hreadable, hmem⟩, hrule⟩
      exact ⟨hreadable, rule, hmem, hrule⟩
  | unavailable message => simp [outcome, rules]
  | broken => simp [outcome, rules]

theorem outcome_triggeredRules :
    (backend.outcome args tenantId).triggeredRules = [] ↔
      ∀ rule, backend.rules tenantId args.submissionHour rule →
        PolicyStore.fires args backend.piiTables rule = false := by
  cases backend with
  | healthy store =>
    show (store.outcome args tenantId).triggeredRules = [] ↔ _
    rw [PolicyStore.outcome_triggeredRules, PolicyStore.allEvaluable_iff]
    constructor
    · rintro h rule ⟨hreadable, hmem⟩
      exact h hreadable rule hmem
    · intro h hreadable rule hmem
      exact h rule ⟨hreadable, hmem⟩
  | unavailable message => simp [outcome, rules]
  | broken => simp [outcome, rules]

theorem outcome_eq_empty (h : (backend.outcome args tenantId).triggeredRules = []) :
    backend.outcome args tenantId = {} := by
  cases backend with
  | healthy store => exact store.outcome_eq_empty h
  | unavailable message => rfl
  | broken => rfl

/-- The quick gate works with the outcome. -/
theorem readPolicy_reply :
    QuickCheck.readPolicy (.ofReply (backend.reply "evaluate_rules" (args.toDict tenantId))) =
      (.bool (backend.outcome args tenantId).hasHardViolation,
       Evaluation.optionalText (backend.outcome args tenantId).autoRejectReason) := by
  cases backend with
  | healthy store => exact store.readPolicy_reply args tenantId
  | unavailable message => rfl
  | broken => rfl

/-- The orchestrator works with it too, unless it raises. -/
theorem policyOutcome_reply (hbackend : backend ≠ broken) :
    RiskGate.policyOutcome (backend.reply "evaluate_rules" (args.toDict tenantId)) =
      some (.obj (backend.outcome args tenantId).entries) := by
  cases backend with
  | healthy store => exact store.policyOutcome_reply args tenantId
  | unavailable message => rfl
  | broken => exact absurd rfl hbackend

end PolicyBackend

/-- The rules that can match a `SELECT` of an internal system. -/
theorem PolicyStore.fires_select_iff {args : PolicyArguments} {piiTables : List String}
    {rule : PolicyRule} (hop : args.operationType = "SELECT")
    (hsource : args.sourceType ≠ "external_user_input")
    (htriggers : args.hasExternalTriggers = false) :
    PolicyStore.fires args piiTables rule = true ↔
      rule.ruleId = "POLICY_PII_STANDARD_REVIEW" ∧
        PolicyStore.overlaps args.tables piiTables = true ∨
      rule.ruleId = "POLICY_AFTER_HOURS" ∧
        PolicyStore.inBusinessHours rule args.submissionHour = .ok false ∨
      rule.ruleId = "POLICY_PII_EXPENSIVE_READ" ∧
        PolicyStore.overlaps args.tables piiTables = true ∧
        PolicyStore.piiExplainCostThreshold.lt args.explainCost = true := by
  rw [PolicyStore.fires_iff, hop, htriggers]
  simp [hsource]

namespace GateRefinement

/-- The quick gate, with these outcomes of its calls. -/
def quickCheckWith (cfg : QuickCheck) (explain : TargetReply) (backend : PolicyBackend) :
    QuickCheck :=
  { cfg with
    services :=
      { postgresReader := fun _ _ => .ofReply explain
        policyStore := fun tool arguments => .ofReply (backend.reply tool arguments) } }

/-- The servers of the orchestrator's gate, with the same outcomes. -/
def serversWith (explain : TargetReply) (backend : PolicyBackend) : GateServers where
  postgresReader _ _ := explain
  policyStore := backend.reply

/-- For the quick gate, the outcome of the EXPLAIN call states `x` as total cost. A text with
a `;` in it is not sent. -/
def StatesCost (texts : Py.NumberText) (explain : TargetReply) (sql : String) (x : Py.Float) :
    Prop :=
  ';' ∉ (QuickCheck.cleanSql sql).toList ∧ ∃ data plan, explain = .result data ∧
    QuickCheck.planOf data = some plan ∧
    ((RiskGate.statedCost plan).getD (.float (.finite 999999))).toFloat texts = .ok x

/-- The cost stated, or else the one assumed, is below the threshold of the quick gate. -/
def CostBelow (cfg : QuickCheck) (explain : TargetReply) (sql : String) : Prop :=
  (∃ x, StatesCost cfg.texts explain sql x ∧ x.lt cfg.explainCostThreshold = true) ∨
    (¬ ∃ x, StatesCost cfg.texts explain sql x) ∧
      Py.Float.lt (.finite 999999) cfg.explainCostThreshold = true

/-- What takes a manifest down the fast path of the quick gate. -/
structure QuickFast (cfg : QuickCheck) (explain : TargetReply) (backend : PolicyBackend)
    (manifest : ToolCallManifest) (hour : ℤ) : Prop where
  select : Classifiers.firstKeyword cfg.wide manifest.sql = "SELECT".toList
  source : manifest.sourceType = "internal_system"
  cost : CostBelow cfg explain manifest.sql
  rules : ∀ rule, backend.rules manifest.tenantId hour rule → rule.severityOf = "HARD" →
    rule.ruleId = "POLICY_AFTER_HOURS" → PolicyStore.inBusinessHours rule hour ≠ .ok false

/-- What keeps the orchestrator from raising and from finding a violation, for a `SELECT` of
an internal system. -/
structure GateQuiet (cfg : QuickCheck) (letters : Py.CaseMap) (explain : TargetReply)
    (backend : PolicyBackend) (manifest : ToolCallManifest) (hour : ℤ) : Prop where
  policy : backend ≠ .broken
  explain : ∃ summary, RiskGate.explainOutcome cfg.texts explain = some summary ∧
    ∀ rule, backend.rules manifest.tenantId hour rule →
      (rule.ruleId = "POLICY_PII_STANDARD_REVIEW" → PolicyStore.overlaps
        (RiskGate.extractTables letters cfg.wide manifest.sql) backend.piiTables = false) ∧
      (rule.ruleId = "POLICY_AFTER_HOURS" → PolicyStore.inBusinessHours rule hour ≠ .ok false) ∧
      (rule.ruleId = "POLICY_PII_EXPENSIVE_READ" → PolicyStore.overlaps
          (RiskGate.extractTables letters cfg.wide manifest.sql) backend.piiTables = true →
        PolicyStore.piiExplainCostThreshold.lt summary.totalCost = false)

/-- The orchestrator executes the contract at once, without a violation. -/
def GateFast (cfg : QuickCheck) (letters : Py.CaseMap) (explain : TargetReply)
    (backend : PolicyBackend) (c : HandoffContract) (hour : ℤ) (now : Time) : Prop :=
  ∃ c', RiskGate.gateOn cfg.texts letters cfg.wide (serversWith explain backend) hour now c =
      some c' ∧
    c'.policyViolations = [] ∧ Guards.routeFromRiskGate c' = .autoExecute

/-- What the quick gate executes at once, the orchestrator would too. -/
def AtLeastAsStrict (cfg : QuickCheck) (letters : Py.CaseMap) (explain : TargetReply)
    (backend : PolicyBackend) (manifest : ToolCallManifest) (c : HandoffContract) (hour : ℤ)
    (now : Time) : Prop :=
  (QuickCheck.quickCheck (quickCheckWith cfg explain backend) manifest.sql
      (manifest.opType cfg.wide) manifest.sourceType manifest.tenantId hour).routing =
    .autoExecute → GateFast cfg letters explain backend c hour now

variable {cfg : QuickCheck} {letters : Py.CaseMap} {explain : TargetReply}
  {backend : PolicyBackend} {manifest : ToolCallManifest} {c : HandoffContract} {hour : ℤ}
  {now : Time} {sql tenantId : String}

theorem readExplain_totalCost {texts : Py.NumberText} {data : Py.Json} {plan : Py.Dict}
    {x : Py.Float} (hplan : QuickCheck.planOf data = some plan)
    (hx : ((RiskGate.statedCost plan).getD (.float (.finite 999999))).toFloat texts = .ok x) :
    (QuickCheck.readExplain texts data).totalCost = x := by
  unfold QuickCheck.readExplain
  rw [hplan]
  simp only [hx]
  split <;> rfl

/-- The cost of the quick gate is the stated one. -/
theorem readImpact_of_statesCost {x : Py.Float} (h : StatesCost cfg.texts explain sql x) :
    (QuickCheck.readImpact (quickCheckWith cfg explain backend) sql tenantId).totalCost = x := by
  obtain ⟨hclean, data, plan, rfl, hplan, hx⟩ := h
  unfold QuickCheck.readImpact
  dsimp only
  rw [if_neg hclean]
  exact readExplain_totalCost hplan hx

/-- If none is stated, it is the one assumed. -/
theorem readImpact_of_not_statesCost (h : ¬ ∃ x, StatesCost cfg.texts explain sql x) :
    (QuickCheck.readImpact (quickCheckWith cfg explain backend) sql tenantId).totalCost =
      .finite 999999 := by
  unfold QuickCheck.readImpact
  dsimp only
  split
  · rfl
  · rename_i hclean
    cases explain with
    | result data =>
      show (QuickCheck.readExplain cfg.texts data).totalCost = _
      unfold QuickCheck.readExplain
      cases hplan : QuickCheck.planOf data with
      | none => rfl
      | some plan =>
        dsimp only
        cases hx : ((RiskGate.statedCost plan).getD (.float (.finite 999999))).toFloat
            cfg.texts with
        | error e => rfl
        | ok x => exact absurd ⟨x, hclean, data, plan, rfl, hplan, hx⟩ h
    | mcpCallError message => rfl
    | otherError => rfl

theorem readImpact_lt_iff :
    (QuickCheck.readImpact (quickCheckWith cfg explain backend) sql tenantId).totalCost.lt
        cfg.explainCostThreshold = true ↔ CostBelow cfg explain sql := by
  by_cases hstates : ∃ x, StatesCost cfg.texts explain sql x
  · have hcost : CostBelow cfg explain sql ↔
        ∃ x, StatesCost cfg.texts explain sql x ∧ x.lt cfg.explainCostThreshold = true := by
      unfold CostBelow
      simp only [hstates, not_true_eq_false, false_and, or_false]
    rw [hcost]
    constructor
    · obtain ⟨x, hx⟩ := hstates
      rw [readImpact_of_statesCost hx]
      exact fun hlow => ⟨x, hx, hlow⟩
    · rintro ⟨x, hx, hlow⟩
      rw [readImpact_of_statesCost hx]
      exact hlow
  · rw [readImpact_of_not_statesCost hstates]
    unfold CostBelow
    constructor
    · exact fun hlow => .inr ⟨hstates, hlow⟩
    · rintro (⟨x, hx, -⟩ | ⟨-, hlow⟩)
      · exact absurd ⟨x, hx⟩ hstates
      · exact hlow

/-- When the quick gate executes at once. -/
theorem quickCheck_autoExecute_iff :
    (QuickCheck.quickCheck (quickCheckWith cfg explain backend) manifest.sql
      (manifest.opType cfg.wide) manifest.sourceType manifest.tenantId hour).routing =
      .autoExecute ↔ QuickFast cfg explain backend manifest hour := by
  unfold QuickCheck.quickCheck
  rw [QuickCheck.route_autoExecute_iff]
  show (QuickCheck.readPolicy (.ofReply (backend.reply _ _))).1.truthy = false ∧ _ ↔ _
  rw [PolicyBackend.readPolicy_reply, ToolCallManifest.opType,
    Classifiers.interceptedType_select_iff]
  constructor
  · rintro ⟨hhard, hselect, -, hcost, hsource⟩
    refine ⟨hselect, hsource, readImpact_lt_iff.mp hcost, ?_⟩
    intro rule hrule hsevere hid hoff
    refine absurd (PolicyBackend.outcome_hasHardViolation.mpr ⟨rule, hrule, hsevere, ?_⟩)
      (Bool.eq_false_iff.mp hhard)
    rw [PolicyStore.fires_iff]
    -- the sixth rule of the list
    right; right; right; right; right; left
    exact ⟨hid, hoff⟩
  · rintro ⟨hselect, hsource, hcost, hrules⟩
    refine ⟨?_, hselect, Classifiers.isWrite_of_select hselect, readImpact_lt_iff.mpr hcost,
      hsource⟩
    show (PolicyBackend.outcome _ _ _).hasHardViolation = false
    rw [Bool.eq_false_iff]
    intro hhard
    obtain ⟨rule, hrule, hsevere, hfires⟩ := PolicyBackend.outcome_hasHardViolation.mp hhard
    have hop : Classifiers.interceptedType cfg.wide manifest.sql = "SELECT" :=
      Classifiers.interceptedType_select_iff.mpr hselect
    have hnot : manifest.sourceType ≠ "external_user_input" := by
      rw [hsource]
      decide
    -- the quick gate sends no tables, so no rule on PII tables can match
    rcases (PolicyStore.fires_select_iff hop hnot rfl).mp hfires with
      ⟨-, hpii⟩ | ⟨hid, hoff⟩ | ⟨-, hpii, -⟩
    · cases hpii
    · exact hrules rule hrule hsevere hid hoff
    · cases hpii

/-- The gate of the orchestrator applies the outcome of the evaluation. -/
theorem exists_gateOn (letters : Py.CaseMap) (c : HandoffContract) (hour : ℤ) (now : Time)
    {summary : ExplainSummary} (hbackend : backend ≠ .broken)
    (hexplain : RiskGate.explainOutcome cfg.texts explain = some summary) :
    ∃ c', RiskGate.gateOn cfg.texts letters cfg.wide (serversWith explain backend) hour now c =
        some c' ∧
      RiskGate.Applied summary.totalCost
        (backend.outcome (RiskGate.policyArguments letters cfg.wide c summary hour)
          c.tenantId).entries
        ((backend.outcome (RiskGate.policyArguments letters cfg.wide c summary hour)
          c.tenantId).triggeredRules.map RiskGate.violationOfRule) c c' := by
  obtain ⟨c', happly, happlied⟩ := RiskGate.applyPolicyResult_entries
    (backend.outcome (RiskGate.policyArguments letters cfg.wide c summary hour) c.tenantId)
    summary.totalCost now c
  refine ⟨c', ?_, happlied⟩
  unfold RiskGate.gateOn RiskGate.explainReply RiskGate.policyReply serversWith
  dsimp only
  rw [hexplain, Option.bind_eq_bind, Option.bind_some,
    PolicyBackend.policyOutcome_reply hbackend, Option.bind_eq_bind, Option.bind_some]
  exact happly

/-- Conversely it has a result only if neither call made it raise. -/
theorem exists_outcomes_of_gateOn {c' : HandoffContract}
    (h : RiskGate.gateOn cfg.texts letters cfg.wide (serversWith explain backend) hour now c =
      some c') :
    backend ≠ .broken ∧ ∃ summary, RiskGate.explainOutcome cfg.texts explain = some summary := by
  unfold RiskGate.gateOn at h
  obtain ⟨summary, hexplain, h⟩ := Option.bind_eq_some_iff.mp h
  obtain ⟨policyResult, hpolicy, -⟩ := Option.bind_eq_some_iff.mp h
  refine ⟨?_, summary, hexplain⟩
  rintro rfl
  cases hpolicy

/-- No rule matches in the orchestrator's call. -/
theorem triggeredRules_gate_iff (letters : Py.CaseMap) (summary : ExplainSummary)
    (htaken : ToolCallManifest.Taken (ToolCallManifest.intakeConfig cfg.wide tenantId) manifest c)
    (hselect : c.operationType = .select) (hinternal : c.sourceType = .internalSystem) :
    (backend.outcome (RiskGate.policyArguments letters cfg.wide c summary hour)
      c.tenantId).triggeredRules = [] ↔
    ∀ rule, backend.rules manifest.tenantId hour rule →
      (rule.ruleId = "POLICY_PII_STANDARD_REVIEW" → PolicyStore.overlaps
        (RiskGate.extractTables letters cfg.wide manifest.sql) backend.piiTables = false) ∧
      (rule.ruleId = "POLICY_AFTER_HOURS" → PolicyStore.inBusinessHours rule hour ≠ .ok false) ∧
      (rule.ruleId = "POLICY_PII_EXPENSIVE_READ" → PolicyStore.overlaps
          (RiskGate.extractTables letters cfg.wide manifest.sql) backend.piiTables = true →
        PolicyStore.piiExplainCostThreshold.lt summary.totalCost = false) := by
  have hop : (RiskGate.policyArguments letters cfg.wide c summary hour).operationType =
      "SELECT" := by
    show c.operationType.value = _
    rw [hselect]
    rfl
  have hsource : (RiskGate.policyArguments letters cfg.wide c summary hour).sourceType ≠
      "external_user_input" := by
    show c.sourceType.value ≠ _
    rw [hinternal]
    decide
  have htables : (RiskGate.policyArguments letters cfg.wide c summary hour).tables =
      RiskGate.extractTables letters cfg.wide manifest.sql := by
    show RiskGate.extractTables letters cfg.wide c.rawSql = _
    rw [htaken.rawSql]
  -- rule by rule, with the rules that cannot match a `SELECT` left out
  rw [PolicyBackend.outcome_triggeredRules, htaken.tenantId]
  refine forall_congr' fun rule => imp_congr_right fun _ => ?_
  rw [Bool.eq_false_iff, ne_eq, PolicyStore.fires_select_iff hop hsource rfl, htables]
  simp only [not_or, not_and, Bool.not_eq_true]
  rfl

/-- The orchestrator executes a `SELECT` of an internal system at once exactly when nothing
makes it raise and no rule matches. -/
theorem gateFast_iff
    (htaken : ToolCallManifest.Taken (ToolCallManifest.intakeConfig cfg.wide tenantId) manifest c)
    (hselect : c.operationType = .select) (hinternal : c.sourceType = .internalSystem) :
    GateFast cfg letters explain backend c hour now ↔
      GateQuiet cfg letters explain backend manifest hour := by
  constructor
  · rintro ⟨c', hgate, hviolations, -⟩
    obtain ⟨hbackend, summary, hexplain⟩ := exists_outcomes_of_gateOn hgate
    obtain ⟨c'', hgate', happlied⟩ := exists_gateOn letters c hour now hbackend hexplain
    -- the gate is a function, so this is the contract of the run
    obtain rfl : c'' = c' := Option.some.inj (hgate'.symm.trans hgate)
    rw [happlied.violations, List.map_eq_nil_iff,
      triggeredRules_gate_iff letters summary htaken hselect hinternal] at hviolations
    exact ⟨hbackend, summary, hexplain, hviolations⟩
  · rintro ⟨hbackend, summary, hexplain, hrules⟩
    obtain ⟨c', hgate, happlied⟩ := exists_gateOn letters c hour now hbackend hexplain
    have hnone := (triggeredRules_gate_iff letters summary htaken hselect hinternal).mpr hrules
    -- no rule triggered: neither a hard violation nor a required tier
    have hempty := PolicyBackend.outcome_eq_empty hnone
    rw [hempty] at happlied
    refine ⟨c', hgate, happlied.violations, ?_⟩
    rw [RiskGate.routeFromRiskGate_autoExecute happlied]
    refine ⟨rfl, hselect, rfl, (RiskGate.score_select hselect).mpr ?_, rfl⟩
    rintro ⟨hexternal, -⟩
    rw [hinternal] at hexternal
    cases hexternal

/-- On a contract taken from the manifest the two ends meet. -/
theorem atLeastAsStrict_of_taken
    (htaken : ToolCallManifest.Taken (ToolCallManifest.intakeConfig cfg.wide tenantId) manifest c) :
    AtLeastAsStrict cfg letters explain backend manifest c hour now ↔
      (QuickFast cfg explain backend manifest hour →
        GateQuiet cfg letters explain backend manifest hour) := by
  unfold AtLeastAsStrict
  rw [quickCheck_autoExecute_iff]
  refine imp_congr_right fun hfast => ?_
  have hselect : c.operationType = .select := by
    rw [htaken.operationType]
    exact Classifiers.detectOperationType_select_iff.mpr hfast.select
  have hinternal : c.sourceType = .internalSystem := by
    rw [htaken.sourceType, ToolCallManifest.readSourceType, hfast.source]
    rfl
  exact gateFast_iff htaken hselect hinternal

/-- The quick gate is at least as strict exactly when it does not execute the manifest at once
or nothing disturbs the orchestrator. -/
theorem atLeastAsStrict_iff (cfg : QuickCheck) (letters : Py.CaseMap) (explain : TargetReply)
    (backend : PolicyBackend) (hour : ℤ) (now : Time) {manifest : ToolCallManifest}
    {tenantId hash generatedId : String} {submitted : Time} {c : HandoffContract}
    (hintake : Intake.runIntake (ToolCallManifest.intakeConfig cfg.wide tenantId)
      (manifest.withHash hash) generatedId submitted = some c) :
    AtLeastAsStrict cfg letters explain backend manifest c hour now ↔
      (QuickFast cfg explain backend manifest hour →
        GateQuiet cfg letters explain backend manifest hour) :=
  atLeastAsStrict_of_taken (ToolCallManifest.runIntake_withHash hintake)

/-! ## A read of a PII table -/

/-- `SELECT * FROM users`, with and without a rule that the quick gate overlooks. -/
def readManifest : ToolCallManifest where
  toolName := .str "execute_query"
  sql := "SELECT * FROM users"
  intent := .null
  submittedBy := "agent"
  sourceType := "internal_system"
  tenantId := "demo_tenant"
  targetMcpUrl := ""

def readGate : QuickCheck where
  texts := ⟨fun _ => none, fun _ => none⟩
  services := ⟨fun _ _ => .timeout, fun _ _ => .timeout⟩
  wide _ := false

/-- An EXPLAIN result with a low cost. -/
def lowCost : TargetReply :=
  .result (.obj [("Plan", .obj [("Total Cost", .float (.finite 10)), ("Plan Rows", .int 5)])])

/-- Without rules the gates agree. -/
theorem atLeastAsStrict_without_rules :
    ∃ c, Intake.runIntake (ToolCallManifest.intakeConfig readGate.wide "demo_tenant")
        (readManifest.withHash "") "cg_00000001" 0 = some c ∧
      AtLeastAsStrict readGate .ascii lowCost (.healthy ⟨fun _ => [], ["users"]⟩)
        readManifest c 12 0 := by
  refine ⟨_, rfl, ?_⟩
  refine (atLeastAsStrict_iff readGate .ascii lowCost _ 12 0 rfl).mpr fun _ => ?_
  refine ⟨nofun, _, rfl, ?_⟩
  rintro rule ⟨-, hmem⟩
  cases hmem

/-- With the rule on PII tables they do not. -/
theorem readManifest_less_strict :
    ¬ ∀ (cfg : QuickCheck) (letters : Py.CaseMap) (explain : TargetReply)
      (backend : PolicyBackend) (hour : ℤ) (now : Time) (manifest : ToolCallManifest)
      (tenantId hash generatedId : String) (submitted : Time) (c : HandoffContract),
      Intake.runIntake (ToolCallManifest.intakeConfig cfg.wide tenantId)
        (manifest.withHash hash) generatedId submitted = some c →
      AtLeastAsStrict cfg letters explain backend manifest c hour now := by
  intro hall
  let store : PolicyStore :=
    { activeRules := fun _ => [{ ruleId := "POLICY_PII_STANDARD_REVIEW", severity := some "SOFT" }]
      piiTables := ["users"] }
  obtain ⟨c, hintake⟩ : ∃ c, Intake.runIntake
      (ToolCallManifest.intakeConfig readGate.wide "demo_tenant") (readManifest.withHash "")
      "cg_00000001" 0 = some c := ⟨_, rfl⟩
  have hstrict := hall readGate .ascii lowCost (.healthy store) 12 0 readManifest
    "demo_tenant" "" "cg_00000001" 0 c hintake
  have hreadable : store.AllReadable readManifest.tenantId 12 := by
    intro rule hmem hid
    obtain rfl := List.mem_singleton.mp hmem
    exact absurd hid (by decide)
  -- the quick gate sees a soft rule at most and executes at once
  have hfast : QuickFast readGate lowCost (.healthy store) readManifest 12 := by
    refine ⟨by decide, rfl, .inl ⟨.finite 10, ⟨by decide, _, _, rfl, rfl, rfl⟩, by decide⟩, ?_⟩
    rintro rule ⟨-, hmem⟩ hsevere
    obtain rfl := List.mem_singleton.mp hmem
    exact absurd hsevere (by decide)
  obtain ⟨-, summary, -, hrules⟩ :=
    (atLeastAsStrict_of_taken (ToolCallManifest.runIntake_withHash hintake)).mp hstrict hfast
  -- the orchestrator sends the table and finds the rule violated
  have hpii := (hrules _ ⟨hreadable, List.mem_singleton_self _⟩).1 rfl
  revert hpii
  decide

end GateRefinement
