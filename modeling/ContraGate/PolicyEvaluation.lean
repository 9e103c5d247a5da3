import ContraGate.GateCalls
import ContraGate.QuickCheck

/-!
# What the policy rules decide

`evaluate_operation` is a fold over the rules that match; it raises exactly when one of the
rules does. Both gates see its result, and an evaluation that raised looks to them like one
in which no rule matched.
-/

namespace PolicyStore

variable {args : PolicyArguments} {piiTables : List String}

/-- The rule matches. -/
def fires (args : PolicyArguments) (piiTables : List String) (rule : PolicyRule) : Bool :=
  match matchRule args piiTables rule with
  | .ok matched => matched
  | .error _ => false

/-- The rule can be evaluated. -/
def Evaluable (args : PolicyArguments) (piiTables : List String) (rule : PolicyRule) : Prop :=
  ∃ matched, matchRule args piiTables rule = .ok matched

/-- The hours of a rule about business hours can be compared with the hour. -/
def HoursReadable (rule : PolicyRule) (hour : ℤ) : Prop :=
  rule.ruleId = "POLICY_AFTER_HOURS" → ∃ inside, inBusinessHours rule hour = .ok inside

/-- Only the rule about business hours can raise. -/
theorem evaluable_iff {rule : PolicyRule} :
    Evaluable args piiTables rule ↔ HoursReadable rule args.submissionHour := by
  unfold Evaluable HoursReadable
  by_cases hid : rule.ruleId = "POLICY_AFTER_HOURS"
  · have hmatch : matchRule args piiTables rule =
        (inBusinessHours rule args.submissionHour).map (!·) := by
      unfold matchRule
      simp [hid]
    rw [hmatch]
    cases inBusinessHours rule args.submissionHour with
    | error message => simp [hid, Except.map]
    | ok inside => simp [Except.map]
  · simp only [hid, false_imp_iff, iff_true]
    unfold matchRule
    simp only [hid, if_false]
    split_ifs
    all_goals exact ⟨_, rfl⟩

/-- When a rule matches. -/
theorem fires_iff {rule : PolicyRule} :
    fires args piiTables rule = true ↔
      rule.ruleId = "POLICY_DDL_NO_BACKUP" ∧ args.operationType ∈ ["DROP", "TRUNCATE"] ∨
      rule.ruleId = "POLICY_PII_STANDARD_REVIEW" ∧ overlaps args.tables piiTables = true ∨
      rule.ruleId = "POLICY_EXTERNAL_INPUT" ∧ args.sourceType = "external_user_input" ∨
      rule.ruleId = "POLICY_BULK_DELETE_SENSITIVE" ∧ args.operationType ∈ ["DELETE", "UPDATE"] ∧
        overlaps args.tables sensitiveTables = true ∧ bulkRowThreshold < args.estimatedRows ∨
      rule.ruleId = "POLICY_PAYMENT_WEBHOOK" ∧ args.hasExternalTriggers = true ∨
      rule.ruleId = "POLICY_AFTER_HOURS" ∧
        inBusinessHours rule args.submissionHour = .ok false ∨
      rule.ruleId = "POLICY_PII_EXPENSIVE_READ" ∧ args.operationType = "SELECT" ∧
        overlaps args.tables piiTables = true ∧
        piiExplainCostThreshold.lt args.explainCost = true := by
  unfold fires matchRule
  -- one case for each rule that the engine knows, in its order
  by_cases hddl : rule.ruleId = "POLICY_DDL_NO_BACKUP"
  · simp [hddl]
  by_cases hpii : rule.ruleId = "POLICY_PII_STANDARD_REVIEW"
  · simp [hpii]
  by_cases hexternal : rule.ruleId = "POLICY_EXTERNAL_INPUT"
  · simp [hexternal]
  by_cases hbulk : rule.ruleId = "POLICY_BULK_DELETE_SENSITIVE"
  · simp [hbulk, and_assoc]
  by_cases hwebhook : rule.ruleId = "POLICY_PAYMENT_WEBHOOK"
  · simp [hwebhook]
  by_cases hhours : rule.ruleId = "POLICY_AFTER_HOURS"
  · cases inBusinessHours rule args.submissionHour <;> simp [hhours, Except.map]
  by_cases hpattern : rule.ruleId = "POLICY_AUTO_REJECT_PATTERN"
  · simp [hpattern]
  by_cases hread : rule.ruleId = "POLICY_PII_EXPENSIVE_READ"
  · simp [hread, and_assoc]
  · simp [hddl, hpii, hexternal, hbulk, hwebhook, hhours, hpattern, hread]

/-- The rule can be evaluated, and matches. -/
def triggers (matching : PolicyRule → Except String Bool) (rule : PolicyRule) : Bool :=
  match matching rule with
  | .ok matched => matched
  | .error _ => false

theorem evaluateRule_of_ok {matching : PolicyRule → Except String Bool} {rule : PolicyRule}
    (h : ∃ matched, matching rule = .ok matched) (e : Evaluation) :
    evaluateRule matching e rule =
      .ok (if triggers matching rule then addTriggered e rule else e) := by
  obtain ⟨matched, hmatched⟩ := h
  unfold evaluateRule triggers
  rw [hmatched]
  rfl

/-- The loop, from any result so far. -/
theorem foldlM_evaluateRule {matching : PolicyRule → Except String Bool} {rules : List PolicyRule}
    {e e' : Evaluation} :
    rules.foldlM (evaluateRule matching) e = .ok e' ↔
      (∀ rule ∈ rules, ∃ matched, matching rule = .ok matched) ∧
      e' = (rules.filter (triggers matching)).foldl addTriggered e := by
  induction rules generalizing e with
  | nil => simp [pure, Except.pure, eq_comm]
  | cons rule rules ih =>
    rw [List.foldlM_cons, List.forall_mem_cons]
    cases hmatch : matching rule with
    | error message =>
      -- the first rule that raises ends the loop
      have herror : evaluateRule matching e rule = .error message := by
        unfold evaluateRule
        rw [hmatch]
        rfl
      rw [herror]
      constructor
      · intro h
        cases h
      · rintro ⟨⟨⟨_, hok⟩, -⟩, -⟩
        cases hok
    | ok matched =>
      rw [evaluateRule_of_ok ⟨matched, hmatch⟩]
      show List.foldlM _ _ rules = _ ↔ _
      rw [ih, List.filter_cons]
      simp only [Except.ok.injEq, exists_eq', true_and]
      split <;> rfl

/-- The evaluation, when it does not raise. -/
theorem evaluateOperation_eq_ok {rules : List PolicyRule} {e : Evaluation} :
    evaluateOperation args piiTables rules = .ok e ↔
      (∀ rule ∈ rules, Evaluable args piiTables rule) ∧
      e = (rules.filter (fires args piiTables)).foldl addTriggered {} :=
  foldlM_evaluateRule

theorem foldl_addTriggered_triggeredRules (rules : List PolicyRule) (e : Evaluation) :
    (rules.foldl addTriggered e).triggeredRules = e.triggeredRules ++ rules := by
  induction rules generalizing e with
  | nil => simp
  | cons rule rules ih =>
    rw [List.foldl_cons, ih]
    simp [addTriggered]

theorem foldl_addTriggered_hasHardViolation (rules : List PolicyRule) (e : Evaluation) :
    (rules.foldl addTriggered e).hasHardViolation =
      (e.hasHardViolation || rules.any fun rule => rule.severityOf = "HARD") := by
  induction rules generalizing e with
  | nil => simp
  | cons rule rules ih =>
    rw [List.foldl_cons, ih, List.any_cons]
    simp [addTriggered, Bool.or_assoc]

variable (store : PolicyStore)

/-- The result that a gate works with: the evaluation, or none if it raised. -/
def outcome (args : PolicyArguments) (tenantId : String) : Evaluation :=
  match evaluateOperation args store.piiTables (store.activeRules tenantId) with
  | .ok e => e
  | .error _ => {}

/-- The reply of a healthy policy store. -/
def reply (tool : String) (arguments : Py.Dict) : TargetReply :=
  if tool = "evaluate_rules" then
    match store.evaluateRules arguments with
    | .returned value => .result value
    | .foreign typeName => .mcpCallError typeName
    | .raised message => .mcpCallError message
  else .mcpCallError "not found"

/-- The hours of all active rules can be compared with the hour. -/
def AllReadable (tenantId : String) (hour : ℤ) : Prop :=
  ∀ rule ∈ store.activeRules tenantId, HoursReadable rule hour

/-- All active rules can be evaluated. -/
def AllEvaluable (args : PolicyArguments) (tenantId : String) : Prop :=
  ∀ rule ∈ store.activeRules tenantId, Evaluable args store.piiTables rule

theorem allEvaluable_iff {tenantId : String} :
    store.AllEvaluable args tenantId ↔ store.AllReadable tenantId args.submissionHour :=
  forall₂_congr fun _ _ => evaluable_iff

/-- Where all rules can be evaluated, those that match are collected. -/
theorem outcome_of_allEvaluable {tenantId : String} (hall : store.AllEvaluable args tenantId) :
    store.outcome args tenantId =
      ((store.activeRules tenantId).filter (fires args store.piiTables)).foldl addTriggered {} := by
  unfold outcome
  rw [evaluateOperation_eq_ok.mpr ⟨hall, rfl⟩]

/-- Where one cannot, the evaluation raises. -/
theorem outcome_of_not_allEvaluable {tenantId : String}
    (hnot : ¬ store.AllEvaluable args tenantId) : store.outcome args tenantId = {} := by
  unfold outcome
  cases heval : evaluateOperation args store.piiTables (store.activeRules tenantId) with
  | ok e => exact absurd (evaluateOperation_eq_ok.mp heval).1 hnot
  | error message => rfl

/-- A hard rule is violated exactly when the evaluation goes through and one of the rules that
match is hard. -/
theorem outcome_hasHardViolation {tenantId : String} :
    (store.outcome args tenantId).hasHardViolation = true ↔
      store.AllEvaluable args tenantId ∧
      ∃ rule ∈ store.activeRules tenantId,
        rule.severityOf = "HARD" ∧ fires args store.piiTables rule = true := by
  by_cases hall : store.AllEvaluable args tenantId
  · rw [outcome_of_allEvaluable store hall, foldl_addTriggered_hasHardViolation]
    simp only [Bool.false_or, hall, true_and]
    rw [List.any_eq_true]
    constructor
    · rintro ⟨rule, hmem, hhard⟩
      obtain ⟨hmem, hfires⟩ := List.mem_filter.mp hmem
      exact ⟨rule, hmem, of_decide_eq_true hhard, hfires⟩
    · rintro ⟨rule, hmem, hhard, hfires⟩
      exact ⟨rule, List.mem_filter.mpr ⟨hmem, hfires⟩, decide_eq_true hhard⟩
  · rw [outcome_of_not_allEvaluable store hall]
    simp [hall]

/-- No rule is triggered exactly when the evaluation raises or no rule matches. -/
theorem outcome_triggeredRules {tenantId : String} :
    (store.outcome args tenantId).triggeredRules = [] ↔
      (store.AllEvaluable args tenantId →
        ∀ rule ∈ store.activeRules tenantId, fires args store.piiTables rule = false) := by
  by_cases hall : store.AllEvaluable args tenantId
  · rw [outcome_of_allEvaluable store hall, foldl_addTriggered_triggeredRules]
    simp only [List.nil_append, hall, true_imp_iff]
    simp
  · rw [outcome_of_not_allEvaluable store hall]
    simp [hall]

/-- An evaluation in which no rule was triggered is the empty one. -/
theorem outcome_eq_empty {tenantId : String}
    (h : (store.outcome args tenantId).triggeredRules = []) :
    store.outcome args tenantId = {} := by
  by_cases hall : store.AllEvaluable args tenantId
  · rw [outcome_of_allEvaluable store hall] at h ⊢
    rw [foldl_addTriggered_triggeredRules, List.nil_append] at h
    rw [h]
    rfl
  · exact outcome_of_not_allEvaluable store hall

end PolicyStore

namespace PolicyArguments

theorem mapM_str? (texts : List String) :
    (texts.map Py.Json.str).mapM (·.str?) = some texts := by
  rw [List.mapM_map]
  exact List.mapM_pure.trans (congrArg some (List.map_id' texts))

/-- The arguments arrive as they are sent. -/
theorem bindKeywords_toDict (args : PolicyArguments) (tenantId : String) :
    Py.bindKeywords PolicyStore.evaluateRulesParameters (args.toDict tenantId) =
      .ok ((args.toDict tenantId).map (·.2)) := rfl

theorem ofValues_toDict (args : PolicyArguments) (tenantId : String) :
    ofValues ((args.toDict tenantId).map (·.2)) = some (args, tenantId) := by
  unfold toDict ofValues
  simp only [List.map_cons, List.map_nil, mapM_str?, Py.Json.number?, Option.bind_eq_bind,
    Option.bind_some]

end PolicyArguments

/-- How the exchange behind a reply ends for a caller that reads the envelope itself. -/
def Transport.ofReply : TargetReply → Transport
  | .result value => .response (McpServer.envelope value)
  | .mcpCallError message => .response (McpServer.httpException 500 message)
  | .otherError => .connectionError

namespace PolicyStore

variable (store : PolicyStore)

/-- What a healthy store replies to the arguments of a gate. -/
theorem reply_toDict (args : PolicyArguments) (tenantId : String) :
    store.reply "evaluate_rules" (args.toDict tenantId) =
      match evaluateOperation args store.piiTables (store.activeRules tenantId) with
      | .ok e => .result (.obj e.entries)
      | .error message => .mcpCallError message := by
  unfold reply evaluateRules
  rw [if_pos rfl, PolicyArguments.bindKeywords_toDict]
  simp only [PolicyArguments.ofValues_toDict]
  cases evaluateOperation args store.piiTables (store.activeRules tenantId) <;> rfl

/-- The orchestrator works with the outcome. -/
theorem policyOutcome_reply (args : PolicyArguments) (tenantId : String) :
    RiskGate.policyOutcome (store.reply "evaluate_rules" (args.toDict tenantId)) =
      some (.obj (store.outcome args tenantId).entries) := by
  rw [reply_toDict]
  unfold outcome
  cases evaluateOperation args store.piiTables (store.activeRules tenantId) <;> rfl

/-- The quick gate works with the outcome too. -/
theorem readPolicy_reply (args : PolicyArguments) (tenantId : String) :
    QuickCheck.readPolicy (.ofReply (store.reply "evaluate_rules" (args.toDict tenantId))) =
      (.bool (store.outcome args tenantId).hasHardViolation,
       Evaluation.optionalText (store.outcome args tenantId).autoRejectReason) := by
  rw [reply_toDict]
  unfold outcome
  cases evaluateOperation args store.piiTables (store.activeRules tenantId) <;> rfl

end PolicyStore

namespace RiskGate

/-- The violation that the gate makes of a rule. -/
def violationOfRule (rule : PolicyRule) : PolicyViolation where
  ruleId := rule.ruleId
  ruleName := rule.nameOf
  severity := rule.severityOf
  description := rule.descriptionOf

theorem violationsOf_triggeredRules (rules : List PolicyRule) :
    violationsOf (.arr (rules.map Evaluation.triggeredEntry)) =
      some (rules.map violationOfRule) := by
  show (rules.map Evaluation.triggeredEntry).mapM violationOf = _
  rw [List.mapM_map]
  exact List.mapM_pure

/-- An evaluation is applied without an exception. -/
theorem applyPolicyResult_entries (e : Evaluation) (cost : Py.Float) (now : Time)
    (c : HandoffContract) :
    ∃ c', applyPolicyResult cost (.obj e.entries) now c = some c' ∧
      Applied cost e.entries (e.triggeredRules.map violationOfRule) c c' := by
  have hlisted : violationsOf (Py.Dict.getD e.entries "triggered_rules" (.arr [])) =
      some (e.triggeredRules.map violationOfRule) := violationsOf_triggeredRules e.triggeredRules
  exact exists_applyPolicyResult rfl hlisted cost now c

variable {texts : Py.NumberText} (letters : Py.CaseMap) (wide : Char → Bool)
  {servers : GateServers} (store : PolicyStore) {c : HandoffContract} {explain : ExplainSummary}

/-- With a healthy policy store the gate applies the outcome of the evaluation. -/
theorem gateOn_healthy (hstore : servers.policyStore = store.reply)
    (hexplain : explainOutcome texts (explainReply servers c) = some explain) (hour : ℤ)
    (now : Time) :
    ∃ c', gateOn texts letters wide servers hour now c = some c' ∧
      Applied explain.totalCost
        (store.outcome (policyArguments letters wide c explain hour) c.tenantId).entries
        ((store.outcome (policyArguments letters wide c explain hour)
          c.tenantId).triggeredRules.map violationOfRule) c c' := by
  obtain ⟨c', happly, happlied⟩ := applyPolicyResult_entries
    (store.outcome (policyArguments letters wide c explain hour) c.tenantId) explain.totalCost
    now c
  refine ⟨c', ?_, happlied⟩
  unfold gateOn policyReply
  rw [hexplain, hstore, Option.bind_eq_bind, Option.bind_some, PolicyStore.policyOutcome_reply,
    Option.bind_eq_bind, Option.bind_some]
  exact happly

end RiskGate
