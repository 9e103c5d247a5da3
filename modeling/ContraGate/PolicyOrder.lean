import ContraGate.PolicyEvaluation

/-!
# The order of the policy rules, and more rules

`evaluate_operation` has five accumulators. Only `auto_reject_reason` depends on the order in which
the database returns the rules: the flags and the required tier are functions of which rules match,
and grow with them. In particular a weaker rule later in the list never weakens the tier.
-/

/-- The order `None` < `STANDARD` < `FULL_CONTRACT`. -/
def PolicyStore.tierRank : Option String → ℕ
  | none => 0
  | some tier => if tier = "FULL_CONTRACT" then 2 else 1

namespace Evaluation

/-- The results demand the same. -/
structure SameVerdict (e e' : Evaluation) : Prop where
  hasHardViolation : e.hasHardViolation = e'.hasHardViolation
  hasSoftViolation : e.hasSoftViolation = e'.hasSoftViolation
  requiredTier : e.requiredTier = e'.requiredTier

/-- The second result demands whatever the first does. -/
structure AtMost (e e' : Evaluation) : Prop where
  hasHardViolation : e.hasHardViolation = true → e'.hasHardViolation = true
  hasSoftViolation : e.hasSoftViolation = true → e'.hasSoftViolation = true
  requiredTier : PolicyStore.tierRank e.requiredTier ≤ PolicyStore.tierRank e'.requiredTier

end Evaluation

namespace PolicyStore

/-! ## What the accumulators hold -/

theorem foldl_addTriggered_hasSoftViolation (rules : List PolicyRule) (e : Evaluation) :
    (rules.foldl addTriggered e).hasSoftViolation =
      (e.hasSoftViolation || rules.any fun rule => rule.severityOf ≠ "HARD") := by
  induction rules generalizing e with
  | nil => simp
  | cons rule rules ih =>
    rw [List.foldl_cons, ih, List.any_cons]
    simp [addTriggered, Bool.or_assoc]

/-- A full contract overrides whatever is required so far, a standard review nothing. -/
theorem foldl_addTriggered_requiredTier (rules : List PolicyRule) (e : Evaluation) :
    (rules.foldl addTriggered e).requiredTier =
      if ∃ rule ∈ rules, rule.actionOf = "REQUIRE_FULL_CONTRACT" then some "FULL_CONTRACT"
      else if (∃ rule ∈ rules, rule.actionOf = "REQUIRE_STANDARD_REVIEW") ∧ e.requiredTier = none
        then some "STANDARD"
      else e.requiredTier := by
  induction rules generalizing e with
  | nil => simp
  | cons rule rules ih =>
    rw [List.foldl_cons, ih]
    simp only [List.exists_mem_cons_iff]
    by_cases hfull : rule.actionOf = "REQUIRE_FULL_CONTRACT"
    · simp [addTriggered, hfull]
    · by_cases hstandard : rule.actionOf = "REQUIRE_STANDARD_REVIEW"
      · cases htier : e.requiredTier <;> simp [addTriggered, hstandard, htier]
      · simp [addTriggered, hfull, hstandard]

/-- The result for the rules that match, in their order. -/
def collect (rules : List PolicyRule) : Evaluation := rules.foldl addTriggered {}

variable {rules rules' : List PolicyRule}

theorem collect_triggeredRules : (collect rules).triggeredRules = rules := by
  simp [collect, foldl_addTriggered_triggeredRules]

theorem collect_hasHardViolation :
    (collect rules).hasHardViolation = true ↔ ∃ rule ∈ rules, rule.severityOf = "HARD" := by
  simp [collect, foldl_addTriggered_hasHardViolation]

theorem collect_hasSoftViolation :
    (collect rules).hasSoftViolation = true ↔ ∃ rule ∈ rules, rule.severityOf ≠ "HARD" := by
  simp [collect, foldl_addTriggered_hasSoftViolation]

theorem collect_requiredTier :
    (collect rules).requiredTier =
      if ∃ rule ∈ rules, rule.actionOf = "REQUIRE_FULL_CONTRACT" then some "FULL_CONTRACT"
      else if ∃ rule ∈ rules, rule.actionOf = "REQUIRE_STANDARD_REVIEW" then some "STANDARD"
      else none := by
  simp [collect, foldl_addTriggered_requiredTier]

/-- More rules demand more. -/
theorem collect_atMost (h : ∀ rule ∈ rules, rule ∈ rules') :
    (collect rules).AtMost (collect rules') where
  hasHardViolation := by
    rw [collect_hasHardViolation, collect_hasHardViolation]
    rintro ⟨rule, hrule, hhard⟩
    exact ⟨rule, h rule hrule, hhard⟩
  hasSoftViolation := by
    rw [collect_hasSoftViolation, collect_hasSoftViolation]
    rintro ⟨rule, hrule, hsoft⟩
    exact ⟨rule, h rule hrule, hsoft⟩
  requiredTier := by
    have hmore (action : String) (hsome : ∃ rule ∈ rules, rule.actionOf = action) :
        ∃ rule ∈ rules', rule.actionOf = action := by
      obtain ⟨rule, hrule, haction⟩ := hsome
      exact ⟨rule, h rule hrule, haction⟩
    have hfull := hmore "REQUIRE_FULL_CONTRACT"
    have hstandard := hmore "REQUIRE_STANDARD_REVIEW"
    rw [collect_requiredTier, collect_requiredTier]
    split_ifs <;> simp_all [tierRank]

/-- The same rules in another order demand the same. -/
theorem collect_sameVerdict (h : rules.Perm rules') :
    (collect rules).SameVerdict (collect rules') := by
  have hany (p : PolicyRule → Prop) : (∃ rule ∈ rules, p rule) ↔ ∃ rule ∈ rules', p rule :=
    exists_congr fun _ => and_congr_left fun _ => h.mem_iff
  constructor
  · rw [Bool.eq_iff_iff, collect_hasHardViolation, collect_hasHardViolation]
    exact hany _
  · rw [Bool.eq_iff_iff, collect_hasSoftViolation, collect_hasSoftViolation]
    exact hany _
  · rw [collect_requiredTier, collect_requiredTier]
    simp only [hany]

/-! ## The evaluation -/

variable (args : PolicyArguments) (piiTables : List String) (businessHours : ℤ × ℤ)

/-- Which rules match, where they can be evaluated. -/
def matched : PolicyRule → Bool :=
  triggers fun rule => matchRule args piiTables rule businessHours

variable {args piiTables businessHours}

/-- The evaluation collects the rules that match, if all can be evaluated. -/
theorem evaluateOperation_eq_ok_collect {e : Evaluation} :
    evaluateOperation args piiTables rules businessHours = .ok e ↔
      (∀ rule ∈ rules, ∃ b, matchRule args piiTables rule businessHours = .ok b) ∧
      e = collect (rules.filter (matched args piiTables businessHours)) :=
  foldlM_evaluateRule

/-- **Policy evaluation is order-independent and monotone in the rules.** For any order of the
rules it returns the matching rules in that order and the same verdict, or raises for both; with
more rules a result is no weaker; and a hard violation is a rule of severity `HARD` that was
triggered. -/
theorem evaluateOperation_order_monotone (args : PolicyArguments) (piiTables : List String)
    (businessHours : ℤ × ℤ) (rules : List PolicyRule) :
    (∀ rules', rules.Perm rules' → ∀ e,
      evaluateOperation args piiTables rules businessHours = .ok e →
      ∃ e', evaluateOperation args piiTables rules' businessHours = .ok e' ∧
        e.triggeredRules = rules.filter (matched args piiTables businessHours) ∧
        e'.triggeredRules = rules'.filter (matched args piiTables businessHours) ∧
        e.triggeredRules.Perm e'.triggeredRules ∧ e.SameVerdict e') ∧
    (∀ rules', rules.Sublist rules' → ∀ e',
      evaluateOperation args piiTables rules' businessHours = .ok e' →
      ∃ e, evaluateOperation args piiTables rules businessHours = .ok e ∧ e.AtMost e') ∧
    ∀ e, evaluateOperation args piiTables rules businessHours = .ok e →
      (e.hasHardViolation = true ↔ ∃ rule ∈ e.triggeredRules, rule.severityOf = "HARD") := by
  refine ⟨fun rules' hperm e he => ?_, fun rules' hsub e' he' => ?_, fun e he => ?_⟩
  · obtain ⟨hok, rfl⟩ := evaluateOperation_eq_ok_collect.mp he
    have hok' : ∀ rule ∈ rules', ∃ b, matchRule args piiTables rule businessHours = .ok b :=
      fun rule hrule => hok rule (hperm.mem_iff.mpr hrule)
    have hfilter := hperm.filter (matched args piiTables businessHours)
    refine ⟨_, evaluateOperation_eq_ok_collect.mpr ⟨hok', rfl⟩, collect_triggeredRules,
      collect_triggeredRules, ?_, collect_sameVerdict hfilter⟩
    rw [collect_triggeredRules, collect_triggeredRules]
    exact hfilter
  · obtain ⟨hok', rfl⟩ := evaluateOperation_eq_ok_collect.mp he'
    have hok : ∀ rule ∈ rules, ∃ b, matchRule args piiTables rule businessHours = .ok b :=
      fun rule hrule => hok' rule (hsub.subset hrule)
    have hfilter := hsub.filter (matched args piiTables businessHours)
    exact ⟨_, evaluateOperation_eq_ok_collect.mpr ⟨hok, rfl⟩,
      collect_atMost fun rule hrule => hfilter.subset hrule⟩
  · obtain ⟨-, rfl⟩ := evaluateOperation_eq_ok_collect.mp he
    rw [collect_hasHardViolation, collect_triggeredRules]

/-- What a gate works with does not depend on the order in which the database returns the rules. -/
theorem outcome_sameVerdict {store store' : PolicyStore} {tenantId : String}
    (hpii : store.piiTables = store'.piiTables)
    (h : (store.activeRules tenantId).Perm (store'.activeRules tenantId)) (args : PolicyArguments) :
    (store.outcome args tenantId).SameVerdict (store'.outcome args tenantId) := by
  have hall : store.AllEvaluable args tenantId ↔ store'.AllEvaluable args tenantId := by
    unfold AllEvaluable
    rw [hpii]
    exact forall_congr' fun _ => imp_congr_left h.mem_iff
  by_cases hevaluable : store.AllEvaluable args tenantId
  · rw [outcome_of_allEvaluable store hevaluable,
      outcome_of_allEvaluable store' (hall.mp hevaluable), hpii]
    exact collect_sameVerdict (h.filter _)
  · rw [outcome_of_not_allEvaluable store hevaluable,
      outcome_of_not_allEvaluable store' fun h' => hevaluable (hall.mpr h')]
    exact ⟨rfl, rfl, rfl⟩

/-- A `DELETE` at night, with a webhook. -/
def nightDelete : PolicyArguments where
  operationType := "DELETE"
  tables := ["orders"]
  estimatedRows := 5
  sourceType := "internal_system"
  hasExternalTriggers := true
  submissionHour := 23
  explainCost := .finite 10

/-- The rule about webhooks, which is hard. -/
def webhookRule : PolicyRule where
  ruleId := "POLICY_PAYMENT_WEBHOOK"
  action := some "REQUIRE_FULL_CONTRACT"
  severity := some "HARD"

/-- The rule about business hours. -/
def hoursRule : PolicyRule where
  ruleId := "POLICY_AFTER_HOURS"
  action := some "REQUIRE_STANDARD_REVIEW"

theorem evaluateOperation_order_monotone_night :
    (∃ e', evaluateOperation nightDelete [] [hoursRule, webhookRule] = .ok e' ∧
      e'.hasHardViolation = true ∧ e'.requiredTier = some "FULL_CONTRACT") ∧
    ∃ e, evaluateOperation nightDelete [] [hoursRule] = .ok e ∧
      tierRank e.requiredTier ≤ tierRank (some "FULL_CONTRACT") := by
  obtain ⟨e, he, hhard, htier⟩ : ∃ e,
      evaluateOperation nightDelete [] [webhookRule, hoursRule] = .ok e ∧
        e.hasHardViolation = true ∧ e.requiredTier = some "FULL_CONTRACT" := ⟨_, rfl, rfl, rfl⟩
  obtain ⟨horder, -, -⟩ :=
    evaluateOperation_order_monotone nightDelete [] (7, 20) [webhookRule, hoursRule]
  obtain ⟨e', he', -, -, -, hsame⟩ := horder [hoursRule, webhookRule] (.swap _ _ _) e he
  obtain ⟨-, hmore, -⟩ := evaluateOperation_order_monotone nightDelete [] (7, 20) [hoursRule]
  obtain ⟨e'', he'', hle⟩ := hmore [webhookRule, hoursRule] (.cons _ (.refl _)) e he
  refine ⟨⟨e', he', ?_, ?_⟩, e'', he'', ?_⟩
  · rw [← hsame.hasHardViolation, hhard]
  · rw [← hsame.requiredTier, htier]
  · rw [← htier]
    exact hle.requiredTier

end PolicyStore
