import Mathlib.Tactic.Linarith
import Mathlib.Tactic.NormNum
import ContraGate.ExplainResult

/-!
# When the orchestrator takes the fast path

For a `SELECT` without a violation the score is below 0.3 at every cost, unless the source is
external input: then a cost above 100,000 lifts it to 0.3. So whether EXPLAIN worked, and what
it said, decides nothing for internal sources.
-/

namespace RiskGate

variable (texts : Py.NumberText)

/-- The policy outcome has no violation, no hard violation and no required tier. -/
def PolicySilent (policy : TargetReply) : Prop :=
  ∃ policyResult entries, policyOutcome policy = some policyResult ∧
    policyResult.dict? = some entries ∧
    violationsOf (entries.getD "triggered_rules" (.arr [])) = some [] ∧
    (entries.getD "has_hard_violation" (.bool false)).truthy = false ∧
    (entries.get "required_tier").truthy = false

/-- The EXPLAIN call succeeded, and its payload states a number below 50,000 as the total
cost. -/
def StatesLowCost (explain : TargetReply) : Prop :=
  ∃ result entries plan fields cost x, explain = .result result ∧ result.dict? = some entries ∧
    planOf (entries.getD "explain_result" result) = .ok (some plan) ∧
    plan.dict? = some fields ∧ statedCost fields = some cost ∧ cost.number? = some x ∧
    x.lt (.finite 50000) = true

/-- The fast path is fail-safe for these replies: it is only taken on a low stated cost. -/
def FailSafe (contract : Ref) (m : Memory) (explain policy : TargetReply) (now now' : Time) :
    Prop :=
  ∀ m', (Resumed.machine (runRiskGate (explainConfig texts) contract)).exec (m, .explaining)
      [⟨explain, now⟩, ⟨policy, now'⟩] = some (m', .returned) →
    Guards.routeFromRiskGate (m'.contracts contract) = .autoExecute → StatesLowCost explain

/-- What keeps a contract from the fast path whatever EXPLAIN says about its cost: the
operation, the policy outcome, a reply the gate raises at, and for external input a parsed cost
above 100,000. -/
inductive Blocked (explain policy : TargetReply) (c : HandoffContract) : Prop
  | operation (h : c.operationType ≠ .select)
  | policy (h : ¬ PolicySilent policy)
  | raises (h : explainOutcome texts explain = none)
  | external (summary : ExplainSummary) (hsource : c.sourceType = .externalUserInput)
      (hsummary : explainOutcome texts explain = some summary)
      (hcost : Py.Float.lt (.finite 100000) summary.totalCost = true)

variable {texts}

/-- The score of a `SELECT` without violations. -/
theorem score_select {c : HandoffContract} {cost : Py.Float} (hselect : c.operationType = .select) :
    computeRiskScore c cost false < 3 / 10 ↔
      ¬ (c.sourceType = .externalUserInput ∧ Py.Float.lt (.finite 100000) cost = true) := by
  unfold computeRiskScore costScore bump
  rw [hselect]
  simp only [baseScore, Bool.false_eq_true, if_false]
  have hmono : Py.Float.lt (.finite 500000) cost = true →
      Py.Float.lt (.finite 100000) cost = true := by
    cases cost with
    | nan => exact id
    | inf negative => cases negative <;> exact id
    | finite q =>
      simp only [Py.Float.lt, decide_eq_true_eq]
      intro h
      linarith
  by_cases h500 : Py.Float.lt (.finite 500000) cost = true
  · have h100 := hmono h500
    by_cases hsource : c.sourceType = .externalUserInput <;> simp [h500, h100, hsource] <;> norm_num
  · by_cases h100 : Py.Float.lt (.finite 100000) cost = true <;>
      by_cases h50 : Py.Float.lt (.finite 50000) cost = true <;>
        by_cases hsource : c.sourceType = .externalUserInput <;>
          simp [h500, h100, h50, hsource] <;> norm_num

/-- The fast path, for a policy result that was applied. -/
theorem routeFromRiskGate_autoExecute {cost : Py.Float} {entries : Py.Dict}
    {violations : List PolicyViolation} {c c' : HandoffContract}
    (happlied : Applied cost entries violations c c') :
    Guards.routeFromRiskGate c' = .autoExecute ↔
      (entries.getD "has_hard_violation" (.bool false)).truthy = false ∧
      c.operationType = .select ∧ violations = [] ∧
      computeRiskScore c cost (!violations.isEmpty) < 3 / 10 ∧
      (entries.get "required_tier").truthy = false := by
  unfold Guards.routeFromRiskGate Guards.isFastPath
  rw [happlied.violations, happlied.triggered, happlied.tier, happlied.score, happlied.operation]
  have hscore : (Py.Float.ge (.finite (computeRiskScore c cost (!violations.isEmpty)))
      (.finite (3 / 10))) = false ↔ computeRiskScore c cost (!violations.isEmpty) < 3 / 10 := by
    simp [Py.Float.ge, Py.Float.lt]
  rw [← hscore]
  cases (entries.getD "has_hard_violation" (.bool false)).truthy with
  | true => simp
  | false =>
    simp only [Bool.false_eq_true, if_false, true_and]
    rw [← List.isEmpty_iff]
    split_ifs with h
    · simp only [Bool.and_eq_true, decide_eq_true_eq, Bool.not_eq_true'] at h
      tauto
    · simp only [Bool.and_eq_true, decide_eq_true_eq, Bool.not_eq_true'] at h
      tauto

/-- The gate takes the fast path exactly when nothing blocks the contract. -/
theorem gate_autoExecute {explain policy : TargetReply} {now : Time} {c : HandoffContract} :
    (∃ c', gate texts explain policy now c = some c' ∧
      Guards.routeFromRiskGate c' = .autoExecute) ↔ ¬ Blocked texts explain policy c := by
  unfold gate
  simp only [Option.bind_eq_bind, Option.bind_eq_some_iff]
  constructor
  · rintro ⟨c', ⟨summary, hsummary, policyResult, hpolicy, happly⟩, hroute⟩ hblocked
    obtain ⟨entries, violations, hdict, hviolations, happlied⟩ := applyPolicyResult_eq_some happly
    obtain ⟨hhard, hselect, rfl, hscore, htier⟩ :=
      (routeFromRiskGate_autoExecute happlied).mp hroute
    -- each way to be blocked contradicts one condition of the fast path
    cases hblocked with
    | operation h => exact h hselect
    | policy h => exact h ⟨policyResult, entries, hpolicy, hdict, hviolations, hhard, htier⟩
    | raises h =>
      rw [h] at hsummary
      cases hsummary
    | external summary' hsource hsummary' hcost =>
      obtain rfl : summary' = summary := Option.some.inj (hsummary'.symm.trans hsummary)
      exact (score_select hselect).mp hscore ⟨hsource, hcost⟩
  · intro hfree
    -- nothing blocks, so every step of the gate has a result
    have hselect : c.operationType = .select := not_not.mp fun h => hfree (.operation h)
    have hsilent : PolicySilent policy := not_not.mp fun h => hfree (.policy h)
    obtain ⟨policyResult, entries, hpolicy, hdict, hviolations, hhard, htier⟩ := hsilent
    cases hsummary : explainOutcome texts explain with
    | none => exact absurd (.raises hsummary) hfree
    | some summary =>
      obtain ⟨c', happly, happlied⟩ :=
        exists_applyPolicyResult hdict hviolations summary.totalCost now c
      refine ⟨c', ⟨summary, rfl, policyResult, hpolicy, happly⟩, ?_⟩
      rw [routeFromRiskGate_autoExecute happlied]
      refine ⟨hhard, hselect, rfl, (score_select hselect).mpr ?_, htier⟩
      rintro ⟨hsource, hcost⟩
      exact hfree (.external summary hsource hsummary hcost)

/-- The fast path is fail-safe exactly when something else blocks it or the payload states a
low cost. -/
theorem failSafe_iff (texts : Py.NumberText) (contract : Ref) (m : Memory)
    (explain policy : TargetReply) (now now' : Time) :
    FailSafe texts contract m explain policy now now' ↔
      Blocked texts explain policy (m.contracts contract) ∨ StatesLowCost explain := by
  unfold FailSafe
  constructor
  · intro hsafe
    -- what nothing blocks does take the fast path, and being safe then means a stated low cost
    rw [or_iff_not_imp_left]
    intro hfree
    obtain ⟨c', hgate, hroute⟩ := gate_autoExecute.mpr hfree
    refine hsafe _ (exec_eq_returned.mpr ⟨c', hgate, rfl⟩) ?_
    simpa [Memory.modifyContract] using hroute
  · rintro (hblocked | hlow) m' hrun hroute
    · obtain ⟨c', hgate, rfl⟩ := exec_eq_returned.mp hrun
      have hroute' : Guards.routeFromRiskGate c' = .autoExecute := by
        simpa [Memory.modifyContract] using hroute
      exact absurd hblocked (gate_autoExecute.mp ⟨c', hgate, hroute'⟩)
    · exact hlow

/-- A `SELECT` of an internal system, as `run_intake` builds it. -/
def selectContract : HandoffContract :=
  { sampleContract with rawSql := "SELECT * FROM t", operationType := .select }

/-- With EXPLAIN unavailable and no violation, a `SELECT` goes down the fast path. -/
theorem unavailable_autoExecute :
    ¬ ∀ (texts : Py.NumberText) (contract : Ref) (m : Memory) (explain policy : TargetReply)
      (now now' : Time), FailSafe texts contract m explain policy now now' := by
  intro hall
  have hfree : ¬ Blocked ⟨fun _ => none, fun _ => none⟩ (.mcpCallError "timeout")
      (.result safeDefaults) selectContract := by
    intro hblocked
    cases hblocked with
    | operation h => exact h rfl
    | policy h => exact h ⟨safeDefaults, _, rfl, rfl, rfl, rfl, rfl⟩
    | raises h => cases h
    | external summary hsource hsummary hcost => cases hsource
  obtain ⟨c', hgate, hroute⟩ := gate_autoExecute.mpr hfree
  obtain ⟨_, _, _, _, _, _, hreply, -⟩ := hall ⟨fun _ => none, fun _ => none⟩ 0
    (Memory.blank selectContract) (.mcpCallError "timeout") (.result safeDefaults) 0 0 _
    (exec_eq_returned.mpr ⟨c', hgate, rfl⟩) (by simpa [Memory.modifyContract] using hroute)
  cases hreply

end RiskGate
