import Mathlib.Algebra.Order.Ring.Rat
import Mathlib.Tactic.Linarith
import Mathlib.Tactic.NormNum
import Mathlib.Tactic.Ring
import ContraGate.HandoffSchema

/-!
# Deterministic risk tiers (`agents/contract/risk_rules.py`)

`classify_risk` reads the contract that the analyzer and the retrieval have filled in. Every
summand of the score has two decimals, so the exact sum needs no rounding to three.
-/

namespace RiskRules

def cascadeRowThreshold : ℤ := 50000

def externalTriggerThreshold : ℕ := 5

def highRiskScore : ℚ := 7 / 10

def lowConfidenceThreshold : Py.Float := .finite (25 / 100)

/-- `_BASE_SCORES`. -/
def baseScores : OperationType → ℚ
  | .select => 5 / 100
  | .insert => 15 / 100
  | .update => 25 / 100
  | .delete => 35 / 100
  | .ddl => 50 / 100
  | .unknown => 20 / 100

/-- `min(1.0, score + amount)`. -/
def add (score amount : ℚ) : ℚ := min 1 (score + amount)

/-- The contribution of the primary rows. -/
def primaryRowsScore (primaryRows : Py.Float) (score : ℚ) : ℚ :=
  if (Py.Float.finite 1000000).lt primaryRows then add score (30 / 100)
  else if (Py.Float.finite 100000).lt primaryRows then add score (20 / 100)
  else if (Py.Float.finite 10000).lt primaryRows then add score (15 / 100)
  else if (Py.Float.finite 1000).lt primaryRows then add score (8 / 100)
  else score

/-- The contribution of the cascade rows. -/
def cascadeRowsScore (cascadeTotal : ℤ) (score : ℚ) : ℚ :=
  if cascadeTotal > 500000 then add score (25 / 100)
  else if cascadeTotal > 100000 then add score (15 / 100)
  else if cascadeTotal > 10000 then add score (10 / 100)
  else if cascadeTotal > 0 then add score (5 / 100)
  else score

/-- The contribution of the row confidence. -/
def confidenceScore (rowConfidence : Py.Float) (score : ℚ) : ℚ :=
  if rowConfidence.lt lowConfidenceThreshold then add score (10 / 100)
  else if rowConfidence.lt (.finite (5 / 10)) then add score (5 / 100)
  else score

/-- `contract.row_confidence` as it is compared; what is no number raises, see `classifyRisk`. -/
def confidence (contract : HandoffContract) : Py.Float :=
  (contract.rowConfidence.num?.map Py.Number.value).getD .nan

/-- `cascade_total`. -/
def cascadeTotal (contract : HandoffContract) : ℤ := (contract.cascade.map (·.estimatedRows)).sum

/-- `rejection_count`. -/
def rejectionCount (contract : HandoffContract) : ℕ :=
  contract.historicalPrecedents.countP (·.outcome = "REJECTED")

/-- The score before the historical rejections are added. -/
def scoreBeforeRejections (contract : HandoffContract) : ℚ :=
  let score := baseScores contract.operationType
  let score := primaryRowsScore contract.estimatedPrimaryRows.value score
  let score := cascadeRowsScore (cascadeTotal contract) score
  add score (contract.externalTriggers.length * (5 / 100))

/-- What follows the historical rejections in the score. -/
def scoreAfterRejections (contract : HandoffContract) (score : ℚ) : ℚ :=
  let score := confidenceScore (confidence contract) score
  let score := add score (contract.policyViolations.length * (10 / 100))
  if contract.reversibility = some .partiallyReversible then add score (10 / 100) else score

/-- `_compute_risk_score`. -/
def computeRiskScore (contract : HandoffContract) : ℚ :=
  scoreAfterRejections contract
    (add (scoreBeforeRejections contract) (rejectionCount contract * (5 / 100)))

/-- `_apply_tier_rules`: the first condition that holds decides. -/
def applyTierRules (contract : HandoffContract) (riskScore : ℚ) : RiskTier :=
  if contract.requiredTierFromPolicy.str? = some "FULL_CONTRACT" then .fullContract
  else if contract.reversibility = some .permanent then .fullContract
  else if contract.historicalPrecedents.any (·.outcome = "REJECTED") then .fullContract
  else if contract.promptInjectionRisk then .fullContract
  else if cascadeTotal contract > cascadeRowThreshold then .fullContract
  else if contract.externalTriggers.length ≥ externalTriggerThreshold then .fullContract
  else if riskScore > highRiskScore then .fullContract
  else if (confidence contract).lt lowConfidenceThreshold then .fullContract
  else if contract.operationType = .select ∧ contract.policyViolations.isEmpty ∧
      riskScore < 3 / 10 ∧ contract.requiredTierFromPolicy.truthy = false then .auto
  else .standard

/-- `classify_risk`; a confidence that cannot be compared raises. -/
def classifyRisk (contract : HandoffContract) : Option (RiskTier × ℚ) :=
  contract.rowConfidence.num?.map fun _ =>
    let riskScore := computeRiskScore contract
    (applyTierRules contract riskScore, riskScore)

theorem classifyRisk_eq_some_iff {contract : HandoffContract} {risk : RiskTier × ℚ} :
    classifyRisk contract = some risk ↔ contract.rowConfidence.num?.isSome = true ∧
      risk = (applyTierRules contract (computeRiskScore contract), computeRiskScore contract) := by
  unfold classifyRisk
  cases contract.rowConfidence.num? <;> simp [eq_comm]

/-- A surfaced historical rejection escalates. -/
theorem applyTierRules_of_rejected {contract : HandoffContract} {h : HistoricalOperation}
    (hmem : h ∈ contract.historicalPrecedents) (houtcome : h.outcome = "REJECTED")
    (riskScore : ℚ) : applyTierRules contract riskScore = .fullContract := by
  have hany : contract.historicalPrecedents.any (·.outcome = "REJECTED") = true := by
    rw [List.any_eq_true]
    exact ⟨h, hmem, decide_eq_true houtcome⟩
  unfold applyTierRules
  rw [hany]
  simp only [if_true, ite_self]

/-- So does a change that cannot be undone. -/
theorem applyTierRules_of_permanent {contract : HandoffContract}
    (h : contract.reversibility = some .permanent) (riskScore : ℚ) :
    applyTierRules contract riskScore = .fullContract := by
  unfold applyTierRules
  rw [h]
  simp only [if_true, ite_self]

/-! ## The score as a sum

Every summand is nonnegative, so the caps in between make no difference: the score is the sum,
capped once. -/

/-- What the primary rows add. -/
def primaryRowsAmount (primaryRows : Py.Float) : ℚ :=
  if (Py.Float.finite 1000000).lt primaryRows then 30 / 100
  else if (Py.Float.finite 100000).lt primaryRows then 20 / 100
  else if (Py.Float.finite 10000).lt primaryRows then 15 / 100
  else if (Py.Float.finite 1000).lt primaryRows then 8 / 100
  else 0

/-- What the cascade rows add. -/
def cascadeRowsAmount (cascadeTotal : ℤ) : ℚ :=
  if cascadeTotal > 500000 then 25 / 100
  else if cascadeTotal > 100000 then 15 / 100
  else if cascadeTotal > 10000 then 10 / 100
  else if cascadeTotal > 0 then 5 / 100
  else 0

/-- What a low confidence adds. -/
def confidenceAmount (rowConfidence : Py.Float) : ℚ :=
  if rowConfidence.lt lowConfidenceThreshold then 10 / 100
  else if rowConfidence.lt (.finite (5 / 10)) then 5 / 100
  else 0

/-- What `PARTIAL` adds. -/
def partialAmount (reversibility : Option ReversibilityClass) : ℚ :=
  if reversibility = some .partiallyReversible then 10 / 100 else 0

/-- The sum of everything but the historical rejections. -/
def otherComponents (contract : HandoffContract) : ℚ :=
  baseScores contract.operationType + primaryRowsAmount contract.estimatedPrimaryRows.value +
    cascadeRowsAmount (cascadeTotal contract) + contract.externalTriggers.length * (5 / 100) +
    confidenceAmount (confidence contract) + contract.policyViolations.length * (10 / 100) +
    partialAmount contract.reversibility

theorem add_min {x amount : ℚ} (h : 0 ≤ amount) : add (min 1 x) amount = min 1 (x + amount) := by
  unfold add
  -- at the cap both sides are 1
  rcases le_total 1 x with hx | hx
  · rw [min_eq_left hx, min_eq_left (by linarith), min_eq_left (by linarith)]
  · rw [min_eq_right hx]

/-- One rung of a ladder of thresholds. -/
theorem rung_min {p : Prop} [Decidable p] {x amount score other : ℚ} (hamount : 0 ≤ amount)
    (hother : score = min 1 (x + other)) :
    (if p then add (min 1 x) amount else score) = min 1 (x + if p then amount else other) := by
  split
  · exact add_min hamount
  · exact hother

/-- Below the last threshold nothing is added. -/
theorem floor_min (x : ℚ) : min 1 x = min 1 (x + 0) := by rw [add_zero]

theorem primaryRowsScore_min (primaryRows : Py.Float) (x : ℚ) :
    primaryRowsScore primaryRows (min 1 x) = min 1 (x + primaryRowsAmount primaryRows) := by
  unfold primaryRowsScore primaryRowsAmount
  apply rung_min (by norm_num)
  apply rung_min (by norm_num)
  apply rung_min (by norm_num)
  apply rung_min (by norm_num)
  exact floor_min x

theorem cascadeRowsScore_min (total : ℤ) (x : ℚ) :
    cascadeRowsScore total (min 1 x) = min 1 (x + cascadeRowsAmount total) := by
  unfold cascadeRowsScore cascadeRowsAmount
  apply rung_min (by norm_num)
  apply rung_min (by norm_num)
  apply rung_min (by norm_num)
  apply rung_min (by norm_num)
  exact floor_min x

theorem confidenceScore_min (rowConfidence : Py.Float) (x : ℚ) :
    confidenceScore rowConfidence (min 1 x) = min 1 (x + confidenceAmount rowConfidence) := by
  unfold confidenceScore confidenceAmount
  apply rung_min (by norm_num)
  apply rung_min (by norm_num)
  exact floor_min x

/-- The score is the sum of its components, capped at 1. -/
theorem computeRiskScore_eq (contract : HandoffContract) :
    computeRiskScore contract =
      min 1 (otherComponents contract + rejectionCount contract * (5 / 100)) := by
  have hbase : baseScores contract.operationType = min 1 (baseScores contract.operationType) := by
    rw [min_eq_right]
    cases contract.operationType <;> norm_num [baseScores]
  have hamount : ∀ (n : ℕ) (q : ℚ), 0 ≤ q → 0 ≤ (n : ℚ) * q := fun n q hq =>
    mul_nonneg (Nat.cast_nonneg n) hq
  -- the caps in front of the rejections first, then those behind them
  have hbefore : scoreBeforeRejections contract =
      min 1 (baseScores contract.operationType +
        primaryRowsAmount contract.estimatedPrimaryRows.value +
        cascadeRowsAmount (cascadeTotal contract) +
        contract.externalTriggers.length * (5 / 100)) := by
    unfold scoreBeforeRejections
    dsimp only
    rw [hbase, primaryRowsScore_min, cascadeRowsScore_min, add_min (hamount _ _ (by norm_num)),
      ← hbase]
  unfold computeRiskScore scoreAfterRejections
  dsimp only
  rw [hbefore, add_min (hamount _ _ (by norm_num)), confidenceScore_min,
    add_min (hamount _ _ (by norm_num))]
  unfold otherComponents partialAmount
  split_ifs
  · rw [add_min (by norm_num)]
    congr 1
    ring
  · congr 1
    ring

end RiskRules
