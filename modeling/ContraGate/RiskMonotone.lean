import Mathlib.Data.Int.ConditionallyCompleteOrder
import Mathlib.Logic.Relation
import ContraGate.Library.PyFormat
import ContraGate.RiskRules

/-!
# More hazards, more risk

`Aggravates` lists the changes that make a contract no safer, one constructor each; a combination
of them is a chain. Every component of the score and every condition of the tier rules is monotone
along one such change (`AtMostAsRisky`), and so the score and the tier are along a chain. Rounding
the score has no part in this: all its summands have two decimals.
-/

/-- `a < b` and `b < c` give `a < c`, also between infinities. -/
theorem Py.Float.lt_trans {x y z : Py.Float} (hxy : x.lt y = true) (hyz : y.lt z = true) :
    x.lt z = true := by
  rcases x with _ | (_ | _) | p <;> rcases y with _ | (_ | _) | q <;>
    rcases z with _ | (_ | _) | r <;> simp_all [Py.Float.lt]
  -- three finite numbers are left
  exact hxy.trans hyz

/-- `a < b` and `c >= b` give `a < c`. -/
theorem Py.Float.lt_of_lt_of_ge {x y z : Py.Float} (hxy : x.lt y = true) (hzy : z.ge y = true) :
    x.lt z = true := by
  rcases x with _ | (_ | _) | p <;> rcases y with _ | (_ | _) | q <;>
    rcases z with _ | (_ | _) | r <;> simp_all [Py.Float.lt, Py.Float.ge]
  exact hxy.trans_le hzy

namespace RiskRules

/-- The order `AUTO` < `STANDARD` < `FULL_CONTRACT`. -/
def tierRank : RiskTier → ℕ
  | .auto => 0
  | .standard => 1
  | .fullContract => 2

/-- One change that makes a contract no safer. -/
inductive Aggravates (c : HandoffContract) : HandoffContract → Prop
  | cascadeEntry {before after : List CascadeEntry} {entry : CascadeEntry}
    (hcascade : c.cascade = before ++ after) (hrows : 0 ≤ entry.estimatedRows) :
    Aggravates c { c with cascade := before ++ entry :: after }
  | cascadeRows {before after : List CascadeEntry} {entry : CascadeEntry} {rows : ℤ}
    (hcascade : c.cascade = before ++ entry :: after) (hrows : entry.estimatedRows ≤ rows) :
    Aggravates c { c with cascade := before ++ { entry with estimatedRows := rows } :: after }
  | primaryRows {rows : Py.Number} (hrows : rows.value.ge c.estimatedPrimaryRows.value = true) :
    Aggravates c { c with estimatedPrimaryRows := rows }
  | externalTrigger {before after : List ExternalTrigger} (trigger : ExternalTrigger)
    (htriggers : c.externalTriggers = before ++ after) :
    Aggravates c { c with externalTriggers := before ++ trigger :: after }
  | policyViolation {before after : List PolicyViolation} (violation : PolicyViolation)
    (hviolations : c.policyViolations = before ++ after) :
    Aggravates c { c with policyViolations := before ++ violation :: after }
  | precedent {before after : List HistoricalOperation} (operation : HistoricalOperation)
    (hprecedents : c.historicalPrecedents = before ++ after) :
    Aggravates c { c with historicalPrecedents := before ++ operation :: after }
  | confidence {x : Py.Number} (hx : x.value.lt (confidence c) = true) :
    Aggravates c { c with rowConfidence := x.toJson }
  | requiredTier (hnone : c.requiredTierFromPolicy = .null) :
    Aggravates c { c with requiredTierFromPolicy := .str "FULL_CONTRACT" }
  | promptInjection : Aggravates c { c with promptInjectionRisk := true }

/-- A change for the worse of the reversibility. -/
inductive LosesReversibility (c : HandoffContract) : HandoffContract → Prop
  | lost {worse : ReversibilityClass}
    (hwas : c.reversibility = some .reversibleAutomated ∨ c.reversibility = some .reversiblePitr)
    (hworse : worse = .partiallyReversible ∨ worse = .permanent) :
    LosesReversibility c { c with reversibility := some worse }

/-- Nothing that the score and the tier rules read is better in the second contract. -/
structure AtMostAsRisky (c c' : HandoffContract) : Prop where
  operationType : c'.operationType = c.operationType
  primaryRows : ∀ x : Py.Float, x.lt c.estimatedPrimaryRows.value = true →
    x.lt c'.estimatedPrimaryRows.value = true
  cascadeTotal : cascadeTotal c ≤ cascadeTotal c'
  externalTriggers : c.externalTriggers.length ≤ c'.externalTriggers.length
  policyViolations : c.policyViolations.length ≤ c'.policyViolations.length
  rejections : rejectionCount c ≤ rejectionCount c'
  confidence : ∀ x, (confidence c).lt x = true → (RiskRules.confidence c').lt x = true
  fullTier : c.requiredTierFromPolicy.str? = some "FULL_CONTRACT" →
    c'.requiredTierFromPolicy.str? = some "FULL_CONTRACT"
  anyTier : c.requiredTierFromPolicy.truthy = true → c'.requiredTierFromPolicy.truthy = true
  promptInjection : c.promptInjectionRisk = true → c'.promptInjectionRisk = true
  reversibility : c'.reversibility = c.reversibility

namespace AtMostAsRisky

variable {c c' : HandoffContract}

theorem refl (c : HandoffContract) : AtMostAsRisky c c :=
  ⟨rfl, fun _ => id, le_rfl, le_rfl, le_rfl, le_rfl, fun _ => id, id, id, id, rfl⟩

theorem of_aggravates (h : Aggravates c c') : AtMostAsRisky c c' := by
  have hsame := refl c
  cases h with
  | cascadeEntry hcascade hrows =>
    refine { hsame with cascadeTotal := ?_ }
    simp only [RiskRules.cascadeTotal, hcascade, List.map_append, List.map_cons, List.sum_append,
      List.sum_cons]
    omega
  | cascadeRows hcascade hrows =>
    refine { hsame with cascadeTotal := ?_ }
    simp only [RiskRules.cascadeTotal, hcascade, List.map_append, List.map_cons, List.sum_append,
      List.sum_cons]
    omega
  | primaryRows hrows =>
    exact { hsame with primaryRows := fun _ h => Py.Float.lt_of_lt_of_ge h hrows }
  | externalTrigger trigger htriggers =>
    refine { hsame with externalTriggers := ?_ }
    simp only [htriggers, List.length_append, List.length_cons]
    omega
  | policyViolation violation hviolations =>
    refine { hsame with policyViolations := ?_ }
    simp only [hviolations, List.length_append, List.length_cons]
    omega
  | precedent operation hprecedents =>
    refine { hsame with rejections := ?_ }
    simp only [rejectionCount, hprecedents, List.countP_append, List.countP_cons]
    omega
  | confidence hx =>
    refine { hsame with confidence := fun _ h => ?_ }
    rw [RiskRules.confidence, Py.Number.num?_toJson]
    exact Py.Float.lt_trans hx h
  | requiredTier hnone =>
    exact { hsame with fullTier := fun _ => rfl, anyTier := fun _ => rfl }
  | promptInjection => exact { hsame with promptInjection := fun _ => rfl }

end AtMostAsRisky

/-! ## The score -/

/-- A rung of a ladder that is reached more easily, above a ladder that adds no less. -/
theorem rung_le {p q : Prop} [Decidable p] [Decidable q] {amount low low' : ℚ} (hpq : p → q)
    (hlow : low ≤ low') (hamount : low ≤ amount) :
    (if p then amount else low) ≤ if q then amount else low' := by
  by_cases hq : q
  · rw [if_pos hq]
    split_ifs
    · exact le_rfl
    · exact hamount
  · rw [if_neg (mt hpq hq), if_neg hq]
    exact hlow

/-- More rows do not add less. -/
theorem primaryRowsAmount_mono {x y : Py.Float} (h : ∀ z : Py.Float, z.lt x = true → z.lt y = true) :
    primaryRowsAmount x ≤ primaryRowsAmount y := by
  unfold primaryRowsAmount
  refine rung_le (h _) (rung_le (h _) (rung_le (h _) (rung_le (h _) le_rfl ?_) ?_) ?_) ?_
  · norm_num
  all_goals split_ifs <;> norm_num

theorem cascadeRowsAmount_mono : Monotone cascadeRowsAmount := by
  intro m n hmn
  unfold cascadeRowsAmount
  split_ifs <;> first | (exfalso; omega) | norm_num

/-- The less the confidence, the more it adds. -/
theorem confidenceAmount_mono {x y : Py.Float} (h : ∀ z, y.lt z = true → x.lt z = true) :
    confidenceAmount y ≤ confidenceAmount x := by
  unfold confidenceAmount
  by_cases hlow : y.lt lowConfidenceThreshold = true
  · rw [if_pos hlow, if_pos (h _ hlow)]
  · rw [if_neg hlow]
    by_cases hhalf : y.lt (.finite (5 / 10)) = true
    · rw [if_pos hhalf, if_pos (h _ hhalf)]
      split <;> norm_num
    · rw [if_neg hhalf]
      split_ifs <;> norm_num

theorem AtMostAsRisky.otherComponents_le {c c' : HandoffContract} (h : AtMostAsRisky c c') :
    otherComponents c ≤ otherComponents c' := by
  have htriggers : (c.externalTriggers.length : ℚ) ≤ c'.externalTriggers.length :=
    Nat.cast_le.mpr h.externalTriggers
  have hviolations : (c.policyViolations.length : ℚ) ≤ c'.policyViolations.length :=
    Nat.cast_le.mpr h.policyViolations
  have hprimary := primaryRowsAmount_mono h.primaryRows
  have hcascade := cascadeRowsAmount_mono h.cascadeTotal
  have hconfidence := confidenceAmount_mono h.confidence
  unfold otherComponents
  rw [h.operationType, h.reversibility]
  linarith

theorem AtMostAsRisky.computeRiskScore_le {c c' : HandoffContract} (h : AtMostAsRisky c c') :
    computeRiskScore c ≤ computeRiskScore c' := by
  have hrejections : (rejectionCount c : ℚ) ≤ rejectionCount c' := Nat.cast_le.mpr h.rejections
  have hothers := h.otherComponents_le
  rw [computeRiskScore_eq, computeRiskScore_eq]
  exact min_le_min_left 1 (by linarith)

theorem otherComponents_nonneg (c : HandoffContract) : 0 ≤ otherComponents c := by
  have hbase : 0 ≤ baseScores c.operationType := by
    cases c.operationType <;> norm_num [baseScores]
  have hprimary : 0 ≤ primaryRowsAmount c.estimatedPrimaryRows.value := by
    unfold primaryRowsAmount
    split_ifs <;> norm_num
  have hcascade : 0 ≤ cascadeRowsAmount (cascadeTotal c) := by
    unfold cascadeRowsAmount
    split_ifs <;> norm_num
  have hconfidence : 0 ≤ confidenceAmount (confidence c) := by
    unfold confidenceAmount
    split_ifs <;> norm_num
  have hpart : 0 ≤ partialAmount c.reversibility := by
    unfold partialAmount
    split_ifs <;> norm_num
  have htriggers : (0 : ℚ) ≤ c.externalTriggers.length := Nat.cast_nonneg _
  have hviolations : (0 : ℚ) ≤ c.policyViolations.length := Nat.cast_nonneg _
  unfold otherComponents
  linarith

theorem computeRiskScore_mem (c : HandoffContract) :
    0 ≤ computeRiskScore c ∧ computeRiskScore c ≤ 1 := by
  have hrejections : (0 : ℚ) ≤ rejectionCount c := Nat.cast_nonneg _
  have hothers := otherComponents_nonneg c
  rw [computeRiskScore_eq]
  exact ⟨le_min zero_le_one (by linarith), min_le_left _ _⟩

/-! ## Rounding -/

/-- A number of hundredths. -/
def Hundredths (q : ℚ) : Prop := ∃ k : ℤ, q = k / 100

namespace Hundredths

theorem zero : Hundredths 0 := ⟨0, by norm_num⟩

theorem add {x y : ℚ} (hx : Hundredths x) (hy : Hundredths y) : Hundredths (x + y) := by
  obtain ⟨m, rfl⟩ := hx
  obtain ⟨n, rfl⟩ := hy
  exact ⟨m + n, by push_cast; ring⟩

theorem times (n : ℕ) {x : ℚ} (hx : Hundredths x) : Hundredths (n * x) := by
  obtain ⟨m, rfl⟩ := hx
  exact ⟨n * m, by push_cast; ring⟩

/-- Three decimals are enough for two. -/
theorem round_eq {x : ℚ} (hx : Hundredths x) :
    (Py.roundHalfEven (x * 1000) : ℚ) / 1000 = x := by
  obtain ⟨k, rfl⟩ := hx
  have hwhole : (k : ℚ) / 100 * 1000 = ((10 * k : ℤ) : ℚ) := by push_cast; ring
  have hround : Py.roundHalfEven ((10 * k : ℤ) : ℚ) = 10 * k := by
    unfold Py.roundHalfEven
    dsimp only
    rw [Int.floor_intCast, sub_self, if_pos (by norm_num)]
  rw [hwhole, hround]
  push_cast
  ring

end Hundredths

theorem computeRiskScore_hundredths (c : HandoffContract) : Hundredths (computeRiskScore c) := by
  have hbase : Hundredths (baseScores c.operationType) := by
    cases c.operationType <;> exact ⟨_, rfl⟩
  have hprimary : Hundredths (primaryRowsAmount c.estimatedPrimaryRows.value) := by
    unfold primaryRowsAmount
    split_ifs <;> first | exact .zero | exact ⟨_, rfl⟩
  have hcascade : Hundredths (cascadeRowsAmount (cascadeTotal c)) := by
    unfold cascadeRowsAmount
    split_ifs <;> first | exact .zero | exact ⟨_, rfl⟩
  have hconfidence : Hundredths (confidenceAmount (confidence c)) := by
    unfold confidenceAmount
    split_ifs <;> first | exact .zero | exact ⟨_, rfl⟩
  have hpart : Hundredths (partialAmount c.reversibility) := by
    unfold partialAmount
    split_ifs <;> first | exact .zero | exact ⟨_, rfl⟩
  have hfive : Hundredths (5 / 100) := ⟨5, rfl⟩
  have hten : Hundredths (10 / 100) := ⟨10, rfl⟩
  have hsum : Hundredths (otherComponents c + rejectionCount c * (5 / 100)) :=
    ((((((hbase.add hprimary).add hcascade).add (hfive.times _)).add hconfidence).add
      (hten.times _)).add hpart).add (hfive.times _)
  rw [computeRiskScore_eq]
  rcases min_choice 1 (otherComponents c + rejectionCount c * (5 / 100)) with hmin | hmin
  · rw [hmin]
    exact ⟨100, by norm_num⟩
  · rw [hmin]
    exact hsum

/-! ## The tier -/

/-- Some rule asks for `FULL_CONTRACT`. -/
def NeedsFull (c : HandoffContract) (riskScore : ℚ) : Prop :=
  c.requiredTierFromPolicy.str? = some "FULL_CONTRACT" ∨
  c.reversibility = some .permanent ∨
  c.historicalPrecedents.any (·.outcome = "REJECTED") = true ∨
  c.promptInjectionRisk = true ∨
  cascadeTotal c > cascadeRowThreshold ∨
  c.externalTriggers.length ≥ externalTriggerThreshold ∨
  riskScore > highRiskScore ∨
  (confidence c).lt lowConfidenceThreshold = true

/-- The condition of `AUTO`. -/
def AllowsAuto (c : HandoffContract) (riskScore : ℚ) : Prop :=
  c.operationType = .select ∧ c.policyViolations.isEmpty ∧
    riskScore < 3 / 10 ∧ c.requiredTierFromPolicy.truthy = false

theorem applyTierRules_of_full {c : HandoffContract} {riskScore : ℚ} (h : NeedsFull c riskScore) :
    applyTierRules c riskScore = .fullContract := by
  unfold applyTierRules
  rcases h with h | h | h | h | h | h | h | h <;>
    simp only [h, if_true, ite_self]

theorem applyTierRules_of_not_full {c : HandoffContract} {riskScore : ℚ}
    (h : ¬ NeedsFull c riskScore) :
    (AllowsAuto c riskScore ∧ applyTierRules c riskScore = .auto) ∨
      (¬ AllowsAuto c riskScore ∧ applyTierRules c riskScore = .standard) := by
  simp only [NeedsFull, not_or] at h
  obtain ⟨hpolicy, hpermanent, hrejected, hinjection, hcascade, htriggers, hscore, hconfidence⟩ := h
  unfold applyTierRules
  rw [if_neg hpolicy, if_neg hpermanent, if_neg hrejected, if_neg hinjection, if_neg hcascade,
    if_neg htriggers, if_neg hscore, if_neg hconfidence]
  by_cases hauto : AllowsAuto c riskScore
  · exact .inl ⟨hauto, if_pos hauto⟩
  · exact .inr ⟨hauto, if_neg hauto⟩

/-- The rules for `FULL_CONTRACT` stay met, and `AUTO` is not allowed anew: the tier does not fall. -/
theorem applyTierRules_le {c c' : HandoffContract} {s s' : ℚ}
    (hfull : NeedsFull c s → NeedsFull c' s')
    (hauto : ¬ NeedsFull c' s' → AllowsAuto c' s' → AllowsAuto c s) :
    tierRank (applyTierRules c s) ≤ tierRank (applyTierRules c' s') := by
  by_cases h' : NeedsFull c' s'
  · rw [applyTierRules_of_full h']
    cases applyTierRules c s <;> decide
  have h : ¬ NeedsFull c s := fun h => h' (hfull h)
  rcases applyTierRules_of_not_full h' with ⟨hauto', htier'⟩ | ⟨-, htier'⟩
  · rcases applyTierRules_of_not_full h with ⟨-, htier⟩ | ⟨hno, -⟩
    · rw [htier, htier']
    · exact absurd (hauto h' hauto') hno
  · rcases applyTierRules_of_not_full h with ⟨-, htier⟩ | ⟨-, htier⟩
    · rw [htier, htier']
      decide
    · rw [htier, htier']

theorem rejected_iff (c : HandoffContract) :
    c.historicalPrecedents.any (·.outcome = "REJECTED") = true ↔ 0 < rejectionCount c := by
  unfold rejectionCount
  rw [List.countP_pos_iff, List.any_eq_true]

/-- The tier that the rules give with the contract's own score. -/
def tier (c : HandoffContract) : RiskTier := applyTierRules c (computeRiskScore c)

theorem AtMostAsRisky.tier_le {c c' : HandoffContract} (h : AtMostAsRisky c c') :
    tierRank (tier c) ≤ tierRank (tier c') := by
  have hscore := h.computeRiskScore_le
  refine applyTierRules_le (fun hfull => ?_) (fun _ hauto => ?_)
  · unfold NeedsFull at hfull ⊢
    rw [rejected_iff] at hfull ⊢
    rcases hfull with hp | hr | hc | hi | ht | he | hs | hx
    · exact .inl (h.fullTier hp)
    · exact .inr (.inl (h.reversibility.trans hr))
    · exact .inr (.inr (.inl (hc.trans_le h.rejections)))
    · exact .inr (.inr (.inr (.inl (h.promptInjection hi))))
    · exact .inr (.inr (.inr (.inr (.inl (ht.trans_le h.cascadeTotal)))))
    · exact .inr (.inr (.inr (.inr (.inr (.inl (he.trans h.externalTriggers))))))
    · exact .inr (.inr (.inr (.inr (.inr (.inr (.inl (hs.trans_le hscore)))))))
    · exact .inr (.inr (.inr (.inr (.inr (.inr (.inr (h.confidence _ hx)))))))
  · obtain ⟨hselect, hviolations, hlow, htier⟩ := hauto
    refine ⟨h.operationType ▸ hselect, ?_, hscore.trans_lt hlow, ?_⟩
    · rw [List.isEmpty_iff_length_eq_zero] at hviolations ⊢
      exact Nat.le_zero.mp (hviolations ▸ h.policyViolations)
    · exact Bool.eq_false_iff.mpr fun ht => Bool.eq_false_iff.mp htier (h.anyTier ht)

theorem LosesReversibility.tier_le {c c' : HandoffContract} (h : LosesReversibility c c') :
    tierRank (tier c) ≤ tierRank (tier c') := by
  obtain ⟨hwas, hworse⟩ := h
  rcases hworse with rfl | rfl
  · -- `PARTIAL` only adds to the score
    have hscore : computeRiskScore c ≤
        computeRiskScore { c with reversibility := some .partiallyReversible } := by
      rw [computeRiskScore_eq, computeRiskScore_eq]
      refine min_le_min_left 1 (add_le_add_left ?_ _)
      refine add_le_add_right ?_ _
      rcases hwas with hwas | hwas <;> rw [hwas] <;>
        simp only [partialAmount, reduceCtorEq, Option.some.injEq, if_true, if_false] <;> norm_num
    refine applyTierRules_le (fun hfull => ?_) (fun _ hauto => ?_)
    · rcases hfull with hp | hr | hc | hi | ht | he | hs | hx
      · exact .inl hp
      · rcases hwas with hwas | hwas <;> rw [hwas] at hr <;> cases hr
      · exact .inr (.inr (.inl hc))
      · exact .inr (.inr (.inr (.inl hi)))
      · exact .inr (.inr (.inr (.inr (.inl ht))))
      · exact .inr (.inr (.inr (.inr (.inr (.inl he)))))
      · exact .inr (.inr (.inr (.inr (.inr (.inr (.inl (hs.trans_le hscore)))))))
      · exact .inr (.inr (.inr (.inr (.inr (.inr (.inr hx))))))
    · exact ⟨hauto.1, hauto.2.1, hscore.trans_lt hauto.2.2.1, hauto.2.2.2⟩
  · have hfull : NeedsFull { c with reversibility := some .permanent }
        (computeRiskScore { c with reversibility := some .permanent }) := .inr (.inl rfl)
    exact applyTierRules_le (fun _ => hfull) (fun hnot => absurd hfull hnot)

/-! ## Chains of changes -/

theorem aggravates_chain {c c' : HandoffContract} (h : Relation.ReflTransGen Aggravates c c') :
    computeRiskScore c ≤ computeRiskScore c' ∧ tierRank (tier c) ≤ tierRank (tier c') := by
  induction h with
  | refl => exact ⟨le_rfl, le_rfl⟩
  | tail _ hstep ih =>
    have hrisk := AtMostAsRisky.of_aggravates hstep
    exact ⟨ih.1.trans hrisk.computeRiskScore_le, ih.2.trans hrisk.tier_le⟩

theorem losing_chain {c c' : HandoffContract}
    (h : Relation.ReflTransGen (fun x y => Aggravates x y ∨ LosesReversibility x y) c c') :
    tierRank (tier c) ≤ tierRank (tier c') := by
  induction h with
  | refl => exact le_rfl
  | tail _ hstep ih =>
    rcases hstep with hstep | hstep
    · exact ih.trans (AtMostAsRisky.of_aggravates hstep).tier_le
    · exact ih.trans hstep.tier_le

/-- The score of a contract lies between 0 and 1 and is its own rounding; along every combination
of aggravating changes neither the score nor the tier falls, and with losses of reversibility among
the changes the tier still does not. -/
theorem classifyRisk_monotone :
    (∀ c tier score, classifyRisk c = some (tier, score) → 0 ≤ score ∧ score ≤ 1 ∧
      (Py.roundHalfEven (score * 1000) : ℚ) / 1000 = score) ∧
    (∀ c c' tier score tier' score', Relation.ReflTransGen Aggravates c c' →
      classifyRisk c = some (tier, score) → classifyRisk c' = some (tier', score') →
      score ≤ score' ∧ tierRank tier ≤ tierRank tier') ∧
    (∀ c c' tier score tier' score',
      Relation.ReflTransGen (fun x y => Aggravates x y ∨ LosesReversibility x y) c c' →
      classifyRisk c = some (tier, score) → classifyRisk c' = some (tier', score') →
      tierRank tier ≤ tierRank tier') := by
  refine ⟨?_, ?_, ?_⟩
  · intro c tier score hc
    obtain ⟨-, hc⟩ := classifyRisk_eq_some_iff.mp hc
    obtain ⟨rfl, rfl⟩ := Prod.mk.inj hc
    have hmem := computeRiskScore_mem c
    exact ⟨hmem.1, hmem.2, (computeRiskScore_hundredths c).round_eq⟩
  · intro c c' tier score tier' score' h hc hc'
    obtain ⟨rfl, rfl⟩ := Prod.mk.inj (classifyRisk_eq_some_iff.mp hc).2
    obtain ⟨rfl, rfl⟩ := Prod.mk.inj (classifyRisk_eq_some_iff.mp hc').2
    exact ⟨(aggravates_chain h).1, (aggravates_chain h).2⟩
  · intro c c' tier score tier' score' h hc hc'
    obtain ⟨rfl, rfl⟩ := Prod.mk.inj (classifyRisk_eq_some_iff.mp hc).2
    obtain ⟨rfl, rfl⟩ := Prod.mk.inj (classifyRisk_eq_some_iff.mp hc').2
    exact losing_chain h

/-- A query whose estimate is certain. -/
def quietSelect : HandoffContract where
  operationId := "op-1"
  tenantId := "tenant"
  submittedBy := "agent"
  sourceType := .externalAgent
  submissionTimestamp := 0
  rawSql := "SELECT name FROM users"
  operationType := .select
  rowConfidence := .float (.finite 1)

/-- The query with a webhook, and then with an injected prompt. -/
def loudSelect : HandoffContract :=
  { quietSelect with
    externalTriggers := [{ triggerName := "notify", event := "SELECT", extension := "http" }]
    promptInjectionRisk := true }

/-- The query runs by itself, and with a webhook and then an injected prompt it is reviewed. -/
theorem classifyRisk_monotone_quiet :
    ∃ score tier' score', classifyRisk quietSelect = some (.auto, score) ∧
      classifyRisk loudSelect = some (tier', score') ∧ score ≤ score' ∧
      tierRank .auto ≤ tierRank tier' := by
  have hconfidence : confidence quietSelect = .finite 1 := rfl
  have hscore : computeRiskScore quietSelect = 1 / 20 := by
    rw [computeRiskScore_eq, otherComponents, hconfidence]
    simp only [rejectionCount, RiskRules.cascadeTotal, quietSelect, baseScores,
      primaryRowsAmount, Py.Number.value, cascadeRowsAmount, confidenceAmount, partialAmount, Py.Float.lt,
      lowConfidenceThreshold, List.map_nil, List.sum_nil, List.length_nil, List.countP_nil,
      reduceCtorEq, if_false]
    norm_num
  have hauto : applyTierRules quietSelect (1 / 20) = .auto := by
    rw [applyTierRules, hconfidence]
    norm_num [quietSelect, RiskRules.cascadeTotal, Py.Float.lt,
      lowConfidenceThreshold, cascadeRowThreshold, externalTriggerThreshold, highRiskScore,
      Py.Json.truthy]
    exact if_neg (by rintro ⟨⟩)
  have htrigger : Aggravates quietSelect { quietSelect with externalTriggers :=
      [] ++ { triggerName := "notify", event := "SELECT", extension := "http" } :: [] } :=
    .externalTrigger _ rfl
  have hquiet : classifyRisk quietSelect = some (.auto, 1 / 20) :=
    classifyRisk_eq_some_iff.mpr ⟨rfl, by rw [hscore, hauto]⟩
  have hloud : classifyRisk loudSelect = some (tier loudSelect, computeRiskScore loudSelect) :=
    classifyRisk_eq_some_iff.mpr ⟨rfl, rfl⟩
  exact ⟨_, _, _, hquiet, hloud, classifyRisk_monotone.2.1 _ _ _ _ _ _
    (.tail (.single htrigger) .promptInjection) hquiet hloud⟩

end RiskRules
