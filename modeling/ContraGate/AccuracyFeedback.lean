import Mathlib.Tactic.Linarith
import Mathlib.Tactic.Ring
import ContraGate.AuditFeedback
import ContraGate.AuditTrail
import ContraGate.RowEstimator

/-!
# What becomes of the accuracy of an estimate

`run_audit` sends its two payloads first and computes the accuracy delta last, so the payloads carry
the delta that the contract came with. The confidence in the estimate is lowered by two functions:
the feedback loop of AUDIT on the contract, `update_confidence` in a store. They agree on what a bad
estimate is, but not on an estimate of zero rows, nor on how far the confidence can fall.
-/

open Py

namespace Audit

/-! ## The delta in the payloads -/

/-- What `run_audit` sees of the two servers, by tool and arguments. -/
structure AuditClients where
  auditLogger : String → Dict → TargetReply
  memoryStore : String → Dict → TargetReply

variable (formats : AuditFormats) (clients : AuditClients)

/-- The arguments of the calls that `run_audit` makes, in order. An `MCPCallError` is only logged;
any other error leaves `run_audit`. -/
def sentPayloads (c : HandoffContract) : List Dict :=
  let auditPayload := buildAuditPayload formats c (determineOutcome c)
  let memoryPayload := memoryPayload c (determineOutcome c)
  match clients.auditLogger (auditTool c) auditPayload with
  | .otherError => [auditPayload]
  | _ => [auditPayload, memoryPayload]

/-- `round((actual - estimated) / estimated, 4)`, for a contract with both counts. -/
def accuracyDelta (c : HandoffContract) : Option ℚ :=
  match c.actualPrimaryRows.map Number.value, c.estimatedPrimaryRows.value with
  | some (.finite actual), .finite estimated =>
    if 0 < estimated then some (round id 4 ((actual - estimated) / estimated)) else none
  | _, _ => none

/-- An audit payload and a memory write-back are sent, and both carry the accuracy delta. -/
def RecordsFeedback (c : HandoffContract) : Prop :=
  ∃ delta auditPayload memoryPayload, accuracyDelta c = some delta ∧
    sentPayloads formats clients c = [auditPayload, memoryPayload] ∧
    ∀ payload ∈ [auditPayload, memoryPayload],
      payload.lookup "blast_radius_delta" = some (.float (.finite delta))

variable {formats clients} {c : HandoffContract}

section Delta

variable {rows : Number} {actual estimated : ℚ}

theorem accuracyDelta_eq (hactual : c.actualPrimaryRows = some rows)
    (hrows : rows.value = .finite actual)
    (hestimated : c.estimatedPrimaryRows.value = .finite estimated) (hpos : 0 < estimated) :
    accuracyDelta c = some (round id 4 ((actual - estimated) / estimated)) := by
  unfold accuracyDelta
  rw [hactual, Option.map_some, hrows, hestimated]
  exact if_pos hpos

/-- With exact arithmetic only the values of the counts matter. -/
theorem accuracy_id {x y : Number} (hx : x.value = .finite actual) (hy : y.value = .finite estimated) :
    accuracy id x y = .finite ((actual - estimated) / estimated) := by
  have hfloat (z : Number) : asFloat id z = z.value := by cases z <;> rfl
  unfold accuracy
  split
  · rename_i a e ha he
    obtain rfl := Py.Float.finite.inj ((Number.value_of_whole? ha).symm.trans hx)
    obtain rfl := Py.Float.finite.inj ((Number.value_of_whole? he).symm.trans hy)
    rfl
  · rw [hfloat, hfloat, hx, hy]
    rfl

/-- The loop returns at once on an estimate that is not positive. -/
theorem ge_zero_iff (q : ℚ) : (Py.Float.finite 0).ge (.finite q) = true ↔ q ≤ 0 := by
  show (!decide ((0 : ℚ) < q)) = true ↔ _
  simp

/-- The feedback loop computes the delta, after the payloads have been sent; it may raise after that,
for a confidence that is no number. -/
theorem delta_finishAudit {cfg : PipelineConfig} (now : Time)
    (hfeedback : cfg.feedback = triggerFeedbackLoopStub id)
    (hactual : c.actualPrimaryRows = some rows) (hrows : rows.value = .finite actual)
    (hestimated : c.estimatedPrimaryRows.value = .finite estimated) (hpos : 0 < estimated)
    (hconfidence : (currentConfidence id c).isSome = true) :
    (Graph.finishAudit cfg now c).blastRadiusAccuracyDelta =
      (accuracyDelta c).map Py.Float.finite := by
  have hge : ¬ (Py.Float.finite 0).ge (.finite estimated) = true := fun h =>
    absurd hpos (not_lt.mpr ((ge_zero_iff estimated).mp h))
  obtain ⟨current, hcurrent⟩ := Option.isSome_iff_exists.mp hconfidence
  unfold Graph.finishAudit
  rw [hfeedback, triggerFeedbackLoopStub, accuracyDelta_eq hactual hrows hestimated hpos, hactual]
  dsimp only
  rw [hestimated, if_neg hge, accuracy_id hrows hestimated, hcurrent]
  split_ifs <;> rfl

end Delta

/-- Both payloads carry the delta of the contract. -/
theorem lookup_auditPayload (outcome : String) :
    (buildAuditPayload formats c outcome).lookup "blast_radius_delta" =
      some (nullable .float c.blastRadiusAccuracyDelta) := rfl

theorem lookup_memoryPayload (outcome : String) :
    (memoryPayload c outcome).lookup "blast_radius_delta" =
      some (nullable .float c.blastRadiusAccuracyDelta) := rfl

theorem nullable_float_eq_iff {delta : Option Py.Float} {x : Py.Float} :
    nullable Json.float delta = .float x ↔ delta = some x := by
  cases delta <;> simp [nullable]

/-- The write-back is sent unless the call of the audit logger ends `run_audit`. -/
theorem sentPayloads_eq_pair_iff {auditPayload memoryPayload : Dict} :
    sentPayloads formats clients c = [auditPayload, memoryPayload] ↔
      clients.auditLogger (auditTool c) (buildAuditPayload formats c (determineOutcome c)) ≠
          .otherError ∧
        auditPayload = buildAuditPayload formats c (determineOutcome c) ∧
        memoryPayload = Audit.memoryPayload c (determineOutcome c) := by
  unfold sentPayloads
  dsimp only
  split
  · rename_i hreply
    simp [hreply]
  · rename_i hreply
    rw [List.cons.injEq, List.cons.injEq]
    constructor
    · rintro ⟨haudit, hmemory, -⟩
      exact ⟨hreply, haudit.symm, hmemory.symm⟩
    · rintro ⟨-, haudit, hmemory⟩
      exact ⟨haudit.symm, hmemory.symm, rfl⟩

/-- **The feedback is recorded** if and only if the contract carries the delta before it is
computed, and the audit logger does not end `run_audit`. -/
theorem recordsFeedback_iff (formats : AuditFormats) (clients : AuditClients) {rows : Number}
    {actual estimated : ℚ} (hactual : c.actualPrimaryRows = some rows)
    (hrows : rows.value = .finite actual)
    (hestimated : c.estimatedPrimaryRows.value = .finite estimated) (hpos : 0 < estimated) :
    RecordsFeedback formats clients c ↔
      c.blastRadiusAccuracyDelta = (accuracyDelta c).map Py.Float.finite ∧
        clients.auditLogger (auditTool c) (buildAuditPayload formats c (determineOutcome c)) ≠
          .otherError := by
  unfold RecordsFeedback
  rw [accuracyDelta_eq hactual hrows hestimated hpos]
  simp only [sentPayloads_eq_pair_iff, List.forall_mem_cons, Option.some.injEq, Option.map_some]
  constructor
  · rintro ⟨_, _, _, rfl, ⟨hreply, rfl, rfl⟩, haudit, -⟩
    rw [lookup_auditPayload] at haudit
    exact ⟨nullable_float_eq_iff.mp (Option.some.inj haudit), hreply⟩
  · rintro ⟨hdelta, hreply⟩
    have hcarried := nullable_float_eq_iff.mpr hdelta
    refine ⟨_, _, _, rfl, ⟨hreply, rfl, rfl⟩, ?_, ?_, List.forall_mem_nil _⟩
    · rw [lookup_auditPayload, hcarried]
    · rw [lookup_memoryPayload, hcarried]

/-- A fifth more rows than estimated are affected. -/
def underestimatedContract : HandoffContract where
  operationId := "cg_1"
  tenantId := "demo_tenant"
  submittedBy := "agent"
  sourceType := .externalAgent
  submissionTimestamp := 0
  rawSql := "DELETE FROM orders"
  operationType := .delete
  primaryTable := "orders"
  estimatedPrimaryRows := .int 100
  actualPrimaryRows := some (.int 120)
  rowConfidence := .float (.finite (8 / 10))
  approvalState := .approved
  executionSuccess := some true

/-- Both servers answer. -/
def answeringClients : AuditClients where
  auditLogger _ _ := .result .null
  memoryStore _ _ := .result .null

/-- The payloads say `None`. -/
theorem underestimated_not_recorded :
    ¬ RecordsFeedback sampleAuditFormats answeringClients underestimatedContract := by
  rintro ⟨delta, _, _, -, hsent, hcarries⟩
  obtain ⟨-, rfl, rfl⟩ := sentPayloads_eq_pair_iff.mp hsent
  have haudit := hcarries _ List.mem_cons_self
  rw [lookup_auditPayload] at haudit
  cases haudit

/-- A contract that comes with the delta. -/
theorem recordsFeedback_iff_carried :
    RecordsFeedback sampleAuditFormats answeringClients
      { underestimatedContract with blastRadiusAccuracyDelta := some (.finite (1 / 5)) } := by
  refine (recordsFeedback_iff sampleAuditFormats answeringClients rfl rfl rfl (by norm_num)).mpr
    ⟨?_, nofun⟩
  have hdelta : round id 4 ((((120 : ℤ) : ℚ) - ((100 : ℤ) : ℚ)) / ((100 : ℤ) : ℚ)) = 1 / 5 := by
    have hscaled : (((120 : ℤ) : ℚ) - ((100 : ℤ) : ℚ)) / ((100 : ℤ) : ℚ) * 10 ^ 4 =
        ((2000 : ℤ) : ℚ) := by norm_num
    rw [round, hscaled, roundHalfEven_intCast]
    norm_num
  rw [accuracyDelta_eq rfl rfl rfl (by norm_num)]
  exact congrArg (fun q => some (Py.Float.finite q)) hdelta.symm

/-! ## The two confidences -/

/-- The row confidence that `_trigger_feedback_loop_stub` leaves on the contract. -/
def confidenceLeft (toFloat : ℚ → ℚ) (c : HandoffContract) : Json :=
  ((triggerFeedbackLoopStub toFloat c).map (·.2)).getD c.rowConfidence

theorem rowConfidence_finishAudit {toFloat : ℚ → ℚ} {cfg : PipelineConfig} (now : Time)
    (hfeedback : cfg.feedback = triggerFeedbackLoopStub toFloat) :
    (Graph.finishAudit cfg now c).rowConfidence = confidenceLeft toFloat c := by
  unfold Graph.finishAudit confidenceLeft
  rw [hfeedback]
  cases triggerFeedbackLoopStub toFloat c <;> rfl

/-- The number that a confidence is. -/
def confidenceValue (confidence : Json) : Option Py.Float := confidence.num?.map Number.value

/-- A confidence that the documentation of `update_confidence` allows. -/
def InRange (confidence : Option Py.Float) : Prop :=
  ∃ x, confidence = some (.finite x) ∧ 1 / 10 ≤ x ∧ x ≤ 1

/-- With exact arithmetic both functions come to the same confidence, in the documented range. -/
structure FeedbackAgrees (c : HandoffContract) (table operationType : String) (actual estimated : ℤ)
    (store : String → Option Py.Float) : Prop where
  same : confidenceValue (confidenceLeft id c) =
    some (RowEstimator.updateConfidence id table operationType actual estimated store).1
  left : InRange (confidenceValue (confidenceLeft id c))
  updated : InRange
    (some (RowEstimator.updateConfidence id table operationType actual estimated store).1)

/-- What a bad estimate costs. -/
def penalty (actual estimated : ℤ) : ℚ :=
  if (estimated : ℚ) * (1 + 1 / 10) < actual then 5 / 100
  else if (actual : ℚ) < estimated * (1 - 1 / 10) then 2 / 100
  else 0

section Confidence

variable {actual estimated : ℤ} {k : ℚ}

/-- The relative delta and the scaled comparison tell the same underestimates. -/
theorem underestimate_iff (hestimated : 0 < estimated) :
    (1 / 10 : ℚ) < (actual - estimated) / estimated ↔
      (estimated : ℚ) * (1 + 1 / 10) < actual := by
  have hpos : (0 : ℚ) < estimated := Int.cast_pos.mpr hestimated
  rw [lt_div_iff₀ hpos]
  constructor <;> intro h <;> linarith

/-- And the same overestimates. -/
theorem overestimate_iff (hestimated : 0 < estimated) :
    ((actual : ℚ) - estimated) / estimated < -(1 / 10) ↔
      (actual : ℚ) < estimated * (1 - 1 / 10) := by
  have hpos : (0 : ℚ) < estimated := Int.cast_pos.mpr hestimated
  rw [div_lt_iff₀ hpos]
  constructor <;> intro h <;> linarith

theorem penalty_eq (hestimated : 0 < estimated) :
    penalty actual estimated =
      if (1 / 10 : ℚ) < (actual - estimated) / estimated then 5 / 100
      else if ((actual : ℚ) - estimated) / estimated < -(1 / 10) then 2 / 100
      else 0 := by
  simp only [penalty, underestimate_iff hestimated, overestimate_iff hestimated]

/-- A number of three decimals is rounded to itself. -/
theorem round_three (n : ℤ) : round id 3 (n / 1000) = n / 1000 := by
  have hscaled : (n : ℚ) / 1000 * 10 ^ 3 = n := by
    rw [div_mul_eq_mul_div, mul_div_assoc]
    norm_num
  rw [round, hscaled, roundHalfEven_intCast]
  norm_num

/-- A penalty of some hundredths, at most ten, is taken off a confidence of three decimals. -/
theorem newConfidence_eq {n m : ℤ} (hn : k = n / 1000) (hlow : 1 / 10 ≤ k) (hhigh : k ≤ 1)
    (hm : 0 ≤ m) (hm10 : m ≤ 10) :
    newConfidence id (-(m / 100)) (.finite k) = .finite (k - m / 100) := by
  have hsum : k + -((m : ℚ) / 100) = ((n - 10 * m : ℤ) : ℚ) / 1000 := by
    rw [hn]
    push_cast
    ring
  have hrounded : round id 3 (k + -((m : ℚ) / 100)) = k - m / 100 := by
    rw [hsum, round_three, ← hsum, sub_eq_add_neg]
  have hm' : (0 : ℚ) ≤ m := Int.cast_nonneg hm
  have hm10' : (m : ℚ) ≤ 10 := by exact_mod_cast hm10
  show Py.Float.finite (max 0 (min 1 (round id 3 (k + -((m : ℚ) / 100))))) = _
  rw [hrounded, min_eq_right (by linarith), max_eq_right (by linarith)]

theorem currentConfidence_eq (hk : confidenceValue c.rowConfidence = some (.finite k)) :
    currentConfidence id c = some (.finite k) := by
  unfold currentConfidence
  unfold confidenceValue at hk
  have hfloat : asFloat id = Number.value := by
    funext z
    cases z <;> rfl
  split
  · rename_i hnull
    rw [hnull] at hk
    cases hk
  · rw [hfloat]
    exact hk

/-- The loop of AUDIT subtracts the penalty. -/
theorem confidenceLeft_eq (hactual : c.actualPrimaryRows = some (.int actual))
    (hestimated : c.estimatedPrimaryRows = .int estimated) (hpositive : 0 < estimated)
    (hk : confidenceValue c.rowConfidence = some (.finite k))
    (hlow : 1 / 10 ≤ k) (hhigh : k ≤ 1) (hdecimals : ∃ n : ℤ, k = n / 1000) :
    confidenceValue (confidenceLeft id c) = some (.finite (k - penalty actual estimated)) := by
  obtain ⟨n, hn⟩ := hdecimals
  have hge : ¬ (Py.Float.finite 0).ge (Number.int estimated).value = true := fun h =>
    absurd hpositive (not_lt.mpr (by exact_mod_cast (ge_zero_iff (estimated : ℚ)).mp h))
  rw [penalty_eq hpositive]
  unfold confidenceLeft triggerFeedbackLoopStub
  rw [hactual, hestimated]
  dsimp only
  rw [if_neg hge, accuracy_id (Number.value_int actual) (Number.value_int estimated),
    currentConfidence_eq hk]
  generalize ((actual : ℚ) - estimated) / estimated = delta
  have hisClose : isClose id (.finite delta) = true ↔ |delta| ≤ 1 / 10 := decide_eq_true_iff
  have hlt : (Py.Float.finite 0).lt (.finite delta) = true ↔ 0 < delta := decide_eq_true_iff
  by_cases hclose : |delta| ≤ 1 / 10
  · obtain ⟨h1, h2⟩ := abs_le.mp hclose
    rw [if_pos (hisClose.mpr hclose), if_neg (by linarith), if_neg (by linarith), sub_zero]
    exact hk
  · rw [if_neg (hisClose.not.mpr hclose)]
    simp only [Option.map_some, Option.getD_some, id]
    by_cases hpos : 0 < delta
    · have hlarge : 1 / 10 < delta := by
        rw [abs_of_pos hpos] at hclose
        exact not_le.mp hclose
      have hnew := newConfidence_eq (m := 5) hn hlow hhigh (by decide) (by decide)
      simp only [Int.cast_ofNat] at hnew
      rw [if_pos (hlt.mpr hpos), if_pos hlarge]
      exact congrArg some hnew
    · have hsmall : delta < -(1 / 10) := by
        rw [abs_of_nonpos (not_lt.mp hpos)] at hclose
        linarith [not_le.mp hclose]
      have hnew := newConfidence_eq (m := 2) hn hlow hhigh (by decide) (by decide)
      simp only [Int.cast_ofNat] at hnew
      rw [if_neg (hlt.not.mpr hpos), if_neg (by linarith), if_pos hsmall]
      exact congrArg some hnew

/-- `update_confidence` subtracts it too, but does not go below a tenth. -/
theorem updateConfidence_eq (actual : ℤ) {table operationType : String}
    {store : String → Option Py.Float} (hestimated : 0 < estimated)
    (hstore : store s!"{table}:{operationType}" = some (.finite k)) (hhigh : k ≤ 1) :
    (RowEstimator.updateConfidence id table operationType actual estimated store).1 =
      .finite (max (1 / 10) (k - penalty actual estimated)) := by
  have hclamped (p : ℚ) (hp : 0 ≤ p) :
      RowEstimator.clampConfidence id (.finite (k - p)) = .finite (max (1 / 10) (k - p)) := by
    show Py.Float.finite (max (1 / 10) (min 1 (k - p))) = _
    rw [min_eq_right (by linarith)]
  unfold RowEstimator.updateConfidence penalty
  dsimp only [id]
  rw [hstore, Option.getD_some, if_neg (not_le.mpr hestimated)]
  split_ifs with hunder hover
  · exact hclamped _ (by norm_num)
  · exact hclamped _ (by norm_num)
  · have hsame := hclamped 0 le_rfl
    rwa [sub_zero] at hsame ⊢

/-- An estimate of zero rows counts as an underestimate for `update_confidence` alone. -/
theorem updateConfidence_zero (actual : ℤ) {table operationType : String}
    {store : String → Option Py.Float}
    (hstore : store s!"{table}:{operationType}" = some (.finite k)) :
    (RowEstimator.updateConfidence id table operationType actual 0 store).1 =
      .finite (max (1 / 10) (min 1 (if 0 < actual then k - 5 / 100 else k))) := by
  unfold RowEstimator.updateConfidence
  dsimp only [id]
  rw [hstore, Option.getD_some, if_pos le_rfl]
  split_ifs <;> rfl

theorem confidenceLeft_zero (hactual : c.actualPrimaryRows = some (.int actual))
    (hestimated : c.estimatedPrimaryRows = .int 0) : confidenceLeft id c = c.rowConfidence := by
  unfold confidenceLeft triggerFeedbackLoopStub
  rw [hactual, hestimated]
  rfl

end Confidence

/-- The estimate is not refuted by being zero, unless the confidence is the least there is, and a
bad estimate does not cost more than down to a tenth. -/
def Affordable (actual estimated : ℤ) (k : ℚ) : Prop :=
  if estimated = 0 then actual = 0 ∨ k = 1 / 10 else 1 / 10 ≤ k - penalty actual estimated

/-- **The two confidences agree** if and only if the confidence can afford the penalty. -/
theorem feedbackAgrees_iff {table operationType : String} {store : String → Option Py.Float}
    {actual estimated : ℤ} {k : ℚ} (hactual : c.actualPrimaryRows = some (.int actual))
    (hrows : 0 ≤ actual) (hestimated : c.estimatedPrimaryRows = .int estimated)
    (hestimate : 0 ≤ estimated) (hk : confidenceValue c.rowConfidence = some (.finite k))
    (hstore : store s!"{table}:{operationType}" = some (.finite k)) (hlow : 1 / 10 ≤ k)
    (hhigh : k ≤ 1) (hdecimals : ∃ n : ℤ, k = n / 1000) :
    FeedbackAgrees c table operationType actual estimated store ↔
      Affordable actual estimated k := by
  unfold Affordable
  by_cases hzero : estimated = 0
  · -- the loop does nothing
    subst hzero
    have hleft : confidenceValue (confidenceLeft id c) = some (.finite k) := by
      rw [confidenceLeft_zero hactual hestimated]
      exact hk
    have hupdated := updateConfidence_zero actual hstore
    rw [if_pos rfl]
    constructor
    · intro h
      have hsame := h.same
      rw [hleft, hupdated] at hsame
      have heq := Py.Float.finite.inj (Option.some.inj hsame)
      by_cases hpos : 0 < actual
      · rw [if_pos hpos, min_eq_right (by linarith)] at heq
        rcases max_choice (1 / 10 : ℚ) (k - 5 / 100) with hmax | hmax
        · exact .inr (heq.trans hmax)
        · linarith
      · exact .inl (by omega)
    · intro h
      have heq : max (1 / 10) (min 1 (if 0 < actual then k - 5 / 100 else k)) = k := by
        rcases h with rfl | rfl
        · rw [if_neg (lt_irrefl 0), min_eq_right hhigh, max_eq_right hlow]
        · split_ifs <;> norm_num
      rw [heq] at hupdated
      have hupdated := congrArg some hupdated
      exact ⟨hleft.trans hupdated.symm, ⟨k, hleft, hlow, hhigh⟩, ⟨k, hupdated, hlow, hhigh⟩⟩
  · have hpos : 0 < estimated := lt_of_le_of_ne hestimate (Ne.symm hzero)
    have hleft := confidenceLeft_eq hactual hestimated hpos hk hlow hhigh hdecimals
    have hupdated := updateConfidence_eq actual hpos hstore hhigh
    have hpenalty : 0 ≤ penalty actual estimated := by
      unfold penalty
      split_ifs <;> norm_num
    rw [if_neg hzero]
    constructor
    · intro h
      obtain ⟨x, hx, hx1, -⟩ := h.left
      rwa [Py.Float.finite.inj (Option.some.inj (hleft.symm.trans hx))]
    · intro h
      rw [max_eq_right h] at hupdated
      have hupdated := congrArg some hupdated
      have hbelow : k - penalty actual estimated ≤ 1 := by linarith
      exact ⟨hleft.trans hupdated.symm, ⟨_, hleft, h, hbelow⟩, ⟨_, hupdated, h, hbelow⟩⟩

/-- One row was affected, and none was expected. -/
def unexpectedContract : HandoffContract :=
  { underestimatedContract with
    estimatedPrimaryRows := .int 0, actualPrimaryRows := some (.int 1) }

/-- The confidence in the estimate, as it is stored. -/
def sampleStore : String → Option Py.Float := fun _ => some (.finite (8 / 10))

/-- The contract keeps its confidence, the store does not. -/
theorem unexpected_disagrees :
    ¬ FeedbackAgrees unexpectedContract "orders" "DELETE" 1 0 sampleStore := by
  intro h
  have hsame := h.same
  rw [@confidenceLeft_zero unexpectedContract 1 rfl rfl,
    updateConfidence_zero (k := 8 / 10) 1 rfl] at hsame
  have heq : (8 / 10 : ℚ) = max (1 / 10) (min 1 (if (0 : ℤ) < 1 then 8 / 10 - 5 / 100 else 8 / 10)) :=
    Py.Float.finite.inj (Option.some.inj hsame)
  norm_num at heq

/-- A fifth more rows than estimated cost a twentieth. -/
theorem feedbackAgrees_iff_underestimated :
    FeedbackAgrees underestimatedContract "orders" "DELETE" 120 100 sampleStore := by
  refine (feedbackAgrees_iff (k := 8 / 10) rfl (by decide) rfl (by decide) rfl rfl (by norm_num)
    (by norm_num) ⟨800, by norm_num⟩).mpr ?_
  have hpenalty : penalty 120 100 = 5 / 100 := by norm_num [penalty]
  show 1 / 10 ≤ (8 / 10 : ℚ) - penalty 120 100
  rw [hpenalty]
  norm_num

end Audit
