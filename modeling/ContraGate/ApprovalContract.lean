import ContraGate.Classifiers
import ContraGate.ReversibilityRules
import ContraGate.RiskRules

/-!
# The approval contract (`agents/contract/contract_schema.py`, `contract_builder.py`)

The document for the reviewer, in four sections. The builder copies the fields of the contract
and attaches the prose; tier, score and rollback plan are given to it. The sections are validated
when they are built: `none` stands for an exception.
-/

structure CascadeImpact where
  table : String
  estimatedRows : ℤ
  actualRows : Option ℤ
  cascadeAction : String
  depth : ℤ

structure ExternalActionEntry where
  triggerName : String
  event : String
  extension : String
  estimatedCalls : Option ℤ
  targetEndpoint : Option String
  sandboxLogged : Bool
  note : String := "Cannot be simulated — would fire in production"

/-- Section 1. -/
structure WhatWillHappen where
  operationSummary : String
  operationType : String
  primaryTable : String
  sourceCondition : String
  estimatedPrimaryRows : ℤ
  actualPrimaryRows : Option ℤ
  simulationRowDeltaNote : Option String
  cascadeImpact : List CascadeImpact
  totalEstimatedRows : ℤ
  totalActualRows : Option ℤ
  externalActions : List ExternalActionEntry

/-- Section 2. -/
structure WhatCannotBeUndone where
  reversibility : String
  reversibilityReason : String
  databaseChangesExplanation : String
  externalEffectsExplanation : String
  permanentComponents : List String
  rollbackPlan : Option String
  requiresPermanentAcknowledgement : Bool

structure HistoricalPrecedentEntry extends HistoricalOperation where
  isTopResult : Bool

/-- Section 3. -/
structure HasThisHappenedBefore where
  retrievalAvailable : Bool
  precedents : List HistoricalPrecedentEntry
  historicalSummary : String
  containsRejectedOutcome : Bool

/-- Section 4; an entry of `policy_violations` has the fields of the violation. -/
structure SystemFlags where
  policyViolations : List PolicyViolation
  historicalRejectionWarning : Bool
  simulationUnavailable : Bool
  retrievalUnavailable : Bool
  promptInjectionRisk : Bool
  externalActionsCannotBeSimulated : Bool
  confidenceReduced : Bool
  confidenceReason : Option String
  sequenceGapWarning : Bool

structure ContractSections where
  whatWillHappen : WhatWillHappen
  whatCannotBeUndone : WhatCannotBeUndone
  hasThisHappenedBefore : HasThisHappenedBefore
  systemFlags : SystemFlags

structure ApprovalContract where
  approvalId : String
  operationId : String
  tenantId : String
  riskTier : String
  riskScore : ℚ
  riskTierDeterministic : Bool := true
  requiresPermanentAcknowledgement : Bool
  sections : ContractSections
  decisionOptions : List String := ["APPROVE", "REJECT", "MODIFY", "REQUEST_PREREQ"]
  reasonRequired : Bool := true
  reasonMinimumLength : ℤ := 10
  timeoutAt : String
  assembledAt : String
  contractVersion : String := "1.0"

/-- The prose of the four sections. -/
structure ContractProse where
  operationSummary : String
  databaseChangesExplanation : String
  externalEffectsExplanation : String
  historicalSummary : String

/-- `RiskTier.value`. -/
def RiskTier.value : RiskTier → String
  | auto => "AUTO"
  | standard => "STANDARD"
  | fullContract => "FULL_CONTRACT"

/-- The formats that the contract's texts are written with. -/
structure ContractFormats where
  /-- The characters beyond ASCII that `repr` leaves as they are. -/
  printable : Char → Bool
  /-- How numbers and containers are written. -/
  texts : Py.ValueText
  /-- `f"{x:.0%}"`. -/
  percent : Py.Float → String
  /-- `f"{x:.2f}"`. -/
  fixed2 : Py.Float → String
  isoformat : Time → String
  /-- `model_dump_json`. -/
  dumpJson : ApprovalContract → String

/-- Formats that leave out percentages, times and the text of the document. -/
def ContractFormats.plain : ContractFormats where
  printable _ := true
  texts := .decimals
  percent _ := ""
  fixed2 := Py.fixed3
  isoformat _ := ""
  dumpJson _ := ""

namespace ContractBuilder

variable (formats : ContractFormats) (contract : HandoffContract)

/-- `_REVIEW_TIMEOUT_SECONDS`, in microseconds. -/
def reviewTimeout : Time := 1800 * 1000000

/-- `text or default`. -/
def orElse (text default : String) : String := if text = "" then default else text

/-- `contract.reversibility.value if contract.reversibility else "UNKNOWN"`. -/
def reversibilityText : String :=
  (contract.reversibility.map ReversibilityClass.value).getD "UNKNOWN"

/-- `derive_rollback_plan`. -/
def deriveRollbackPlan : Option String :=
  let table := orElse contract.primaryTable "the affected table"
  match contract.reversibility with
  | none | some .permanent => none
  | some .reversibleAutomated =>
    if contract.operationType = .insert then
      some (s!"DELETE FROM {table} WHERE [match the INSERT's identifying condition]. " ++
        "Verify carefully before executing — ensure the DELETE targets exactly " ++
        "the rows that were inserted.")
    else if contract.operationType ∈ [OperationType.delete, .update] then
      let condNote :=
        if contract.condition = "" then "no condition recorded"
        else s!"original filter: {contract.condition}"
      some (s!"Restore rows to {table}: requires restore from a pre-execution snapshot " ++
        s!"or backup ({condNote}). " ++
        "Contact DBA to perform point-in-time restore to before this operation's timestamp.")
    else some "Automated recovery: restore from pre-execution snapshot if available."
  | some .reversiblePitr =>
    some ("Point-in-time recovery required. " ++
      "Contact your DBA to restore the database to a state before this operation's " ++
      "timestamp. Recovery time depends on database size and PITR infrastructure.")
  | some .partiallyReversible =>
    some ("Partial recovery possible. Database changes may be recoverable via PITR; " ++
      "external side effects (API calls, webhooks that already fired) cannot be " ++
      "automatically reversed.")

/-- `_requires_permanent_acknowledgement`. -/
def requiresPermanentAcknowledgement : Bool := contract.reversibility = some .permanent

/-- `sim_note`. -/
def simulationNote : Option String :=
  match contract.actualPrimaryRows with
  | some actual =>
    if contract.simulationExecuted then
      some ("Staging simulation affected " ++ actual.withCommas formats.texts ++
        " rows (estimated: " ++ contract.estimatedPrimaryRows.withCommas formats.texts ++ ")")
    else if contract.simulationAvailable then none
    else some "Staging simulation was unavailable — estimates only"
  | none =>
    if contract.simulationAvailable then none
    else some "Staging simulation was unavailable — estimates only"

/-- `total_estimated`. -/
def totalEstimated : Option Py.Number :=
  contract.estimatedPrimaryRows.add (.int (RiskRules.cascadeTotal contract))

/-- `total_actual`, for a contract with a measured count. -/
def totalActual (actual : Py.Number) : Option Py.Number :=
  actual.add (.int (contract.actualCascade.filterMap (·.actualRows)).sum)

/-- `_build_section1`. -/
def buildSection1 (operationSummary : String) : Option WhatWillHappen := do
  let totalEstimatedRows ← totalEstimated contract
  let totalActualRows ← contract.actualPrimaryRows.mapM (totalActual contract)
  some
    { operationSummary
      operationType := contract.operationType.value
      primaryTable := orElse contract.primaryTable "(unknown)"
      sourceCondition := orElse contract.condition "(none)"
      estimatedPrimaryRows := ← contract.estimatedPrimaryRows.int?
      actualPrimaryRows := ← contract.actualPrimaryRows.mapM Py.Number.int?
      simulationRowDeltaNote := simulationNote formats contract
      cascadeImpact := contract.cascade.map fun c =>
        { table := c.table, estimatedRows := c.estimatedRows, actualRows := c.actualRows
          cascadeAction := c.cascadeAction, depth := c.depth }
      totalEstimatedRows := ← totalEstimatedRows.int?
      totalActualRows := ← totalActualRows.mapM Py.Number.int?
      externalActions := contract.externalTriggers.map fun t =>
        { triggerName := t.triggerName, event := t.event, extension := t.extension
          estimatedCalls := t.estimatedCalls, targetEndpoint := t.targetEndpoint
          sandboxLogged := t.sandboxLogEntry.any (· ≠ "") } }

/-- The counts that section 1 shows are whole numbers. -/
structure WholeCounts : Prop where
  estimated : contract.estimatedPrimaryRows.int?.isSome = true
  totalEstimated : ((totalEstimated contract).bind Py.Number.int?).isSome = true
  actual : (contract.actualPrimaryRows.mapM Py.Number.int?).isSome = true
  totalActual : ((contract.actualPrimaryRows.mapM (totalActual contract)).bind fun total =>
    total.mapM Py.Number.int?).isSome = true

/-- Other fields do not count. -/
theorem WholeCounts.of_eq {c c' : HandoffContract} (h : WholeCounts c)
    (hestimated : c'.estimatedPrimaryRows = c.estimatedPrimaryRows) (hcascade : c'.cascade = c.cascade)
    (hactual : c'.actualPrimaryRows = c.actualPrimaryRows)
    (hmeasured : c'.actualCascade = c.actualCascade) : WholeCounts c' := by
  obtain ⟨h1, h2, h3, h4⟩ := h
  unfold ContractBuilder.totalEstimated RiskRules.cascadeTotal at h2
  unfold ContractBuilder.totalActual at h4
  constructor
  · rwa [hestimated]
  · unfold ContractBuilder.totalEstimated RiskRules.cascadeTotal
    rwa [hestimated, hcascade]
  · rwa [hactual]
  · unfold ContractBuilder.totalActual
    rwa [hactual, hmeasured]

/-- Section 1 is built on whole numbers only. -/
theorem isSome_buildSection1_iff (operationSummary : String) :
    (buildSection1 formats contract operationSummary).isSome = true ↔ WholeCounts contract := by
  constructor
  · intro h
    obtain ⟨section1, h⟩ := Option.isSome_iff_exists.mp h
    obtain ⟨total, htotal, h⟩ := Option.bind_eq_some_iff.mp h
    obtain ⟨totals, htotals, h⟩ := Option.bind_eq_some_iff.mp h
    obtain ⟨estimated, hestimated, h⟩ := Option.bind_eq_some_iff.mp h
    obtain ⟨actual, hactual, h⟩ := Option.bind_eq_some_iff.mp h
    obtain ⟨whole, hwhole, h⟩ := Option.bind_eq_some_iff.mp h
    obtain ⟨wholes, hwholes, -⟩ := Option.bind_eq_some_iff.mp h
    exact ⟨by rw [hestimated]; rfl, by rw [htotal, Option.bind_some, hwhole]; rfl,
      by rw [hactual]; rfl, by rw [htotals, Option.bind_some, hwholes]; rfl⟩
  · rintro ⟨hestimated, htotal, hactual, htotals⟩
    obtain ⟨estimated, hestimated⟩ := Option.isSome_iff_exists.mp hestimated
    obtain ⟨actual, hactual⟩ := Option.isSome_iff_exists.mp hactual
    obtain ⟨whole, htotal⟩ := Option.isSome_iff_exists.mp htotal
    obtain ⟨wholes, htotals⟩ := Option.isSome_iff_exists.mp htotals
    obtain ⟨total, htotal, hwhole⟩ := Option.bind_eq_some_iff.mp htotal
    obtain ⟨totals, htotals, hwholes⟩ := Option.bind_eq_some_iff.mp htotals
    simp only [buildSection1, htotal, htotals, hestimated, hactual, hwhole, hwholes,
      Option.bind_eq_bind, Option.bind_some, Option.isSome_some]

/-- Section 1 with another summary. -/
theorem buildSection1_summary {formats : ContractFormats} {contract : HandoffContract}
    {summary summary' : String} {section1 section1' : WhatWillHappen}
    (h : buildSection1 formats contract summary = some section1)
    (h' : buildSection1 formats contract summary' = some section1') :
    section1' = { section1 with operationSummary := summary' } := by
  simp only [buildSection1, Option.bind_eq_bind, Option.bind_eq_some_iff, Option.some.injEq] at h h'
  obtain ⟨_, ht, _, ha, _, he, _, hp, _, hw, _, hm, rfl⟩ := h
  obtain ⟨_, ht', _, ha', _, he', _, hp', _, hw', _, hm', rfl⟩ := h'
  obtain rfl := Option.some.inj (ht.symm.trans ht')
  obtain rfl := Option.some.inj (ha.symm.trans ha')
  obtain rfl := Option.some.inj (he.symm.trans he')
  obtain rfl := Option.some.inj (hp.symm.trans hp')
  obtain rfl := Option.some.inj (hw.symm.trans hw')
  obtain rfl := Option.some.inj (hm.symm.trans hm')
  rfl

/-- The list of section 1 is the cascade. -/
theorem buildSection1_cascadeImpact {formats : ContractFormats} {contract : HandoffContract}
    {summary : String} {section1 : WhatWillHappen}
    (h : buildSection1 formats contract summary = some section1) :
    section1.cascadeImpact = contract.cascade.map fun c =>
      { table := c.table, estimatedRows := c.estimatedRows, actualRows := c.actualRows
        cascadeAction := c.cascadeAction, depth := c.depth } := by
  simp only [buildSection1, Option.bind_eq_bind, Option.bind_eq_some_iff, Option.some.injEq] at h
  obtain ⟨_, -, _, -, _, -, _, -, _, -, _, -, rfl⟩ := h
  rfl

/-- The measured rows that it shows, for an integer. -/
theorem buildSection1_actual {formats : ContractFormats} {contract : HandoffContract}
    {summary : String} {section1 : WhatWillHappen}
    (hint : ∀ x ∈ contract.actualPrimaryRows, x.isInt = true)
    (h : buildSection1 formats contract summary = some section1) :
    section1.actualPrimaryRows = contract.actualPrimaryRows.bind Py.Number.int? ∧
      section1.totalActualRows = section1.actualPrimaryRows.map fun primary =>
        primary + (contract.actualCascade.filterMap (·.actualRows)).sum := by
  simp only [buildSection1, Option.bind_eq_bind, Option.bind_eq_some_iff, Option.some.injEq] at h
  obtain ⟨_, -, totals, htotals, _, -, rows, hrows, _, -, wholes, hwholes, rfl⟩ := h
  cases hactual : contract.actualPrimaryRows with
  | none =>
    rw [hactual] at htotals hrows
    obtain rfl := Option.some.inj htotals
    obtain rfl := Option.some.inj hrows
    obtain rfl := Option.some.inj hwholes
    exact ⟨rfl, rfl⟩
  | some actual =>
    obtain ⟨primary, rfl⟩ := Py.Number.isInt_iff.mp (hint actual hactual)
    rw [hactual] at htotals hrows
    obtain rfl := Option.some.inj htotals
    obtain rfl := Option.some.inj hrows
    obtain rfl := Option.some.inj hwholes
    exact ⟨rfl, rfl⟩

/-- The rows of section 1 when none were measured: only an entry of the cascade can have some. -/
theorem buildSection1_unmeasured {formats : ContractFormats} {contract : HandoffContract}
    {operationSummary : String} {section1 : WhatWillHappen} (hnone : contract.actualPrimaryRows = none)
    (h : buildSection1 formats contract operationSummary = some section1) :
    section1.actualPrimaryRows = none ∧ section1.totalActualRows = none ∧
      section1.cascadeImpact = contract.cascade.map fun c =>
        { table := c.table, estimatedRows := c.estimatedRows, actualRows := c.actualRows
          cascadeAction := c.cascadeAction, depth := c.depth } := by
  unfold buildSection1 at h
  rw [hnone] at h
  simp only [Option.bind_eq_bind, Option.mapM_none, Option.pure_def, Option.bind_some,
    Option.bind_eq_some_iff, Option.some.injEq] at h
  obtain ⟨_, -, _, -, _, -, rfl⟩ := h
  exact ⟨rfl, rfl, rfl⟩

/-- `_build_section2`. -/
def buildSection2 (rollbackPlan : Option String) (prose : ContractProse) :
    WhatCannotBeUndone where
  reversibility := reversibilityText contract
  reversibilityReason := contract.reversibilityReason
  databaseChangesExplanation := prose.databaseChangesExplanation
  externalEffectsExplanation := prose.externalEffectsExplanation
  permanentComponents := contract.permanentComponents
  rollbackPlan
  requiresPermanentAcknowledgement := requiresPermanentAcknowledgement contract

/-- `_build_section3`. -/
def buildSection3 (historicalSummary : String) : HasThisHappenedBefore :=
  let precedents := (contract.historicalPrecedents.take 3).zipIdx.map fun entry =>
    { toHistoricalOperation := entry.1, isTopResult := entry.2 = 0 }
  { retrievalAvailable := contract.retrievalAvailable
    precedents
    historicalSummary
    containsRejectedOutcome := precedents.any fun p => p.outcome = "REJECTED" }

/-- `confidence_reason`. -/
def confidenceReason : Option String :=
  let confidence := RiskRules.confidence contract
  if confidence = .finite 0 then some "Row statistics not available for this table"
  else if confidence.lt RiskRules.lowConfidenceThreshold then
    some ("Very low confidence (" ++ formats.percent confidence ++ ") — " ++
      "statistics may be severely stale or missing")
  else if confidence.lt (.finite (5 / 10)) then
    some ("Low confidence (" ++ formats.percent confidence ++ ") — " ++ "statistics may be stale")
  else if confidence.lt (.finite (7 / 10)) then
    some ("Moderate confidence (" ++ formats.percent confidence ++ ") — " ++
      "statistics may be slightly stale")
  else none

/-- The confidence is a number, and if it is written, one that `:.0%` takes: no integer that is too
large for a float. -/
def showsConfidence (rowConfidence : Py.Json) : Bool :=
  match rowConfidence.num? with
  | some x => x.toFloat.isSome || !x.value.lt (.finite (7 / 10))
  | none => false

theorem isSome_num?_of_showsConfidence {rowConfidence : Py.Json}
    (h : showsConfidence rowConfidence = true) : rowConfidence.num?.isSome = true := by
  unfold showsConfidence at h
  cases hx : rowConfidence.num? with
  | some x => rfl
  | none =>
    rw [hx] at h
    cases h

/-- `_build_section4`; a confidence that cannot be compared or written raises. -/
def buildSection4 : Option SystemFlags :=
  if showsConfidence contract.rowConfidence then some
    { policyViolations := contract.policyViolations
      historicalRejectionWarning := contract.historicalPrecedents.any (·.outcome = "REJECTED")
      simulationUnavailable := !contract.simulationAvailable
      retrievalUnavailable := !contract.retrievalAvailable
      promptInjectionRisk := contract.promptInjectionRisk
      externalActionsCannotBeSimulated := !contract.externalTriggers.isEmpty
      confidenceReduced := (RiskRules.confidence contract).lt (.finite (7 / 10))
      confidenceReason := confidenceReason formats contract
      sequenceGapWarning := contract.sequenceGapWarning }
  else none

/-- `build_approval_contract`; `hex` is the random part of the id. -/
def buildApprovalContract (riskTier : RiskTier) (riskScore : ℚ) (rollbackPlan : Option String)
    (prose : ContractProse) (hex : String) (now : Time) : Option ApprovalContract := do
  let whatWillHappen ← buildSection1 formats contract prose.operationSummary
  let systemFlags ← buildSection4 formats contract
  some
    { approvalId := s!"approval_{contract.operationId}_{hex}"
      operationId := contract.operationId
      tenantId := contract.tenantId
      riskTier := riskTier.value
      riskScore
      requiresPermanentAcknowledgement := requiresPermanentAcknowledgement contract
      sections :=
        { whatWillHappen
          whatCannotBeUndone := buildSection2 contract rollbackPlan prose
          hasThisHappenedBefore := buildSection3 contract prose.historicalSummary
          systemFlags }
      timeoutAt := formats.isoformat (now + reviewTimeout)
      assembledAt := formats.isoformat now }

/-- The document is built on whole counts and a confidence that it can show. -/
theorem isSome_buildApprovalContract_iff {formats : ContractFormats} {contract : HandoffContract}
    {riskTier : RiskTier} {riskScore : ℚ} {rollbackPlan : Option String} {prose : ContractProse}
    {hex : String} {now : Time} :
    (buildApprovalContract formats contract riskTier riskScore rollbackPlan prose hex now).isSome =
        true ↔ WholeCounts contract ∧ showsConfidence contract.rowConfidence = true := by
  rw [← isSome_buildSection1_iff formats contract prose.operationSummary]
  unfold buildApprovalContract buildSection4
  cases buildSection1 formats contract prose.operationSummary <;>
    cases showsConfidence contract.rowConfidence <;> simp

/-- A document that is built, taken apart. -/
theorem buildApprovalContract_eq_some {formats : ContractFormats} {contract : HandoffContract}
    {riskTier : RiskTier} {riskScore : ℚ} {rollbackPlan : Option String} {prose : ContractProse}
    {hex : String} {now : Time} {document : ApprovalContract}
    (h : buildApprovalContract formats contract riskTier riskScore rollbackPlan prose hex now =
      some document) :
    ∃ whatWillHappen systemFlags,
      buildSection1 formats contract prose.operationSummary = some whatWillHappen ∧
      buildSection4 formats contract = some systemFlags ∧
      document =
        { approvalId := s!"approval_{contract.operationId}_{hex}"
          operationId := contract.operationId
          tenantId := contract.tenantId
          riskTier := riskTier.value
          riskScore
          requiresPermanentAcknowledgement := requiresPermanentAcknowledgement contract
          sections :=
            { whatWillHappen
              whatCannotBeUndone := buildSection2 contract rollbackPlan prose
              hasThisHappenedBefore := buildSection3 contract prose.historicalSummary
              systemFlags }
          timeoutAt := formats.isoformat (now + reviewTimeout)
          assembledAt := formats.isoformat now } := by
  obtain ⟨whatWillHappen, hsection1, h⟩ := Option.bind_eq_some_iff.mp h
  obtain ⟨systemFlags, hsection4, h⟩ := Option.bind_eq_some_iff.mp h
  exact ⟨whatWillHappen, systemFlags, hsection1, hsection4, (Option.some.inj h).symm⟩

end ContractBuilder
