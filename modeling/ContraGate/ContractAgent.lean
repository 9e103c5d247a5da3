import ContraGate.Analyzer
import ContraGate.ApprovalContract
import ContraGate.Library.Scan

/-!
# The Contract Agent (`agents/contract/agent.py`)

`run` classifies the risk, derives the rollback plan, asks the LLM for prose, at most twice, and
assembles the approval contract. The prose is checked before it is used. One reading of the
clock stands for those of a run, and `none` for an exception: the counts and the confidence come
from the servers unchecked, and are compared and validated here.
-/

namespace ContractAgent

/-! ## The prose -/

/-- `_SQL_PATTERNS`. -/
def sqlPatterns : List String :=
  ["DELETE FROM", "UPDATE SET", "DROP TABLE", "ALTER TABLE", "TRUNCATE", "INSERT INTO",
   "CREATE TABLE", "ROLLBACK;", "COMMIT;"]

/-- `_DECISION_PATTERNS`. -/
def decisionPatterns : List String :=
  ["THIS OPERATION SHOULD BE APPROVED", "THIS OPERATION SHOULD BE REJECTED",
   "APPROVE THIS OPERATION", "REJECT THIS OPERATION", "YOU SHOULD APPROVE", "YOU SHOULD REJECT"]

/-- A required field: a text with at least five characters besides the white space around. -/
def proseField (llmOutput : Py.Dict) (field : String) : Option (List Char) :=
  match Py.Dict.get llmOutput field with
  | .str value => if (Py.strip value.toList).length < 5 then none else some value.toList
  | _ => none

/-- `value.strip()[:600]`. -/
def sanitize (value : List Char) : String := String.ofList ((Py.strip value).take 600)

/-- `_validate_and_sanitize_prose`. -/
def validateAndSanitizeProse (llmOutput : Py.Dict) : Option ContractProse := do
  let operationSummary ← proseField llmOutput "operation_summary"
  let databaseChanges ← proseField llmOutput "database_changes_explanation"
  let externalEffects ← proseField llmOutput "external_effects_explanation"
  let historicalSummary ← proseField llmOutput "historical_summary"
  let allProse := [' '].intercalate
    ([operationSummary, databaseChanges, externalEffects, historicalSummary].map Py.upper)
  if (sqlPatterns ++ decisionPatterns).any fun pattern => (cut pattern.toList allProse).isSome then
    none
  else
    some
      { operationSummary := sanitize operationSummary
        databaseChangesExplanation := sanitize databaseChanges
        externalEffectsExplanation := sanitize externalEffects
        historicalSummary := sanitize historicalSummary }

/-- `CONTRACT_SUMMARY_TOOL_NAME`. -/
def contractSummaryToolName : String := "produce_contract_summary"

/-- The first valid prose in the reply of the LLM. -/
def proseOf (reply : LlmReply) : Option ContractProse :=
  reply.bind fun blocks => blocks.findSome? fun block =>
    if block.type = "tool_use" ∧ block.name = contractSummaryToolName then
      validateAndSanitizeProse block.input
    else none

variable (formats : ContractFormats)

/-- `operation_summary` of `_fallback_prose`. -/
def fallbackSummary (c : HandoffContract) : String :=
  let table := ContractBuilder.orElse c.primaryTable "unknown table"
  let parts :=
    [s!"{c.operationType.value} approximately " ++ c.estimatedPrimaryRows.withCommas formats.texts ++
        " rows from " ++ Py.reprText formats.printable table] ++
      (match c.actualPrimaryRows with
        | some actual => ["(staging simulation affected " ++ actual.withCommas formats.texts ++ " rows)"]
        | none => []) ++
      (if c.cascade.isEmpty then []
        else ["with cascade to ~" ++ Py.withCommas (RiskRules.cascadeTotal c) ++ " rows in " ++
          s!"{c.cascade.length} dependent table(s)"])
  ". ".intercalate parts ++ "."

/-- `db_changes` of `_fallback_prose`. -/
def fallbackDatabaseChanges (c : HandoffContract) : String :=
  let rev := ContractBuilder.reversibilityText c
  if rev = "PERMANENT" then
    "This operation is classified PERMANENT — the database changes " ++
      s!"cannot be automatically reversed. {c.reversibilityReason}"
  else if rev ∈ ["REVERSIBLE_AUTOMATED", "REVERSIBLE_PITR"] then
    s!"This operation is classified {rev} — recovery may be possible. {c.reversibilityReason}"
  else s!"Reversibility: {rev}. {c.reversibilityReason}"

/-- `ext_effects` of `_fallback_prose`. -/
def fallbackExternalEffects (c : HandoffContract) : String :=
  if c.externalTriggers.isEmpty then "No external effects detected."
  else
    s!"{c.externalTriggers.length} external trigger(s) would fire and cannot be automatically " ++
      "reversed. These effects are outside the database transaction."

/-- `hist_summary` of `_fallback_prose`. -/
def fallbackHistory (c : HandoffContract) : String :=
  let rejected := c.historicalPrecedents.filter (·.outcome = "REJECTED")
  if c.retrievalAvailable then
    match c.historicalPrecedents, rejected with
    | [], _ => "No similar historical operations found in the memory store."
    | _, top :: _ =>
      s!"{rejected.length} similar operation(s) were previously REJECTED. " ++
        s!"Top result: {top.operationId}."
    | top :: _, [] =>
      s!"Most similar previous operation: {top.operationId} (outcome: {top.outcome}, similarity: " ++
        formats.fixed2 top.similarityScore ++ ")."
  else "Historical retrieval was unavailable — no precedents could be surfaced."

/-- `_fallback_prose`. -/
def fallbackProse (c : HandoffContract) : ContractProse where
  operationSummary := fallbackSummary formats c
  databaseChangesExplanation := fallbackDatabaseChanges c
  externalEffectsExplanation := fallbackExternalEffects c
  historicalSummary := fallbackHistory formats c

/-- `_get_contract_prose`, with the replies to the two attempts. -/
def getContractProse (first second : LlmReply) (c : HandoffContract) : ContractProse :=
  ((proseOf first).or (proseOf second)).getD (fallbackProse formats c)

/-! ## The agent -/

/-- What steps 1 and 2 write: the risk and the rollback plan. -/
def classify (riskTier : RiskTier) (riskScore : ℚ) (contract : HandoffContract) :
    HandoffContract :=
  let c := { contract with riskTier := some riskTier, riskScore := .finite riskScore }
  { c with rollbackPlan := ContractBuilder.deriveRollbackPlan c }

/-- What steps 5 and 6 write: the document, and an entry of the provenance. -/
def write (document : ApprovalContract) (prose : ContractProse) (now : Time)
    (c : HandoffContract) : HandoffContract :=
  { c with
    intentSummaryProse := prose.operationSummary
    approvalContractJson := formats.dumpJson document
    contractAssembled := true }.addProvenance now "CONTRACT_AGENT"
    ("risk_tier,risk_score,rollback_plan," ++
      "intent_summary_prose,approval_contract_json,contract_assembled") true

/-- The contract that `run` returns, with the document that it has assembled; `hex` is the random
part of the approval id. -/
def assemble (first second : LlmReply) (hex : String) (now : Time) (contract : HandoffContract) :
    Option (HandoffContract × ApprovalContract) := do
  let (riskTier, riskScore) ← RiskRules.classifyRisk contract
  let c := classify riskTier riskScore contract
  let prose := getContractProse formats first second c
  let document ← ContractBuilder.buildApprovalContract formats c riskTier riskScore c.rollbackPlan
    prose hex now
  some (write formats document prose now c, document)

/-- `run`. -/
def run (first second : LlmReply) (hex : String) (now : Time) (contract : HandoffContract) :
    Option HandoffContract :=
  (assemble formats first second hex now contract).map Prod.fst

/-- The document that `run` assembles. -/
def approvalContract (first second : LlmReply) (hex : String) (now : Time)
    (contract : HandoffContract) : Option ApprovalContract :=
  (assemble formats first second hex now contract).map Prod.snd

variable {formats} {first second : LlmReply} {hex : String} {now : Time}
  {contract c : HandoffContract} {document : ApprovalContract}

/-- A run that returns, taken apart. -/
theorem assemble_eq_some_iff :
    assemble formats first second hex now contract = some (c, document) ↔
      ∃ riskTier riskScore, RiskRules.classifyRisk contract = some (riskTier, riskScore) ∧
        ContractBuilder.buildApprovalContract formats (classify riskTier riskScore contract) riskTier
          riskScore (classify riskTier riskScore contract).rollbackPlan
          (getContractProse formats first second (classify riskTier riskScore contract)) hex now =
            some document ∧
        c = write formats document
          (getContractProse formats first second (classify riskTier riskScore contract)) now
          (classify riskTier riskScore contract) := by
  simp only [assemble, Option.bind_eq_bind, Option.bind_eq_some_iff, Option.some.injEq,
    Prod.mk.injEq, Prod.exists]
  constructor
  · rintro ⟨riskTier, riskScore, hrisk, document', hdocument, rfl, rfl⟩
    exact ⟨riskTier, riskScore, hrisk, hdocument, rfl⟩
  · rintro ⟨riskTier, riskScore, hrisk, hdocument, rfl⟩
    exact ⟨riskTier, riskScore, hrisk, document, hdocument, rfl, rfl⟩

/-- A run returns on whole counts and a confidence that the document can show. -/
theorem isSome_assemble_iff : (assemble formats first second hex now contract).isSome = true ↔
    ContractBuilder.WholeCounts contract ∧
      ContractBuilder.showsConfidence contract.rowConfidence = true := by
  constructor
  · intro h
    obtain ⟨⟨c, document⟩, h⟩ := Option.isSome_iff_exists.mp h
    obtain ⟨_, _, -, hdocument, -⟩ := assemble_eq_some_iff.mp h
    obtain ⟨hcounts, hconfidence⟩ := ContractBuilder.isSome_buildApprovalContract_iff.mp
      (Option.isSome_iff_exists.mpr ⟨_, hdocument⟩)
    -- what the classification writes is not counted
    exact ⟨⟨hcounts.estimated, hcounts.totalEstimated, hcounts.actual, hcounts.totalActual⟩,
      hconfidence⟩
  · rintro ⟨hcounts, hconfidence⟩
    have hrisk := RiskRules.classifyRisk_eq_some_iff.mpr
      ⟨ContractBuilder.isSome_num?_of_showsConfidence hconfidence, rfl⟩
    obtain ⟨document, hdocument⟩ := Option.isSome_iff_exists.mp
      (ContractBuilder.isSome_buildApprovalContract_iff.mpr
        ⟨⟨hcounts.estimated, hcounts.totalEstimated, hcounts.actual, hcounts.totalActual⟩,
          hconfidence⟩)
    exact Option.isSome_iff_exists.mpr
      ⟨_, assemble_eq_some_iff.mpr ⟨_, _, hrisk, hdocument, rfl⟩⟩

theorem run_eq_some_iff : run formats first second hex now contract = some c ↔
    ∃ document, assemble formats first second hex now contract = some (c, document) := by
  simp [run]

theorem approvalContract_eq_some_iff :
    approvalContract formats first second hex now contract = some document ↔
      ∃ c, assemble formats first second hex now contract = some (c, document) := by
  simp [approvalContract]

end ContractAgent
