import ContraGate.ContractAgent
import ContraGate.Library.Fallible

/-!
# The prose of the LLM and the facts of the contract

`run` once more, with all that a call of the LLM can do: it raises, or the message is not of the
expected shape, so that an attempt to read it raises. Each attempt has its own `except`, and the
prose that is left goes to four fields of the document and one of the contract.
-/

/-- A block of a message as the client hands it over. An attribute may be missing, and `input` may
be any JSON value. -/
structure MessageBlock where
  type : Option Py.Json
  name : Option Py.Json
  input : Option Py.Json

/-- How a call of the LLM ends. -/
inductive LlmCall
  | raised (exc : String)
  /-- `response.content`, if it is a sequence. -/
  | returned (content : Option (List MessageBlock))

/-- The document without the prose, the generated id and the times. -/
def ApprovalContract.facts (document : ApprovalContract) : ApprovalContract :=
  let sections := document.sections
  { document with
    approvalId := ""
    timeoutAt := ""
    assembledAt := ""
    sections :=
      { sections with
        whatWillHappen := { sections.whatWillHappen with operationSummary := "" }
        whatCannotBeUndone :=
          { sections.whatCannotBeUndone with
            databaseChangesExplanation := "", externalEffectsExplanation := "" }
        hasThisHappenedBefore :=
          { sections.hasThisHappenedBefore with historicalSummary := "" } } }

/-- The contract without the prose, the document and the times of the provenance. -/
def HandoffContract.facts (c : HandoffContract) : HandoffContract :=
  { c with
    intentSummaryProse := ""
    approvalContractJson := ""
    workflowProvenance := c.workflowProvenance.map fun entry => { entry with timestamp := 0 } }

namespace ContractAgent

/-! ## The attempts -/

/-- `block.attr`. -/
def attr (value : Option Py.Json) : Except String Py.Json :=
  match value with
  | some value => return value
  | none => throw "AttributeError"

/-- `value == text`. -/
def equals (value : Py.Json) (text : String) : Bool :=
  match value with
  | .str s => s = text
  | _ => false

/-- What the loop makes of a block of the message. -/
def readBlock (block : MessageBlock) : Except String (Option ContractProse) := do
  if equals (← attr block.type) "tool_use" then
    if equals (← attr block.name) contractSummaryToolName then
      match ← attr block.input with
      | .obj llmOutput => return validateAndSanitizeProse llmOutput
      -- only a `dict` has the method `get`
      | _ => throw "AttributeError"
    else return none
  else return none

/-- The loop over the blocks: the first valid prose is returned. -/
def readBlocks : List MessageBlock → Except String (Option ContractProse)
  | [] => return none
  | block :: blocks => do
    match ← readBlock block with
    | some prose => return some prose
    | none => readBlocks blocks

/-- The body of the `try`. -/
def attempt : LlmCall → Except String (Option ContractProse)
  | .raised exc => throw exc
  | .returned none => throw "TypeError"
  | .returned (some content) => readBlocks content

variable (formats : ContractFormats)

/-- The attempts of `_get_contract_prose`, and the fallback. -/
def attemptProse (c : HandoffContract) : List LlmCall → Except String ContractProse
  | [] => return fallbackProse formats c
  | call :: calls => do
    let validated ← tryCatch (attempt call) fun _ => return none
    match validated with
    | some prose => return prose
    | none => attemptProse c calls

/-- What differs between two runs. -/
structure ProseRun where
  first : LlmCall
  second : LlmCall
  hex : String
  now : Time

/-- What the contract alone decides: a value, or an exception. -/
def orRaise {α : Type} (value : Option α) : Except String α :=
  match value with
  | some value => return value
  | none => throw "Exception"

/-- `run`, with the document that it assembles. -/
def runWith (run : ProseRun) (contract : HandoffContract) :
    Except String (ApprovalContract × HandoffContract) := do
  let (riskTier, riskScore) ← orRaise (RiskRules.classifyRisk contract)
  let c := classify riskTier riskScore contract
  let prose ← attemptProse formats c [run.first, run.second]
  let document ← orRaise (ContractBuilder.buildApprovalContract formats c riskTier riskScore
    c.rollbackPlan prose run.hex run.now)
  return (document, { c with
    intentSummaryProse := prose.operationSummary
    approvalContractJson := formats.dumpJson document
    contractAssembled := true }.addProvenance run.now "CONTRACT_AGENT"
    ("risk_tier,risk_score,rollback_plan," ++
      "intent_summary_prose,approval_contract_json,contract_assembled") true)

/-! ## What is left of a call -/

/-- A block of the expected shape. -/
def block? : MessageBlock → Option ContentBlock
  | ⟨some (.str type), some (.str name), some (.obj input)⟩ => some ⟨type, name, input⟩
  | _ => none

/-- The reply that the agent sees: none when reading the message raises. -/
def replyOf (call : LlmCall) : LlmReply :=
  match attempt call, call with
  | .ok _, .returned (some content) => some (content.filterMap block?)
  | _, _ => none

/-- The prose in a block of the expected shape. -/
def proseOfBlock (block : ContentBlock) : Option ContractProse :=
  if block.type = "tool_use" ∧ block.name = contractSummaryToolName then
    validateAndSanitizeProse block.input
  else none

theorem proseOf_some (blocks : List ContentBlock) :
    proseOf (some blocks) = blocks.findSome? proseOfBlock := rfl

theorem equals_eq_true {value : Py.Json} {text : String} (h : equals value text = true) :
    value = .str text := by
  unfold equals at h
  split at h
  · rw [of_decide_eq_true h]
  · cases h

theorem attr_eq_ok {value : Option Py.Json} {result : Py.Json} (h : attr value = .ok result) :
    value = some result := by
  cases value with
  | none => cases h
  | some value => rw [Except.ok.inj h]

theorem block?_eq_some {block : MessageBlock} {b : ContentBlock} (h : block? block = some b) :
    block = ⟨some (.str b.type), some (.str b.name), some (.obj b.input)⟩ := by
  unfold block? at h
  split at h
  · obtain rfl := Option.some.inj h
    rfl
  · cases h

/-- A block that is read without an exception. -/
theorem proseOfBlock_of_readBlock {block : MessageBlock} {found : Option ContractProse}
    (h : readBlock block = .ok found) : (block? block).bind proseOfBlock = found := by
  cases hblock : block? block with
  | some b =>
    rw [block?_eq_some hblock] at h
    rw [Option.bind_some, proseOfBlock]
    simp only [readBlock, attr, equals, pure_bind, decide_eq_true_eq] at h
    split_ifs at h with htype hname
    · rw [if_pos ⟨htype, hname⟩]
      exact Except.ok.inj h
    · rw [if_neg fun hboth => hname hboth.2]
      exact Except.ok.inj h
    · rw [if_neg fun hboth => htype hboth.1]
      exact Except.ok.inj h
  | none =>
    rw [Option.bind_none]
    obtain ⟨type?, name?, input?⟩ := block
    simp only [readBlock, Fallible.bind_eq_ok] at h
    obtain ⟨type, htype, h⟩ := h
    split_ifs at h with htool
    · obtain ⟨name, hname, h⟩ := Fallible.bind_eq_ok.mp h
      split_ifs at h with hsummary
      · obtain ⟨input, hinput, h⟩ := Fallible.bind_eq_ok.mp h
        split at h
        -- such a block is of the expected shape
        next llmOutput =>
          obtain rfl := attr_eq_ok htype
          obtain rfl := attr_eq_ok hname
          obtain rfl := attr_eq_ok hinput
          obtain rfl := equals_eq_true htool
          obtain rfl := equals_eq_true hsummary
          cases hblock
        next => cases h
      · exact Except.ok.inj h
    · exact Except.ok.inj h

/-- Where reading the blocks does not raise, the ones of another shape do not matter. -/
theorem proseOf_of_readBlocks {content : List MessageBlock} {found : Option ContractProse}
    (h : readBlocks content = .ok found) : proseOf (some (content.filterMap block?)) = found := by
  rw [proseOf_some]
  induction content with
  | nil => exact Except.ok.inj h
  | cons block content ih =>
    rw [readBlocks] at h
    obtain ⟨first, hfirst, h⟩ := Fallible.bind_eq_ok.mp h
    have hblock := proseOfBlock_of_readBlock hfirst
    have hcons : ((block :: content).filterMap block?).findSome? proseOfBlock =
        ((block? block).bind proseOfBlock).or
          ((content.filterMap block?).findSome? proseOfBlock) := by
      rw [List.filterMap_cons]
      cases block? block with
      | none => rfl
      | some b =>
        show List.findSome? proseOfBlock (b :: content.filterMap block?) = _
        rw [List.findSome?_cons, Option.bind_some]
        cases proseOfBlock b <;> rfl
    rw [hcons, hblock]
    cases first with
    | some prose => exact Except.ok.inj h
    | none => exact ih h

/-- The prose of a reply is what the attempt finds, and none when it raises. -/
theorem proseOf_replyOf (call : LlmCall) :
    proseOf (replyOf call) = (attempt call).toOption.join := by
  cases call with
  | raised exc => rfl
  | returned content =>
    cases content with
    | none => rfl
    | some content =>
      have hread : attempt (.returned (some content)) = readBlocks content := rfl
      unfold replyOf
      cases hfound : readBlocks content with
      | error exc =>
        rw [hread, hfound]
        rfl
      | ok found =>
        rw [hread, hfound]
        exact proseOf_of_readBlocks hfound

/-- An attempt that raises is one without prose. -/
theorem attemptProse_cons (c : HandoffContract) (call : LlmCall) (calls : List LlmCall) :
    attemptProse formats c (call :: calls) =
      match proseOf (replyOf call) with
      | some prose => .ok prose
      | none => attemptProse formats c calls := by
  rw [proseOf_replyOf, attemptProse]
  cases attempt call with
  | error exc => rfl
  | ok found => cases found <;> rfl

/-- The attempts never raise, and give the prose of the first valid reply or the fallback. -/
theorem attemptProse_eq (c : HandoffContract) (first second : LlmCall) :
    attemptProse formats c [first, second] =
      .ok (getContractProse formats (replyOf first) (replyOf second) c) := by
  rw [attemptProse_cons, getContractProse]
  cases proseOf (replyOf first) with
  | some prose => rfl
  | none =>
    dsimp only
    rw [attemptProse_cons]
    cases proseOf (replyOf second) <;> rfl

/-- A run does what `run` does on the replies that the agent sees. -/
theorem runWith_eq (run : ProseRun) (contract : HandoffContract) :
    runWith formats run contract =
      (orRaise (assemble formats (replyOf run.first) (replyOf run.second) run.hex run.now
        contract)).map Prod.swap := by
  unfold runWith assemble
  cases RiskRules.classifyRisk contract with
  | none => rfl
  | some risk =>
    obtain ⟨riskTier, riskScore⟩ := risk
    have hsome : orRaise (some (riskTier, riskScore)) = .ok (riskTier, riskScore) := rfl
    simp only [hsome, attemptProse_eq, bind, Except.bind, Option.bind]
    cases ContractBuilder.buildApprovalContract formats (classify riskTier riskScore contract)
      riskTier riskScore (classify riskTier riskScore contract).rollbackPlan
      (getContractProse formats (replyOf run.first) (replyOf run.second)
        (classify riskTier riskScore contract)) run.hex run.now <;> rfl

/-! ## Two runs -/

variable {formats}

/-- The document without the prose depends on the contract alone. -/
theorem facts_buildApprovalContract {c : HandoffContract} {riskTier : RiskTier} {riskScore : ℚ}
    {rollbackPlan : Option String} {prose prose' : ContractProse} {hex hex' : String}
    {now now' : Time} {document document' : ApprovalContract}
    (h : ContractBuilder.buildApprovalContract formats c riskTier riskScore rollbackPlan prose hex
      now = some document)
    (h' : ContractBuilder.buildApprovalContract formats c riskTier riskScore rollbackPlan prose'
      hex' now' = some document') : document.facts = document'.facts := by
  obtain ⟨section1, section4, hsection1, hsection4, rfl⟩ :=
    ContractBuilder.buildApprovalContract_eq_some h
  obtain ⟨section1', section4', hsection1', hsection4', rfl⟩ :=
    ContractBuilder.buildApprovalContract_eq_some h'
  obtain rfl := Option.some.inj (hsection4.symm.trans hsection4')
  have hsame := ContractBuilder.buildSection1_summary hsection1 hsection1'
  unfold ApprovalContract.facts
  dsimp only
  rw [hsame]
  rfl

/-- **The LLM alters no fact.** Whatever the LLM does in two runs from the same contract: both
return, the documents are the same except for the prose, the id and the times, and the contracts
are the same except for the prose, the text of the document and the times of the provenance. Only
where the contract has a count that is not whole, or a confidence that cannot be compared or
written, do both raise, and they raise the same. -/
theorem prose_alters_no_fact (run run' : ProseRun) (contract : HandoffContract) :
    (∃ document c document' c',
      runWith formats run contract = .ok (document, c) ∧
      runWith formats run' contract = .ok (document', c') ∧
      document.facts = document'.facts ∧ c.facts = c'.facts ∧
      c.approvalContractJson = formats.dumpJson document ∧
      c'.approvalContractJson = formats.dumpJson document') ∨
    ¬ (ContractBuilder.WholeCounts contract ∧
        ContractBuilder.showsConfidence contract.rowConfidence = true) ∧
      ∃ exc, runWith formats run contract = .error exc ∧
        runWith formats run' contract = .error exc := by
  have hsome (run : ProseRun) := @isSome_assemble_iff formats (replyOf run.first)
    (replyOf run.second) run.hex run.now contract
  rw [runWith_eq, runWith_eq]
  by_cases hcounts :
      ContractBuilder.WholeCounts contract ∧
        ContractBuilder.showsConfidence contract.rowConfidence = true
  · left
    obtain ⟨⟨c, document⟩, h⟩ := Option.isSome_iff_exists.mp ((hsome run).mpr hcounts)
    obtain ⟨⟨c', document'⟩, h'⟩ := Option.isSome_iff_exists.mp ((hsome run').mpr hcounts)
    obtain ⟨riskTier, riskScore, hrisk, hdocument, hc⟩ := assemble_eq_some_iff.mp h
    obtain ⟨riskTier', riskScore', hrisk', hdocument', hc'⟩ := assemble_eq_some_iff.mp h'
    obtain ⟨rfl, rfl⟩ := Prod.mk.inj (Option.some.inj (hrisk.symm.trans hrisk'))
    refine ⟨document, c, document', c', by rw [h]; rfl, by rw [h']; rfl,
      facts_buildApprovalContract hdocument hdocument', ?_, by rw [hc]; rfl, by rw [hc']; rfl⟩
    rw [hc, hc']
    unfold HandoffContract.facts write HandoffContract.addProvenance
    simp only [List.map_append, List.map_cons, List.map_nil]
  · right
    have hnone (run : ProseRun) := Option.not_isSome_iff_eq_none.mp fun h => hcounts ((hsome run).mp h)
    exact ⟨hcounts, "Exception", by rw [hnone run]; rfl, by rw [hnone run']; rfl⟩

end ContractAgent
