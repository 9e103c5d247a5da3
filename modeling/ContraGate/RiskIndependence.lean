import ContraGate.ContextSim
import ContraGate.ContractAgent
import ContraGate.RejectionEscalates

/-!
# The LLM and the risk tier

The three agents in a row, on tools that are functions of their arguments. The intent summary
that the LLM writes is the query of the semantic search, and each rejection that the search
brings up is counted in the score and decides the tier. Nothing else of what the LLM writes
reaches `classify_risk`.
-/

/-- What two runs have in common: tools and servers. -/
structure AgentServices where
  analyzer : AnalyzerConfig
  reader : PostgresTools
  memory : MemoryTools
  sandbox : SandboxTools
  formats : ContractFormats

/-- What differs between two runs: the replies of the LLM, the readings of the clock and the
random part of the approval id. -/
structure AgentRun where
  intent : LlmReply := none
  prose : LlmReply := none
  proseAgain : LlmReply := none
  analyzed : Time := 0
  simulated : Time := 0
  assembled : Time := 0
  hex : String := ""

namespace AgentPipeline

variable (services : AgentServices)

/-- `AnalyzerAgent.analyze`, then `ContextSimAgent.run`, then `ContractAgent.run`. -/
def runAgents (run : AgentRun) (contract : HandoffContract) : Option HandoffContract :=
  (AnalyzerAgent.analyze services.analyzer services.reader run.intent run.analyzed contract).bind
    fun c =>
      ContractAgent.run services.formats run.prose run.proseAgain run.hex run.assembled
        (ContextSimAgent.run services.memory services.sandbox services.sandbox run.simulated c)

/-- The contract as it is before the LLM is asked. -/
def factsOf (contract : HandoffContract) : Option HandoffContract :=
  if AnalyzerAgent.skips contract then some contract
  else AnalyzerAgent.gatherFacts services.analyzer services.reader contract

/-- The agents behind the analysis return: the document can show the confidence, and the counts,
those of the simulation included, are whole. -/
def Documented (facts : HandoffContract) : Prop :=
  ContractBuilder.WholeCounts
      (ContextSimAgent.run services.memory services.sandbox services.sandbox 0 facts) ∧
    ContractBuilder.showsConfidence facts.rowConfidence = true

/-- The intent summary of a run. -/
def summary (run : AgentRun) (contract facts : HandoffContract) : Py.Json :=
  if AnalyzerAgent.skips contract then contract.intentSummary
  else AnalyzerAgent.getIntentSummary services.analyzer run.intent facts

/-- The query of the semantic search in a run. -/
def query (run : AgentRun) (contract facts : HandoffContract) : Py.Json :=
  RetrievalClient.intent
    { facts with intentSummary := summary services run contract facts }

theorem query_of_summary {services : AgentServices} {run : AgentRun}
    {contract facts : HandoffContract} {v : Py.Json}
    (h : summary services run contract facts = v) (hv : v.truthy = true) :
    query services run contract facts = v := by
  unfold query
  rw [h]
  exact if_pos hv

/-! ## The rejections that a search brings up -/

/-- What the three tools of the memory store make of a query. -/
def surfaced (memory : MemoryTools) (query : Py.Json) (tenantId : String) (tables : List String) :
    List MemoryRecord :=
  match memory.semanticSearch query tenantId 20 with
  | .error _ | .ok [] => []
  | .ok (c :: cs) =>
    match memory.filterByTableOverlap (c :: cs) tables with
    | .error _ | .ok [] => []
    | .ok (d :: ds) =>
      match memory.rerankByOutcome (d :: ds) with
      | .error _ => []
      | .ok ranked => ranked

/-- The number of rejections among them. -/
def rejections (memory : MemoryTools) (query : Py.Json) (facts : HandoffContract) : ℕ :=
  (surfaced memory query facts.tenantId (RetrievalClient.extractTableSet facts)).countP
    fun r => r.outcome = some "REJECTED"

/-- The retrieval makes its precedents of these records. -/
theorem retrieve_precedents (memory : MemoryTools) (c : HandoffContract) :
    (RetrievalClient.retrieve memory c).precedents =
      (surfaced memory (RetrievalClient.intent c) c.tenantId
        (RetrievalClient.extractTableSet c)).map RetrievalClient.toHistoricalOperation := by
  unfold RetrievalClient.retrieve RetrievalClient.stages surfaced
  -- the stages end at the first failure or empty list, and so does `surfaced`
  cases memory.semanticSearch (RetrievalClient.intent c) c.tenantId 20 with
  | error reason => rfl
  | ok candidates =>
    cases candidates with
    | nil => rfl
    | cons d ds =>
      simp only [bind, Except.bind, List.isEmpty_cons, Bool.false_eq_true, if_false]
      cases memory.filterByTableOverlap (d :: ds) (RetrievalClient.extractTableSet c) with
      | error reason => rfl
      | ok filtered =>
        cases filtered with
        | nil => rfl
        | cons f fs =>
          simp only [List.isEmpty_cons, Bool.false_eq_true, if_false]
          cases memory.rerankByOutcome (f :: fs) <;> rfl

theorem toHistoricalOperation_rejected (r : MemoryRecord) :
    (RetrievalClient.toHistoricalOperation r).outcome = "REJECTED" ↔
      r.outcome = some "REJECTED" := by
  show r.outcome.getD "UNKNOWN" = "REJECTED" ↔ _
  cases r.outcome <;> simp

/-- The rejections among the precedents of a run. -/
theorem rejectionCount_retrieve (memory : MemoryTools) (c facts : HandoffContract)
    (htenant : c.tenantId = facts.tenantId)
    (htables : RetrievalClient.extractTableSet c = RetrievalClient.extractTableSet facts) :
    (RetrievalClient.retrieve memory c).precedents.countP (·.outcome = "REJECTED") =
      rejections memory (RetrievalClient.intent c) facts := by
  rw [retrieve_precedents, List.countP_map, htenant, htables]
  unfold rejections
  congr 1
  funext r
  exact decide_eq_decide.mpr (toHistoricalOperation_rejected r)

/-- The store brings up the rejected candidates that overlap, three at most. -/
theorem rejections_storeTools (cfg : MemoryStoreConfig) {candidates : List MemoryRecord}
    {search : Py.Json → String → ℕ → Except String (List MemoryRecord)} {query : Py.Json}
    {facts : HandoffContract} (hquery : query.truthy = true)
    (hsearch : search query facts.tenantId 20 = .ok candidates)
    (hsimilarity : ∀ r ∈ candidates, r.similarityScore.getD 0 ≤ 1) :
    rejections (RetrievalClient.storeTools cfg search) query facts =
      min 3 (RetrievalClient.rejectedOverlapping cfg facts candidates).length := by
  let c := { facts with intentSummary := query }
  -- a contract whose search text is the query
  have hintent : RetrievalClient.intent c = query := if_pos hquery
  have hsearch' : search (RetrievalClient.intent c) c.tenantId 20 = .ok candidates := by
    rw [hintent]
    exact hsearch
  obtain ⟨others, hothers, hprecedents⟩ :=
    RetrievalClient.precedents_eq cfg hsearch' hsimilarity
  have hcount := rejectionCount_retrieve (RetrievalClient.storeTools cfg search) c facts rfl rfl
  rw [hintent] at hcount
  rw [← hcount, hprecedents, List.countP_append]
  set sorted := (sortDesc (RetrievalClient.roundedJaccard cfg c)
    (RetrievalClient.rejectedOverlapping cfg c candidates)).map
      (RetrievalClient.rejectedPrecedent cfg c)
  -- the front counts in full, nothing behind it does
  have hfront : (sorted.take 3).countP (·.outcome = "REJECTED") = (sorted.take 3).length := by
    rw [List.countP_eq_length]
    intro h hh
    exact decide_eq_true (RetrievalClient.outcome_of_mem_take hh)
  have hbehind : (others.take
      (3 - (RetrievalClient.rejectedOverlapping cfg c candidates).length)).countP
        (·.outcome = "REJECTED") = 0 := by
    rw [List.countP_eq_zero]
    intro h hh
    simpa using hothers h (List.mem_of_mem_take hh)
  rw [hfront, hbehind, RetrievalClient.length_take_rejected, Nat.add_zero]
  rfl

/-! ## What the tier depends on -/

/-- The contract with other precedents. -/
def withPrecedents (facts : HandoffContract) (precedents : List HistoricalOperation) :
    HandoffContract :=
  { facts with historicalPrecedents := precedents }

/-- The number of rejections. -/
def rejected (precedents : List HistoricalOperation) : ℕ :=
  precedents.countP (·.outcome = "REJECTED")

/-- The tier and the score with these precedents. -/
def risk (facts : HandoffContract) (precedents : List HistoricalOperation) : RiskTier × ℚ :=
  let c := withPrecedents facts precedents
  (RiskRules.applyTierRules c (RiskRules.computeRiskScore c), RiskRules.computeRiskScore c)

theorem risk_score (facts : HandoffContract) (precedents : List HistoricalOperation) :
    (risk facts precedents).2 =
      min 1 (RiskRules.otherComponents facts + rejected precedents * (5 / 100)) :=
  RiskRules.computeRiskScore_eq (withPrecedents facts precedents)

/-- Of the precedents only the number of rejections counts. -/
theorem risk_congr {facts : HandoffContract} {ps ps' : List HistoricalOperation}
    (h : rejected ps = rejected ps') : risk facts ps = risk facts ps' := by
  have hscore : RiskRules.computeRiskScore (withPrecedents facts ps) =
      RiskRules.computeRiskScore (withPrecedents facts ps') := by
    have hps := risk_score facts ps
    rw [h, ← risk_score facts ps'] at hps
    exact hps
  -- the tier asks for one rejection, the score counts them
  have hany : ∀ qs : List HistoricalOperation,
      (qs.any (·.outcome = "REJECTED")) = decide (0 < rejected qs) := by
    intro qs
    rw [Bool.eq_iff_iff, List.any_eq_true, decide_eq_true_iff, rejected, List.countP_pos_iff]
  have htier : ∀ score : ℚ, RiskRules.applyTierRules (withPrecedents facts ps) score =
      RiskRules.applyTierRules (withPrecedents facts ps') score := by
    intro score
    unfold RiskRules.applyTierRules
    have hsame : (withPrecedents facts ps).historicalPrecedents.any (·.outcome = "REJECTED") =
        (withPrecedents facts ps').historicalPrecedents.any (·.outcome = "REJECTED") := by
      show ps.any _ = ps'.any _
      rw [hany, hany, h]
    rw [hsame]
    rfl
  unfold risk
  dsimp only
  rw [hscore, htier]

/-- The highest score decides the tier. -/
theorem applyTierRules_of_one (c : HandoffContract) :
    RiskRules.applyTierRules c 1 = .fullContract := by
  unfold RiskRules.applyTierRules
  have hhigh : (1 : ℚ) > RiskRules.highRiskScore := by norm_num [RiskRules.highRiskScore]
  simp only [hhigh, if_true, ite_self]

/-- The score reaches 1 with this number of rejections. -/
def Saturates (facts : HandoffContract) (n : ℕ) : Prop :=
  1 ≤ RiskRules.otherComponents facts + n * (5 / 100)

theorem risk_of_saturates {facts : HandoffContract} {ps : List HistoricalOperation}
    (h : Saturates facts (rejected ps)) : risk facts ps = (.fullContract, 1) := by
  have hscore : RiskRules.computeRiskScore (withPrecedents facts ps) = 1 := by
    have hps := risk_score facts ps
    rw [min_eq_left h] at hps
    exact hps
  unfold risk
  dsimp only
  rw [hscore, applyTierRules_of_one]

/-- Fewer rejections give a smaller score, unless the score is capped. -/
theorem saturates_of_lt {facts : HandoffContract} {m n : ℕ} (hlt : m < n)
    (h : min 1 (RiskRules.otherComponents facts + m * (5 / 100)) =
      min 1 (RiskRules.otherComponents facts + n * (5 / 100))) : Saturates facts m := by
  -- below the cap the larger number would give a larger score
  by_contra hnot
  unfold Saturates at hnot
  rw [not_le] at hnot
  have hcast : (m : ℚ) < n := Nat.cast_lt.mpr hlt
  have hmore : RiskRules.otherComponents facts + m * (5 / 100) <
      min 1 (RiskRules.otherComponents facts + n * (5 / 100)) := lt_min hnot (by linarith)
  rw [min_eq_right hnot.le] at h
  exact hmore.ne h

theorem Saturates.mono {facts : HandoffContract} {m n : ℕ} (h : Saturates facts m)
    (hmn : m ≤ n) : Saturates facts n := by
  unfold Saturates at h ⊢
  have hcast : (m : ℚ) ≤ n := Nat.cast_le.mpr hmn
  linarith

/-- When two lists of precedents give the same tier and the same score. -/
theorem risk_eq_iff {facts : HandoffContract} {ps ps' : List HistoricalOperation} :
    risk facts ps = risk facts ps' ↔
      rejected ps = rejected ps' ∨ Saturates facts (min (rejected ps) (rejected ps')) := by
  constructor
  · intro h
    have hscore := congrArg Prod.snd h
    rw [risk_score, risk_score] at hscore
    rcases Nat.lt_trichotomy (rejected ps) (rejected ps') with hlt | heq | hlt
    · right
      rw [min_eq_left hlt.le]
      exact saturates_of_lt hlt hscore
    · exact .inl heq
    · right
      rw [min_eq_right hlt.le]
      exact saturates_of_lt hlt hscore.symm
  · rintro (h | h)
    · exact risk_congr h
    · rw [risk_of_saturates (h.mono (min_le_left _ _)),
        risk_of_saturates (h.mono (min_le_right _ _))]

/-! ## The agents -/

/-- What the simulation writes does not reach the classification. -/
theorem classifyRisk_contextSim (memory : MemoryTools) (first second : SandboxTools) (now : Time)
    (c : HandoffContract) :
    RiskRules.classifyRisk (ContextSimAgent.run memory first second now c) =
      RiskRules.classifyRisk
        (withPrecedents c (RetrievalClient.retrieve memory c).precedents) := by
  unfold ContextSimAgent.run SandboxClient.applyToContract
  dsimp only
  split_ifs <;> rfl

/-- The counts after the simulation. -/
theorem contextSim_counts (memory : MemoryTools) (first second : SandboxTools) (now : Time)
    (c : HandoffContract) :
    let result := ContextSimAgent.runSimulationWithRetry first second c
    let c' := ContextSimAgent.run memory first second now c
    c'.estimatedPrimaryRows = c.estimatedPrimaryRows ∧ c'.cascade = c.cascade ∧
      c'.actualPrimaryRows =
        (if result.executed then result.actualPrimaryRows else c.actualPrimaryRows) ∧
      c'.actualCascade = (if result.executed then result.actualCascade else c.actualCascade) ∧
      c'.rowConfidence = c.rowConfidence := by
  unfold ContextSimAgent.run SandboxClient.applyToContract
  dsimp only
  split_ifs <;> exact ⟨rfl, rfl, rfl, rfl, rfl⟩

/-- The summary and the provenance do not matter to the simulation and its counts. -/
theorem wholeCounts_contextSim {memory : MemoryTools} {sandbox : SandboxTools} {now now' : Time}
    {c c' : HandoffContract}
    (hsimulated : ContextSimAgent.runSimulationWithRetry sandbox sandbox c =
      ContextSimAgent.runSimulationWithRetry sandbox sandbox c')
    (hestimated : c.estimatedPrimaryRows = c'.estimatedPrimaryRows)
    (hcascade : c.cascade = c'.cascade) (hactual : c.actualPrimaryRows = c'.actualPrimaryRows)
    (hmeasured : c.actualCascade = c'.actualCascade)
    (h : ContractBuilder.WholeCounts (ContextSimAgent.run memory sandbox sandbox now c)) :
    ContractBuilder.WholeCounts (ContextSimAgent.run memory sandbox sandbox now' c') := by
  obtain ⟨h1, h2, h3, h4, -⟩ := contextSim_counts memory sandbox sandbox now c
  obtain ⟨h1', h2', h3', h4', -⟩ := contextSim_counts memory sandbox sandbox now' c'
  refine h.of_eq ?_ ?_ ?_ ?_
  · rw [h1, h1', hestimated]
  · rw [h2, h2', hcascade]
  · rw [h3, h3', hsimulated, hactual]
  · rw [h4, h4', hsimulated, hmeasured]

/-- What the later agents take from the analysis: its facts and the query. -/
structure Analyzed (services : AgentServices) (run : AgentRun)
    (contract facts analyzed : HandoffContract) : Prop where
  query : RetrievalClient.intent analyzed = query services run contract facts
  tenantId : analyzed.tenantId = facts.tenantId
  tables : RetrievalClient.extractTableSet analyzed = RetrievalClient.extractTableSet facts
  classified : ∀ precedents, RiskRules.classifyRisk (withPrecedents analyzed precedents) =
    RiskRules.classifyRisk (withPrecedents facts precedents)
  counts : ∀ now, ContractBuilder.WholeCounts
      (ContextSimAgent.run services.memory services.sandbox services.sandbox now analyzed) ↔
    ContractBuilder.WholeCounts
      (ContextSimAgent.run services.memory services.sandbox services.sandbox 0 facts)
  confidence : analyzed.rowConfidence = facts.rowConfidence

/-- What the analysis hands on: the facts with the summary, as far as the risk is concerned. -/
theorem analyze_spec {services : AgentServices} {run : AgentRun}
    {contract facts analyzed : HandoffContract} (hfacts : factsOf services contract = some facts)
    (h : AnalyzerAgent.analyze services.analyzer services.reader run.intent run.analyzed contract =
      some analyzed) : Analyzed services run contract facts analyzed := by
  unfold AnalyzerAgent.analyze at h
  unfold factsOf at hfacts
  split_ifs at h hfacts with hskips
  · obtain rfl := Option.some.inj h
    obtain rfl := Option.some.inj hfacts
    refine ⟨?_, rfl, rfl, fun _ => rfl, fun now =>
      ⟨wholeCounts_contextSim rfl rfl rfl rfl rfl, wholeCounts_contextSim rfl rfl rfl rfl rfl⟩, rfl⟩
    unfold AgentPipeline.query summary
    rw [if_pos hskips]
  · rw [hfacts, Option.map_some] at h
    obtain rfl := Option.some.inj h
    refine ⟨?_, rfl, rfl, fun _ => rfl, fun now =>
      ⟨wholeCounts_contextSim rfl rfl rfl rfl rfl, wholeCounts_contextSim rfl rfl rfl rfl rfl⟩, rfl⟩
    unfold AgentPipeline.query summary
    rw [if_neg hskips]
    rfl

/-- Tier and score of a run, from the facts and the rejections that its query brings up. -/
theorem runAgents_risk {services : AgentServices} {run : AgentRun}
    {contract facts c : HandoffContract} (hfacts : factsOf services contract = some facts)
    (h : runAgents services run contract = some c) :
    ∃ precedents : List HistoricalOperation,
      rejected precedents = rejections services.memory (query services run contract facts) facts ∧
      c.riskTier = some (risk facts precedents).1 ∧
      c.riskScore = .finite (risk facts precedents).2 := by
  obtain ⟨analyzed, hanalyzed, hrun⟩ := Option.bind_eq_some_iff.mp h
  have hspec := analyze_spec hfacts hanalyzed
  obtain ⟨document, hassembled⟩ := ContractAgent.run_eq_some_iff.mp hrun
  obtain ⟨riskTier, riskScore, hrisk, -, rfl⟩ := ContractAgent.assemble_eq_some_iff.mp hassembled
  rw [classifyRisk_contextSim, hspec.classified] at hrisk
  obtain ⟨-, heq⟩ := RiskRules.classifyRisk_eq_some_iff.mp hrisk
  obtain ⟨rfl, rfl⟩ := Prod.mk.inj heq
  refine ⟨(RetrievalClient.retrieve services.memory analyzed).precedents, ?_, rfl, rfl⟩
  rw [rejected, rejectionCount_retrieve services.memory analyzed facts hspec.tenantId hspec.tables,
    hspec.query]

/-- The analysis returns on the facts that it finds. -/
theorem exists_analyzed_iff {services : AgentServices} {run : AgentRun}
    {contract : HandoffContract} :
    (∃ analyzed, AnalyzerAgent.analyze services.analyzer services.reader run.intent run.analyzed
      contract = some analyzed) ↔ ∃ facts, factsOf services contract = some facts := by
  unfold AnalyzerAgent.analyze factsOf
  split_ifs
  · exact ⟨fun _ => ⟨_, rfl⟩, fun _ => ⟨_, rfl⟩⟩
  · simp [Option.map_eq_some_iff]

/-- The later agents return on what they can document. -/
theorem exists_later_iff {services : AgentServices} {run : AgentRun}
    {contract facts analyzed : HandoffContract}
    (h : Analyzed services run contract facts analyzed) :
    (∃ c, ContractAgent.run services.formats run.prose run.proseAgain run.hex run.assembled
      (ContextSimAgent.run services.memory services.sandbox services.sandbox run.simulated analyzed) =
        some c) ↔ Documented services facts := by
  obtain ⟨-, -, -, -, hconfidence⟩ := contextSim_counts services.memory services.sandbox
    services.sandbox run.simulated analyzed
  rw [← Option.isSome_iff_exists, ContractAgent.run, Option.isSome_map,
    ContractAgent.isSome_assemble_iff, hconfidence, h.confidence, h.counts, Documented]

/-- A run ends with a contract on facts that the later agents can document. -/
theorem exists_runAgents {services : AgentServices} (run : AgentRun)
    {contract facts : HandoffContract} (hfacts : factsOf services contract = some facts)
    (hdocumented : Documented services facts) : ∃ c, runAgents services run contract = some c := by
  obtain ⟨analyzed, h⟩ := exists_analyzed_iff.mpr ⟨facts, hfacts⟩
  obtain ⟨c, hrun⟩ := (exists_later_iff (@analyze_spec _ run _ _ _ hfacts h)).mpr hdocumented
  exact ⟨c, Option.bind_eq_some_iff.mpr ⟨analyzed, h, hrun⟩⟩

/-- On no others. -/
theorem facts_of_runAgents {services : AgentServices} {run : AgentRun}
    {contract c : HandoffContract} (h : runAgents services run contract = some c) :
    ∃ facts, factsOf services contract = some facts ∧ Documented services facts := by
  obtain ⟨analyzed, h, hrun⟩ := Option.bind_eq_some_iff.mp h
  obtain ⟨facts, hfacts⟩ := exists_analyzed_iff.mp ⟨analyzed, h⟩
  exact ⟨facts, hfacts, (exists_later_iff (analyze_spec hfacts h)).mp ⟨c, hrun⟩⟩

/-- The contracts of two runs have the same tier and the same score. -/
def SameRisk (services : AgentServices) (contract : HandoffContract) (run run' : AgentRun) :
    Prop :=
  ∀ c c', runAgents services run contract = some c → runAgents services run' contract = some c' →
    c.riskTier = c'.riskTier ∧ c.riskScore = c'.riskScore

/-- The two searches bring up the same number of rejections, or the score is at its cap with the
smaller number already. -/
def SameRejections (services : AgentServices) (contract facts : HandoffContract)
    (run run' : AgentRun) : Prop :=
  let n := rejections services.memory (query services run contract facts) facts
  let n' := rejections services.memory (query services run' contract facts) facts
  n = n' ∨ Saturates facts (min n n')

/-- When the risk does not depend on what differs between two runs. -/
theorem sameRisk_iff (services : AgentServices) (contract : HandoffContract)
    (run run' : AgentRun) :
    SameRisk services contract run run' ↔
      ∀ facts, factsOf services contract = some facts → Documented services facts →
        SameRejections services contract facts run run' := by
  -- both directions compare the contracts of two given runs
  have hpair : ∀ facts c c', factsOf services contract = some facts →
      runAgents services run contract = some c → runAgents services run' contract = some c' →
      ((c.riskTier = c'.riskTier ∧ c.riskScore = c'.riskScore) ↔
        SameRejections services contract facts run run') := by
    intro facts c c' hfacts hrun hrun'
    obtain ⟨ps, hps, htier, hscore⟩ := runAgents_risk hfacts hrun
    obtain ⟨ps', hps', htier', hscore'⟩ := runAgents_risk hfacts hrun'
    unfold SameRejections
    dsimp only
    rw [← hps, ← hps', ← risk_eq_iff, htier, htier', hscore, hscore', Prod.ext_iff,
      Option.some.injEq, Py.Float.finite.injEq]
  constructor
  · intro hsame facts hfacts hdocumented
    obtain ⟨c, hrun⟩ := exists_runAgents run hfacts hdocumented
    obtain ⟨c', hrun'⟩ := exists_runAgents run' hfacts hdocumented
    exact (hpair facts c c' hfacts hrun hrun').mp (hsame c c' hrun hrun')
  · intro hrejections c c' hrun hrun'
    obtain ⟨facts, hfacts, hdocumented⟩ := facts_of_runAgents hrun
    exact (hpair facts c c' hfacts hrun hrun').mpr (hrejections facts hfacts hdocumented)

/-! ## Two runs with different tiers -/

/-- A healthy postgres-reader, for a table with a soft-delete column. -/
def sampleReader : PostgresTools := fun tool _ =>
  if tool = "estimate_row_count" then
    .result (.obj [("estimated_rows", .int 10), ("confidence", .float (.finite (9 / 10)))])
  else if tool = "check_soft_delete" then .result (.obj [("has_soft_delete", .bool true)])
  else .result (.obj [])

def sampleRecord : MemoryRecord where
  intentSummary := some "Remove user 7"
  outcome := some "REJECTED"
  affectedTables := some ["users"]
  similarityScore := some (1 / 2)

/-- A memory with one record, which a text search finds by its summary. -/
def sampleSearch (intent : Py.Json) (_tenantId : String) (_topK : ℕ) :
    Except String (List MemoryRecord) :=
  if intent.str? = some "Remove user 7" then .ok [sampleRecord] else .ok []

def sampleStore : MemoryStoreConfig where
  jaccardThreshold := 3 / 10
  round4 := id

def sampleServices : AgentServices where
  analyzer := .ascii
  reader := sampleReader
  memory := RetrievalClient.storeTools sampleStore sampleSearch
  sandbox := fun _ _ => .otherError
  formats := .plain

def sampleDelete : HandoffContract :=
  { sampleContract with rawSql := "DELETE FROM users WHERE id = 7" }

/-- A run in which the LLM writes a summary; in the run `{}` it fails. -/
def answered : AgentRun where
  intent := some [{ type := "tool_use", name := "produce_intent_summary"
                    input := [("intent_summary", .str "Remove user 7")] }]

theorem exists_sampleFacts :
    ∃ facts, factsOf sampleServices sampleDelete = some facts ∧
      (facts.primaryTable = "users" ∧ facts.cascade.length = 0) ∧
      RiskRules.otherComponents facts = 35 / 100 ∧
      summary sampleServices answered sampleDelete facts = .str "Remove user 7" ∧
      summary sampleServices {} sampleDelete facts =
        .str "DELETE ~10 row(s) from 'users' WHERE id = 7" ∧
      Documented sampleServices facts := by
  have hfacts : (factsOf sampleServices sampleDelete).map (fun facts =>
      ((facts.primaryTable, facts.cascade.length), RiskRules.otherComponents facts,
        (summary sampleServices answered sampleDelete facts).str?,
        (summary sampleServices {} sampleDelete facts).str?,
        (ContractBuilder.buildSection1 .plain (ContextSimAgent.run sampleServices.memory
          sampleServices.sandbox sampleServices.sandbox 0 facts) "").isSome &&
          ContractBuilder.showsConfidence facts.rowConfidence)) =
      some (("users", 0), 35 / 100, some "Remove user 7",
        some "DELETE ~10 row(s) from 'users' WHERE id = 7", true) := by decide +kernel
  obtain ⟨facts, hsome, heq⟩ := Option.map_eq_some_iff.mp hfacts
  simp only [Prod.mk.injEq, Bool.and_eq_true] at heq
  obtain ⟨hshape, hother, hanswered, hfailed, hsection1, hconfidence⟩ := heq
  exact ⟨facts, hsome, hshape, hother, Py.Json.eq_str_of_str? hanswered,
    Py.Json.eq_str_of_str? hfailed,
    (ContractBuilder.isSome_buildSection1_iff _ _ _).mp hsection1, hconfidence⟩

/-- With its own words for the operation, the LLM decides whether the rejection is found. -/
theorem sampleDelete_depends : ¬ SameRisk sampleServices sampleDelete answered {} := by
  obtain ⟨facts, hfacts, ⟨hprimary, hcascade⟩, hother, hanswered, hfailed, hdocumented⟩ :=
    exists_sampleFacts
  -- the words of the LLM are those of the record
  have hfound : rejections sampleServices.memory
      (query sampleServices answered sampleDelete facts) facts = 1 := by
    have htables : RetrievalClient.extractTableSet facts = ["users"] := by
      have hnil : facts.cascade = [] := List.length_eq_zero_iff.mp hcascade
      simp [RetrievalClient.extractTableSet, hprimary, hnil]
    have hsearch : sampleSearch (.str "Remove user 7") facts.tenantId 20 = .ok [sampleRecord] :=
      if_pos rfl
    have hcount := rejections_storeTools sampleStore (by decide) hsearch
      (by norm_num [sampleRecord])
    have hoverlapping :
        RetrievalClient.rejectedOverlapping sampleStore facts [sampleRecord] = [sampleRecord] := by
      have hone : MemoryStore.jaccardOf (RetrievalClient.extractTableSet facts) sampleRecord = 1 := by
        rw [htables]
        simp [MemoryStore.jaccardOf, MemoryStore.jaccard, sampleRecord]
      have hoverlaps : RetrievalClient.Overlaps sampleStore facts sampleRecord := by
        unfold RetrievalClient.Overlaps
        rw [hone]
        norm_num [sampleStore]
      exact List.filter_cons_of_pos (decide_eq_true ⟨rfl, hoverlaps⟩)
    rw [query_of_summary hanswered (by decide)]
    rw [hoverlapping] at hcount
    exact hcount
  -- the fallback sentence is found nowhere
  have hmissed : rejections sampleServices.memory
      (query sampleServices {} sampleDelete facts) facts = 0 := by
    have hsearch : sampleSearch (.str "DELETE ~10 row(s) from 'users' WHERE id = 7")
        facts.tenantId 20 = .ok [] := if_neg (by decide)
    rw [query_of_summary hfailed (by decide)]
    exact rejections_storeTools sampleStore (by decide) hsearch (List.forall_mem_nil _)
  intro hsame
  obtain ⟨c, hrun⟩ := exists_runAgents answered hfacts hdocumented
  obtain ⟨c', hrun'⟩ := exists_runAgents {} hfacts hdocumented
  obtain ⟨ps, hps, htier, hscore⟩ := runAgents_risk hfacts hrun
  obtain ⟨ps', hps', htier', hscore'⟩ := runAgents_risk hfacts hrun'
  obtain ⟨hsameTier, hsameScore⟩ := hsame c c' hrun hrun'
  rw [htier, htier', Option.some.injEq] at hsameTier
  rw [hscore, hscore', Py.Float.finite.injEq] at hsameScore
  -- neither is the number the same nor is the score at its cap
  rcases risk_eq_iff.mp (Prod.ext hsameTier hsameScore) with heq | hsaturates
  · rw [hps, hps', hfound, hmissed] at heq
    cases heq
  · rw [hps, hps', hfound, hmissed] at hsaturates
    unfold Saturates at hsaturates
    rw [hother] at hsaturates
    norm_num at hsaturates

end AgentPipeline
