import ContraGate.Retrieval
import ContraGate.RiskRules
import ContraGate.WorkflowStore

/-!
# A historical rejection on overlapping tables always escalates

The filter keeps the rejections that overlap enough, in the order of their rounded Jaccard
score; the reranking puts them in front of everything else without changing their order; and
a rejection among the precedents decides the tier.
-/

namespace RetrievalClient

/-- The tools of a memory store whose search returns what `search` does. -/
def storeTools (cfg : MemoryStoreConfig)
    (search : Py.Json → String → ℕ → Except String (List MemoryRecord)) : MemoryTools where
  semanticSearch := search
  filterByTableOverlap candidates currentTables :=
    .ok (MemoryStore.filterByTableOverlap cfg candidates currentTables)
  rerankByOutcome candidates := .ok (MemoryStore.rerankByOutcome cfg candidates)

variable (cfg : MemoryStoreConfig) (contract : HandoffContract)

/-- The candidate passes the filter of the second stage. -/
def Overlaps (c : MemoryRecord) : Prop :=
  cfg.jaccardThreshold ≤ MemoryStore.jaccardOf (extractTableSet contract) c

instance : DecidablePred (Overlaps cfg contract) := fun _ =>
  inferInstanceAs (Decidable (cfg.jaccardThreshold ≤ _))

/-- The rejected candidates that overlap with the contract's tables. -/
def rejectedOverlapping (candidates : List MemoryRecord) : List MemoryRecord :=
  candidates.filter fun c => c.outcome = some "REJECTED" ∧ Overlaps cfg contract c

/-- The rounded Jaccard score of a candidate. -/
def roundedJaccard (c : MemoryRecord) : ℚ :=
  cfg.round4 (MemoryStore.jaccardOf (extractTableSet contract) c)

/-- The precedent that is made of a rejected candidate. -/
def rejectedPrecedent (c : MemoryRecord) : HistoricalOperation :=
  toHistoricalOperation
    { c with
      jaccardScore := some (roundedJaccard cfg contract c)
      rerankScore := some (cfg.round4 1) }

/-- The precedents of a retrieval with a working store, for any candidates of its search. -/
theorem retrieve_storeTools {candidates : List MemoryRecord}
    {search : Py.Json → String → ℕ → Except String (List MemoryRecord)}
    (hsearch : search (intent contract) contract.tenantId 20 = .ok candidates) :
    (retrieve (storeTools cfg search) contract).available = true ∧
      (retrieve (storeTools cfg search) contract).precedents =
        (MemoryStore.rerankByOutcome cfg (MemoryStore.filterByTableOverlap cfg candidates
          (extractTableSet contract))).map toHistoricalOperation := by
  have hrerank : MemoryStore.rerankByOutcome cfg [] = [] := by
    simp [MemoryStore.rerankByOutcome, sortDesc]
  unfold retrieve stages storeTools
  simp only [hsearch]
  -- an empty result ends the stages early, with the same empty list
  cases hcandidates : candidates with
  | nil =>
    have hfilter : MemoryStore.filterByTableOverlap cfg [] (extractTableSet contract) = [] := by
      simp [MemoryStore.filterByTableOverlap, sortDesc]
    rw [hfilter, hrerank]
    exact ⟨rfl, rfl⟩
  | cons c cs =>
    cases hfiltered :
        MemoryStore.filterByTableOverlap cfg (c :: cs) (extractTableSet contract) with
    | nil =>
      rw [hrerank]
      simp [bind, Except.bind, pure, Except.pure, hfiltered]
    | cons d ds => simp [bind, Except.bind, pure, Except.pure, hfiltered]

/-- The second stage keeps the overlapping rejections in the order of their rounded score. -/
theorem filter_filterByTableOverlap (candidates : List MemoryRecord) :
    ((MemoryStore.filterByTableOverlap cfg candidates (extractTableSet contract)).filter
        fun c => c.outcome = some "REJECTED") =
      (sortDesc (roundedJaccard cfg contract) (rejectedOverlapping cfg contract candidates)).map
        (MemoryStore.withJaccard cfg (extractTableSet contract)) := by
  unfold MemoryStore.filterByTableOverlap
  rw [sortDesc_map, List.filter_map]
  have hkey :
      (fun c => ((MemoryStore.withJaccard cfg (extractTableSet contract) c).jaccardScore).getD 0) =
      roundedJaccard cfg contract := rfl
  have hrejected : ((fun c : MemoryRecord => decide (c.outcome = some "REJECTED")) ∘
      MemoryStore.withJaccard cfg (extractTableSet contract)) =
      fun c => decide (c.outcome = some "REJECTED") := rfl
  rw [hkey, hrejected, filter_sortDesc, List.filter_filter]
  have hboth : ∀ c : MemoryRecord, (decide (c.outcome = some "REJECTED") &&
      decide (Option.getD none cfg.jaccardThreshold ≤
        MemoryStore.jaccardOf (extractTableSet contract) c)) =
      decide (c.outcome = some "REJECTED" ∧ Overlaps cfg contract c) :=
    fun c => (Bool.decide_and _ _).symm
  simp only [hboth, rejectedOverlapping]

/-- What the retrieval owes the contract when some candidates are rejections that overlap. -/
structure Escalates (candidates : List MemoryRecord) (result : RetrievalResult) : Prop where
  available : result.available = true
  /-- The first precedents are the overlapping rejections, in the order of their score. -/
  rejectedFirst :
    result.precedents.take (min 3 (rejectedOverlapping cfg contract candidates).length) =
      ((sortDesc (roundedJaccard cfg contract)
        (rejectedOverlapping cfg contract candidates)).take 3).map (rejectedPrecedent cfg contract)
  /-- Behind them stands no rejection. -/
  othersBehind : ∀ h ∈ result.precedents.drop
      (min 3 (rejectedOverlapping cfg contract candidates).length), h.outcome ≠ "REJECTED"
  /-- Nothing else stands before a rejection. -/
  ordered : result.precedents.Pairwise fun a b => b.outcome = "REJECTED" → a.outcome = "REJECTED"
  /-- On a confidence that is no number `classify_risk` raises, see `classifyRisk_eq_some_iff`. -/
  fullContract : rejectedOverlapping cfg contract candidates ≠ [] →
    contract.rowConfidence.num?.isSome = true →
    ∃ score, RiskRules.classifyRisk (applyToContract contract result) =
      some (.fullContract, score)

variable {cfg contract}

theorem rejectedPrecedent_outcome {candidates : List MemoryRecord} {c : MemoryRecord}
    (hc : c ∈ rejectedOverlapping cfg contract candidates) :
    (rejectedPrecedent cfg contract c).outcome = "REJECTED" := by
  have houtcome : c.outcome = some "REJECTED" := by
    have hboth := (List.mem_filter.mp hc).2
    rw [decide_eq_true_eq] at hboth
    exact hboth.1
  have hget : (rejectedPrecedent cfg contract c).outcome = c.outcome.getD "UNKNOWN" := rfl
  rw [hget, houtcome]
  rfl

/-- A rejection through both stages. -/
theorem toHistoricalOperation_of_rejected {c : MemoryRecord}
    (houtcome : c.outcome = some "REJECTED") :
    toHistoricalOperation (MemoryStore.withRerank cfg
      (MemoryStore.withJaccard cfg (extractTableSet contract) c)) =
      rejectedPrecedent cfg contract c := by
  have hscore : MemoryStore.score (MemoryStore.withJaccard cfg (extractTableSet contract) c) = 1 :=
    MemoryStore.score_of_rejected houtcome
  unfold MemoryStore.withRerank
  rw [hscore]
  rfl

/-- The precedents: the overlapping rejections in order, then others, cut to three. -/
theorem precedents_eq (cfg : MemoryStoreConfig) {candidates : List MemoryRecord}
    {search : Py.Json → String → ℕ → Except String (List MemoryRecord)}
    (hsearch : search (intent contract) contract.tenantId 20 = .ok candidates)
    (hsimilarity : ∀ c ∈ candidates, c.similarityScore.getD 0 ≤ 1) :
    ∃ others : List HistoricalOperation, (∀ h ∈ others, h.outcome ≠ "REJECTED") ∧
      (retrieve (storeTools cfg search) contract).precedents =
        ((sortDesc (roundedJaccard cfg contract) (rejectedOverlapping cfg contract candidates)).map
          (rejectedPrecedent cfg contract)).take 3 ++
        others.take (3 - (rejectedOverlapping cfg contract candidates).length) := by
  -- the filter adds a score and drops records, it leaves the similarities alone
  have hfiltered : ∀ c ∈ MemoryStore.filterByTableOverlap cfg candidates
      (extractTableSet contract), c.similarityScore.getD 0 ≤ 1 := by
    intro c hc
    rw [MemoryStore.filterByTableOverlap, mem_sortDesc, List.mem_map] at hc
    obtain ⟨d, hd, rfl⟩ := hc
    exact hsimilarity d (List.mem_filter.mp hd).1
  -- a rejection has the highest score there is, so the stable sort puts all of them first
  obtain ⟨others, hothers, hrerank⟩ := MemoryStore.rerankByOutcome_eq cfg hfiltered
  refine ⟨others.map fun c => toHistoricalOperation (MemoryStore.withRerank cfg c),
    fun h hh => ?_, ?_⟩
  · obtain ⟨c, hc, rfl⟩ := List.mem_map.mp hh
    have hne := hothers c hc
    show c.outcome.getD "UNKNOWN" ≠ "REJECTED"
    cases hoc : c.outcome with
    | none => simp
    | some outcome =>
      rintro rfl
      exact hne hoc
  · have hfront : ((sortDesc (roundedJaccard cfg contract)
          (rejectedOverlapping cfg contract candidates)).map fun c =>
          toHistoricalOperation (MemoryStore.withRerank cfg
            (MemoryStore.withJaccard cfg (extractTableSet contract) c))) =
        (sortDesc (roundedJaccard cfg contract)
          (rejectedOverlapping cfg contract candidates)).map (rejectedPrecedent cfg contract) := by
      apply List.map_congr_left
      intro c hc
      have hboth := (List.mem_filter.mp (mem_sortDesc.mp hc)).2
      rw [decide_eq_true_eq] at hboth
      exact toHistoricalOperation_of_rejected hboth.1
    rw [(retrieve_storeTools cfg contract hsearch).2, hrerank, filter_filterByTableOverlap,
      List.map_take, List.map_append, List.map_append, List.map_map, List.map_map, List.map_map,
      List.take_append]
    simp only [List.length_map, length_sortDesc]
    exact congrArg₂ (· ++ ·) (congrArg (List.take 3) hfront) rfl

/-- Of the overlapping rejections, sorted, three at most come first. -/
theorem length_take_rejected (candidates : List MemoryRecord) :
    (((sortDesc (roundedJaccard cfg contract) (rejectedOverlapping cfg contract candidates)).map
      (rejectedPrecedent cfg contract)).take 3).length =
      min 3 (rejectedOverlapping cfg contract candidates).length := by
  rw [List.length_take, List.length_map, length_sortDesc]

theorem outcome_of_mem_take {candidates : List MemoryRecord} {h : HistoricalOperation}
    (hh : h ∈ ((sortDesc (roundedJaccard cfg contract)
      (rejectedOverlapping cfg contract candidates)).map (rejectedPrecedent cfg contract)).take 3) :
    h.outcome = "REJECTED" := by
  obtain ⟨c, hc, rfl⟩ := List.mem_map.mp (List.mem_of_mem_take hh)
  exact rejectedPrecedent_outcome (mem_sortDesc.mp hc)

/-- A historical rejection on overlapping tables always escalates. -/
theorem rejection_escalates (cfg : MemoryStoreConfig) (contract : HandoffContract)
    (candidates : List MemoryRecord)
    (search : Py.Json → String → ℕ → Except String (List MemoryRecord))
    (hsearch : search (intent contract) contract.tenantId 20 = .ok candidates)
    (hsimilarity : ∀ c ∈ candidates, c.similarityScore.getD 0 ≤ 1) :
    Escalates cfg contract candidates (retrieve (storeTools cfg search) contract) := by
  obtain ⟨others, hothers, hprecedents⟩ := precedents_eq cfg hsearch hsimilarity
  set sorted := (sortDesc (roundedJaccard cfg contract)
    (rejectedOverlapping cfg contract candidates)).map (rejectedPrecedent cfg contract)
    with hsorted
  have hlength : (sorted.take 3).length =
      min 3 (rejectedOverlapping cfg contract candidates).length := length_take_rejected candidates
  have hrejected : ∀ h ∈ sorted.take 3, h.outcome = "REJECTED" := fun _ hh =>
    outcome_of_mem_take hh
  have hbehind : ∀ h ∈ others.take (3 - (rejectedOverlapping cfg contract candidates).length),
      h.outcome ≠ "REJECTED" := fun h hh => hothers h (List.mem_of_mem_take hh)
  constructor
  · exact (retrieve_storeTools cfg contract hsearch).1
  · rw [hprecedents, ← hlength, List.take_left, hsorted, List.map_take]
  · rw [hprecedents, ← hlength, List.drop_left]
    exact hbehind
  · rw [hprecedents, List.pairwise_append]
    refine ⟨?_, ?_, fun a ha _ _ _ => hrejected a ha⟩
    · exact List.pairwise_of_forall_mem_list fun a ha _ _ _ => hrejected a ha
    · exact List.pairwise_of_forall_mem_list fun _ _ b hb hcontra => absurd hcontra (hbehind b hb)
  -- with a rejection among the candidates the front is not empty
  · intro hsome hconfidence
    obtain ⟨c, hc⟩ := List.exists_mem_of_ne_nil _ hsome
    have hpositive : 0 < (sorted.take 3).length := by
      rw [hlength]
      have hne : 0 < (rejectedOverlapping cfg contract candidates).length :=
        List.length_pos_of_mem hc
      omega
    obtain ⟨h, hh⟩ := List.exists_mem_of_length_pos hpositive
    have hmem : h ∈ (applyToContract contract
        (retrieve (storeTools cfg search) contract)).historicalPrecedents := by
      show h ∈ (retrieve (storeTools cfg search) contract).precedents
      rw [hprecedents]
      exact List.mem_append_left _ hh
    have htier := RiskRules.applyTierRules_of_rejected hmem (hrejected h hh)
      (RiskRules.computeRiskScore (applyToContract contract
        (retrieve (storeTools cfg search) contract)))
    exact ⟨_, RiskRules.classifyRisk_eq_some_iff.mpr ⟨hconfidence, Prod.ext htier.symm rfl⟩⟩

/-- A store that remembers an approval and, as less similar, a rejection on `users`. -/
def sampleCandidates : List MemoryRecord :=
  [{ outcome := some "APPROVED", affectedTables := some ["users"], similarityScore := some 1 },
    { outcome := some "REJECTED", affectedTables := some ["users"],
      similarityScore := some (1 / 2) }]

theorem rejection_escalates_users :
    Escalates { jaccardThreshold := 3 / 10, round4 := id }
      { sampleContract with primaryTable := "users" } sampleCandidates
      (retrieve
        (storeTools { jaccardThreshold := 3 / 10, round4 := id } fun _ _ _ => .ok sampleCandidates)
        { sampleContract with primaryTable := "users" }) := by
  refine rejection_escalates _ _ _ _ rfl fun c hc => ?_
  simp only [sampleCandidates, List.mem_cons, List.not_mem_nil, or_false] at hc
  rcases hc with rfl | rfl
  · exact le_rfl
  · norm_num

end RetrievalClient
