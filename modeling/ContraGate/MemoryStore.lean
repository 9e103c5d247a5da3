import Mathlib.Algebra.Order.Ring.Rat
import Mathlib.Data.Finset.Card
import Mathlib.Tactic.Linarith
import ContraGate.Library.StableSort

/-!
# The memory-store tools of the retrieval (`mcp_servers/memory_store/server.py`)

`filter_by_table_overlap` keeps the candidates whose tables overlap enough and
`rerank_by_outcome` puts the severe outcomes first; both are stable sorts. A candidate is a
record whose keys may be missing. The numbers come through JSON responses, which carry finite
ones only, and are kept exactly; Python's `round` is a setting.
-/

/-- A candidate: the fields of a remembered operation that the stages read or add. -/
structure MemoryRecord where
  operationId : Option String := none
  intentSummary : Option String := none
  affectedTables : Option (List String) := none
  tables : Option (List String) := none
  outcome : Option String := none
  decisionReason : Option String := none
  /-- Missing or null. -/
  blastRadiusDelta : Option ℚ := none
  similarityScore : Option ℚ := none
  /-- Added by `filter_by_table_overlap`. -/
  jaccardScore : Option ℚ := none
  /-- Added by `rerank_by_outcome`. -/
  rerankScore : Option ℚ := none

structure MemoryStoreConfig where
  /-- `JACCARD_THRESHOLD`. -/
  jaccardThreshold : ℚ
  /-- `round(x, 4)`. -/
  round4 : ℚ → ℚ

namespace MemoryStore

/-- `_jaccard`. -/
def jaccard (a b : Finset String) : ℚ :=
  if a = ∅ ∧ b = ∅ then 1
  else if a = ∅ ∨ b = ∅ then 0
  else (a ∩ b).card / (a ∪ b).card

/-- The Jaccard similarity of a candidate's tables and the current ones. -/
def jaccardOf (currentTables : List String) (c : MemoryRecord) : ℚ :=
  jaccard currentTables.toFinset (c.affectedTables.getD []).toFinset

/-- `{**c, "jaccard_score": round(j, 4)}`. -/
def withJaccard (cfg : MemoryStoreConfig) (currentTables : List String) (c : MemoryRecord) :
    MemoryRecord :=
  { c with jaccardScore := some (cfg.round4 (jaccardOf currentTables c)) }

/-- `filter_by_table_overlap`. -/
def filterByTableOverlap (cfg : MemoryStoreConfig) (candidates : List MemoryRecord)
    (currentTables : List String) (threshold : Option ℚ := none) : List MemoryRecord :=
  let minJaccard := threshold.getD cfg.jaccardThreshold
  let filtered := candidates.filter fun c => minJaccard ≤ jaccardOf currentTables c
  sortDesc (fun c => c.jaccardScore.getD 0) (filtered.map (withJaccard cfg currentTables))

/-- `_score`. -/
def score (c : MemoryRecord) : ℚ :=
  let outcome := c.outcome.getD "APPROVED"
  let delta := c.blastRadiusDelta.getD 0
  let similarity := c.similarityScore.getD 0
  if outcome = "REJECTED" then 1
  else if outcome = "ROLLED_BACK" then 9 / 10
  else if (outcome = "APPROVED" ∨ outcome = "AUTO_REJECTED") ∧ |delta| > 2 / 10 then 7 / 10
  else if outcome = "MODIFIED" then 5 / 10
  else 1 / 10 * similarity

/-- `c["rerank_score"] = round(_score(c), 4)`. -/
def withRerank (cfg : MemoryStoreConfig) (c : MemoryRecord) : MemoryRecord :=
  { c with rerankScore := some (cfg.round4 (score c)) }

/-- `rerank_by_outcome`. -/
def rerankByOutcome (cfg : MemoryStoreConfig) (candidates : List MemoryRecord) :
    List MemoryRecord :=
  ((sortDesc score candidates).map (withRerank cfg)).take 3

/-- What is ranked has its score. -/
theorem rerankScore_of_mem {cfg : MemoryStoreConfig} {candidates : List MemoryRecord}
    {record : MemoryRecord} (h : record ∈ rerankByOutcome cfg candidates) :
    record.rerankScore = some (cfg.round4 (score record)) := by
  obtain ⟨c, -, rfl⟩ := List.mem_map.mp (List.mem_of_mem_take h)
  rfl

theorem mem_rerankByOutcome_singleton (cfg : MemoryStoreConfig) (c : MemoryRecord) :
    withRerank cfg c ∈ rerankByOutcome cfg [c] := by
  rw [rerankByOutcome, sortDesc, List.mergeSort_singleton]
  exact List.mem_singleton_self _

/-! ## The order of the outcomes -/

/-- A rejection has the score 1. -/
theorem score_of_rejected {c : MemoryRecord} (h : c.outcome = some "REJECTED") : score c = 1 := by
  simp [score, h]

/-- Every other outcome scores less. -/
theorem score_lt_one {c : MemoryRecord} (h : c.outcome ≠ some "REJECTED")
    (hsimilarity : c.similarityScore.getD 0 ≤ 1) : score c < 1 := by
  have houtcome : c.outcome.getD "APPROVED" ≠ "REJECTED" := by
    cases hc : c.outcome with
    | none => simp
    | some outcome =>
      rintro rfl
      exact h hc
  unfold score
  rw [if_neg houtcome]
  split_ifs <;> linarith

theorem score_eq_one_iff {c : MemoryRecord} (hsimilarity : c.similarityScore.getD 0 ≤ 1) :
    score c = 1 ↔ c.outcome = some "REJECTED" := by
  constructor
  · intro hscore
    by_contra h
    exact absurd hscore (score_lt_one h hsimilarity).ne
  · exact score_of_rejected

theorem score_le_one {c : MemoryRecord} (hsimilarity : c.similarityScore.getD 0 ≤ 1) :
    score c ≤ 1 := by
  by_cases h : c.outcome = some "REJECTED"
  · exact (score_of_rejected h).le
  · exact (score_lt_one h hsimilarity).le

/-- The rejections come first, in the order in which they were. -/
theorem rerankByOutcome_eq (cfg : MemoryStoreConfig) {candidates : List MemoryRecord}
    (hsimilarity : ∀ c ∈ candidates, c.similarityScore.getD 0 ≤ 1) :
    ∃ others : List MemoryRecord, (∀ c ∈ others, c.outcome ≠ some "REJECTED") ∧
      rerankByOutcome cfg candidates =
        (((candidates.filter fun c => c.outcome = some "REJECTED") ++ others).map
          (withRerank cfg)).take 3 := by
  have hrejected : (candidates.filter fun c => score c = 1) =
      candidates.filter fun c => c.outcome = some "REJECTED" := by
    apply List.filter_congr
    intro c hc
    simp only [score_eq_one_iff (hsimilarity c hc)]
  refine ⟨sortDesc score (candidates.filter fun c => ¬ score c = 1), fun c hc => ?_, ?_⟩
  · have hnot : ¬ score c = 1 := by simpa using (List.mem_filter.mp (mem_sortDesc.mp hc)).2
    exact fun h => hnot (score_of_rejected h)
  · rw [rerankByOutcome, sortDesc_eq_append fun c hc => score_le_one (hsimilarity c hc), hrejected]

end MemoryStore
