import ContraGate.HandoffSchema
import ContraGate.MemoryStore

/-!
# The retrieval client (`agents/context_sim/retrieval_client.py`)

Three tools of the memory store in a row: search, filter, rerank. The client never raises; a
failure of a tool makes the retrieval unavailable. A tool is a function of its arguments here
and ends with the list in its result or with the text of an exception.
-/

/-- The tools of the memory store, as the client calls them. -/
structure MemoryTools where
  /-- `candidates` of `semantic_search(intent, tenant_id, top_k)`. -/
  semanticSearch : Py.Json → String → ℕ → Except String (List MemoryRecord)
  /-- `filtered` of `filter_by_table_overlap(candidates, current_tables)`. -/
  filterByTableOverlap : List MemoryRecord → List String → Except String (List MemoryRecord)
  /-- `top3` of `rerank_by_outcome(candidates)`. -/
  rerankByOutcome : List MemoryRecord → Except String (List MemoryRecord)

structure RetrievalResult where
  precedents : List HistoricalOperation
  stage1Candidates : ℕ
  stage2Candidates : ℕ
  available : Bool
  failureReason : Option String := none

namespace RetrievalClient

/-- `_extract_table_set`. -/
def extractTableSet (contract : HandoffContract) : List String :=
  let primary := if contract.primaryTable = "" then [] else [contract.primaryTable]
  (primary ++ contract.cascade.map (·.table)).dedup.mergeSort fun a b => decide (a ≤ b)

/-- `_to_historical_operation`. -/
def toHistoricalOperation (raw : MemoryRecord) : HistoricalOperation where
  operationId := raw.operationId.getD "unknown"
  intentSummary := raw.intentSummary.getD ""
  tables := raw.affectedTables.getD (raw.tables.getD [])
  outcome := raw.outcome.getD "UNKNOWN"
  decisionReason := raw.decisionReason.getD ""
  similarityScore := .finite (raw.similarityScore.getD 0)
  jaccardScore := .finite (raw.jaccardScore.getD 0)
  rerankScore := .finite (raw.rerankScore.getD 0)

/-- The query of the search. -/
def intent (contract : HandoffContract) : Py.Json :=
  contract.intentSummary.or (.str (String.ofList (contract.rawSql.toList.take 200)))

/-- The three stages, inside the `try`. -/
def stages (tools : MemoryTools) (contract : HandoffContract) : Except String RetrievalResult := do
  let candidates ← tools.semanticSearch (intent contract) contract.tenantId 20
  if candidates.isEmpty then
    pure { precedents := [], stage1Candidates := 0, stage2Candidates := 0, available := true }
  else do
    let filtered ← tools.filterByTableOverlap candidates (extractTableSet contract)
    if filtered.isEmpty then
      pure
        { precedents := []
          stage1Candidates := candidates.length
          stage2Candidates := 0
          available := true }
    else do
      let ranked ← tools.rerankByOutcome filtered
      pure
        { precedents := ranked.map toHistoricalOperation
          stage1Candidates := candidates.length
          stage2Candidates := filtered.length
          available := true }

/-- `retrieve`. -/
def retrieve (tools : MemoryTools) (contract : HandoffContract) : RetrievalResult :=
  match stages tools contract with
  | .ok result => result
  | .error reason =>
    { precedents := []
      stage1Candidates := 0
      stage2Candidates := 0
      available := false
      failureReason := some reason }

/-- `apply_to_contract`. -/
def applyToContract (contract : HandoffContract) (result : RetrievalResult) : HandoffContract :=
  { contract with
    retrievalAvailable := result.available
    historicalPrecedents := result.precedents }

end RetrievalClient
