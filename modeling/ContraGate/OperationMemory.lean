import Mathlib.Algebra.Order.Ring.Rat
import Mathlib.Data.Prod.Lex
import ContraGate.HandoffSchema
import ContraGate.Library.PgValue
import ContraGate.Library.PyText
import ContraGate.Library.PyValue
import ContraGate.Library.StableSort
import ContraGate.Library.Unwinding

/-!
# The tables of the memory store (`mcp_servers/memory_store/server.py`, `embeddings.py`)

The tools that read or write `operation_memory`, `confidence_scores` and `auto_reject_patterns`, as
they are created in `seed/historical_operations.sql`, and the cache of embeddings. A tool that
raises leaves the tables as they were. Columns that no tool reads or writes are left out, and so are
the texts of exceptions; rows of equal rank stay in the order in which they were inserted.
-/

open Py

/-! ## The tables -/

/-- A row of `operation_memory`, with embeddings in `V`. -/
structure MemoryRow (V : Type) where
  operationId : String
  tenantId : String
  intentSummary : String
  intentEmbedding : Option V
  affectedTables : List String
  operationType : String
  estimatedRows : ℤ
  actualRows : Option ℤ
  outcome : String
  decisionReason : String
  blastRadiusDelta : Option Py.Float
  reanalysisCount : ℤ
  submittedAt : Time
  decidedAt : Option Time

/-- A row of `confidence_scores`. -/
structure ConfidenceRow where
  tableName : String
  operationType : String
  tenantId : String
  confidence : Py.Float
  sampleCount : ℤ
  lastUpdated : Time

/-- A row of `auto_reject_patterns`. -/
structure AutoRejectPattern where
  operationId : String
  tenantId : String
  affectedTables : List String
  operationType : String
  rejectionReason : String
  rejectedAt : Time

structure OperationMemory (V : Type) where
  memory : List (MemoryRow V)
  confidence : List ConfidenceRow
  patterns : List AutoRejectPattern
  /-- The texts in the cache of embeddings, each with the tenants that have searched for it. -/
  cache : List (String × String)

/-- What is not in the code: PostgreSQL's vectors, patterns and numbers, and the embeddings. -/
structure MemoryServerConfig (V : Type) where
  /-- The embedding that the provider gives a text. -/
  embedding : String → List Py.Float
  /-- `'[..]'::vector`; `none` when the text is not one of the column's dimension. -/
  toVector : List Py.Float → Option V
  /-- `a <=> b`. -/
  distance : V → V → Py.Float
  /-- `1 - (a <=> b)`. -/
  similarity : V → V → Py.Float
  /-- `LOWER(text) ILIKE LOWER(pattern)`. -/
  ilike : String → String → Bool
  /-- `text::timestamptz`; `none` when it is refused. -/
  toTime : String → Option Time
  isoformat : Time → String
  /-- `NOW() - (days || ' days')::INTERVAL`; `none` when it is out of range. -/
  lookback : Time → ℤ → Option Time
  /-- The float nearest to a number. -/
  toFloat : ℚ → ℚ
  /-- `0.8 + delta`; `none` when it is out of range. -/
  initialConfidence : Py.Float → Option Py.Float
  /-- `confidence + delta`; `none` when it is out of range. -/
  addConfidence : Py.Float → Py.Float → Option Py.Float

/-! ## The calls -/

/-- The arguments of `store_operation`. -/
structure StoreArguments where
  operationId : String
  tenantId : String
  intentSummary : String
  affectedTables : List String
  operationType : String
  estimatedRows : ℤ
  outcome : String
  decisionReason : String
  actualRows : Option ℤ := none
  blastRadiusDelta : Option Py.Float := none
  reanalysisCount : ℤ := 0
  embedding : Option (List Py.Float) := none

/-- A call of a tool that has a `tenant_id`. -/
inductive MemoryCall
  | storeOperation (arguments : StoreArguments)
  | semanticSearch (intent tenantId : String) (topK : ℤ)
  | updateDecision (operationId tenantId decision reason timestamp : String)
  | updateOutcome (operationId tenantId : String) (actualRows : ℤ) (executionSuccess : Bool)
  | getConfidenceScores (table operationType tenantId : String)
  | updateConfidenceScore (table operationType : String) (delta : Py.Float) (tenantId : String)
  | checkAutoRejectPattern (tables : List String) (operationType tenantId : String)
      (lookbackDays : ℤ)

/-- The `tenant_id` argument. -/
def MemoryCall.tenantId : MemoryCall → String
  | storeOperation arguments => arguments.tenantId
  | semanticSearch _ tenantId _ => tenantId
  | updateDecision _ tenantId _ _ _ => tenantId
  | updateOutcome _ tenantId _ _ => tenantId
  | getConfidenceScores _ _ tenantId => tenantId
  | updateConfidenceScore _ _ _ tenantId => tenantId
  | checkAutoRejectPattern _ _ tenantId _ => tenantId

/-- The tools that only read. -/
def MemoryCall.isRead : MemoryCall → Bool
  | semanticSearch .. | getConfidenceScores .. | checkAutoRejectPattern .. => true
  | _ => false

/-- A call as it reaches the server. -/
structure TimedCall where
  call : MemoryCall
  /-- `NOW()`. -/
  now : Time
  /-- The embedding provider can be reached. -/
  online : Bool

/-- How a tool ends. -/
inductive MemoryReply
  | returned (value : Json)
  /-- It returns a value of a type that cannot be encoded. -/
  | foreign (typeName : String)
  | raised

namespace OperationMemory

variable {V : Type} (cfg : MemoryServerConfig V)

/-! ## `store_operation` -/

/-- The outcomes that the `CHECK` constraint admits. -/
def admittedOutcomes : List String :=
  ["APPROVED", "REJECTED", "ROLLED_BACK", "MODIFIED", "AUTO_REJECTED"]

/-- `embedding_val`, as a vector; `none` when it is refused. -/
def embeddingValue (embedding : Option (List Py.Float)) : Option (Option V) :=
  match embedding with
  | none | some [] => some none
  | some values => (cfg.toVector values).map some

/-- The texts of the arguments. -/
def textsOf (args : StoreArguments) : List String :=
  [args.operationId, args.tenantId, args.intentSummary, args.operationType, args.outcome,
    args.decisionReason] ++ args.affectedTables

/-- The row that is to be inserted; `none` when PostgreSQL refuses it. -/
def proposedRow (args : StoreArguments) (now : Time) : Option (MemoryRow V) :=
  if (textsOf args).all Pg.isText && Pg.isInt4 args.estimatedRows &&
      args.actualRows.all Pg.isInt4 && Pg.isInt4 args.reanalysisCount &&
      admittedOutcomes.contains args.outcome then
    (embeddingValue cfg args.embedding).map fun intentEmbedding =>
      { operationId := args.operationId, tenantId := args.tenantId
        intentSummary := args.intentSummary, intentEmbedding
        affectedTables := args.affectedTables, operationType := args.operationType
        estimatedRows := args.estimatedRows, actualRows := args.actualRows
        outcome := args.outcome, decisionReason := args.decisionReason
        blastRadiusDelta := args.blastRadiusDelta, reanalysisCount := args.reanalysisCount
        submittedAt := now, decidedAt := some now }
  else none

/-- The rows that a condition selects, changed. -/
def updateWhere {α : Type} (selected : α → Bool) (change : α → α) (rows : List α) : List α :=
  rows.map fun row => if selected row then change row else row

/-- `ON CONFLICT (operation_id) DO UPDATE SET ..`. -/
def onConflict (excluded row : MemoryRow V) : MemoryRow V :=
  { row with
    outcome := excluded.outcome, decisionReason := excluded.decisionReason
    actualRows := excluded.actualRows, blastRadiusDelta := excluded.blastRadiusDelta
    decidedAt := excluded.decidedAt }

/-- `store_operation`. -/
def storeOperation (s : OperationMemory V) (args : StoreArguments) (now : Time) :
    OperationMemory V × MemoryReply :=
  match proposedRow cfg args now with
  | none => (s, .raised)
  | some row =>
    let reply := .returned (.obj [("stored", .bool true), ("operation_id", .str args.operationId)])
    -- the key is unique among the rows of all tenants
    if s.memory.any (·.operationId == args.operationId) then
      ({ s with memory :=
          updateWhere (·.operationId == args.operationId) (onConflict row) s.memory }, reply)
    else ({ s with memory := s.memory ++ [row] }, reply)

/-! ## `semantic_search` -/

/-- The order of `float8`: `nan` comes last. -/
def sortKey : Py.Float → ℤ ×ₗ ℚ
  | .inf true => toLex (-1, 0)
  | .finite q => toLex (0, q)
  | .inf false => toLex (1, 0)
  | .nan => toLex (2, 0)

def optionalInt : Option ℤ → Json
  | none => .null
  | some n => .int n

/-- A row of the result. -/
def candidate (row : MemoryRow V) (similarity : Py.Float) : Json :=
  .obj
    [("operation_id", .str row.operationId), ("intent_summary", .str row.intentSummary),
     ("affected_tables", .arr (row.affectedTables.map .str)),
     ("operation_type", .str row.operationType), ("estimated_rows", .int row.estimatedRows),
     ("actual_rows", optionalInt row.actualRows), ("outcome", .str row.outcome),
     ("decision_reason", .str row.decisionReason),
     ("blast_radius_delta", row.blastRadiusDelta.elim .null .float),
     ("similarity_score", .float similarity)]

def searchResult (candidates : List Json) (searchType : String) : Json :=
  .obj [("candidates", .arr candidates), ("count", .int candidates.length),
    ("search_type", .str searchType)]

/-- The query by vectors: the nearest first. -/
def vectorSearch (rows : List (MemoryRow V)) (query : V) (topK : ℤ) : MemoryReply :=
  let found := rows.filterMap fun row => row.intentEmbedding.map (row, ·)
  let nearest := sortDesc (fun hit => OrderDual.toDual (sortKey (cfg.distance hit.2 query))) found
  .returned (searchResult
    ((nearest.take topK.toNat).map fun hit => candidate hit.1 (cfg.similarity hit.2 query))
    "vector")

/-- The pattern of the text search, if a word is long enough. -/
def searchPattern (intent : String) : Option String :=
  let words := (intent.toList.splitOnP isSpace).filter (3 < ·.length)
  if words = [] then none
  else some ("%" ++ "%".intercalate ((words.take 5).map String.ofList) ++ "%")

/-- The query by text. Its similarity is a constant of type `numeric`, which psycopg2 turns into a
`Decimal`: a result with rows in it cannot be encoded, whatever their order is. -/
def textSearch (rows : List (MemoryRow V)) (intent : String) (topK : ℤ) : MemoryReply :=
  let found :=
    match searchPattern intent with
    | some pattern => rows.filter fun row : MemoryRow V => cfg.ilike row.intentSummary pattern
    | none => rows
  if (found.take topK.toNat).isEmpty then .returned (searchResult [] "text")
  else .foreign "Decimal"

/-- The text has been searched for before, so its embedding is in the cache. -/
def cached (s : OperationMemory V) (intent : String) : Bool := s.cache.any (·.1 == intent)

/-- `semantic_search`. -/
def semanticSearch (s : OperationMemory V) (intent tenantId : String) (topK : ℤ) (online : Bool) :
    OperationMemory V × MemoryReply :=
  let rows := s.memory.filter (·.tenantId == tenantId)
  if s.cached intent || online then
    let s := { s with cache := s.cache ++ [(intent, tenantId)] }
    match cfg.toVector (cfg.embedding intent) with
    | some query =>
      if Pg.isText tenantId && Pg.isLimit topK then (s, vectorSearch cfg rows query topK)
      else (s, .raised)
    | none => (s, .raised)
  else if (searchPattern intent).all Pg.isText && Pg.isText tenantId && Pg.isLimit topK then
    (s, textSearch cfg rows intent topK)
  else (s, .raised)

/-! ## `update_decision` and `update_outcome` -/

/-- The row is the operation of the tenant. -/
def isOperation (operationId tenantId : String) (row : MemoryRow V) : Bool :=
  row.operationId == operationId && row.tenantId == tenantId

/-- `update_decision`. -/
def updateDecision (s : OperationMemory V)
    (operationId tenantId decision reason timestamp : String) : OperationMemory V × MemoryReply :=
  let found := s.memory.any (isOperation operationId tenantId)
  match cfg.toTime timestamp with
  | none => (s, .raised)
  | some decidedAt =>
    -- a row that would break the constraint fails the statement
    if [operationId, tenantId, decision, reason, timestamp].all Pg.isText &&
        (!found || admittedOutcomes.contains decision) then
      let decide (row : MemoryRow V) : MemoryRow V :=
        { row with outcome := decision, decisionReason := reason, decidedAt := some decidedAt }
      ({ s with memory := updateWhere (isOperation operationId tenantId) decide s.memory },
        .returned (.obj [("updated", .bool found)]))
    else (s, .raised)

/-- `accuracy_delta`. -/
def accuracyDelta (actual estimated : ℤ) : Option Py.Float :=
  if 0 < estimated then some (.finite (cfg.toFloat ((actual - estimated) / estimated)))
  else if 0 < actual then some (.inf false)
  else none

/-- `update_outcome`. -/
def updateOutcome (s : OperationMemory V) (operationId tenantId : String) (actualRows : ℤ) :
    OperationMemory V × MemoryReply :=
  let estimated := ((s.memory.find? (isOperation operationId tenantId)).map
    (·.estimatedRows)).getD 0
  let delta := accuracyDelta cfg actualRows estimated
  if [operationId, tenantId].all Pg.isText && Pg.isInt4 actualRows then
    let measure (row : MemoryRow V) : MemoryRow V :=
      { row with actualRows := some actualRows, blastRadiusDelta := delta }
    ({ s with memory := updateWhere (isOperation operationId tenantId) measure s.memory },
      .returned (.obj [("updated", .bool true), ("accuracy_delta", delta.elim .null .float)]))
  else (s, .raised)

/-! ## The confidence scores -/

def isScore (table operationType tenantId : String) (row : ConfidenceRow) : Bool :=
  row.tableName == table && row.operationType == operationType && row.tenantId == tenantId

/-- `GREATEST(a, b)`, for which `nan` is the greatest. -/
def greatest (a b : Py.Float) : Py.Float := if sortKey a ≤ sortKey b then b else a

/-- `LEAST(a, b)`. -/
def least (a b : Py.Float) : Py.Float := if sortKey a ≤ sortKey b then a else b

/-- `get_confidence_scores`. -/
def getConfidenceScores (s : OperationMemory V) (table operationType tenantId : String) :
    MemoryReply :=
  if [table, operationType, tenantId].all Pg.isText then
    match s.confidence.find? (isScore table operationType tenantId) with
    | some row => .returned (.obj
        [("confidence", .float row.confidence), ("sample_count", .int row.sampleCount),
         ("last_updated", .str (cfg.isoformat row.lastUpdated))])
    | none => .returned (.obj
        [("confidence", .float (.finite (cfg.toFloat (8 / 10)))), ("sample_count", .int 0),
         ("last_updated", .null)])
  else .raised

/-- The row of `confidence_scores` after an update; `none` when it is out of range. -/
def adjusted (delta : Py.Float) (now : Time) (row : ConfidenceRow) : Option ConfidenceRow :=
  (cfg.addConfidence row.confidence delta).map fun sum =>
    { row with
      confidence := greatest (.finite (cfg.toFloat (1 / 10))) (least (.finite 1) sum)
      sampleCount := row.sampleCount + 1
      lastUpdated := now }

/-- `update_confidence_score`. -/
def updateConfidenceScore (s : OperationMemory V) (table operationType : String) (delta : Py.Float)
    (tenantId : String) (now : Time) : OperationMemory V × MemoryReply :=
  let reply (confidence : Py.Float) :=
    MemoryReply.returned (.obj [("new_confidence", .float confidence)])
  match [table, operationType, tenantId].all Pg.isText, cfg.initialConfidence delta with
  | true, some initial =>
    match s.confidence.find? (isScore table operationType tenantId) with
    | none =>
      let confidence := greatest (.finite (cfg.toFloat (1 / 10))) initial
      ({ s with confidence := s.confidence ++
          [{ tableName := table, operationType, tenantId, confidence, sampleCount := 1
             lastUpdated := now }] }, reply confidence)
    | some row =>
      match adjusted cfg delta now row with
      | none => (s, .raised)
      | some row' =>
        ({ s with confidence :=
            updateWhere (isScore table operationType tenantId) (fun _ => row') s.confidence },
          reply row'.confidence)
  | _, _ => (s, .raised)

/-! ## `check_auto_reject_pattern` -/

/-- `check_auto_reject_pattern`. -/
def checkAutoRejectPattern (s : OperationMemory V) (tables : List String)
    (operationType tenantId : String) (lookbackDays : ℤ) (now : Time) : MemoryReply :=
  match (operationType :: tenantId :: tables).all Pg.isText, cfg.lookback now lookbackDays with
  | true, some since =>
    let found := s.patterns.filter fun p =>
      p.tenantId == tenantId && p.operationType == operationType &&
        p.affectedTables.any tables.contains && since < p.rejectedAt
    match sortDesc AutoRejectPattern.rejectedAt found with
    | p :: _ => .returned (.obj
        [("should_auto_reject", .bool true), ("matching_operation_id", .str p.operationId),
         ("reason", .str p.rejectionReason)])
    | [] => .returned (.obj
        [("should_auto_reject", .bool false), ("matching_operation_id", .null),
         ("reason", .null)])
  | _, _ => .raised

/-! ## The server -/

/-- One call. -/
def step (s : OperationMemory V) (c : TimedCall) : OperationMemory V × MemoryReply :=
  match c.call with
  | .storeOperation args => storeOperation cfg s args c.now
  | .semanticSearch intent tenantId topK => semanticSearch cfg s intent tenantId topK c.online
  | .updateDecision operationId tenantId decision reason timestamp =>
    updateDecision cfg s operationId tenantId decision reason timestamp
  | .updateOutcome operationId tenantId actualRows _ =>
    updateOutcome cfg s operationId tenantId actualRows
  | .getConfidenceScores table operationType tenantId =>
    (s, getConfidenceScores cfg s table operationType tenantId)
  | .updateConfidenceScore table operationType delta tenantId =>
    updateConfidenceScore cfg s table operationType delta tenantId c.now
  | .checkAutoRejectPattern tables operationType tenantId lookbackDays =>
    (s, checkAutoRejectPattern cfg s tables operationType tenantId lookbackDays c.now)

def server : Server (OperationMemory V) TimedCall MemoryReply where
  step := step cfg

end OperationMemory
