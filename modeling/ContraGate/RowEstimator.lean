import Mathlib.Algebra.Order.Ring.Rat
import ContraGate.Library.PyValue
import ContraGate.TransactionSandbox

/-!
# Row estimates (`sql_analysis_lib/row_estimator.py`)

Without a condition the estimate is `reltuples`; with one it is what the planner expects of a
synthetic query, or `reltuples` when EXPLAIN fails. The confidence depends on the age of the
statistics alone. What the queries return is a function of their arguments.

`update_confidence` lowers the stored confidence of a table after an operation. Float arithmetic is
the exact result, rounded: `toFloat` says how.
-/

structure RowEstimate where
  table : String
  condition : Option String
  estimatedRows : ℤ
  confidence : Py.Float
  estimationStrategy : String
  statsAgeHours : Py.Float
  statsStale : Bool

/-- A row of the query of `_fetch_stats`. -/
structure StatsRow where
  reltuples : ℤ
  /-- `NULL` for a table that was never analyzed. -/
  statsAgeHours : Option Py.Float

/-- The statistics and the planner of a database. -/
structure TableStatistics where
  /-- The row of the query of `_fetch_stats`, if there is one. -/
  statsRow : String → Option StatsRow
  /-- `estimated_rows` of `run_explain`; `none` when it raises. -/
  explainRows : String → Option ℤ

namespace RowEstimator

/-- `_compute_confidence`. -/
def computeConfidence : Option Py.Float → Py.Float × Bool
  | none => (.finite (2 / 5), true)
  | some hours =>
    if hours.lt (.finite 24) then (.finite (4 / 5), false)
    else if hours.lt (.finite 72) then (.finite (7 / 10), true)
    else if hours.lt (.finite 168) then (.finite (3 / 5), true)
    else (.finite (1 / 2), true)

/-- `_fetch_stats`. -/
def fetchStats (conn : TableStatistics) (table : String) : ℤ × Option Py.Float :=
  match conn.statsRow table with
  | none => (0, none)
  | some row => (max 0 row.reltuples, row.statsAgeHours)

/-- `explain_sql`. -/
def explainSql (table condition : String) : String :=
  "SELECT 1 FROM " ++ TransactionSandbox.identifier table.toList ++ " WHERE " ++ condition

/-- `estimate_rows`. -/
def estimateRows (conn : TableStatistics) (table : String) (condition : Option String) :
    RowEstimate :=
  let (reltuples, statsAge) := fetchStats conn table
  let (confidence, stale) := computeConfidence statsAge
  let (estimated, strategy) :=
    match condition with
    | none => (reltuples, "stats")
    | some condition =>
      match conn.explainRows (explainSql table condition) with
      | some rows => (rows, "explain")
      | none => (reltuples, "stats")
  { table
    condition
    estimatedRows := max 0 estimated
    confidence
    estimationStrategy := strategy
    statsAgeHours := statsAge.getD (.inf false)
    statsStale := stale }

/-- The confidence is one of five numbers. -/
theorem estimateRows_confidence (conn : TableStatistics) (table : String)
    (condition : Option String) :
    ∃ q, (estimateRows conn table condition).confidence = .finite q := by
  show ∃ q, (computeConfidence (fetchStats conn table).2).1 = .finite q
  unfold computeConfidence
  split
  · exact ⟨_, rfl⟩
  · split_ifs <;> exact ⟨_, rfl⟩

/-! ## The feedback -/

section Feedback

variable (toFloat : ℚ → ℚ)

/-- `max(0.1, min(1.0, x))`; `min(1.0, nan)` is `1.0`. -/
def clampConfidence : Py.Float → Py.Float
  | .finite x => .finite (max (toFloat (1 / 10)) (min 1 x))
  | .nan => .finite 1
  | .inf negative => .finite (if negative then toFloat (1 / 10) else 1)

/-- `current - penalty`. -/
def lowerConfidence (penalty : ℚ) : Py.Float → Py.Float
  | .finite x => .finite (toFloat (x - toFloat penalty))
  | x => x

/-- `update_confidence`: the new confidence, and the store that it leaves. -/
def updateConfidence (table operationType : String) (actualRows estimatedRows : ℤ)
    (confidenceStore : String → Option Py.Float) : Py.Float × (String → Option Py.Float) :=
  let key := s!"{table}:{operationType}"
  let current := (confidenceStore key).getD (.finite (toFloat (8 / 10)))
  let scaled (factor : ℚ) : ℚ := toFloat (toFloat estimatedRows * toFloat factor)
  let newConfidence :=
    if estimatedRows ≤ 0 then
      if actualRows > 0 then lowerConfidence toFloat (5 / 100) current else current
    -- an underestimate counts for more
    else if actualRows > scaled (1 + toFloat (1 / 10)) then
      lowerConfidence toFloat (5 / 100) current
    else if actualRows < scaled (1 - toFloat (1 / 10)) then
      lowerConfidence toFloat (2 / 100) current
    else current
  let newConfidence := clampConfidence toFloat newConfidence
  (newConfidence, fun k => if k = key then some newConfidence else confidenceStore k)

end Feedback

end RowEstimator
