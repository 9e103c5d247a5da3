import ContraGate.RowEstimator

/-!
# The cascade tracer (`sql_analysis_lib/cascade_tracer.py`)

`_trace` walks the ON DELETE CASCADE foreign keys depth first, with the set of tables on its
branch, and collects levels and flags in two shared objects, which are its state here. What
the two catalog queries return is a function of the table. Floating-point arithmetic is a
parameter. The root condition may be absent: `get_fk_graph` passes none.
-/

structure CascadeLevel where
  tableName : String
  columnName : String
  parentTable : String
  parentColumn : String
  cascadeAction : String
  estimatedRows : ℤ
  confidence : Py.Float
  depth : ℕ

structure CascadeGraph where
  rootTable : String
  rootCondition : Option String
  levels : List CascadeLevel
  totalEstimatedRows : ℤ
  hasCircularReference : Bool
  maxDepthReached : Bool

/-- A row of the foreign key query. -/
structure CascadeChild where
  childTable : String
  childColumn : String
  parentColumn : String
  cascadeAction : String

/-- The database behind `conn`, as far as the tracer asks it. -/
structure CascadeCatalog where
  /-- The rows of the query of `_get_cascade_children`. -/
  cascadeChildren : String → List CascadeChild
  /-- The row of the query of `_get_reltuples`, if there is one. -/
  reltuples : String → Option ℤ
  /-- `estimate_rows(table, condition, conn)`. -/
  estimateRows : String → Option String → RowEstimate

/-- The arithmetic on floats in `_trace`. -/
structure CascadeArith where
  /-- `int(parent_rows * (child_reltuples / parent_reltuples))`. -/
  scale : ℤ → ℤ → ℤ → ℤ
  /-- `round(parent_confidence * 0.8, 4)`. -/
  degrade : Py.Float → Py.Float

/-- The two objects that all calls of `_trace` share: `levels` and `flags`. -/
structure TraceState where
  levels : List CascadeLevel := []
  hasCircularReference : Bool := false
  maxDepthReached : Bool := false

namespace CascadeTracer

/-- `_get_reltuples`. -/
def getReltuples (conn : CascadeCatalog) (table : String) : ℤ :=
  match conn.reltuples table with
  | none => 0
  | some n => max 0 n

/-- `child_estimated`. -/
def childEstimated (arith : CascadeArith) (conn : CascadeCatalog) (table childTable : String)
    (parentRows : ℤ) : ℤ :=
  if getReltuples conn table > 0 then
    arith.scale parentRows (getReltuples conn childTable) (getReltuples conn table)
  else 0

/-- The level that `_trace` appends for a row of the foreign key query. -/
def levelOf (arith : CascadeArith) (conn : CascadeCatalog) (table : String) (parentRows : ℤ)
    (parentConfidence : Py.Float) (depth : ℕ) (child : CascadeChild) : CascadeLevel where
  tableName := child.childTable
  columnName := child.childColumn
  parentTable := table
  parentColumn := child.parentColumn
  cascadeAction := child.cascadeAction
  estimatedRows := childEstimated arith conn table child.childTable parentRows
  confidence := arith.degrade parentConfidence
  depth := depth

/-- `_trace`. -/
def trace (arith : CascadeArith) (conn : CascadeCatalog) (maxDepth : ℕ) (table : String)
    (parentRows : ℤ) (parentConfidence : Py.Float) (depth : ℕ) (path : List String)
    (s : TraceState) : TraceState :=
  if depth > maxDepth then { s with maxDepthReached := true }
  else
    (conn.cascadeChildren table).foldl (fun s child =>
      if child.childTable ∈ path then { s with hasCircularReference := true }
      else
        let level := levelOf arith conn table parentRows parentConfidence depth child
        trace arith conn maxDepth child.childTable level.estimatedRows level.confidence
          (depth + 1) (child.childTable :: path) { s with levels := s.levels ++ [level] }) s
termination_by maxDepth + 1 - depth

/-- `trace_cascades`. -/
def traceCascades (arith : CascadeArith) (conn : CascadeCatalog) (table : String)
    (condition : Option String) (maxDepth : ℕ := 5) (rootEstimate : Option RowEstimate := none) :
    CascadeGraph :=
  let rootEstimate := rootEstimate.getD (conn.estimateRows table condition)
  let s := trace arith conn maxDepth table rootEstimate.estimatedRows rootEstimate.confidence 1
    [table] {}
  { rootTable := table
    rootCondition := condition
    levels := s.levels
    totalEstimatedRows := (s.levels.map (·.estimatedRows)).sum
    hasCircularReference := s.hasCircularReference
    maxDepthReached := s.maxDepthReached }

end CascadeTracer
