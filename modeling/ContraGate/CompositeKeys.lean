import Mathlib.Data.Prod.Lex
import Mathlib.Data.String.Basic
import ContraGate.CascadePaths
import ContraGate.Library.StableSort

/-!
# Composite foreign keys in the cascade

The foreign key query returns a row for each column of a key, and `_trace` takes every row for an
edge of its own. A key of two columns is walked twice, with all that is below it, and its rows are
counted twice. The flags do not depend on that.
-/

/-- A foreign key with `ON DELETE CASCADE`. -/
structure CascadeConstraint where
  childTable : String
  parentTable : String
  /-- Its columns in the order of `ordinal_position`, each with the column that it refers to. -/
  keyColumns : List (String × String)
  keyed : keyColumns ≠ []

/-- The cascading foreign keys of a database. -/
abbrev CascadeSchema := List CascadeConstraint

namespace CascadeConstraint

/-- The rows of the foreign key query for a key, each with its `ordinal_position`. -/
def columnRows (fk : CascadeConstraint) : List (ℕ × CascadeChild) :=
  fk.keyColumns.zipIdx.map fun (column, i) =>
    (i + 1,
      { childTable := fk.childTable, childColumn := column.1, parentColumn := column.2
        cascadeAction := "CASCADE" })

/-- One row for the key, with its first column. -/
def firstRow (fk : CascadeConstraint) : List (ℕ × CascadeChild) := fk.columnRows.take 1

/-- The number of columns. -/
def width (fk : CascadeConstraint) : ℕ := fk.keyColumns.length

theorem width_pos (fk : CascadeConstraint) : 0 < fk.width := List.length_pos_iff.mpr fk.keyed

end CascadeConstraint

namespace CascadeSchema

/-- `ORDER BY kcu_fk.table_name, kcu_fk.ordinal_position`; rows that agree in both come in the
order of the schema. -/
def ordered (rows : List (ℕ × CascadeChild)) : List CascadeChild :=
  (sortDesc (fun row => OrderDual.toDual (toLex (row.2.childTable, row.1))) rows).map (·.2)

/-- The keys that refer to a table. -/
def referring (schema : CascadeSchema) (table : String) : List CascadeConstraint :=
  schema.filter fun fk => fk.parentTable = table

variable (schema : CascadeSchema)

/-- The query of `_get_cascade_children`: one row for each column of a key. -/
def childrenByColumn (table : String) : List CascadeChild :=
  ordered ((schema.referring table).flatMap (·.columnRows))

/-- The same keys with one row each. -/
def childrenByConstraint (table : String) : List CascadeChild :=
  ordered ((schema.referring table).flatMap (·.firstRow))

/-- The graph of the keys. -/
def graph : Multigraph String CascadeConstraint where
  out := schema.referring
  target := (·.childTable)

end CascadeSchema

/-- The database with these foreign keys, as the query returns them. -/
def CascadeCatalog.byColumn (conn : CascadeCatalog) (schema : CascadeSchema) : CascadeCatalog :=
  { conn with cascadeChildren := schema.childrenByColumn }

/-- The database with these foreign keys, with one row each. -/
def CascadeCatalog.byConstraint (conn : CascadeCatalog) (schema : CascadeSchema) : CascadeCatalog :=
  { conn with cascadeChildren := schema.childrenByConstraint }

/-! ## The tables of the rows -/

namespace CascadeSchema

variable {schema : CascadeSchema} {table : String}

/-- The tables of the rows, in their order. -/
def tablesOf (children : List CascadeChild) : List String := children.map (·.childTable)

theorem tablesOf_ordered_perm (rows : List (ℕ × CascadeChild)) :
    (tablesOf (ordered rows)).Perm (rows.map (·.2.childTable)) := by
  unfold tablesOf ordered
  rw [List.map_map]
  exact (List.mergeSort_perm rows _).map _

theorem tablesOf_ordered_pairwise (rows : List (ℕ × CascadeChild)) :
    (tablesOf (ordered rows)).Pairwise (· ≤ ·) := by
  unfold tablesOf ordered
  rw [List.map_map, List.pairwise_map]
  refine (sortDesc_pairwise _ rows).imp fun {a b} hab => ?_
  exact Prod.Lex.monotone_fst _ _ (OrderDual.toDual_le_toDual.mp hab)

theorem tables_columnRows (fk : CascadeConstraint) :
    fk.columnRows.map (·.2.childTable) = List.replicate fk.width fk.childTable := by
  unfold CascadeConstraint.columnRows
  rw [List.map_map, List.eq_replicate_iff]
  refine ⟨by simp [CascadeConstraint.width], fun t ht => ?_⟩
  obtain ⟨_, -, rfl⟩ := List.mem_map.mp ht
  rfl

theorem tables_firstRow (fk : CascadeConstraint) :
    fk.firstRow.map (·.2.childTable) = [fk.childTable] := by
  unfold CascadeConstraint.firstRow
  rw [List.map_take, tables_columnRows, List.take_replicate, Nat.min_eq_left fk.width_pos]
  rfl

variable (schema table) in
/-- The rows by column name the table of a key as often as the key has columns. -/
theorem tables_byColumn_perm :
    (tablesOf (schema.childrenByColumn table)).Perm
      ((schema.referring table).flatMap fun fk => List.replicate fk.width fk.childTable) := by
  refine (tablesOf_ordered_perm _).trans (List.Perm.of_eq ?_)
  rw [List.map_flatMap]
  simp only [tables_columnRows]

variable (schema table) in
theorem tables_byConstraint_perm :
    (tablesOf (schema.childrenByConstraint table)).Perm
      ((schema.referring table).map (·.childTable)) := by
  refine (tablesOf_ordered_perm _).trans (List.Perm.of_eq ?_)
  rw [List.map_flatMap]
  simp only [tables_firstRow]
  exact List.map_eq_flatMap.symm

/-- When the keys that lead out of the path have one column, both ways list the same tables. -/
theorem tables_filter_eq {path : List String}
    (h : ∀ fk ∈ schema.referring table, fk.childTable ∉ path → fk.width = 1) :
    (tablesOf (schema.childrenByColumn table)).filter (· ∉ path) =
      (tablesOf (schema.childrenByConstraint table)).filter (· ∉ path) := by
  have hperm : ((tablesOf (schema.childrenByColumn table)).filter (· ∉ path)).Perm
      ((tablesOf (schema.childrenByConstraint table)).filter (· ∉ path)) := by
    refine ((tables_byColumn_perm schema table).filter _).trans
      (List.Perm.trans (List.Perm.of_eq ?_) ((tables_byConstraint_perm schema table).filter _).symm)
    -- key by key
    generalize schema.referring table = fks at h
    induction fks with
    | nil => rfl
    | cons fk fks ih =>
      rw [List.forall_mem_cons] at h
      rw [List.flatMap_cons, List.filter_append, ih h.2, List.map_cons, List.filter_cons]
      by_cases hmem : fk.childTable ∈ path
      · rw [if_neg (by simpa using hmem), List.filter_replicate, if_neg (by simpa using hmem)]
        rfl
      · rw [if_pos (by simpa using hmem), h.1 hmem, List.filter_replicate,
          if_pos (by simpa using hmem)]
        rfl
  exact hperm.eq_of_pairwise (fun a b _ _ => le_antisymm)
    ((tablesOf_ordered_pairwise _).filter _) ((tablesOf_ordered_pairwise _).filter _)

end CascadeSchema

namespace CascadeTracer

variable {arith : CascadeArith} {conn : CascadeCatalog} {schema : CascadeSchema} {maxDepth : ℕ}
  {table : String} {rows : ℤ} {confidence : Py.Float} {depth n : ℕ} {path : List String}

/-- Seen as graphs, the rows by column repeat the edges. -/
theorem repeats_byColumn :
    (conn.byColumn schema).graph.Repeats schema.graph CascadeConstraint.width where
  pos := CascadeConstraint.width_pos
  targets := CascadeSchema.tables_byColumn_perm schema

theorem repeats_byConstraint :
    (conn.byConstraint schema).graph.Repeats schema.graph fun _ => 1 where
  pos _ := Nat.one_pos
  targets table := by
    refine (CascadeSchema.tables_byConstraint_perm schema table).trans (List.Perm.of_eq ?_)
    exact List.map_eq_flatMap

/-! ## What is compared -/

/-- What a level counts: its table, its parent table, its depth and the estimated rows. -/
def counted (level : CascadeLevel) : String × String × ℕ × ℤ :=
  (level.tableName, level.parentTable, level.depth, level.estimatedRows)

/-- Two results say the same of the cascade, but for the columns of the keys. -/
structure SameCounts (g h : CascadeGraph) : Prop where
  levels : g.levels.map counted = h.levels.map counted
  total : g.totalEstimatedRows = h.totalEstimatedRows
  circular : g.hasCircularReference = h.hasCircularReference
  complete : g.maxDepthReached = h.maxDepthReached

/-! ## The levels -/

/-- The levels of a call, by the tables of its rows. -/
theorem trace_counted (hdepth : depth ≤ maxDepth) :
    (trace arith conn maxDepth table rows confidence depth path {}).levels.map counted =
      ((CascadeSchema.tablesOf (conn.cascadeChildren table)).filter (· ∉ path)).flatMap fun child =>
        (child, table, depth, childEstimated arith conn table child rows) ::
          (trace arith conn maxDepth child (childEstimated arith conn table child rows)
            (arith.degrade confidence) (depth + 1) (child :: path) {}).levels.map counted := by
  rw [trace_empty hdepth, TraceState.appendAll_levels, List.map_flatMap, CascadeSchema.tablesOf]
  induction conn.cascadeChildren table with
  | nil => rfl
  | cons child children ih =>
    rw [List.flatMap_cons, ih, List.map_cons, List.filter_cons]
    unfold visit
    by_cases hmem : child.childTable ∈ path
    · rw [if_pos hmem, if_neg (by simpa using hmem)]
      rfl
    · rw [if_neg hmem, if_pos (by simpa using hmem), List.flatMap_cons]
      rfl

/-- Keys of one column are the same either way. -/
theorem trace_levels_eq (hn : depth + n = maxDepth + 1)
    (h : schema.graph.Every (fun fk => fk.width = 1) n path table) :
    (trace arith (conn.byColumn schema) maxDepth table rows confidence depth path
        {}).levels.map counted =
      (trace arith (conn.byConstraint schema) maxDepth table rows confidence depth path
        {}).levels.map counted := by
  induction n generalizing table rows confidence depth path with
  | zero => rw [trace_of_gt _ _ _ _ (by omega), trace_of_gt _ _ _ _ (by omega)]
  | succ n ih =>
    rw [Multigraph.every_succ] at h
    have htables : (CascadeSchema.tablesOf ((conn.byColumn schema).cascadeChildren table)).filter
        (· ∉ path) = (CascadeSchema.tablesOf
          ((conn.byConstraint schema).cascadeChildren table)).filter (· ∉ path) :=
      CascadeSchema.tables_filter_eq fun fk hfk hnew => (h fk hfk hnew).1
    rw [trace_counted (by omega), trace_counted (by omega), htables]
    apply List.flatMap_congr
    intro child hchild
    obtain ⟨hchild, hnew⟩ := List.mem_filter.mp hchild
    -- some key leads to the child, and the walks go on behind it
    obtain ⟨fk, hfk, rfl⟩ :=
      List.mem_map.mp ((CascadeSchema.tables_byConstraint_perm schema table).mem_iff.mp hchild)
    have hbelow := (h fk hfk (of_decide_eq_true hnew)).2
    exact congrArg _ (ih (by omega) hbelow)

/-- The number of levels is the number of fresh walks. -/
theorem length_trace (hn : depth + n = maxDepth + 1) :
    (trace arith conn maxDepth table rows confidence depth path {}).levels.length =
      (conn.graph.freshWalks n path table).length := by
  have hplaces : (trace arith conn maxDepth table rows confidence depth path {}).levels.map place =
      (conn.graph.freshWalks n path table).map (placeOf conn table depth) := trace_levels hn
  have hlengths := congrArg List.length hplaces
  rwa [List.length_map, List.length_map] at hlengths

/-- A composite key that a walk can take makes the levels more. -/
theorem every_of_trace_length (hn : depth + n = maxDepth + 1)
    (h : (trace arith (conn.byColumn schema) maxDepth table rows confidence depth path
        {}).levels.length =
      (trace arith (conn.byConstraint schema) maxDepth table rows confidence depth path
        {}).levels.length) :
    schema.graph.Every (fun fk => fk.width = 1) n path table := by
  rw [length_trace hn, length_trace hn] at h
  have hconstraint : (schema.graph.freshWalks n path table).length =
      ((conn.byConstraint schema).graph.freshWalks n path table).length :=
    repeats_byConstraint.length_freshWalks.2.mpr fun _ _ _ _ _ => rfl
  exact repeats_byColumn.length_freshWalks.2.mp (hconstraint.trans h.symm)

/-! ## The result -/

section Result

variable (arith : CascadeArith) (conn : CascadeCatalog) (schema : CascadeSchema) (root : String)
  (condition : Option String) (maxDepth : ℕ) (rootEstimate : Option RowEstimate)

/-- Both ways the rows name the same tables, so the flags agree. -/
theorem sameTargets : (conn.byColumn schema).graph.SameTargets (conn.byConstraint schema).graph := by
  intro table child
  rw [repeats_byColumn.sameTargets table child, repeats_byConstraint.sameTargets table child]

/-- **Composite keys are counted once** if and only if no simple path of cascading keys from the
root, of at most `maxDepth` steps, takes one. -/
theorem traceCascades_counts_iff :
    SameCounts
        (traceCascades arith (conn.byColumn schema) root condition maxDepth rootEstimate)
        (traceCascades arith (conn.byConstraint schema) root condition maxDepth rootEstimate) ↔
      ∀ p, schema.graph.IsSimple root p → p.length ≤ maxDepth → ∀ s ∈ p, s.2.width = 1 := by
  have hn : 1 + maxDepth = maxDepth + 1 := Nat.add_comm 1 maxDepth
  have hevery : (∀ p, schema.graph.IsSimple root p → p.length ≤ maxDepth →
      ∀ s ∈ p, s.2.width = 1) ↔
      schema.graph.Every (fun fk => fk.width = 1) maxDepth [root] root := by
    simp only [Multigraph.isSimple_iff_fresh]
    rfl
  rw [hevery]
  constructor
  · intro h
    have hlength := congrArg List.length h.levels
    rw [List.length_map, List.length_map] at hlength
    exact every_of_trace_length hn hlength
  · intro h
    have hlevels : (traceCascades arith (conn.byColumn schema) root condition maxDepth
        rootEstimate).levels.map counted =
        (traceCascades arith (conn.byConstraint schema) root condition maxDepth
          rootEstimate).levels.map counted := trace_levels_eq hn h
    have hrows := congrArg (List.map fun level => level.2.2.2) hlevels
    rw [List.map_map, List.map_map] at hrows
    refine ⟨hlevels, congrArg List.sum hrows, ?_, ?_⟩
    · exact Bool.eq_iff_iff.mpr (((trace_hasCircularReference hn).trans
        (sameTargets conn schema).closes_iff).trans (trace_hasCircularReference hn).symm)
    · exact Bool.eq_iff_iff.mpr (((trace_maxDepthReached hn).trans
        (sameTargets conn schema).extends_iff).trans (trace_maxDepthReached hn).symm)

end Result

/-- An order line belongs to an order of a tenant. -/
def orderLines : CascadeSchema :=
  [{ childTable := "order_lines", parentTable := "orders"
     keyColumns := [("tenant_id", "tenant_id"), ("order_id", "id")], keyed := List.cons_ne_nil _ _ }]

/-- A database with ten orders, of which each has a line. -/
def sampleOrders : CascadeCatalog where
  cascadeChildren _ := []
  reltuples _ := some 10
  estimateRows table condition := ⟨table, condition, 10, .finite (4 / 5), "stats", .finite 1, false⟩

def sampleArith : CascadeArith where
  scale parentRows childReltuples parentReltuples := parentRows * childReltuples / parentReltuples
  degrade confidence := confidence

/-- The lines are counted twice. -/
theorem orderLines_counted_twice :
    ¬ SameCounts
      (traceCascades sampleArith (sampleOrders.byColumn orderLines) "orders" none 5 none)
      (traceCascades sampleArith (sampleOrders.byConstraint orderLines) "orders" none 5 none) := by
  intro h
  have hlength := congrArg List.length h.levels
  rw [List.length_map, List.length_map] at hlength
  have hevery := every_of_trace_length (n := 5) rfl hlength
  have hstep := (Multigraph.every_succ.mp hevery _ (List.mem_singleton.mpr rfl) (by decide)).1
  exact absurd hstep (by decide)

end CascadeTracer
