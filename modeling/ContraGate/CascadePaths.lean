import ContraGate.CascadeTracer
import ContraGate.Library.Walks

/-!
# The tracer enumerates the bounded simple cascade paths

`trace_eq` takes the accumulators out of `_trace`: a call adds to the shared state what its
children add, in order. With that the levels are the depth-first enumeration of fresh walks
in the graph of the cascading foreign keys, and each flag is a property of these walks.
-/

namespace TraceState

/-- What two calls in a row add to the shared state. -/
def append (s t : TraceState) : TraceState where
  levels := s.levels ++ t.levels
  hasCircularReference := s.hasCircularReference || t.hasCircularReference
  maxDepthReached := s.maxDepthReached || t.maxDepthReached

theorem append_assoc (s t u : TraceState) : (s.append t).append u = s.append (t.append u) := by
  simp [append, Bool.or_assoc]

@[simp] theorem append_empty (s : TraceState) : s.append {} = s := by simp [append]

/-- What a list of calls adds to the shared state. -/
def appendAll {α : Type} (add : α → TraceState) (items : List α) : TraceState :=
  items.foldr (fun item t => (add item).append t) {}

/-- A loop whose body appends to the state. -/
theorem foldl_append {α : Type} {body : TraceState → α → TraceState} {add : α → TraceState}
    (hbody : ∀ s item, body s item = s.append (add item)) (items : List α) (s : TraceState) :
    items.foldl body s = s.append (appendAll add items) := by
  induction items generalizing s with
  | nil => exact s.append_empty.symm
  | cons item items ih =>
    rw [List.foldl_cons, ih, hbody, append_assoc]
    rfl

variable {α : Type} (add : α → TraceState) (items : List α)

theorem appendAll_levels :
    (appendAll add items).levels = items.flatMap fun item => (add item).levels := by
  induction items with
  | nil => rfl
  | cons item items ih =>
    rw [List.flatMap_cons, ← ih]
    rfl

theorem appendAll_hasCircularReference :
    (appendAll add items).hasCircularReference = true ↔
      ∃ item ∈ items, (add item).hasCircularReference = true := by
  induction items with
  | nil => simp [appendAll]
  | cons item items ih =>
    have hor : (appendAll add (item :: items)).hasCircularReference =
        ((add item).hasCircularReference || (appendAll add items).hasCircularReference) := rfl
    rw [hor, Bool.or_eq_true, ih]
    simp

theorem appendAll_maxDepthReached :
    (appendAll add items).maxDepthReached = true ↔
      ∃ item ∈ items, (add item).maxDepthReached = true := by
  induction items with
  | nil => simp [appendAll]
  | cons item items ih =>
    have hor : (appendAll add (item :: items)).maxDepthReached =
        ((add item).maxDepthReached || (appendAll add items).maxDepthReached) := rfl
    rw [hor, Bool.or_eq_true, ih]
    simp

end TraceState

/-- The graph of the cascading foreign keys. -/
def CascadeCatalog.graph (conn : CascadeCatalog) : Multigraph String CascadeChild where
  out := conn.cascadeChildren
  target := (·.childTable)

theorem CascadeCatalog.graph_target (conn : CascadeCatalog) (child : CascadeChild) :
    conn.graph.target child = child.childTable := rfl

namespace CascadeTracer

variable (arith : CascadeArith) (conn : CascadeCatalog) (maxDepth : ℕ)

/-- The call of `_trace` for a row of the foreign key query. -/
def below (table : String) (rows : ℤ) (confidence : Py.Float) (depth : ℕ) (path : List String)
    (child : CascadeChild) (s : TraceState) : TraceState :=
  trace arith conn maxDepth child.childTable
    (levelOf arith conn table rows confidence depth child).estimatedRows
    (levelOf arith conn table rows confidence depth child).confidence (depth + 1)
    (child.childTable :: path) s

/-- What `_trace` adds to the shared state for one row of the foreign key query. -/
def visit (table : String) (rows : ℤ) (confidence : Py.Float) (depth : ℕ) (path : List String)
    (child : CascadeChild) : TraceState :=
  if child.childTable ∈ path then { hasCircularReference := true }
  else TraceState.append { levels := [levelOf arith conn table rows confidence depth child] }
    (below arith conn maxDepth table rows confidence depth path child {})

/-- A call beyond the depth limit sets the flag and nothing else. -/
theorem trace_of_gt {table : String} {rows : ℤ} {confidence : Py.Float} {depth : ℕ}
    {path : List String} (s : TraceState) (hdepth : depth > maxDepth) :
    trace arith conn maxDepth table rows confidence depth path s =
      s.append { maxDepthReached := true } := by
  rw [trace, if_pos hdepth]
  simp [TraceState.append]

/-- The loop of a call within the limit, when the calls below only append to the state. -/
theorem trace_of_below {table : String} {rows : ℤ} {confidence : Py.Float} {depth : ℕ}
    {path : List String} (s : TraceState) (hdepth : depth ≤ maxDepth)
    (hbelow : ∀ child s, below arith conn maxDepth table rows confidence depth path child s =
      s.append (below arith conn maxDepth table rows confidence depth path child {})) :
    trace arith conn maxDepth table rows confidence depth path s =
      s.append (TraceState.appendAll (visit arith conn maxDepth table rows confidence depth path)
        (conn.cascadeChildren table)) := by
  rw [trace, if_neg (by omega)]
  apply TraceState.foldl_append
  intro s child
  unfold visit
  split
  · simp [TraceState.append]
  -- the level is appended before the call below it
  · rw [← TraceState.append_assoc]
    have happend : s.append { levels := [levelOf arith conn table rows confidence depth child] } =
        { s with levels := s.levels ++ [levelOf arith conn table rows confidence depth child] } := by
      simp [TraceState.append]
    rw [happend]
    exact hbelow child _

/-- A call within the limit adds to the state what its children add, in order. -/
theorem trace_eq {table : String} {rows : ℤ} {confidence : Py.Float} {depth : ℕ}
    {path : List String} (s : TraceState) (hdepth : depth ≤ maxDepth) :
    trace arith conn maxDepth table rows confidence depth path s =
      s.append (TraceState.appendAll (visit arith conn maxDepth table rows confidence depth path)
        (conn.cascadeChildren table)) := by
  -- by induction on the levels that are left
  obtain ⟨n, hn⟩ : ∃ n, depth + n = maxDepth := ⟨maxDepth - depth, by omega⟩
  induction n generalizing table rows confidence depth path s with
  | zero =>
    apply trace_of_below _ _ _ _ hdepth
    intro child s
    unfold below
    rw [trace_of_gt _ _ _ s (by omega), trace_of_gt _ _ _ {} (by omega)]
    simp [TraceState.append]
  | succ n ih =>
    apply trace_of_below _ _ _ _ hdepth
    intro child s
    unfold below
    rw [ih s (by omega) (by omega), ih {} (by omega) (by omega)]
    simp [TraceState.append]

variable {arith conn maxDepth} {table : String} {rows : ℤ} {confidence : Py.Float} {depth n : ℕ}
  {path : List String}

/-- A call without accumulators, within the limit. -/
theorem trace_empty (hdepth : depth ≤ maxDepth) :
    trace arith conn maxDepth table rows confidence depth path {} =
      TraceState.appendAll (visit arith conn maxDepth table rows confidence depth path)
        (conn.cascadeChildren table) := by
  rw [trace_eq _ _ _ _ hdepth]
  simp [TraceState.append]

/-! ## The levels -/

/-- A level stands at the end of a path: its table, its parent table and its depth. -/
def place (level : CascadeLevel) : String × String × ℕ :=
  (level.tableName, level.parentTable, level.depth)

/-- The place at the end of the walk `p` from `table`, where the first step has depth `depth`. -/
def placeOf (conn : CascadeCatalog) (table : String) (depth : ℕ)
    (p : List (ℕ × CascadeChild)) : String × String × ℕ :=
  (conn.graph.dest table p, conn.graph.dest table p.dropLast, depth + p.length - 1)

theorem placeOf_cons {s : ℕ × CascadeChild} {p : List (ℕ × CascadeChild)} (hp : p ≠ []) :
    placeOf conn table depth (s :: p) = placeOf conn s.2.childTable (depth + 1) p := by
  unfold placeOf
  rw [List.dropLast_cons_of_ne_nil hp, List.length_cons, Multigraph.dest_cons,
    Multigraph.dest_cons]
  have hdepth : depth + (p.length + 1) - 1 = depth + 1 + p.length - 1 := by omega
  rw [hdepth]
  rfl

/-- The levels of a call are the fresh walks from its table, in the order of the search. -/
theorem trace_levels (hn : depth + n = maxDepth + 1) :
    (trace arith conn maxDepth table rows confidence depth path {}).levels.map place =
      (conn.graph.freshWalks n path table).map (placeOf conn table depth) := by
  induction n generalizing table rows confidence depth path with
  | zero =>
    rw [trace_of_gt _ _ _ _ (by omega)]
    rfl
  | succ n ih =>
    rw [trace_empty (by omega), TraceState.appendAll_levels, Multigraph.freshWalks,
      List.map_flatMap, List.map_flatMap]
    -- the tracer walks over the rows, a walk records their places too
    have hindex : ∀ (f : CascadeChild → List (String × String × ℕ)) (l : List CascadeChild),
        (l.zipIdx.flatMap fun x => f x.1) = l.flatMap f := by
      intro f l
      have hfst : l.zipIdx.map Prod.fst = l := List.zipIdx_map_fst 0 l
      calc (l.zipIdx.flatMap fun x => f x.1) = (l.zipIdx.map Prod.fst).flatMap f := by
            rw [List.flatMap_map]
        _ = l.flatMap f := by rw [hfst]
    rw [← hindex]
    apply List.flatMap_congr
    rintro ⟨child, i⟩ -
    dsimp only
    unfold visit
    rw [CascadeCatalog.graph_target]
    split
    · rfl
    -- the level of the child, then those of the call below it, seen from this table
    · have hrest : List.map place
          (below arith conn maxDepth table rows confidence depth path child {}).levels =
          (conn.graph.freshWalks n (child.childTable :: path) child.childTable).map
            (placeOf conn child.childTable (depth + 1)) := ih (by omega)
      have hcons : ∀ p ∈ conn.graph.freshWalks n (child.childTable :: path) child.childTable,
          placeOf conn child.childTable (depth + 1) p = placeOf conn table depth ((i, child) :: p) :=
        fun p hp => (placeOf_cons (s := (i, child)) (Multigraph.mem_freshWalks.mp hp).1).symm
      have hhead : place (levelOf arith conn table rows confidence depth child) =
          placeOf conn table depth [(i, child)] := rfl
      rw [TraceState.append, List.map_append, hrest, List.map_cons, List.map_cons, List.map_map,
        hhead, List.map_congr_left hcons]
      rfl

/-! ## The flags -/

theorem trace_hasCircularReference (hn : depth + n = maxDepth + 1) :
    (trace arith conn maxDepth table rows confidence depth path {}).hasCircularReference = true ↔
      conn.graph.Closes n path table := by
  induction n generalizing table rows confidence depth path with
  | zero =>
    rw [trace_of_gt _ _ _ _ (by omega)]
    simp [TraceState.append, Multigraph.not_closes_zero]
  | succ n ih =>
    rw [trace_empty (by omega), TraceState.appendAll_hasCircularReference,
      Multigraph.closes_succ]
    refine exists_congr fun child => and_congr_right fun _ => ?_
    rw [CascadeCatalog.graph_target]
    unfold visit
    split
    next hmem => simp [hmem]
    next hmem =>
      have hbelow : (below arith conn maxDepth table rows confidence depth path child
          {}).hasCircularReference = true ↔
          conn.graph.Closes n (child.childTable :: path) child.childTable := ih (by omega)
      simp [hmem, TraceState.append, hbelow]

theorem trace_maxDepthReached (hn : depth + n = maxDepth + 1) :
    (trace arith conn maxDepth table rows confidence depth path {}).maxDepthReached = true ↔
      conn.graph.Extends n path table := by
  induction n generalizing table rows confidence depth path with
  | zero =>
    rw [trace_of_gt _ _ _ _ (by omega)]
    simp [TraceState.append, Multigraph.extends_zero]
  | succ n ih =>
    rw [trace_empty (by omega), TraceState.appendAll_maxDepthReached, Multigraph.extends_succ]
    refine exists_congr fun child => and_congr_right fun _ => ?_
    rw [CascadeCatalog.graph_target]
    unfold visit
    split
    next hmem => simp [hmem]
    next hmem =>
      have hbelow : (below arith conn maxDepth table rows confidence depth path child
          {}).maxDepthReached = true ↔
          conn.graph.Extends n (child.childTable :: path) child.childTable := ih (by omega)
      simp [hmem, TraceState.append, hbelow]

/-! ## The graph that `trace_cascades` returns -/

/-- What the returned graph says about the cascade paths from its root. -/
structure Enumerates (conn : CascadeCatalog) (maxDepth : ℕ) (root : String)
    (result : CascadeGraph) : Prop where
  /-- The levels are the simple paths of one to `maxDepth` steps, each once and in depth-first
  order. -/
  levels : ∃ paths : List (List (ℕ × CascadeChild)),
    paths.Pairwise Multigraph.Before ∧
    (∀ p, p ∈ paths ↔ p ≠ [] ∧ conn.graph.IsSimple root p ∧ p.length ≤ maxDepth) ∧
    result.levels.map place = paths.map fun p =>
      (conn.graph.dest root p, conn.graph.dest root p.dropLast, p.length)
  total : result.totalEstimatedRows = (result.levels.map (·.estimatedRows)).sum
  /-- An edge leads from the end of a shorter simple path back to it. -/
  circular : result.hasCircularReference = true ↔
    ∃ p, conn.graph.IsSimple root p ∧ p.length < maxDepth ∧
      ∃ child ∈ conn.cascadeChildren (conn.graph.dest root p),
        child.childTable ∈ root :: conn.graph.visited p
  complete : result.maxDepthReached = false → ∀ table, conn.graph.Reaches root table →
    table ≠ root → ∃ level ∈ result.levels, level.tableName = table

/-- The tracer enumerates exactly the bounded simple cascade paths. -/
theorem traceCascades_enumerates (arith : CascadeArith) (conn : CascadeCatalog)
    (root : String) (condition : Option String) (maxDepth : ℕ)
    (rootEstimate : Option RowEstimate) :
    Enumerates conn maxDepth root
      (traceCascades arith conn root condition maxDepth rootEstimate) := by
  have hn : 1 + maxDepth = maxDepth + 1 := by omega
  have hlevels : (traceCascades arith conn root condition maxDepth rootEstimate).levels.map place =
      (conn.graph.freshWalks maxDepth [root] root).map (placeOf conn root 1) := trace_levels hn
  constructor
  · refine ⟨conn.graph.freshWalks maxDepth [root] root,
      Multigraph.freshWalks_pairwise maxDepth [root] root, fun p => ?_, ?_⟩
    -- fresh for the root alone is the same as simple
    · rw [Multigraph.mem_freshWalks, Multigraph.isSimple_iff_fresh]
      tauto
    · rw [hlevels]
      apply List.map_congr_left
      intro p _
      unfold placeOf
      rw [Nat.add_sub_cancel_left]
  · rfl
  · have hcircular : (traceCascades arith conn root condition maxDepth
        rootEstimate).hasCircularReference = true ↔ conn.graph.Closes maxDepth [root] root :=
      trace_hasCircularReference hn
    rw [hcircular, Multigraph.Closes]
    refine exists_congr fun p => ?_
    rw [Multigraph.isSimple_iff_fresh]
    refine and_congr_right fun _ => and_congr_right fun _ => exists_congr fun child => ?_
    refine and_congr_right fun _ => ?_
    simp only [CascadeCatalog.graph_target, List.mem_cons, List.not_mem_nil, or_false]
  · intro hreached table hreaches hne
    obtain ⟨p, hsimple, hdest⟩ := Multigraph.exists_simple_of_reaches hreaches
    -- no simple path is as long as the limit, or the search would have met it
    have hshort : p.length < maxDepth := by
      by_contra hlong
      obtain ⟨q, hq, hlength⟩ := hsimple.exists_length_eq (n := maxDepth) (by omega)
      have hextends : conn.graph.Extends maxDepth [root] root :=
        ⟨q, Multigraph.isSimple_iff_fresh.mp hq, hlength⟩
      have hflag : (traceCascades arith conn root condition maxDepth
          rootEstimate).maxDepthReached = true := (trace_maxDepthReached hn).mpr hextends
      rw [hflag] at hreached
      cases hreached
    have hp : p ≠ [] := by
      rintro rfl
      exact hne hdest.symm
    have hmem : p ∈ conn.graph.freshWalks maxDepth [root] root := by
      rw [Multigraph.mem_freshWalks]
      exact ⟨hp, by omega, Multigraph.isSimple_iff_fresh.mp hsimple⟩
    have hplace : placeOf conn root 1 p ∈
        (traceCascades arith conn root condition maxDepth rootEstimate).levels.map place := by
      rw [hlevels]
      exact List.mem_map_of_mem hmem
    obtain ⟨level, hlevel, hsame⟩ := List.mem_map.mp hplace
    have hname : level.tableName = conn.graph.dest root p := congrArg Prod.fst hsame
    exact ⟨level, hlevel, hname.trans hdest⟩

end CascadeTracer
