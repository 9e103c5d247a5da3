import Mathlib.Algebra.BigOperators.Group.Finset.Basic
import Mathlib.Algebra.Order.BigOperators.Group.Finset
import ContraGate.SimulationData

/-!
# The row counts of section 1

Section 1 lists the cascaded tables with their rows and adds all rows up. The list is made of
`cascade`, whose entries are estimates, and the total of `actual_cascade`, in which every entry of
a table has the difference of the whole table. So a measured count is never shown in the list, and
is counted in the total once for each entry.
-/

/-! ## A sum over a list with repetitions -/

section

variable {α : Type} [DecidableEq α]

theorem sum_map_toFinset_le {f : α → ℤ} (hf : ∀ a, 0 ≤ f a) (l : List α) (a : α)
    (ha : a ∈ l.toFinset) : f a ≤ l.count a • f a := by
  have hcount : 1 ≤ l.count a := List.one_le_count_iff.mpr (List.mem_toFinset.mp ha)
  exact le_self_nsmul (hf a) (by omega)

/-- Each element counts once if and only if those that are repeated count nothing. -/
theorem sum_map_eq_sum_toFinset_iff {f : α → ℤ} (hf : ∀ a, 0 ≤ f a) (l : List α) :
    (l.map f).sum = ∑ a ∈ l.toFinset, f a ↔ ∀ a, 1 < l.count a → f a = 0 := by
  rw [Finset.sum_list_map_count, eq_comm,
    Finset.sum_eq_sum_iff_of_le (sum_map_toFinset_le hf l)]
  constructor
  · intro h a ha
    have hmem : a ∈ l.toFinset := List.mem_toFinset.mpr (List.one_le_count_iff.mp (by omega))
    have heq : (l.count a : ℤ) * f a = f a := by
      rw [← nsmul_eq_mul]
      exact (h a hmem).symm
    have hproduct : ((l.count a : ℤ) - 1) * f a = 0 := by linarith
    exact (mul_eq_zero.mp hproduct).resolve_left (by omega)
  · intro h a ha
    by_cases hrepeated : 1 < l.count a
    · rw [h a hrepeated, nsmul_zero]
    · have hmem := List.one_le_count_iff.mpr (List.mem_toFinset.mp ha)
      rw [show l.count a = 1 by omega, one_nsmul]

end

/-! ## What the simulation measured -/

namespace SandboxClient

variable {pre post : Py.Json} {c : HandoffContract}

/-- The sandbox has counted a table before and after the statement. -/
structure CountedTwice (pre post : Py.Json) (table : String) (x y : Py.Number) : Prop where
  before : ∃ value, CountIs pre table value ∧ value.num? = some x
  after : ∃ value, CountIs post table value ∧ value.num? = some y
  notNegative : NotNegative x ∧ NotNegative y

/-- `abs(x - y)` is zero. -/
def SameCount (x y : Py.Number) : Prop := (x.absDiff y).bind Py.Number.int? = some 0

@[simp] theorem sameCount_int {m n : ℤ} : SameCount (.int m) (.int n) ↔ m = n := by
  simp [SameCount, abs_eq_zero, sub_eq_zero]

/-- The number that a dictionary has for a table. -/
def numberOf (counts : Py.Json) (table : String) : Option Py.Number := do
  (← (← counts.dict?).lookup table).num?

/-- The rows that a table lost or gained, if the sandbox counted it both times. -/
def measuredRows (pre post : Py.Json) (table : String) : Option ℤ := do
  let x ← numberOf pre table
  let y ← numberOf post table
  if x.value.ge (.finite 0) && y.value.ge (.finite 0) then (x.absDiff y).bind Py.Number.int?
  else none

theorem numberOf_eq_some_iff {counts : Py.Json} {table : String} {x : Py.Number} :
    numberOf counts table = some x ↔ ∃ value, CountIs counts table value ∧ value.num? = some x := by
  have hdict {entries : Py.Dict} : counts.dict? = some entries ↔ counts = .obj entries := by
    cases counts <;> simp [Py.Json.dict?]
  simp only [numberOf, CountIs, Option.bind_eq_bind, Option.bind_eq_some_iff, hdict]
  grind

theorem measuredRows_eq_some_iff {table : String} {rows : ℤ} :
    measuredRows pre post table = some rows ↔
      ∃ x y, CountedTwice pre post table x y ∧ (x.absDiff y).bind Py.Number.int? = some rows := by
  unfold measuredRows
  rw [Option.bind_eq_bind, Option.bind_eq_some_iff]
  constructor
  · rintro ⟨x, hx, h⟩
    obtain ⟨y, hy, h⟩ := Option.bind_eq_some_iff.mp h
    rw [numberOf_eq_some_iff] at hx hy
    split at h
    · rename_i hsigns
      exact ⟨x, y, ⟨hx, hy, (Bool.and_eq_true _ _).mp hsigns⟩, h⟩
    · cases h
  · rintro ⟨x, y, ⟨hx, hy, hsigns⟩, h⟩
    refine ⟨x, numberOf_eq_some_iff.mpr hx,
      Option.bind_eq_some_iff.mpr ⟨y, numberOf_eq_some_iff.mpr hy, ?_⟩⟩
    rw [if_pos ((Bool.and_eq_true _ _).mpr hsigns)]
    exact h

/-- The counts of a table, if there are two, have a whole difference. -/
def WholeDifference (pre post : Py.Json) (table : String) : Prop :=
  ∀ x y, CountedTwice pre post table x y → ((x.absDiff y).bind Py.Number.int?).isSome = true

theorem measuredRows_eq_none_iff {table : String} (hwhole : WholeDifference pre post table) :
    measuredRows pre post table = none ↔ ∀ x y, ¬ CountedTwice pre post table x y := by
  rw [Option.eq_none_iff_forall_ne_some]
  simp only [ne_eq, measuredRows_eq_some_iff]
  constructor
  · intro h x y hcounted
    obtain ⟨rows, hrows⟩ := Option.isSome_iff_exists.mp (hwhole x y hcounted)
    exact h rows ⟨x, y, hcounted, hrows⟩
  · rintro h rows ⟨x, y, hcounted, -⟩
    exact h x y hcounted

/-- The rows of a table in the total. -/
def addedRows (pre post : Py.Json) (table : String) : ℤ := (measuredRows pre post table).getD 0

theorem addedRows_nonneg (table : String) : 0 ≤ addedRows pre post table := by
  unfold addedRows
  cases h : measuredRows pre post table with
  | none => exact le_refl 0
  | some rows =>
    obtain ⟨x, y, -, hrows⟩ := measuredRows_eq_some_iff.mp h
    exact Py.Number.absDiff_nonneg hrows

theorem CountedTwice.unique {table : String} {x y x' y' : Py.Number}
    (h : CountedTwice pre post table x y) (h' : CountedTwice pre post table x' y') :
    x = x' ∧ y = y' :=
  ⟨Option.some.inj ((numberOf_eq_some_iff.mpr h.before).symm.trans
      (numberOf_eq_some_iff.mpr h'.before)),
    Option.some.inj ((numberOf_eq_some_iff.mpr h.after).symm.trans
      (numberOf_eq_some_iff.mpr h'.after))⟩

/-- A table adds nothing if and only if its number of rows has not changed. -/
theorem addedRows_eq_zero_iff {table : String} (hwhole : WholeDifference pre post table) :
    addedRows pre post table = 0 ↔
      ∀ x y, CountedTwice pre post table x y → SameCount x y := by
  unfold addedRows
  constructor
  · intro h x y hcounted
    obtain ⟨rows, hrows⟩ := Option.isSome_iff_exists.mp (hwhole x y hcounted)
    rw [measuredRows_eq_some_iff.mpr ⟨x, y, hcounted, hrows⟩] at h
    exact hrows.trans (congrArg some h)
  · intro h
    cases hrows : measuredRows pre post table with
    | none => rfl
    | some rows =>
      obtain ⟨x, y, hcounted, hdifference⟩ := measuredRows_eq_some_iff.mp hrows
      exact Option.some.inj (hdifference.symm.trans (h x y hcounted))

/-- An entry of `actual_cascade`. -/
def withMeasured (pre post : Py.Json) (entry : CascadeEntry) : CascadeEntry :=
  match measuredRows pre post entry.table with
  | some rows => { entry with actualRows := some rows }
  | none => entry

/-- The condition of the measured entry is met by a table that is counted twice. -/
theorem counted_of_condition {table : String}
    (h : both (both (both (counted pre table) (counted post table))
      (countOf pre table >>= nonNegative)) (countOf post table >>= nonNegative) = .ok true) :
    ∃ x y, CountedTwice pre post table x y := by
  obtain ⟨h, hpost⟩ := both_eq_true.mp h
  obtain ⟨-, hpre⟩ := both_eq_true.mp h
  obtain ⟨before, hbefore, x, hx, hsign⟩ := countOf_nonNegative.2.mp hpre
  obtain ⟨after, hafter, y, hy, hsign'⟩ := countOf_nonNegative.2.mp hpost
  exact ⟨x, y, ⟨before, hbefore, hx⟩, ⟨after, hafter, hy⟩, hsign, hsign'⟩

theorem CountedTwice.condition {table : String} {x y : Py.Number}
    (h : CountedTwice pre post table x y) :
    both (both (both (counted pre table) (counted post table))
      (countOf pre table >>= nonNegative)) (countOf post table >>= nonNegative) = .ok true := by
  obtain ⟨⟨before, hbefore, hx⟩, ⟨after, hafter, hy⟩, hsign, hsign'⟩ := h
  have hlisted {counts value : Py.Json} (h : CountIs counts table value) :
      counted counts table = .ok true := by
    obtain ⟨entries, rfl, hlookup⟩ := h
    show Except.ok (entries.lookup table).isSome = _
    rw [hlookup]
    rfl
  exact both_eq_true.mpr ⟨both_eq_true.mpr ⟨both_eq_true.mpr ⟨hlisted hbefore, hlisted hafter⟩,
    countOf_nonNegative.2.mpr ⟨before, hbefore, x, hx, hsign⟩⟩,
    countOf_nonNegative.2.mpr ⟨after, hafter, y, hy, hsign'⟩⟩

theorem measuredEntry_eq_ok {entry entry' : CascadeEntry}
    (h : measuredEntry pre post entry = .ok entry') : entry' = withMeasured pre post entry := by
  obtain ⟨condition, hcondition, h⟩ := Fallible.bind_eq_ok.mp h
  unfold withMeasured
  cases condition with
  | true =>
    obtain ⟨x, y, hcounted⟩ := counted_of_condition hcondition
    obtain ⟨⟨before, hbefore, hx⟩, ⟨after, hafter, hy⟩, -⟩ := id hcounted
    rw [if_pos rfl, countOf_eq_ok.mpr hbefore, countOf_eq_ok.mpr hafter] at h
    obtain ⟨difference, hdifference, h⟩ := Fallible.bind_eq_ok.mp
      (show (change before after >>= fun rows => _) = _ from h)
    obtain ⟨rows, hrows, h⟩ := Fallible.bind_eq_ok.mp h
    rw [change_of_numbers hx hy] at hdifference
    have hmeasured : measuredRows pre post entry.table = some rows :=
      measuredRows_eq_some_iff.mpr ⟨x, y, hcounted, Option.bind_eq_some_iff.mpr
        ⟨difference, expect_eq_ok.mp hdifference, expect_eq_ok.mp hrows⟩⟩
    rw [hmeasured]
    exact (Except.ok.inj h).symm
  | false =>
    have hmeasured : measuredRows pre post entry.table = none := by
      rw [Option.eq_none_iff_forall_ne_some]
      intro rows hrows
      obtain ⟨x, y, hcounted, -⟩ := measuredRows_eq_some_iff.mp hrows
      cases hcondition.symm.trans hcounted.condition
    rw [hmeasured]
    exact (Except.ok.inj h).symm

/-- A difference that is not whole raises. -/
theorem wholeDifference_of_ok {entry entry' : CascadeEntry}
    (h : measuredEntry pre post entry = .ok entry') : WholeDifference pre post entry.table := by
  intro x y hcounted
  obtain ⟨⟨before, hbefore, hx⟩, ⟨after, hafter, hy⟩, hsign, hsign'⟩ := id hcounted
  obtain ⟨hfound, hcounts⟩ := found_iff.mpr (measuredEntry_isOk_iff.mp ⟨entry', h⟩)
  obtain ⟨htrue, -⟩ := both_eq_true.mp (both_eq_true.mp hcounted.condition).1
  obtain ⟨before', hbefore', x', hx', hsecond⟩ := hcounts htrue
  obtain rfl := hbefore.unique hbefore'
  obtain rfl := Option.some.inj (hx.symm.trans hx')
  obtain ⟨after', hafter', y', hy', hwhole⟩ := hsecond hsign
  obtain rfl := hafter.unique hafter'
  obtain rfl := Option.some.inj (hy.symm.trans hy')
  exact hwhole hsign'

/-- The actual cascade has the entries of the cascade, each with what was measured. -/
theorem buildResult_actualCascade {log : Py.Json} {result : SimulationResult}
    (h : buildResult c pre post log = .ok result) :
    result.actualCascade = c.cascade.map (withMeasured pre post) := by
  unfold buildResult at h
  split at h
  · simp only [Fallible.bind_eq_ok] at h
    obtain ⟨_, -, actualCascade, hcascade, h⟩ := h
    cases h
    exact Fallible.mapM_eq_ok (fun _ _ => measuredEntry_eq_ok) hcascade
  · simp only [Fallible.bind_eq_ok] at h
    obtain ⟨_, -, actualCascade, hcascade, h⟩ := h
    cases h
    exact Fallible.mapM_eq_ok (fun _ _ => measuredEntry_eq_ok) hcascade

end SandboxClient

/-! ## The section -/

namespace AnalyzerTools

/-- The entries of the analyzer are estimates. -/
theorem buildCascadeEntries_actualRows {cfg : AnalyzerConfig} {graph : Py.Json}
    {entries : List CascadeEntry} (h : buildCascadeEntries cfg graph = some entries) :
    ∀ entry ∈ entries, entry.actualRows = none := by
  obtain ⟨items, -, h⟩ := Option.bind_eq_some_iff.mp h
  intro entry hentry
  obtain ⟨item, -, hitem⟩ := Fallible.exists_of_mem_mapM h hentry
  simp only [cascadeEntry, Option.bind_eq_bind, Option.bind_eq_some_iff] at hitem
  obtain ⟨_, _, _, _, _, _, _, _, _, _, hread⟩ := hitem
  obtain rfl := Option.some.inj hread
  rfl

end AnalyzerTools

namespace ContractBuilder

open SandboxClient

variable {cfg : AnalyzerConfig} {pre post : Py.Json} {c : HandoffContract}
  {formats : ContractFormats} {summary : String} {section1 : WhatWillHappen}

/-- The cascade is the analyzer's, and the actual cascade what a simulation has made of it. -/
structure FromSimulation (cfg : AnalyzerConfig) (pre post : Py.Json) (c : HandoffContract) :
    Prop where
  cascade : ∃ graph, AnalyzerTools.buildCascadeEntries cfg graph = some c.cascade
  actualCascade : ∃ (before : HandoffContract) (log : Py.Json) (result : SimulationResult),
    before.cascade = c.cascade ∧ buildResult before pre post log = .ok result ∧
      c.actualCascade = result.actualCascade

/-- Each row of the list shows what was measured for its table. -/
def ShowsMeasured (pre post : Py.Json) (section1 : WhatWillHappen) : Prop :=
  ∀ row ∈ section1.cascadeImpact, row.actualRows = measuredRows pre post row.table

/-- The total has the rows of the primary table and those of each cascaded table once. -/
def AddsUp (pre post : Py.Json) (section1 : WhatWillHappen) : Prop :=
  section1.totalActualRows = section1.actualPrimaryRows.map fun primary =>
    primary + ∑ table ∈ (section1.cascadeImpact.map (·.table)).toFinset, addedRows pre post table

theorem FromSimulation.actualCascade_eq (h : FromSimulation cfg pre post c) :
    c.actualCascade = c.cascade.map (withMeasured pre post) := by
  obtain ⟨before, log, result, hcascade, hresult, hactual⟩ := h.actualCascade
  rw [hactual, buildResult_actualCascade hresult, hcascade]

theorem FromSimulation.wholeDifference (h : FromSimulation cfg pre post c) {entry : CascadeEntry}
    (hentry : entry ∈ c.cascade) : WholeDifference pre post entry.table := by
  obtain ⟨before, log, result, hcascade, hresult, -⟩ := h.actualCascade
  obtain ⟨-, hentries⟩ := (buildResult_isOk_iff log).mp ⟨result, hresult⟩
  obtain ⟨entry', hentry'⟩ := measuredEntry_isOk_iff.mpr (hentries entry (hcascade ▸ hentry))
  exact wholeDifference_of_ok hentry'

/-- The sum of the measured rows, entry by entry. -/
theorem sum_withMeasured {entries : List CascadeEntry}
    (h : ∀ entry ∈ entries, entry.actualRows = none) :
    ((entries.map (withMeasured pre post)).filterMap (·.actualRows)).sum =
      ((entries.map (·.table)).map (addedRows pre post)).sum := by
  induction entries with
  | nil => rfl
  | cons entry entries ih =>
    obtain ⟨hentry, hentries⟩ := List.forall_mem_cons.mp h
    have hrows : (withMeasured pre post entry).actualRows = measuredRows pre post entry.table := by
      unfold withMeasured
      cases hmeasured : measuredRows pre post entry.table with
      | none => exact hentry
      | some rows => rfl
    rw [List.map_cons, List.map_cons, List.map_cons, List.sum_cons, List.filterMap_cons, hrows,
      ← ih hentries, addedRows]
    cases measuredRows pre post entry.table with
    | none => simp
    | some rows => simp

theorem FromSimulation.totalActualRows_eq (h : FromSimulation cfg pre post c)
    (hprimary : ∀ x ∈ c.actualPrimaryRows, x.isInt = true)
    (hsection1 : buildSection1 formats c summary = some section1) :
    section1.totalActualRows = section1.actualPrimaryRows.map fun primary =>
      primary + ((c.cascade.map (·.table)).map (addedRows pre post)).sum := by
  obtain ⟨graph, hgraph⟩ := h.cascade
  rw [← sum_withMeasured (AnalyzerTools.buildCascadeEntries_actualRows hgraph),
    ← h.actualCascade_eq]
  exact (buildSection1_actual hprimary hsection1).2

/-- The list never shows a measured count. -/
theorem showsMeasured_iff (h : FromSimulation cfg pre post c)
    (hsection1 : buildSection1 formats c summary = some section1) :
    ShowsMeasured pre post section1 ↔
      ∀ entry ∈ c.cascade, ∀ x y, ¬ CountedTwice pre post entry.table x y := by
  obtain ⟨graph, hgraph⟩ := h.cascade
  have hnone := AnalyzerTools.buildCascadeEntries_actualRows hgraph
  unfold ShowsMeasured
  rw [buildSection1_cascadeImpact hsection1]
  simp only [List.forall_mem_map]
  refine forall_congr' fun entry => imp_congr_right fun hentry => ?_
  rw [← measuredRows_eq_none_iff (h.wholeDifference hentry), hnone entry hentry]
  exact eq_comm

/-- The total counts a table as often as it is cascaded to. -/
theorem addsUp_iff (h : FromSimulation cfg pre post c)
    (hprimary : ∀ x ∈ c.actualPrimaryRows, x.isInt = true)
    (hsection1 : buildSection1 formats c summary = some section1) :
    AddsUp pre post section1 ↔ c.actualPrimaryRows = none ∨
      ∀ table, 1 < (c.cascade.map (·.table)).count table →
        ∀ x y, CountedTwice pre post table x y → SameCount x y := by
  have htables : section1.cascadeImpact.map (·.table) = c.cascade.map (·.table) := by
    rw [buildSection1_cascadeImpact hsection1, List.map_map]
    rfl
  have hrepeated : (∀ table, 1 < (c.cascade.map (·.table)).count table →
        ∀ x y, CountedTwice pre post table x y → SameCount x y) ↔
      ∀ table, 1 < (c.cascade.map (·.table)).count table → addedRows pre post table = 0 := by
    refine forall_congr' fun table => imp_congr_right fun hcount => ?_
    obtain ⟨entry, hentry, rfl⟩ := List.mem_map.mp
      (List.count_pos_iff.mp (by omega : 0 < (c.cascade.map (·.table)).count table))
    exact (addedRows_eq_zero_iff (h.wholeDifference hentry)).symm
  unfold AddsUp
  rw [h.totalActualRows_eq hprimary hsection1, htables, hrepeated,
    ← sum_map_eq_sum_toFinset_iff addedRows_nonneg]
  have hshown := (buildSection1_actual hprimary hsection1).1
  cases hactual : c.actualPrimaryRows with
  | none =>
    rw [hactual] at hshown
    simp [hshown]
  | some primary =>
    rw [hactual] at hshown
    obtain ⟨rows, hrows⟩ := Py.Number.isInt_iff.mp (hprimary primary hactual)
    rw [hrows] at hshown
    simp [hshown]

/-- Section 1 shows what was measured, and adds it up, if and only if no cascaded table was
counted twice. The total alone is right if the tables that are repeated have not changed. -/
theorem section1_iff (h : FromSimulation cfg pre post c)
    (hprimary : ∀ x ∈ c.actualPrimaryRows, x.isInt = true)
    (hsection1 : buildSection1 formats c summary = some section1) :
    (ShowsMeasured pre post section1 ∧ AddsUp pre post section1 ↔
      ∀ entry ∈ c.cascade, ∀ x y, ¬ CountedTwice pre post entry.table x y) ∧
      (AddsUp pre post section1 ↔ c.actualPrimaryRows = none ∨
        ∀ table, 1 < (c.cascade.map (·.table)).count table →
          ∀ x y, CountedTwice pre post table x y → SameCount x y) := by
  refine ⟨?_, addsUp_iff h hprimary hsection1⟩
  rw [← showsMeasured_iff h hsection1, addsUp_iff h hprimary hsection1]
  refine ⟨And.left, fun hshows => ⟨hshows, .inr fun table hrepeated x y hcounted => ?_⟩⟩
  obtain ⟨entry, hentry, rfl⟩ :=
    List.mem_map.mp (List.count_pos_iff.mp (by omega : 0 < (c.cascade.map (·.table)).count table))
  exact absurd hcounted ((showsMeasured_iff h hsection1).mp hshows entry hentry x y)

/-- Two foreign keys of `order_items` refer to `orders`. -/
def twoKeysGraph : Py.Json :=
  .obj [("levels", .arr [
    .obj [("table_name", .str "order_items"), ("estimated_rows", .int 5), ("depth", .int 1)],
    .obj [("table_name", .str "order_items"), ("estimated_rows", .int 5), ("depth", .int 1)]])]

def orderItems (actualRows : Option ℤ) : CascadeEntry :=
  { table := "order_items", estimatedRows := 5, actualRows, cascadeAction := "CASCADE", depth := 1 }

/-- One order and four of its items were deleted in the simulation. -/
def twoKeysContract : HandoffContract where
  operationId := "cg_1"
  tenantId := "demo_tenant"
  submittedBy := "agent"
  sourceType := .externalAgent
  submissionTimestamp := 0
  rawSql := "DELETE FROM orders WHERE id = 7"
  operationType := .delete
  primaryTable := "orders"
  cascade := [orderItems none, orderItems none]
  simulationExecuted := true
  actualPrimaryRows := some (.int 1)
  actualCascade := [orderItems (some 4), orderItems (some 4)]

def countsBefore : Py.Json := .obj [("orders", .int 3), ("order_items", .int 10)]

def countsAfter : Py.Json := .obj [("orders", .int 2), ("order_items", .int 6)]

/-- Section 1 of that contract: the four items are not in the list, and eight rows in the total. -/
def twoKeysSection : WhatWillHappen :=
  (buildSection1 .plain twoKeysContract "").get rfl

theorem twoKeysContract_fromSimulation :
    FromSimulation .ascii countsBefore countsAfter twoKeysContract where
  cascade := ⟨twoKeysGraph, rfl⟩
  actualCascade := ⟨twoKeysContract, .arr [], _, rfl, rfl, rfl⟩

theorem twoKeysContract_isInt : ∀ x ∈ twoKeysContract.actualPrimaryRows, x.isInt = true := by
  rintro x ⟨⟩
  rfl

theorem section1_iff_twoKeys :
    (ShowsMeasured countsBefore countsAfter twoKeysSection ∧
        AddsUp countsBefore countsAfter twoKeysSection ↔
      ∀ entry ∈ twoKeysContract.cascade, ∀ x y,
        ¬ CountedTwice countsBefore countsAfter entry.table x y) ∧
      (AddsUp countsBefore countsAfter twoKeysSection ↔ twoKeysContract.actualPrimaryRows = none ∨
        ∀ table, 1 < (twoKeysContract.cascade.map (·.table)).count table →
          ∀ x y, CountedTwice countsBefore countsAfter table x y → SameCount x y) :=
  @section1_iff .ascii countsBefore countsAfter twoKeysContract .plain "" twoKeysSection
    twoKeysContract_fromSimulation twoKeysContract_isInt rfl

/-- The four items are not in the list, and eight rows in the total of nine. -/
theorem not_section1 :
    ¬ ∀ (cfg : AnalyzerConfig) (pre post : Py.Json) (c : HandoffContract)
        (formats : ContractFormats) (summary : String) (section1 : WhatWillHappen),
      FromSimulation cfg pre post c → (∀ x ∈ c.actualPrimaryRows, x.isInt = true) →
        buildSection1 formats c summary = some section1 →
          ShowsMeasured pre post section1 ∧ AddsUp pre post section1 := by
  intro h
  have hsection := h _ _ _ _ .plain "" twoKeysSection twoKeysContract_fromSimulation
    twoKeysContract_isInt rfl
  have htotal : twoKeysSection.totalActualRows = some 5 := hsection.2
  exact absurd htotal (by decide)

end ContractBuilder

/-! ## The contract after the simulation -/

namespace ContextSimAgent

open SandboxClient

variable {first second : SandboxTools} {c : HandoffContract}

/-- What is simulated is one attempt. -/
theorem runSimulationWithRetry_of_simulated (h : Simulated first second c) :
    ∃ tools, runOnce tools c = .ok (runSimulationWithRetry first second c) := by
  obtain ⟨htype, hprimary, hattempts⟩ := h
  unfold runSimulationWithRetry
  rw [simulate_eq_runOnce htype hprimary, simulate_eq_runOnce htype hprimary]
  rcases hattempts with hcompletes | ⟨htimeout, hcompletes⟩
  · obtain ⟨result, hresult⟩ := runOnce_isOk_iff.mpr hcompletes
    refine ⟨first, ?_⟩
    simp [hresult, (runOnce_executed hresult).2.1]
  · obtain ⟨result, hresult⟩ := runOnce_isOk_iff.mpr hcompletes
    refine ⟨second, ?_⟩
    simp [hresult, runOnce_eq_timeout_iff.mpr htimeout, (runOnce_executed hresult).2.1]

/-- A contract whose statement was simulated has a section 1 of this kind. -/
theorem run_fromSimulation {cfg : AnalyzerConfig} {graph : Py.Json} (memory : MemoryTools)
    (now : Time) (hcascade : AnalyzerTools.buildCascadeEntries cfg graph = some c.cascade)
    (h : Simulated first second c) :
    ∃ pre post, ContractBuilder.FromSimulation cfg pre post (run memory first second now c) := by
  obtain ⟨tools, hattempt⟩ := runSimulationWithRetry_of_simulated h
  obtain ⟨pre, post, log, hresult⟩ := runOnce_built hattempt
  have hactual : (run memory first second now c).actualCascade =
      (runSimulationWithRetry first second c).actualCascade := by
    unfold run SandboxClient.applyToContract
    simp only [(runSimulationWithRetry_spec first second c).1.mpr h, if_true]
    split_ifs <;> rfl
  have hkept := (run_simulation first second c memory now).2.2.2.1
  exact ⟨pre, post, ⟨graph, hcascade.trans (congrArg some hkept.symm)⟩,
    c, log, _, hkept.symm, hresult, hactual⟩

end ContextSimAgent
