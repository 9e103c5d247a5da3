import ContraGate.ExplainParser
import ContraGate.Library.Fallible
import ContraGate.Library.PyNumber

/-!
# The plan as `run_explain` returns it (`sql_analysis_lib/explain_parser.py`)

`parse_explain_json` turns the decoded output of `EXPLAIN (FORMAT JSON)` into an
`ExplainResult`. What `int` and `float` raise on a field leaves it unchanged.
-/

structure ExplainResult where
  estimatedRows : ℤ
  actualRows : Option ℤ
  totalCost : Py.Float
  startupCost : Py.Float
  scanType : Py.Json
  partitionsInvolved : ℕ
  sharedHitBlocks : Option ℤ
  sharedReadBlocks : Option ℤ
  executionTimeMs : Py.Json
  planningTimeMs : Py.Json

/-- A row that `cur.fetchone` returns; the columns of a dict-style row have names. -/
inductive ExplainRow
  | tuple (columns : List Py.Json)
  | dict (columns : Py.Dict)

namespace ExplainParser

/-- What `parse_explain_json` raises. -/
inductive ExplainJsonError
  /-- `received an empty list` -/
  | emptyList
  /-- `expected a dict plan element, got ..` -/
  | notDict (typeName : String)
  /-- `missing 'Plan' key in EXPLAIN output. Available keys: ..` -/
  | missingPlan (keys : List String)
  /-- `'Plan' must be a dict, got ..` -/
  | planNotDict (typeName : String)
  /-- A field of the plan cannot be read. -/
  | field (e : Py.Exc)

variable (texts : Py.NumberText)

/-- `len(plan_node.get("Plans", []))`. -/
def lenPlans (planNode : Py.Dict) : Except Py.Exc ℕ :=
  match planNode.getD "Plans" (.arr []) with
  | .arr items => .ok items.length
  | .obj entries => .ok entries.length
  | .str s => .ok s.length
  | _ => .error .typeError

mutual

/-- `_count_partitions`. -/
def countPartitions : Py.Json → Except Py.Exc ℕ
  | .obj entries =>
    if (Py.Dict.get entries "Node Type").str? = some "Append" then lenPlans entries
    else countPlans entries
  | _ => .error .attributeError

/-- The loop of `_count_partitions` over `plan_node.get("Plans", [])`. -/
def countPlans : List (String × Py.Json) → Except Py.Exc ℕ
  | [] => .ok 0
  | entry :: entries => if entry.1 = "Plans" then countEntry entry else countPlans entries

/-- The loop over the value of the entry. Its items are children; the items of a text or an
object are texts, which have no `get`. -/
def countEntry : String × Py.Json → Except Py.Exc ℕ
  | (_, .arr items) => countChildren items
  | (_, .str s) => if s = "" then .ok 0 else .error .attributeError
  | (_, .obj entries) => if entries.isEmpty then .ok 0 else .error .attributeError
  | _ => .error .typeError

/-- The loop over the children, up to the first with a partition. -/
def countChildren : List Py.Json → Except Py.Exc ℕ
  | [] => .ok 0
  | child :: children =>
    match countPartitions child with
    | .error e => .error e
    | .ok count => if 0 < count then .ok count else countChildren children

end

/-- `int(value) if value is not None else None`. -/
def optionalInt : Py.Json → Except Py.Exc (Option ℤ)
  | .null => .ok none
  | value => (value.toInt texts).map some

/-- `actual_rows`: the key may be missing, but its value may not be `None`. -/
def readActualRows (plan : Py.Dict) : Except Py.Exc (Option ℤ) :=
  match plan.lookup "Actual Rows" with
  | some value => (value.toInt texts).map some
  | none => .ok none

/-- The result for a plan, field after field. -/
def readFields (data plan : Py.Dict) : Except Py.Exc ExplainResult := do
  let actualRows ← readActualRows texts plan
  let estimatedRows ← (plan.getD "Plan Rows" (.int 0)).toInt texts
  let totalCost ← (plan.getD "Total Cost" (.float (.finite 0))).toFloat texts
  let startupCost ← (plan.getD "Startup Cost" (.float (.finite 0))).toFloat texts
  let partitionsInvolved ← countPartitions (.obj plan)
  let sharedHitBlocks ← optionalInt texts (plan.get "Shared Hit Blocks")
  let sharedReadBlocks ← optionalInt texts (plan.get "Shared Read Blocks")
  return { estimatedRows, actualRows, totalCost, startupCost
           scanType := plan.getD "Node Type" (.str "Unknown")
           partitionsInvolved, sharedHitBlocks, sharedReadBlocks
           executionTimeMs := data.get "Execution Time"
           planningTimeMs := data.get "Planning Time" }

/-- `parse_explain_json` once the plan element is found. -/
def parsePlanElement (data : Py.Json) : Except ExplainJsonError ExplainResult :=
  match data with
  | .obj entries =>
    match Py.Dict.get entries "Plan" with
    | .null => .error (.missingPlan (entries.map (·.1)))
    | .obj plan => (readFields texts entries plan).mapError .field
    | plan => .error (.planNotDict plan.typeName)
  | _ => .error (.notDict data.typeName)

/-- `parse_explain_json`. -/
def parseExplainJson : Py.Json → Except ExplainJsonError ExplainResult
  | .arr [] => .error .emptyList
  | .arr (data :: _) => parsePlanElement texts data
  | data => parsePlanElement texts data

/-- The column with the plan; `none` when there is no column. -/
def planColumn : ExplainRow → Option Py.Json
  | .tuple columns => columns.head?
  | .dict columns =>
    let named := ((columns.get "QUERY PLAN").or (columns.get "query_plan")).or
      (columns.get "query plan")
    if named.truthy then some named else columns.head?.map (·.2)

variable {texts}

/-- The numbers of a result are the ones in the plan. -/
theorem readFields_numbers {data plan : Py.Dict} {result : ExplainResult} {c : ℚ} {n : ℤ}
    (h : readFields texts data plan = .ok result)
    (hcost : plan.lookup "Total Cost" = some (.float (.finite c)))
    (hrows : plan.lookup "Plan Rows" = some (.int n)) :
    result.totalCost = .finite c ∧ result.estimatedRows = n := by
  have hc : (plan.getD "Total Cost" (.float (.finite 0))).toFloat texts = .ok (.finite c) := by
    simp [Py.Dict.getD, hcost, Py.Json.toFloat]
  have hn : (plan.getD "Plan Rows" (.int 0)).toInt texts = .ok n := by
    simp [Py.Dict.getD, hrows, Py.Json.toInt]
  unfold readFields at h
  rw [hc, hn] at h
  obtain ⟨actualRows, -, h⟩ := Fallible.bind_eq_ok.mp h
  obtain ⟨_, ⟨⟩, h⟩ := Fallible.bind_eq_ok.mp h
  obtain ⟨_, ⟨⟩, h⟩ := Fallible.bind_eq_ok.mp h
  obtain ⟨startupCost, -, h⟩ := Fallible.bind_eq_ok.mp h
  obtain ⟨partitionsInvolved, -, h⟩ := Fallible.bind_eq_ok.mp h
  obtain ⟨sharedHitBlocks, -, h⟩ := Fallible.bind_eq_ok.mp h
  obtain ⟨sharedReadBlocks, -, h⟩ := Fallible.bind_eq_ok.mp h
  cases h
  exact ⟨rfl, rfl⟩

end ExplainParser
