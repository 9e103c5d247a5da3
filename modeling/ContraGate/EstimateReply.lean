import ContraGate.CascadeCondition

/-!
# The row estimate on its way to the contract

`estimate_rows` computes an estimate, `estimate_row_count` returns it, the server encodes it and
`_count_affected_rows` reads it back. The age of statistics that were never collected is
`math.inf`, which has no JSON encoding: the call fails, and the agent takes its default of no rows
and no confidence instead of `reltuples` with a confidence of 0.4.
-/

namespace RowEstimator

variable {conn : TableStatistics} {table : String} {condition : Option String}

/-- Every estimate deserves some confidence. -/
theorem estimateRows_confidence_ne_zero :
    (estimateRows conn table condition).confidence ≠ .finite 0 := by
  show (computeConfidence (fetchStats conn table).2).1 ≠ .finite 0
  unfold computeConfidence
  split
  · simp
  · split_ifs <;> simp

/-- The server can encode an estimate when the age of the statistics is a finite number. -/
theorem encodable_estimateRows_iff :
    (estimateRows conn table condition).toJson.encodable = true ↔
      ∃ q, (fetchStats conn table).2 = some (.finite q) := by
  obtain ⟨p, hp⟩ := estimateRows_confidence conn table condition
  have hhours : (estimateRows conn table condition).statsAgeHours =
      (fetchStats conn table).2.getD (.inf false) := rfl
  have hencodable : (estimateRows conn table condition).toJson.encodable = true ↔
      ∃ q, (estimateRows conn table condition).statsAgeHours = .finite q := by
    cases hage : (estimateRows conn table condition).statsAgeHours <;>
      simp [RowEstimate.toJson, Py.Json.encodable, hp, hage]
  rw [hencodable, hhours]
  cases (fetchStats conn table).2 <;> simp

end RowEstimator

namespace ReaderTools

open AnalyzerAgent

/-- A postgres-reader that answers `estimate_row_count` as a healthy one does, and the other calls
in any way. -/
def withEstimates (db : ReaderDatabase) (other : PostgresTools) : PostgresTools :=
  fun tool arguments =>
    if tool = "estimate_row_count" then replyOf (estimateRowCount db arguments)
    else other tool arguments

/-- The contract has the rows and the confidence that `estimate_rows` computes for its table and
condition. -/
def CarriesEstimate (db : ReaderDatabase) (c : HandoffContract) : Prop :=
  let estimate := RowEstimator.estimateRows db.toTableStatistics c.primaryTable (orNone c.condition)
  c.estimatedPrimaryRows = .int estimate.estimatedRows ∧
    c.rowConfidence = .float estimate.confidence

variable {acfg : AnalyzerConfig} {cfg : ReaderConfig} {db : ReaderDatabase} {other : PostgresTools}
  {reply : LlmReply} {now : Time} {contract c : HandoffContract} {table condition : String}

/-- The rows are counted through `estimate_row_count` alone. -/
theorem countAffectedRows_withEstimates (cfg : ReaderConfig) :
    countAffectedRows (withEstimates db other) table condition =
      countAffectedRows (reader cfg db) table condition := rfl

/-- A reply that cannot be encoded leaves the default. -/
theorem countAffectedRows_of_infinite (htable : table ≠ "")
    (hage : ¬ ∃ q, (RowEstimator.fetchStats db.toTableStatistics table).2 = some (.finite q)) :
    countAffectedRows (withEstimates db other) table condition =
      some (.int 0, .float (.finite 0)) := by
  have hencodable : ¬ (RowEstimator.estimateRows db.toTableStatistics table
      (orNone condition)).toJson.encodable = true :=
    fun h => hage (RowEstimator.encodable_estimateRows_iff.mp h)
  rw [countAffectedRows_withEstimates plainReader]
  unfold countAffectedRows callTool
  rw [if_neg htable, reader_estimateRowCount, replyOf, if_neg hencodable]
  rfl

/-- Without a table the reader is not asked. -/
theorem countAffectedRows_unknown :
    countAffectedRows (withEstimates db other) "" condition =
      some (.int 0, .float (.finite 0)) := rfl

/-- What is counted is the estimate exactly when there is a table whose statistics have a finite
age. -/
theorem counted_iff {rows : Py.Number} {confidence : Py.Json}
    (h : countAffectedRows (withEstimates db other) table condition = some (rows, confidence)) :
    (rows = .int (RowEstimator.estimateRows db.toTableStatistics table
          (orNone condition)).estimatedRows ∧
        confidence = .float (RowEstimator.estimateRows db.toTableStatistics table
          (orNone condition)).confidence) ↔
      table ≠ "" ∧
        ∃ q, (RowEstimator.fetchStats db.toTableStatistics table).2 = some (.finite q) := by
  -- the default has no confidence, every estimate has some
  have hdefault (hzero : countAffectedRows (withEstimates db other) table condition =
      some (.int 0, .float (.finite 0))) :
      ¬ (rows = .int (RowEstimator.estimateRows db.toTableStatistics table
          (orNone condition)).estimatedRows ∧
        confidence = .float (RowEstimator.estimateRows db.toTableStatistics table
          (orNone condition)).confidence) := by
    rintro ⟨-, hconfidence⟩
    obtain ⟨rfl, rfl⟩ := Prod.mk.inj (Option.some.inj (h.symm.trans hzero))
    exact RowEstimator.estimateRows_confidence_ne_zero (Py.Json.float.inj hconfidence.symm)
  by_cases htable : table = ""
  · subst htable
    exact iff_of_false (hdefault countAffectedRows_unknown) fun h => h.1 rfl
  by_cases hage : ∃ q, (RowEstimator.fetchStats db.toTableStatistics table).2 = some (.finite q)
  · obtain ⟨q, hq⟩ := hage
    rw [countAffectedRows_withEstimates plainReader, countAffectedRows_of_analyzed htable hq] at h
    obtain ⟨rfl, rfl⟩ := Prod.mk.inj (Option.some.inj h)
    exact iff_of_true ⟨rfl, rfl⟩ ⟨htable, q, hq⟩
  · exact iff_of_false (hdefault (countAffectedRows_of_infinite htable hage)) fun h => hage h.2

/-- What the analysis writes of the count. -/
theorem counted_of_analyze (hskips : skips contract = false)
    (h : analyze acfg (withEstimates db other) reply now contract = some c) :
    c.primaryTable = (parsed acfg contract).primaryTable ∧
      c.condition = (parsed acfg contract).condition ∧
      countAffectedRows (withEstimates db other) c.primaryTable c.condition =
        some (c.estimatedPrimaryRows, c.rowConfidence) := by
  obtain ⟨facts, written, entry, hfacts, hwrite, rfl⟩ := facts_of_analyze hskips h
  clear h
  -- what is read off the statement is never evaluated here
  generalize parsed acfg contract = p at *
  obtain ⟨classified, hclassified, hwrite⟩ := Option.bind_eq_some_iff.mp hwrite
  obtain ⟨_, _, _, rfl⟩ := exists_of_writeReversibility _ hclassified
  obtain rfl := Option.some.inj hwrite
  exact ⟨rfl, rfl, hfacts.rows⟩

theorem withEstimates_reader (cfg : ReaderConfig) (db : ReaderDatabase) :
    withEstimates db (reader cfg db) = reader cfg db := by
  funext tool arguments
  unfold withEstimates
  split_ifs with htool
  · rw [htool]
    rfl
  · rfl

/-- **When the estimate reaches the contract.** After an analysis the rows and the confidence are
those of `estimate_rows` exactly when the table is known and its statistics have a finite age; an
analysis that is skipped leaves what was there. -/
theorem carriesEstimate_iff
    (h : analyze acfg (withEstimates db other) reply now contract = some c) :
    CarriesEstimate db c ↔
      (skips contract = true ∧ CarriesEstimate db contract) ∨
        (skips contract = false ∧ (parsed acfg contract).primaryTable ≠ "" ∧
          ∃ q, (RowEstimator.fetchStats db.toTableStatistics
            (parsed acfg contract).primaryTable).2 = some (.finite q)) := by
  cases hskips : skips contract with
  | true =>
    rw [analyze_of_skips hskips] at h
    obtain rfl := Option.some.inj h
    simp
  | false =>
    obtain ⟨htable, -, hcount⟩ := counted_of_analyze hskips h
    rw [← htable, ← counted_iff hcount]
    simp [CarriesEstimate]

/-- The estimate for a table with statistics of an hour ago arrives. -/
theorem carriesEstimate_users :
    ∃ c, analyze plainAnalyzer
        (withEstimates (usersAndOrders 1) (reader plainReader (usersAndOrders 1))) none 0
        deleteUser = some c ∧ CarriesEstimate (usersAndOrders 1) c := by
  obtain ⟨facts, c, -, hanalyze, -⟩ :=
    analyze_reader plainAnalyzer plainReader_keepsFinite (usersAndOrders 1) none 0 skips_deleteUser
  rw [← withEstimates_reader plainReader] at hanalyze
  have htable : (parsed plainAnalyzer deleteUser).primaryTable = "users" := by
    rw [parsed, parse_deleteUser]
    rfl
  refine ⟨c, hanalyze, (carriesEstimate_iff hanalyze).mpr (.inr ⟨skips_deleteUser, ?_⟩)⟩
  rw [htable]
  exact ⟨by decide, 1, rfl⟩

/-- The users table after a reset of the statistics: its size is known, its last `ANALYZE` is
not. -/
def neverAnalyzed : ReaderDatabase :=
  { usersAndOrders 1 with
    statsRow := fun table => if table = "users" then some ⟨1000, none⟩ else none }

/-- The planner expects one user, with a confidence of 0.4; the contract says none, with no
confidence. -/
theorem estimate_lost_never_analyzed :
    ∃ c, analyze plainAnalyzer (withEstimates neverAnalyzed (reader plainReader neverAnalyzed)) none
        0 deleteUser = some c ∧
      c.primaryTable = "users" ∧ c.condition = "id = 7" ∧
      RowEstimator.estimateRows neverAnalyzed.toTableStatistics "users" (some "id = 7") =
        ⟨"users", some "id = 7", 1, .finite (2 / 5), "explain", .inf false, true⟩ ∧
      c.estimatedPrimaryRows = .int 0 ∧ c.rowConfidence = .float (.finite 0) ∧
      ¬ CarriesEstimate neverAnalyzed c := by
  obtain ⟨facts, c, -, hanalyze, -⟩ :=
    analyze_reader plainAnalyzer plainReader_keepsFinite neverAnalyzed none 0 skips_deleteUser
  rw [← withEstimates_reader plainReader] at hanalyze
  obtain ⟨htable, hcondition, hcount⟩ := counted_of_analyze skips_deleteUser hanalyze
  have htable : c.primaryTable = "users" := by
    rw [htable, parsed, parse_deleteUser]
    rfl
  have hcondition : c.condition = "id = 7" := by
    rw [hcondition, parsed, parse_deleteUser]
    rfl
  rw [htable, hcondition] at hcount
  have hage : ¬ ∃ q, (RowEstimator.fetchStats neverAnalyzed.toTableStatistics "users").2 =
      some (.finite q) := by
    rintro ⟨q, hq⟩
    cases hq
  have hzero : countAffectedRows (withEstimates neverAnalyzed (reader plainReader neverAnalyzed))
      "users" "id = 7" = some (.int 0, .float (.finite 0)) :=
    countAffectedRows_of_infinite (by decide) hage
  obtain ⟨hrows, hconfidence⟩ := Prod.mk.inj (Option.some.inj (hcount.symm.trans hzero))
  refine ⟨c, hanalyze, htable, hcondition, rfl, hrows, hconfidence, ?_⟩
  rintro ⟨-, hcarried⟩
  rw [hconfidence] at hcarried
  exact RowEstimator.estimateRows_confidence_ne_zero (Py.Json.float.inj hcarried.symm)

end ReaderTools
