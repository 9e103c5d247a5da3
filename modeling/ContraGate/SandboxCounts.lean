import ContraGate.ContextSim
import ContraGate.SandboxIsolation
import ContraGate.Library.PyDict
import ContraGate.Library.RowChanges

/-!
# What the sandbox counts

A simulation counts the rows of the primary table and of the cascaded tables before and after
the statement, and reports the differences as the rows that the statement, or its cascade, has
deleted, updated or inserted. The staging database holds rows by an identity of their own, and a
statement makes a list of changes to them, each its own, a cascade's or a trigger's.
-/

/-- What makes a change of a row. -/
inductive Cause
  | statement | cascade | trigger
deriving DecidableEq

/-- A change of a row of the staging database. -/
abbrev StagingChange (Val : Type) := RowChange String ℕ Val Cause

namespace TransactionSandbox

open Pg

variable {Query Val Counters : Type} (pg : Postgres Query (Tables String ℕ Val) Counters)

/-! ## What a simulation relies on -/

/-- `SELECT COUNT(*)` counts the rows of a table. -/
def CountsRows (tables : List String) : Prop :=
  ∀ table ∈ tables, ∃ q column, pg.parse (countText table) = some [.query q] ∧
    ∀ rows counters settings, pg.run q rows counters settings =
      (counters, .ok (rows, settings, ⟨1, [[(column, .int (rows table).length)]]⟩))

/-- In a session the text is executed as one statement that makes these changes. -/
def Makes (sql : String) (session : Session (Tables String ℕ Val) Counters)
    (changes : List (StagingChange Val)) : Prop :=
  ∃ q counters rows settings reply, pg.parse sql = some [.query q] ∧
    pg.run q session.rows session.counters session.settings =
      (counters, .ok (rows, settings, reply)) ∧
    RowChange.machine.exec session.rows changes = some rows

/-! ## The replies of one simulation -/

section Replies

variable (sessionId : String) (contract : HandoffContract)
  (conn : Connection (Tables String ℕ Val) Counters)

/-- The sandbox after `begin_sandbox`. -/
def afterBegin : Sandbox Query (Tables String ℕ Val) Counters := { entry := some conn, ran := [] }

/-- After the first counts. -/
def afterPre : Sandbox Query (Tables String ℕ Val) Counters :=
  (captureDiff pg (afterBegin conn) sessionId (SandboxClient.tablesToCount contract)).1

/-- After the statement. -/
def afterExecute : Sandbox Query (Tables String ℕ Val) Counters :=
  (executeInSandbox pg (afterPre pg sessionId contract conn) sessionId contract.rawSql).1

/-- After the second counts. -/
def afterPost : Sandbox Query (Tables String ℕ Val) Counters :=
  (captureDiff pg (afterExecute pg sessionId contract conn) sessionId
    (SandboxClient.tablesToCount contract)).1

/-- The calls of a simulation succeed, and each returns what the server returns at its turn. -/
structure Serves (tools : SandboxTools) : Prop where
  begin : tools "begin_sandbox" [("tenant_id", .str contract.tenantId)] =
    .result (.obj [("session_id", .str sessionId), ("transaction_open", .bool true)])
  pre : ∃ counts,
    (captureDiff pg (afterBegin conn) sessionId (SandboxClient.tablesToCount contract)).2 =
      .ok counts ∧
    tools "capture_diff" [("session_id", .str sessionId),
      ("tables", .arr ((SandboxClient.tablesToCount contract).map .str)), ("phase", .str "pre")] =
      .result (.obj [("table_counts", .obj counts)])
  execute : ∃ rowsAffected,
    (executeInSandbox pg (afterPre pg sessionId contract conn) sessionId contract.rawSql).2 =
      .ok rowsAffected ∧
    tools "execute_in_sandbox" [("session_id", .str sessionId), ("sql", .str contract.rawSql)] =
      .result (.obj [("rows_affected", .int rowsAffected), ("status", .str "executed")])
  post : ∃ counts,
    (captureDiff pg (afterExecute pg sessionId contract conn) sessionId
      (SandboxClient.tablesToCount contract)).2 = .ok counts ∧
    tools "capture_diff" [("session_id", .str sessionId),
      ("tables", .arr ((SandboxClient.tablesToCount contract).map .str)), ("phase", .str "post")] =
      .result (.obj [("table_counts", .obj counts)])
  log : ∃ entries, (getTriggerLog pg (afterPost pg sessionId contract conn) sessionId).2 =
      .ok entries ∧
    tools "get_trigger_log" [("session_id", .str sessionId)] =
      .result (.obj [("trigger_log", .arr (entries.map .obj))])

end Replies

/-! ## The session of a simulation -/

variable {pg} {sessionId : String} {timeoutMs : Int} {contract : HandoffContract}
  {conn : Connection (Tables String ℕ Val) Counters} {rows : Tables String ℕ Val}
  {counters : Counters} {settings : Settings} {b : Block (Tables String ℕ Val)}

/-- A connection within an open transaction block. -/
def inBlock (b : Block (Tables String ℕ Val)) (rows : Tables String ℕ Val) (counters : Counters)
    (settings : Settings) : Connection (Tables String ℕ Val) Counters where
  session := { rows, counters, settings, block := some b }
  begun := true

/-- A query that succeeds within the block. -/
theorem execute_inBlock (hexplicit : b.explicit = true) (hfailed : b.failed = false)
    {text : String} {q : Query} {rows' : Tables String ℕ Val} {counters' : Counters}
    {settings' : Settings} {reply : Reply} (hparse : pg.parse text = some [.query q])
    (hrun : pg.run q rows counters settings = (counters', .ok (rows', settings', reply)))
    (sandbox : Sandbox Query (Tables String ℕ Val) Counters) :
    ∃ ran, sandbox.execute pg (inBlock b rows counters settings) text =
      ({ entry := some (inBlock b rows' counters' settings'), ran := ran },
        inBlock b rows' counters' settings', .ok (some reply)) := by
  have hstep : (inBlock b rows counters settings).session.step pg b (.query q) =
      ((inBlock b rows' counters' settings').session, .ok (some reply)) := by
    simp only [Session.step, inBlock, hrun]
    rfl
  have hsent := Session.message_single (s := (inBlock b rows counters settings).session) hparse
    (by simp [inBlock, hfailed]) hstep
  have hfinish : (inBlock b rows' counters' settings').session.finish =
      (inBlock b rows' counters' settings').session := by
    simp [Session.finish, inBlock, hexplicit]
  rw [hfinish] at hsent
  refine ⟨sandbox.ran ++ [(.query q, (inBlock b rows counters settings).session)], ?_⟩
  have hbegin : (inBlock b rows counters settings).begin pg =
      { session := (inBlock b rows counters settings).session, ran := [], result := .ok none } :=
    if_pos rfl
  unfold Sandbox.execute Connection.execute
  rw [hbegin]
  dsimp only
  rw [hsent]
  rfl

/-- When each query leaves the connection as it is, the loop of `capture_diff` does so too, and
takes each count from the table's own query. -/
theorem countTables_unchanged {tables : List String} {value : String → Py.Json}
    (hexecute : ∀ table ∈ tables, ∀ sandbox : Sandbox Query (Tables String ℕ Val) Counters,
      ∃ ran result, sandbox.execute pg conn (countText table) =
        ({ entry := some conn, ran := ran }, conn, result) ∧ countOf result = value table)
    (sandbox : Sandbox Query (Tables String ℕ Val) Counters) (counts : Py.Dict)
    (hentry : sandbox.entry = some conn) :
    (countTables pg sandbox conn tables counts).1.entry = some conn ∧
      ∀ table, (countTables pg sandbox conn tables counts).2.lookup table =
        if table ∈ tables then some (value table) else counts.lookup table := by
  induction tables generalizing sandbox counts with
  | nil => exact ⟨hentry, fun table => (if_neg List.not_mem_nil).symm⟩
  | cons table tables ih =>
    obtain ⟨ran, result, hfirst, hvalue⟩ := hexecute table List.mem_cons_self sandbox
    obtain ⟨hafter, hlookup⟩ := ih (fun t ht => hexecute t (List.mem_cons_of_mem _ ht))
      { entry := some conn, ran := ran } (counts.set table (countOf result)) rfl
    unfold countTables
    rw [hfirst]
    refine ⟨hafter, fun t => (hlookup t).trans ?_⟩
    rw [hvalue]
    exact counts.ite_lookup_set table t value

/-- Counting leaves the session as it is. -/
theorem countTables_inBlock (hexplicit : b.explicit = true) (hfailed : b.failed = false)
    {tables : List String} (hcounts : CountsRows pg tables)
    (sandbox : Sandbox Query (Tables String ℕ Val) Counters) (counts : Py.Dict)
    (hentry : sandbox.entry = some (inBlock b rows counters settings)) :
    (countTables pg sandbox (inBlock b rows counters settings) tables counts).1.entry =
        some (inBlock b rows counters settings) ∧
      ∀ table, (countTables pg sandbox (inBlock b rows counters settings) tables counts).2.lookup
          table =
        if table ∈ tables then some (.int (rows table).length) else counts.lookup table := by
  refine countTables_unchanged (fun table htable sandbox => ?_) sandbox counts hentry
  obtain ⟨q, column, hparse, hrun⟩ := hcounts table htable
  obtain ⟨ran, hexecute⟩ :=
    execute_inBlock hexplicit hfailed hparse (hrun rows counters settings) sandbox
  exact ⟨ran, _, hexecute, rfl⟩

/-- The counts of the rows that the session sees. -/
theorem captureDiff_inBlock (sessionId : String) (hexplicit : b.explicit = true)
    (hfailed : b.failed = false) {tables : List String} (hcounts : CountsRows pg tables)
    {sandbox : Sandbox Query (Tables String ℕ Val) Counters}
    (hentry : sandbox.entry = some (inBlock b rows counters settings)) :
    (captureDiff pg sandbox sessionId tables).1.entry =
        some (inBlock b rows counters settings) ∧
      ∀ counts, (captureDiff pg sandbox sessionId tables).2 = .ok counts →
        ∀ table, counts.lookup table =
          if table ∈ tables then some (.int (rows table).length) else none := by
  obtain ⟨hafter, hlookup⟩ := countTables_inBlock hexplicit hfailed hcounts sandbox [] hentry
  unfold captureDiff
  rw [hentry]
  refine ⟨hafter, fun counts hcaptured table => ?_⟩
  obtain rfl := Except.ok.inj hcaptured
  exact hlookup table

/-- The changes of the statement. -/
theorem executeInSandbox_inBlock (sessionId : String) (hexplicit : b.explicit = true)
    (hfailed : b.failed = false) {sandbox : Sandbox Query (Tables String ℕ Val) Counters}
    (hentry : sandbox.entry = some (inBlock b rows counters settings)) {sql : String}
    {changes : List (StagingChange Val)}
    (hmakes : Makes pg sql (inBlock b rows counters settings).session changes) :
    ∃ rows' counters' settings', RowChange.machine.exec rows changes = some rows' ∧
      (executeInSandbox pg sandbox sessionId sql).1.entry =
        some (inBlock b rows' counters' settings') := by
  obtain ⟨q, counters', rows', settings', reply, hparse, hrun, hchanges⟩ := hmakes
  have hrun : pg.run q rows counters settings = (counters', .ok (rows', settings', reply)) := hrun
  obtain ⟨ran, hexecute⟩ := execute_inBlock hexplicit hfailed hparse hrun sandbox
  refine ⟨rows', counters', settings', hchanges, ?_⟩
  unfold executeInSandbox
  rw [hentry]
  dsimp only
  rw [hexecute]

end TransactionSandbox

/-! ## The result of a simulation -/

namespace SandboxClient

open TransactionSandbox Pg

variable {tools : SandboxTools} {pre post : Py.Dict} {tables : List String}
  {before after : String → ℕ} {contract : HandoffContract}

/-- The counts of the tables, and of nothing else. -/
def Counts (counts : Py.Dict) (tables : List String) (rows : String → ℕ) : Prop :=
  ∀ table, counts.lookup table = if table ∈ tables then some (.int (rows table)) else none

/-- A number of rows is not negative. -/
theorem nonNegative_natCast (n : ℕ) : nonNegative (.int n) = .ok true := by
  have hle : (0 : ℚ) ≤ (n : ℤ) := by exact_mod_cast n.zero_le
  show Except.ok (!decide (((n : ℤ) : ℚ) < 0)) = .ok true
  rw [decide_eq_false (not_lt.mpr hle)]
  rfl

section Counts

variable (hpre : Counts pre tables before) (hpost : Counts post tables after) {table : String}

include hpre hpost

/-- A table that is counted is in both dictionaries. -/
theorem counts_of_mem (h : table ∈ tables) :
    counted (.obj pre) table = .ok true ∧ counted (.obj post) table = .ok true ∧
      countOf (.obj pre) table = .ok (.int (before table)) ∧
      countOf (.obj post) table = .ok (.int (after table)) := by
  have hpre := (hpre table).trans (if_pos h)
  have hpost := (hpost table).trans (if_pos h)
  refine ⟨?_, ?_, ?_, ?_⟩
  · show Except.ok (pre.lookup table).isSome = _
    rw [hpre]
    rfl
  · show Except.ok (post.lookup table).isSome = _
    rw [hpost]
    rfl
  · show expect (pre.lookup table) = _
    rw [hpre]
    rfl
  · show expect (post.lookup table) = _
    rw [hpost]
    rfl

theorem primaryDelta_of_mem (h : table ∈ tables) :
    primaryDelta (.obj pre) (.obj post) table =
      .ok (some (.int |(before table : ℤ) - after table|)) := by
  obtain ⟨hinPre, hinPost, hcountPre, hcountPost⟩ := counts_of_mem hpre hpost h
  simp only [primaryDelta, both, hinPre, hinPost, hcountPre, hcountPost, nonNegative_natCast, bind,
    Except.bind, if_true]
  rfl

end Counts

/-- An entry of `actual_cascade`. -/
def measured (tables : List String) (before after : String → ℕ) (entry : CascadeEntry) :
    CascadeEntry :=
  if entry.table ∈ tables then
    { entry with actualRows := some |(before entry.table : ℤ) - after entry.table| }
  else entry

theorem measured_table (tables : List String) (before after : String → ℕ) (entry : CascadeEntry) :
    (measured tables before after entry).table = entry.table := by
  unfold measured
  split_ifs <;> rfl

theorem measuredEntry_eq (hpre : Counts pre tables before) (hpost : Counts post tables after)
    (entry : CascadeEntry) :
    measuredEntry (.obj pre) (.obj post) entry = .ok (measured tables before after entry) := by
  unfold measured
  by_cases h : entry.table ∈ tables
  · obtain ⟨hinPre, hinPost, hcountPre, hcountPost⟩ := counts_of_mem hpre hpost h
    rw [if_pos h]
    simp only [measuredEntry, both, hinPre, hinPost, hcountPre, hcountPost, nonNegative_natCast,
      bind, Except.bind, if_true]
    rfl
  · have hinPre : counted (.obj pre) entry.table = .ok false := by
      show Except.ok (pre.lookup entry.table).isSome = _
      rw [hpre entry.table, if_neg h]
      rfl
    rw [if_neg h]
    simp only [measuredEntry, both, hinPre, bind, Except.bind, Bool.false_eq_true, if_false]

theorem buildResult_eq (contract : HandoffContract) (hpre : Counts pre tables before)
    (hpost : Counts post tables after) (htable : contract.primaryTable ≠ "")
    (hmem : contract.primaryTable ∈ tables) (log : Py.Json) :
    buildResult contract (.obj pre) (.obj post) log = .ok
      { executed := true
        actualPrimaryRows :=
          some (.int |(before contract.primaryTable : ℤ) - after contract.primaryTable|)
        actualCascade := contract.cascade.map (measured tables before after)
        triggerLog := log } := by
  have hentries : contract.cascade.mapM (measuredEntry (.obj pre) (.obj post)) =
      .ok (contract.cascade.map (measured tables before after)) := by
    rw [funext (measuredEntry_eq hpre hpost)]
    exact List.mapM_pure
  unfold buildResult
  rw [if_neg htable, primaryDelta_of_mem hpre hpost hmem, hentries]
  rfl

theorem captureDiff_of_result {session : Py.Json} {phase : String} {counts : Py.Dict}
    (h : tools "capture_diff"
      [("session_id", session), ("tables", .arr (tables.map .str)), ("phase", .str phase)] =
      .result (.obj [("table_counts", .obj counts)])) :
    captureDiff tools session tables phase = .ok (.obj counts) := by
  unfold captureDiff callTool
  rw [h]
  rfl

/-- The cascaded tables with a name are counted, and so is the primary table. -/
theorem mem_tablesToCount {table : String} (hprimary : contract.primaryTable ≠ "") :
    table ∈ tablesToCount contract ↔
      table ≠ "" ∧ (table = contract.primaryTable ∨ ∃ e ∈ contract.cascade, e.table = table) := by
  unfold tablesToCount
  rw [List.mem_eraseDups, List.mem_cons, List.mem_filter, List.mem_map]
  constructor
  · rintro (rfl | ⟨hentry, hname⟩)
    · exact ⟨hprimary, .inl rfl⟩
    · exact ⟨by simpa using hname, .inr hentry⟩
  · rintro ⟨hname, rfl | hentry⟩
    · exact .inl rfl
    · exact .inr ⟨hentry, by simpa using hname⟩

variable {Query Val Counters : Type}
  {pg : Postgres Query (Tables String ℕ Val) Counters} {timeoutMs : ℤ} {sessionId : String}
  {rows : Tables String ℕ Val} {counters : Counters}
  {conn : Connection (Tables String ℕ Val) Counters} {changes : List (StagingChange Val)}

/-- The result of a simulation whose calls succeed: the differences of the counts. -/
theorem simulate_eq (hreads : ReadsSetup pg timeoutMs sessionId) (hsession : sessionId ≠ "")
    (hbegin : beginSandbox pg timeoutMs sessionId (connect pg rows counters) = .ok conn)
    (hserves : Serves pg sessionId contract conn tools)
    (hcounts : CountsRows pg (tablesToCount contract))
    (hmakes : Makes pg contract.rawSql conn.session changes)
    (htype : contract.operationType ≠ .select) (hprimary : contract.primaryTable ≠ "") :
    ∃ after log, RowChange.machine.exec rows changes = some after ∧
      simulate tools contract =
        { executed := true
          actualPrimaryRows := some (.int
            |((rows contract.primaryTable).length : ℤ) - (after contract.primaryTable).length|)
          actualCascade := contract.cascade.map (measured (tablesToCount contract)
            (fun table => (rows table).length) fun table => (after table).length)
          triggerLog := log } := by
  obtain ⟨settings, -, rfl⟩ := beginSandbox_open hreads hbegin
  -- the block of `begin_sandbox` is open, and stays so
  have hentry : (@afterBegin Query _ _ ⟨openSession pg rows counters settings, true⟩).entry =
      some (inBlock ((connect pg rows counters).newBlock true) rows counters settings) := rfl
  obtain ⟨hpreEntry, hpreCounts⟩ := captureDiff_inBlock sessionId rfl rfl hcounts hentry
  obtain ⟨after, counters', settings', hchanges, hexecuteEntry⟩ :=
    executeInSandbox_inBlock sessionId rfl rfl hpreEntry hmakes
  obtain ⟨-, hpostCounts⟩ := captureDiff_inBlock sessionId rfl rfl hcounts hexecuteEntry
  obtain ⟨pre, hpre, hpreReply⟩ := hserves.pre
  obtain ⟨rowsAffected, -, hexecuteReply⟩ := hserves.execute
  obtain ⟨post, hpost, hpostReply⟩ := hserves.post
  obtain ⟨log, -, hlogReply⟩ := hserves.log
  have hmem : contract.primaryTable ∈ tablesToCount contract :=
    (mem_tablesToCount hprimary).mpr ⟨hprimary, .inl rfl⟩
  have hresult := buildResult_eq contract (hpreCounts pre hpre) (hpostCounts post hpost) hprimary
    hmem (.arr (log.map .obj))
  have hopened : callTool tools "begin_sandbox" [("tenant_id", .str contract.tenantId)] =
      .ok (.obj [("session_id", .str sessionId), ("transaction_open", .bool true)]) := by
    unfold callTool
    rw [hserves.begin]
  have hexecuted : executeInSandbox tools (.str sessionId) contract.rawSql = .ok () := by
    unfold executeInSandbox
    rw [hexecuteReply]
  have hlogged : callTool tools "get_trigger_log" [("session_id", .str sessionId)] =
      .ok (.obj [("trigger_log", .arr (log.map .obj))]) := by
    unfold callTool
    rw [hlogReply]
  have htruthy : (Py.Json.str sessionId).truthy = true := by
    simpa [Py.Json.truthy] using hsession
  have hrun : runOnce tools contract =
      buildResult contract (.obj pre) (.obj post) (.arr (log.map .obj)) := by
    have hpreCaptured := captureDiff_of_result hpreReply
    have hpostCaptured := captureDiff_of_result hpostReply
    have hget : Py.Dict.get [("session_id", .str sessionId), ("transaction_open", .bool true)]
        "session_id" = .str sessionId := rfl
    unfold runOnce
    rw [hopened]
    show (if (Py.Dict.get _ "session_id").truthy = true then _ else _) = _
    rw [hget, if_pos htruthy, hpreCaptured, hexecuted, hpostCaptured, hlogged]
    rfl
  refine ⟨after, .arr (log.map .obj), hchanges, ?_⟩
  unfold simulate
  rw [if_neg htype, if_neg hprimary, hrun, hresult]

/-! ## Honest counts -/

/-- The result reports the rows of the primary table that the statement inserts, deletes or
updates, and those of each cascaded table that the cascade does. -/
structure Honest (contract : HandoffContract) (changes : List (StagingChange Val))
    (result : SimulationResult) : Prop where
  executed : result.executed = true
  primary : result.actualPrimaryRows =
    some (.int (RowChange.touched .statement contract.primaryTable changes))
  cascade : ∀ e ∈ result.actualCascade, e.table ≠ "" →
    e.actualRows = some (RowChange.touched .cascade e.table changes : ℤ)

/-- The difference of the counts is the growth of the table. -/
theorem abs_length_sub {after : Tables String ℕ Val}
    (h : RowChange.machine.exec rows changes = some after) (table : String) :
    |((rows table).length : ℤ) - (after table).length| = |RowChange.net table changes| := by
  rw [RowChange.length_exec h table, ← abs_neg (RowChange.net table changes)]
  congr 1
  omega

/-- A simulation whose calls succeed is honest if and only if, in the primary table and in each
cascaded table, the other changes balance what the statement, or its cascade, does to the number
of rows. -/
theorem simulate_honest_iff (hreads : ReadsSetup pg timeoutMs sessionId)
    (hsession : sessionId ≠ "")
    (hbegin : beginSandbox pg timeoutMs sessionId (connect pg rows counters) = .ok conn)
    (hserves : Serves pg sessionId contract conn tools)
    (hcounts : CountsRows pg (tablesToCount contract))
    (hmakes : Makes pg contract.rawSql conn.session changes)
    (htype : contract.operationType ≠ .select) (hprimary : contract.primaryTable ≠ "") :
    Honest contract changes (simulate tools contract) ↔
      RowChange.Balanced .statement contract.primaryTable changes ∧
        ∀ e ∈ contract.cascade, e.table ≠ "" →
          RowChange.Balanced .cascade e.table changes := by
  obtain ⟨after, log, hchanges, hresult⟩ := simulate_eq hreads hsession hbegin hserves hcounts
    hmakes htype hprimary
  have hmeasured (e : CascadeEntry) (he : e ∈ contract.cascade) (hname : e.table ≠ "") :
      measured (tablesToCount contract) (fun table => (rows table).length)
          (fun table => (after table).length) e =
        { e with actualRows := some |RowChange.net e.table changes| } := by
    have hmem : e.table ∈ tablesToCount contract :=
      (mem_tablesToCount hprimary).mpr ⟨hname, .inr ⟨e, he, rfl⟩⟩
    unfold measured
    rw [if_pos hmem, abs_length_sub hchanges]
  rw [hresult]
  simp only [← RowChange.abs_net_eq_touched_iff]
  constructor
  · rintro ⟨-, hstatement, hcascade⟩
    refine ⟨?_, fun e he hname => ?_⟩
    · rw [← abs_length_sub hchanges]
      exact Py.Number.int.inj (Option.some.inj hstatement)
    · have hentry := hcascade _ (List.mem_map_of_mem he)
      rw [hmeasured e he hname] at hentry
      exact Option.some.inj (hentry hname)
  · rintro ⟨hstatement, hcascade⟩
    refine ⟨rfl, ?_, fun e he hname => ?_⟩
    · rw [← hstatement, ← abs_length_sub hchanges]
    · obtain ⟨entry, hentry, rfl⟩ := List.mem_map.mp he
      rw [measured_table] at hname ⊢
      rw [hmeasured entry hentry hname, ← hcascade entry hentry hname]

/-! ## A statement that only updates -/

/-- What the sample server executes. -/
inductive SampleQuery
  | count (table : String)
  | change (changes : List (StagingChange Bool))

/-- An update of the one user. -/
def updateOne : List (StagingChange Bool) := [⟨"users", .statement, .update 1 false⟩]

/-- Its deletion, with two orders. -/
def deleteOne : List (StagingChange Bool) :=
  [⟨"users", .statement, .delete 1⟩, ⟨"orders", .cascade, .delete 7⟩,
    ⟨"orders", .cascade, .delete 8⟩]

/-- A server with the tables `users` and `orders`, that knows two statements. -/
def sampleStaging : Postgres SampleQuery (Tables String ℕ Bool) Unit where
  parse text :=
    match text with
    | "BEGIN" => some [.begin]
    | "ROLLBACK" => some [.rollback false]
    | "SET LOCAL statement_timeout = '5000ms'" =>
      some [.set .transaction "statement_timeout" (some "5000ms")]
    | "SET LOCAL app.sandbox_mode = 'true'" =>
      some [.set .transaction "app.sandbox_mode" (some "true")]
    | "SET LOCAL app.sandbox_session_id = 's'" =>
      some [.set .transaction "app.sandbox_session_id" (some "s")]
    | "SELECT COUNT(*) FROM \"contragate_staging\".\"users\"" => some [.query (.count "users")]
    | "SELECT COUNT(*) FROM \"contragate_staging\".\"orders\"" => some [.query (.count "orders")]
    | "UPDATE users SET active = false" => some [.query (.change updateOne)]
    | "DELETE FROM users" => some [.query (.change deleteOne)]
    | _ => none
  defaults _ := none
  run q rows counters settings :=
    match q with
    | .count table => (counters, .ok (rows, settings, ⟨1, [[("count", .int (rows table).length)]]⟩))
    | .change changes =>
      match RowChange.machine.exec rows changes with
      | some rows' => (counters, .ok (rows', settings, ⟨1, []⟩))
      | none => (counters, .error "no such row")
  during _ _ _ _ := []

/-- One user with two orders. -/
def sampleRows : Tables String ℕ Bool := fun table =>
  if table = "users" then [(1, true)] else if table = "orders" then [(7, true), (8, true)] else []

/-- The replies of simulations there; without the trigger log's table its query fails. -/
def sampleTools (pre post : Py.Dict) : SandboxTools := fun tool arguments =>
  match tool with
  | "begin_sandbox" =>
    .result (.obj [("session_id", .str "s"), ("transaction_open", .bool true)])
  | "capture_diff" =>
    match Py.Dict.get arguments "phase" with
    | .str "pre" => .result (.obj [("table_counts", .obj pre)])
    | _ => .result (.obj [("table_counts", .obj post)])
  | "execute_in_sandbox" =>
    .result (.obj [("rows_affected", .int 1), ("status", .str "executed")])
  | _ => .result (.obj [("trigger_log", .arr [])])

/-- An update of the user. -/
def updateUsers : HandoffContract where
  operationId := "op-1"
  tenantId := "tenant"
  submittedBy := "agent"
  sourceType := .internalSystem
  submissionTimestamp := 0
  rawSql := "UPDATE users SET active = false"
  operationType := .update
  primaryTable := "users"

/-- A deletion of the user, and of the orders with it. -/
def deleteUsers : HandoffContract where
  operationId := "op-2"
  tenantId := "tenant"
  submittedBy := "agent"
  sourceType := .internalSystem
  submissionTimestamp := 0
  rawSql := "DELETE FROM users"
  operationType := .delete
  primaryTable := "users"
  cascade := [{ table := "orders", estimatedRows := 2, cascadeAction := "CASCADE", depth := 1 }]

/-- The connection that `begin_sandbox` returns there. -/
def sampleStagingConnection : Connection (Tables String ℕ Bool) Unit :=
  { session := openSession sampleStaging sampleRows ()
      (((⟨fun _ => none, fun _ => none⟩ : Settings).set .transaction "statement_timeout"
        (some "5000ms")).set .transaction "app.sandbox_mode" (some "true") |>.set .transaction
          "app.sandbox_session_id" (some "s"))
    begun := true }

theorem sampleStaging_reads : ReadsSetup sampleStaging 5000 "s" := ⟨rfl, rfl, rfl, rfl, rfl⟩

theorem sampleStagingConnection_begun :
    beginSandbox sampleStaging 5000 "s" (connect sampleStaging sampleRows ()) =
      .ok sampleStagingConnection := by
  rfl

/-- The updated user is reported as no row at all. -/
theorem update_not_honest :
    Serves sampleStaging "s" updateUsers sampleStagingConnection
        (sampleTools [("users", .int 1)] [("users", .int 1)]) ∧
      CountsRows sampleStaging (tablesToCount updateUsers) ∧
      Makes sampleStaging updateUsers.rawSql sampleStagingConnection.session updateOne ∧
      ¬ Honest updateUsers updateOne
        (simulate (sampleTools [("users", .int 1)] [("users", .int 1)]) updateUsers) := by
  refine ⟨⟨rfl, ⟨_, rfl, rfl⟩, ⟨_, rfl, rfl⟩, ⟨_, rfl, rfl⟩, ⟨_, rfl, rfl⟩⟩, ?_,
    ⟨_, _, _, _, _, rfl, rfl, rfl⟩, ?_⟩
  · intro table htable
    obtain rfl := List.mem_singleton.mp htable
    exact ⟨_, _, rfl, fun _ _ _ => rfl⟩
  · rintro ⟨-, hprimary, -⟩
    exact absurd hprimary (by decide)

/-- The deletion is reported with its cascade. -/
theorem simulate_honest_delete :
    Honest deleteUsers deleteOne
      (simulate (sampleTools [("users", .int 1), ("orders", .int 2)]
        [("users", .int 0), ("orders", .int 0)]) deleteUsers) := by
  have hcounts : CountsRows sampleStaging (tablesToCount deleteUsers) := by
    intro table htable
    have htables : tablesToCount deleteUsers = ["users", "orders"] := by decide
    rw [htables] at htable
    have hcases : table = "users" ∨ table = "orders" := by simpa using htable
    rcases hcases with rfl | rfl
    · exact ⟨_, _, rfl, fun _ _ _ => rfl⟩
    · exact ⟨_, _, rfl, fun _ _ _ => rfl⟩
  refine (simulate_honest_iff sampleStaging_reads (by decide) sampleStagingConnection_begun
    ⟨rfl, ⟨_, rfl, rfl⟩, ⟨_, rfl, rfl⟩, ⟨_, rfl, rfl⟩, ⟨_, rfl, rfl⟩⟩ hcounts
    ⟨_, _, _, _, _, rfl, rfl, rfl⟩ (by decide) (by decide)).mpr ⟨by decide, ?_⟩
  intro e he _
  obtain rfl := List.mem_singleton.mp he
  decide

end SandboxClient
