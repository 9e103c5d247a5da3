import ContraGate.SandboxCounts
import ContraGate.SimulationData

/-!
# A table that cannot be counted

`capture_diff` counts each table in a `try` of its own and marks a failure with -1. But all counts
share the transaction of the session: the first that fails leaves it failed, so that every later
count fails as well, and the statement after them.
-/

namespace TransactionSandbox

open Pg

variable {Query Val Counters : Type} (pg : Postgres Query (Tables String ℕ Val) Counters)

/-- `SELECT COUNT(*)` counts the rows of the table. -/
def Readable (table : String) : Prop :=
  ∃ q column, pg.parse (countText table) = some [.query q] ∧
    ∀ rows counters settings, pg.run q rows counters settings =
      (counters, .ok (rows, settings, ⟨1, [[(column, .int (rows table).length)]]⟩))

/-- The table does not exist, or cannot be read: `SELECT COUNT(*)` is an error. -/
def Unreadable (table : String) : Prop :=
  ∃ q, pg.parse (countText table) = some [.query q] ∧
    ∀ rows counters settings, ∃ message, pg.run q rows counters settings = (counters, .error message)

/-- The next query is executed. -/
def Accepts (sessionId : String) (sandbox : Sandbox Query (Tables String ℕ Val) Counters) : Prop :=
  ∀ sql q, pg.parse sql = some [.query q] → ∃ session,
    (executeInSandbox pg sandbox sessionId sql).1.ran = sandbox.ran ++ [(.query q, session)]

/-- What the caller sees of a tool: its result, or an `MCPCallError`. -/
def Renders {α : Type} (result : Except ToolError α) (render : α → Py.Json) (reply : TargetReply) :
    Prop :=
  match result with
  | .ok value => reply = .result (render value)
  | .error _ => ∃ message, reply = .mcpCallError message

/-- Each call of a simulation reaches the server, and the caller sees what the tool returns or
raises at its turn. -/
structure Answers (sessionId : String) (contract : HandoffContract)
    (conn : Connection (Tables String ℕ Val) Counters) (tools : SandboxTools) : Prop where
  begin : tools "begin_sandbox" [("tenant_id", .str contract.tenantId)] =
    .result (.obj [("session_id", .str sessionId), ("transaction_open", .bool true)])
  pre : Renders
    (captureDiff pg (afterBegin conn) sessionId (SandboxClient.tablesToCount contract)).2
    (fun counts => .obj [("table_counts", .obj counts)])
    (tools "capture_diff" [("session_id", .str sessionId),
      ("tables", .arr ((SandboxClient.tablesToCount contract).map .str)), ("phase", .str "pre")])
  execute : Renders
    (executeInSandbox pg (afterPre pg sessionId contract conn) sessionId contract.rawSql).2
    (fun rowsAffected => .obj [("rows_affected", .int rowsAffected), ("status", .str "executed")])
    (tools "execute_in_sandbox" [("session_id", .str sessionId), ("sql", .str contract.rawSql)])
  post : Renders
    (captureDiff pg (afterExecute pg sessionId contract conn) sessionId
      (SandboxClient.tablesToCount contract)).2
    (fun counts => .obj [("table_counts", .obj counts)])
    (tools "capture_diff" [("session_id", .str sessionId),
      ("tables", .arr ((SandboxClient.tablesToCount contract).map .str)), ("phase", .str "post")])
  log : Renders (getTriggerLog pg (afterPost pg sessionId contract conn) sessionId).2
    (fun entries => .obj [("trigger_log", .arr (entries.map .obj))])
    (tools "get_trigger_log" [("session_id", .str sessionId)])

/-- The simulation reports what the statement does to the number of rows of each readable table. -/
structure ReportsReadable (contract : HandoffContract) (rows after : Tables String ℕ Val)
    (result : SimulationResult) : Prop where
  executed : result.executed = true
  primary : Readable pg contract.primaryTable → result.actualPrimaryRows =
    some (.int |((rows contract.primaryTable).length : ℤ) - (after contract.primaryTable).length|)
  cascade : ∀ e ∈ result.actualCascade, e.table ≠ "" → Readable pg e.table →
    e.actualRows = some |((rows e.table).length : ℤ) - (after e.table).length|

/-- The unreadable tables of a list are marked with -1 and the others are counted, the transaction
goes on, and a simulation that counts them reports the rows of the readable ones. -/
structure SparesReadable (sessionId : String) (conn : Connection (Tables String ℕ Val) Counters)
    (rows : Tables String ℕ Val) (tables : List String) : Prop where
  counts : ∃ counts, (captureDiff pg (afterBegin conn) sessionId tables).2 = .ok counts ∧
    ∀ table ∈ tables,
      (Unreadable pg table → counts.lookup table = some (.int (-1))) ∧
      (Readable pg table → counts.lookup table = some (.int (rows table).length))
  accepts : Accepts pg sessionId (captureDiff pg (afterBegin conn) sessionId tables).1
  simulates : ∀ contract changes tools, SandboxClient.tablesToCount contract = tables →
    contract.operationType ≠ .select → contract.primaryTable ≠ "" →
    Makes pg contract.rawSql conn.session changes → Answers pg sessionId contract conn tools →
    ∃ after, RowChange.machine.exec rows changes = some after ∧
      ReportsReadable pg contract rows after (SandboxClient.simulate tools contract)

variable {pg} {sessionId : String} {timeoutMs : ℤ} {contract : HandoffContract}
  {conn : Connection (Tables String ℕ Val) Counters} {rows : Tables String ℕ Val}
  {counters : Counters} {settings : Settings} {b : Block (Tables String ℕ Val)}
  {sandbox : Sandbox Query (Tables String ℕ Val) Counters} {table : String} {tables : List String}

/-! ## One query -/

theorem inBlock_block : (inBlock b rows counters settings).session.block = some b := rfl

/-- Within a block nothing is sent before the text. -/
theorem execute_eq_message (sandbox : Sandbox Query (Tables String ℕ Val) Counters)
    (text : String) :
    sandbox.execute pg (inBlock b rows counters settings) text =
      let sent := (inBlock b rows counters settings).session.message pg text
      ({ entry := some ⟨sent.session, true⟩, ran := sandbox.ran ++ sent.ran },
        ⟨sent.session, true⟩, sent.result) := by
  have hbegin : (inBlock b rows counters settings).begin pg =
      { session := (inBlock b rows counters settings).session, ran := [], result := .ok none } :=
    if_pos rfl
  unfold Sandbox.execute Connection.execute
  rw [hbegin]
  rfl

/-- A query in a block that has not failed is executed. -/
theorem ran_of_not_failed (hfailed : b.failed = false) {text : String} {q : Query}
    (hparse : pg.parse text = some [.query q]) :
    ((inBlock b rows counters settings).session.message pg text).ran =
      [(.query q, (inBlock b rows counters settings).session)] := by
  have hexecutes : b.executes (.query q) = true := by simp [hfailed]
  rcases hstep : (inBlock b rows counters settings).session.step pg b (.query q) with
    ⟨t, message | reply⟩
  · rw [Session.message_error inBlock_block hparse hexecutes hstep]
  · have hcurrent : ((inBlock b rows counters settings).session.block.getD
        ((inBlock b rows counters settings).session.newBlock false)).executes (.query q) = true :=
      hexecutes
    rw [Session.message_single hparse hcurrent hstep]

/-- An unreadable table leaves the block failed. -/
theorem execute_unreadable (hexplicit : b.explicit = true) (hfailed : b.failed = false)
    (hunreadable : Unreadable pg table)
    (sandbox : Sandbox Query (Tables String ℕ Val) Counters) :
    ∃ ran message, sandbox.execute pg (inBlock b rows counters settings) (countText table) =
      ({ entry := some (inBlock { b with failed := true } rows counters settings), ran := ran },
        inBlock { b with failed := true } rows counters settings, .error message) := by
  obtain ⟨q, hparse, hrun⟩ := hunreadable
  obtain ⟨message, herror⟩ := hrun rows counters settings
  have hexecutes : b.executes (.query q) = true := by simp [hfailed]
  have hstep : (inBlock b rows counters settings).session.step pg b (.query q) =
      ((inBlock b rows counters settings).session, .error message) := by
    simp only [Session.step, inBlock, herror]
    rfl
  have hfail : (inBlock b rows counters settings).session.fail b =
      (inBlock { b with failed := true } rows counters settings).session := if_pos hexplicit
  have hsent := Session.message_error inBlock_block hparse hexecutes hstep
  rw [hfail] at hsent
  refine ⟨sandbox.ran ++ [(.query q, (inBlock b rows counters settings).session)], message, ?_⟩
  rw [execute_eq_message, hsent]
  rfl

/-- In a failed block a query is refused, and the block stays failed. -/
theorem execute_failed (hexplicit : b.explicit = true) (hfailed : b.failed = true)
    {text : String} {q : Query} (hparse : pg.parse text = some [.query q])
    (sandbox : Sandbox Query (Tables String ℕ Val) Counters) :
    ∃ message, sandbox.execute pg (inBlock b rows counters settings) text =
      ({ entry := some (inBlock b rows counters settings), ran := sandbox.ran },
        inBlock b rows counters settings, .error message) := by
  have hrefuses : b.executes (.query q) = false := by simp [hfailed]
  have hsame : { b with failed := true } = b := by
    rw [← hfailed]
  have hfail : (inBlock b rows counters settings).session.fail b =
      (inBlock b rows counters settings).session := by
    unfold Session.fail
    rw [if_pos hexplicit, hsame]
    rfl
  have hsent : (inBlock b rows counters settings).session.message pg text = _ :=
    Session.message_refused inBlock_block hparse hrefuses
  refine ⟨"current transaction is aborted, commands ignored until end of block", ?_⟩
  rw [execute_eq_message, hsent]
  dsimp only
  rw [hfail, List.append_nil]
  rfl

/-! ## The loop of `capture_diff` -/

theorem Readable.query (h : Readable pg table) :
    ∃ q, pg.parse (countText table) = some [.query q] := by
  obtain ⟨q, -, hparse, -⟩ := h
  exact ⟨q, hparse⟩

theorem Unreadable.query (h : Unreadable pg table) :
    ∃ q, pg.parse (countText table) = some [.query q] := by
  obtain ⟨q, hparse, -⟩ := h
  exact ⟨q, hparse⟩

/-- In a failed block every count is -1. -/
theorem countTables_failed (hexplicit : b.explicit = true) (hfailed : b.failed = true)
    (hqueries : ∀ table ∈ tables, ∃ q, pg.parse (countText table) = some [.query q])
    (sandbox : Sandbox Query (Tables String ℕ Val) Counters) (counts : Py.Dict)
    (hentry : sandbox.entry = some (inBlock b rows counters settings)) :
    (countTables pg sandbox (inBlock b rows counters settings) tables counts).1.entry =
        some (inBlock b rows counters settings) ∧
      ∀ table, (countTables pg sandbox (inBlock b rows counters settings) tables counts).2.lookup
          table =
        if table ∈ tables then some (.int (-1)) else counts.lookup table := by
  refine countTables_unchanged (fun table htable sandbox => ?_) sandbox counts hentry
  obtain ⟨q, hparse⟩ := hqueries table htable
  obtain ⟨message, hexecute⟩ := execute_failed hexplicit hfailed hparse sandbox
  exact ⟨_, _, hexecute, rfl⟩

/-- The tables before the first unreadable one are counted; this one and all after it are not, and
the block is failed. -/
theorem countTables_spoiled (hexplicit : b.explicit = true) (hfailed : b.failed = false)
    {readable rest : List String} {bad : String} (hreadable : CountsRows pg readable)
    (hbad : Unreadable pg bad)
    (hrest : ∀ table ∈ rest, ∃ q, pg.parse (countText table) = some [.query q])
    (sandbox : Sandbox Query (Tables String ℕ Val) Counters) (counts : Py.Dict) :
    (countTables pg sandbox (inBlock b rows counters settings) (readable ++ bad :: rest)
        counts).1.entry = some (inBlock { b with failed := true } rows counters settings) ∧
      ∀ table, (countTables pg sandbox (inBlock b rows counters settings) (readable ++ bad :: rest)
          counts).2.lookup table =
        if table ∈ bad :: rest then some (.int (-1))
        else if table ∈ readable then some (.int (rows table).length) else counts.lookup table := by
  induction readable generalizing sandbox counts with
  | nil =>
    have hexecute : ∃ ran message,
        sandbox.execute pg (inBlock b rows counters settings) (countText bad) =
          ({ entry := some (inBlock { b with failed := true } rows counters settings), ran := ran },
            inBlock { b with failed := true } rows counters settings, .error message) :=
      execute_unreadable hexplicit hfailed hbad sandbox
    obtain ⟨ran, message, hexecute⟩ := hexecute
    obtain ⟨hafter, hlookup⟩ := countTables_failed (b := { b with failed := true }) hexplicit rfl
      hrest { entry := some (inBlock { b with failed := true } rows counters settings), ran := ran }
      (counts.set bad (.int (-1))) rfl
    rw [List.nil_append]
    unfold countTables
    rw [hexecute]
    refine ⟨hafter, fun t => (hlookup t).trans ?_⟩
    rw [if_neg List.not_mem_nil]
    exact counts.ite_lookup_set bad t fun _ => .int (-1)
  | cons table readable ih =>
    obtain ⟨q, column, hparse, hrun⟩ := hreadable table List.mem_cons_self
    obtain ⟨ran, hexecute⟩ :=
      execute_inBlock hexplicit hfailed hparse (hrun rows counters settings) sandbox
    obtain ⟨hafter, hlookup⟩ := ih (fun t ht => hreadable t (List.mem_cons_of_mem _ ht))
      { entry := some (inBlock b rows counters settings), ran := ran }
      (counts.set table (.int (rows table).length))
    rw [List.cons_append]
    unfold countTables
    rw [hexecute]
    refine ⟨hafter, fun t => (hlookup t).trans ?_⟩
    exact if_congr Iff.rfl rfl
      (counts.ite_lookup_set table t fun table => .int (rows table).length)

/-- No table is both. -/
theorem Unreadable.not_readable [Nonempty (Tables String ℕ Val × Counters × Settings)]
    (hbad : Unreadable pg table) : ¬ Readable pg table := by
  intro hreadable
  obtain ⟨q, hparse, herrors⟩ := hbad
  obtain ⟨q', column, hparse', hcounts⟩ := hreadable
  obtain rfl : q = q' := by simpa [hparse'] using hparse.symm
  obtain ⟨rows, counters, settings⟩ :=
    ‹Nonempty (Tables String ℕ Val × Counters × Settings)›
  obtain ⟨message, herror⟩ := herrors rows counters settings
  rw [hcounts] at herror
  cases herror

/-- The first unreadable table of a list. -/
theorem exists_first_unreadable (hknown : ∀ table ∈ tables, Readable pg table ∨ Unreadable pg table)
    (h : ¬ CountsRows pg tables) :
    ∃ readable bad rest, tables = readable ++ bad :: rest ∧ CountsRows pg readable ∧
      Unreadable pg bad := by
  induction tables with
  | nil => exact absurd (List.forall_mem_nil _) h
  | cons table tables ih =>
    rcases hknown table List.mem_cons_self with hreadable | hbad
    · have hlater : ¬ CountsRows pg tables := fun hall =>
        h (List.forall_mem_cons.mpr ⟨hreadable, hall⟩)
      obtain ⟨readable, bad, rest, rfl, hbefore, hbad⟩ :=
        ih (fun t ht => hknown t (List.mem_cons_of_mem _ ht)) hlater
      exact ⟨table :: readable, bad, rest, rfl, List.forall_mem_cons.mpr ⟨hreadable, hbefore⟩, hbad⟩
    · exact ⟨[], table, tables, rfl, List.forall_mem_nil _, hbad⟩

/-- An unreadable table anywhere in the list leaves the transaction failed. -/
theorem captureDiff_spoiled (sessionId : String) (hexplicit : b.explicit = true)
    (hfailed : b.failed = false)
    (hknown : ∀ table ∈ tables, Readable pg table ∨ Unreadable pg table)
    (hbad : ¬ CountsRows pg tables)
    (hentry : sandbox.entry = some (inBlock b rows counters settings)) :
    (captureDiff pg sandbox sessionId tables).1.entry =
      some (inBlock { b with failed := true } rows counters settings) := by
  obtain ⟨readable, bad, rest, rfl, hreadable, hfirst⟩ := exists_first_unreadable hknown hbad
  have hrest : ∀ table ∈ rest, ∃ q, pg.parse (countText table) = some [.query q] := by
    intro table htable
    rcases hknown table (by simp [htable]) with hreadable | hunreadable
    · exact hreadable.query
    · exact hunreadable.query
  unfold captureDiff
  rw [hentry]
  exact (countTables_spoiled hexplicit hfailed hreadable hfirst hrest sandbox []).1

/-! ## The transaction after the counts -/

/-- In a block that has not failed the next query is executed. -/
theorem accepts_of_not_failed (hfailed : b.failed = false)
    (hentry : sandbox.entry = some (inBlock b rows counters settings)) :
    Accepts pg sessionId sandbox := by
  intro sql q hparse
  refine ⟨(inBlock b rows counters settings).session, ?_⟩
  have hran : ((inBlock b rows counters settings).session.message pg sql).ran = _ :=
    ran_of_not_failed hfailed hparse
  unfold executeInSandbox
  rw [hentry]
  dsimp only
  rw [execute_eq_message, ← hran]
  dsimp only
  cases ((inBlock b rows counters settings).session.message pg sql).result with
  | error message => rfl
  | ok reply => rfl

/-- In a failed block it is refused. -/
theorem executeInSandbox_failed (hexplicit : b.explicit = true) (hfailed : b.failed = true)
    (hentry : sandbox.entry = some (inBlock b rows counters settings)) {sql : String} {q : Query}
    (hparse : pg.parse sql = some [.query q]) :
    (executeInSandbox pg sandbox sessionId sql).1.ran = sandbox.ran ∧
      ∃ message, (executeInSandbox pg sandbox sessionId sql).2 = .error (.database message) := by
  have hexecute : ∃ message, sandbox.execute pg (inBlock b rows counters settings) sql = _ :=
    execute_failed hexplicit hfailed hparse sandbox
  obtain ⟨message, hexecute⟩ := hexecute
  unfold executeInSandbox
  rw [hentry]
  dsimp only
  rw [hexecute]
  exact ⟨rfl, message, rfl⟩

theorem not_accepts_of_failed (hexplicit : b.explicit = true) (hfailed : b.failed = true)
    (hentry : sandbox.entry = some (inBlock b rows counters settings))
    (hbad : Unreadable pg table) : ¬ Accepts pg sessionId sandbox := by
  intro haccepts
  obtain ⟨q, hparse⟩ := hbad.query
  obtain ⟨session, hran⟩ := haccepts _ q hparse
  rw [(executeInSandbox_failed hexplicit hfailed hentry hparse).1] at hran
  simp at hran

/-! ## The replies of a simulation -/

/-- `capture_diff` itself does not raise in an open session. -/
theorem captureDiff_ok (hentry : sandbox.entry = some conn) (tables : List String) :
    ∃ counts, (captureDiff pg sandbox sessionId tables).2 = .ok counts := by
  unfold captureDiff
  rw [hentry]
  exact ⟨_, rfl⟩

theorem getTriggerLog_ok (hentry : sandbox.entry = some conn) :
    ∃ entries, (getTriggerLog pg sandbox sessionId).2 = .ok entries := by
  unfold getTriggerLog
  rw [hentry]
  dsimp only
  split
  · exact ⟨_, rfl⟩
  · exact ⟨_, rfl⟩

/-- The statement succeeds in a block that has not failed. -/
theorem executeInSandbox_ok (hexplicit : b.explicit = true) (hfailed : b.failed = false)
    (hentry : sandbox.entry = some (inBlock b rows counters settings)) {sql : String}
    {changes : List (StagingChange Val)}
    (hmakes : Makes pg sql (inBlock b rows counters settings).session changes) :
    ∃ rowsAffected, (executeInSandbox pg sandbox sessionId sql).2 = .ok rowsAffected := by
  obtain ⟨q, counters', rows', settings', reply, hparse, hrun, -⟩ := hmakes
  have hrun : pg.run q rows counters settings = (counters', .ok (rows', settings', reply)) := hrun
  obtain ⟨ran, hexecute⟩ := execute_inBlock hexplicit hfailed hparse hrun sandbox
  unfold executeInSandbox
  rw [hentry]
  dsimp only
  rw [hexecute]
  exact ⟨_, rfl⟩

/-- If all tables can be counted, all calls of the simulation succeed. -/
theorem Answers.serves {tools : SandboxTools} {changes : List (StagingChange Val)}
    (h : Answers pg sessionId contract (inBlock b rows counters settings) tools)
    (hexplicit : b.explicit = true) (hfailed : b.failed = false)
    (hcounts : CountsRows pg (SandboxClient.tablesToCount contract))
    (hmakes : Makes pg contract.rawSql (inBlock b rows counters settings).session changes) :
    Serves pg sessionId contract (inBlock b rows counters settings) tools := by
  have hbegun : (afterBegin (inBlock b rows counters settings) :
      Sandbox Query (Tables String ℕ Val) Counters).entry = some _ := rfl
  have hpreEntry := (captureDiff_inBlock sessionId hexplicit hfailed hcounts hbegun).1
  obtain ⟨rows', counters', settings', -, hexecuteEntry⟩ :=
    executeInSandbox_inBlock sessionId hexplicit hfailed hpreEntry hmakes
  have hpostEntry := (captureDiff_inBlock sessionId hexplicit hfailed hcounts hexecuteEntry).1
  have hpre : ∃ counts, (captureDiff pg (afterBegin (inBlock b rows counters settings)) sessionId
      (SandboxClient.tablesToCount contract)).2 = .ok counts := captureDiff_ok hbegun _
  have hexecute : ∃ rowsAffected, (executeInSandbox pg
      (afterPre pg sessionId contract (inBlock b rows counters settings)) sessionId
      contract.rawSql).2 = .ok rowsAffected :=
    executeInSandbox_ok hexplicit hfailed hpreEntry hmakes
  have hpost : ∃ counts, (captureDiff pg
      (afterExecute pg sessionId contract (inBlock b rows counters settings)) sessionId
      (SandboxClient.tablesToCount contract)).2 = .ok counts := captureDiff_ok hexecuteEntry _
  have hlog : ∃ entries, (getTriggerLog pg
      (afterPost pg sessionId contract (inBlock b rows counters settings)) sessionId).2 =
        .ok entries := getTriggerLog_ok hpostEntry
  obtain ⟨pre, hpre⟩ := hpre
  obtain ⟨rowsAffected, hexecute⟩ := hexecute
  obtain ⟨post, hpost⟩ := hpost
  obtain ⟨log, hlog⟩ := hlog
  have hpreReply := h.pre
  have hexecuteReply := h.execute
  have hpostReply := h.post
  have hlogReply := h.log
  rw [hpre] at hpreReply
  rw [hexecute] at hexecuteReply
  rw [hpost] at hpostReply
  rw [hlog] at hlogReply
  exact ⟨h.begin, ⟨pre, hpre, hpreReply⟩, ⟨rowsAffected, hexecute, hexecuteReply⟩,
    ⟨post, hpost, hpostReply⟩, ⟨log, hlog, hlogReply⟩⟩

end TransactionSandbox

namespace SandboxClient

open TransactionSandbox Pg

variable {Query Val Counters : Type}
  {pg : Postgres Query (Tables String ℕ Val) Counters} {timeoutMs : ℤ} {sessionId : String}
  {rows : Tables String ℕ Val} {counters : Counters} {contract : HandoffContract}
  {conn : Connection (Tables String ℕ Val) Counters} {tables : List String} {tools : SandboxTools}

/-- A simulation that counts an unreadable table does not get past its statement. -/
theorem simulate_unreadable (hreads : ReadsSetup pg timeoutMs sessionId)
    (hbegin : beginSandbox pg timeoutMs sessionId (connect pg rows counters) = .ok conn)
    (hknown : ∀ table ∈ tablesToCount contract, Readable pg table ∨ Unreadable pg table)
    (hbad : ¬ CountsRows pg (tablesToCount contract)) {q : Query}
    (hparse : pg.parse contract.rawSql = some [.query q])
    (hanswers : Answers pg sessionId contract conn tools) :
    (simulate tools contract).executed = false := by
  obtain ⟨settings, -, rfl⟩ := beginSandbox_open hreads hbegin
  have hbegun : (@afterBegin Query _ _ ⟨openSession pg rows counters settings, true⟩).entry =
      some (inBlock ((connect pg rows counters).newBlock true) rows counters settings) := rfl
  have hpreEntry := captureDiff_spoiled sessionId rfl rfl hknown hbad hbegun
  have hrefused : ∃ message, (TransactionSandbox.executeInSandbox pg (afterPre pg sessionId contract
      ⟨openSession pg rows counters settings, true⟩) sessionId contract.rawSql).2 =
        .error (.database message) := (executeInSandbox_failed rfl rfl hpreEntry hparse).2
  obtain ⟨_, hrefused⟩ := hrefused
  have hreply := hanswers.execute
  rw [hrefused] at hreply
  obtain ⟨message, hreply⟩ := hreply
  have hrun : ∀ result, runOnce tools contract ≠ .ok result := by
    intro result hresult
    obtain ⟨session, pre, post, ⟨⟨begun, entries, hbegun, hentries, rfl⟩, -⟩, hexecute, -⟩ :=
      runOnce_isOk_iff.mp ⟨result, hresult⟩
    -- the session is the one that `begin_sandbox` returned
    obtain rfl := TargetReply.result.inj (hanswers.begin.symm.trans hbegun)
    obtain rfl := Option.some.inj hentries
    obtain ⟨value, hvalue⟩ := hexecute
    have hvalue : tools "execute_in_sandbox" [("session_id", .str sessionId),
        ("sql", .str contract.rawSql)] = .result value := hvalue
    rw [hreply] at hvalue
    cases hvalue
  unfold simulate
  split_ifs
  · rfl
  · rfl
  · cases hresult : runOnce tools contract with
    | ok result => exact absurd hresult (hrun result)
    | error e => cases e <;> rfl

/-- `capture_diff` spares the readable tables if and only if none of the list is unreadable. -/
theorem sparesReadable_iff (hreads : ReadsSetup pg timeoutMs sessionId) (hsession : sessionId ≠ "")
    (hbegin : beginSandbox pg timeoutMs sessionId (connect pg rows counters) = .ok conn)
    (hknown : ∀ table ∈ tables, Readable pg table ∨ Unreadable pg table) :
    SparesReadable pg sessionId conn rows tables ↔ ¬ ∃ table ∈ tables, Unreadable pg table := by
  obtain ⟨settings, -, rfl⟩ := beginSandbox_open hreads hbegin
  have hbegun : (@afterBegin Query _ _ ⟨openSession pg rows counters settings, true⟩).entry =
      some (inBlock ((connect pg rows counters).newBlock true) rows counters settings) := rfl
  have hstates : Nonempty (Tables String ℕ Val × Counters × Settings) :=
    ⟨rows, counters, settings⟩
  constructor
  · intro hspares hbad
    obtain ⟨table, htable, hbad⟩ := hbad
    have hcounts : ¬ CountsRows pg tables := fun hcounts => hbad.not_readable (hcounts table htable)
    have hafter := captureDiff_spoiled sessionId rfl rfl hknown hcounts hbegun
    exact not_accepts_of_failed rfl rfl hafter hbad hspares.accepts
  · intro hnone
    have hcounts : CountsRows pg tables := by
      intro table htable
      exact (hknown table htable).resolve_right fun hbad => hnone ⟨table, htable, hbad⟩
    obtain ⟨hafter, hlookup⟩ := captureDiff_inBlock sessionId rfl rfl hcounts hbegun
    have hcaptured : ∃ counts, (TransactionSandbox.captureDiff pg (afterBegin
        ⟨openSession pg rows counters settings, true⟩) sessionId tables).2 = .ok counts :=
      captureDiff_ok hbegun tables
    obtain ⟨counts, hcaptured⟩ := hcaptured
    refine ⟨⟨counts, hcaptured, fun table htable => ⟨fun hbad => ?_, fun _ => ?_⟩⟩,
      accepts_of_not_failed rfl hafter, ?_⟩
    · exact absurd ⟨table, htable, hbad⟩ hnone
    · rw [hlookup counts hcaptured table, if_pos htable]
    · intro contract changes tools htables htype hprimary hmakes hanswers
      subst htables
      have hserves := hanswers.serves rfl rfl hcounts hmakes
      obtain ⟨after, log, hchanges, hresult⟩ :=
        simulate_eq hreads hsession hbegin hserves hcounts hmakes htype hprimary
      refine ⟨after, hchanges, ?_⟩
      rw [hresult]
      refine ⟨rfl, fun _ => rfl, fun e he hname _ => ?_⟩
      obtain ⟨entry, hentry, rfl⟩ := List.mem_map.mp he
      rw [measured_table] at hname ⊢
      have hmem : entry.table ∈ tablesToCount contract :=
        (mem_tablesToCount hprimary).mpr ⟨hname, .inr ⟨entry, hentry, rfl⟩⟩
      unfold measured
      rw [if_pos hmem]

/-! ## A table that staging does not have -/

/-- The sample server with a cascaded table that production has and staging has not. -/
def partialStaging : Postgres SampleQuery (Tables String ℕ Bool) Unit where
  parse text :=
    if text = "SELECT COUNT(*) FROM \"contragate_staging\".\"archive\"" then
      some [.query (.count "archive")]
    else sampleStaging.parse text
  defaults := sampleStaging.defaults
  run q rows counters settings :=
    match q with
    | .count "archive" =>
      (counters, .error "relation \"contragate_staging.archive\" does not exist")
    | _ => sampleStaging.run q rows counters settings
  during _ _ _ _ := []

theorem partialStaging_reads : ReadsSetup partialStaging 5000 "s" := ⟨rfl, rfl, rfl, rfl, rfl⟩

theorem partialStaging_begun :
    beginSandbox partialStaging 5000 "s" (connect partialStaging sampleRows ()) =
      .ok sampleStagingConnection := rfl

theorem users_readable : Readable partialStaging "users" :=
  ⟨.count "users", "count", rfl, fun _ _ _ => rfl⟩

theorem orders_readable : Readable partialStaging "orders" :=
  ⟨.count "orders", "count", rfl, fun _ _ _ => rfl⟩

/-- After the missing `archive` the two rows of `orders` are not counted either. -/
theorem archive_spoils_orders :
    beginSandbox partialStaging 5000 "s" (connect partialStaging sampleRows ()) =
        .ok sampleStagingConnection ∧
      ¬ SparesReadable partialStaging "s" sampleStagingConnection sampleRows
        ["users", "archive", "orders"] := by
  refine ⟨partialStaging_begun, fun hspares => ?_⟩
  obtain ⟨counts, hcaptured, hcounts⟩ := hspares.counts
  have hreturned : (TransactionSandbox.captureDiff partialStaging
      (afterBegin sampleStagingConnection) "s" ["users", "archive", "orders"]).2 =
        .ok [("users", .int 1), ("archive", .int (-1)), ("orders", .int (-1))] := rfl
  obtain rfl := Except.ok.inj (hreturned.symm.trans hcaptured)
  have horders : some (Py.Json.int (-1)) = some (.int (sampleRows "orders").length) :=
    (hcounts "orders" (by decide)).2 orders_readable
  have hcount : (-1 : ℤ) = (sampleRows "orders").length := Py.Json.int.inj (Option.some.inj horders)
  omega

theorem sparesReadable_iff_orders :
    SparesReadable partialStaging "s" sampleStagingConnection sampleRows ["users", "orders"] := by
  have hknown : ∀ table ∈ ["users", "orders"],
      Readable partialStaging table ∨ Unreadable partialStaging table := by
    intro table htable
    have hcases : table = "users" ∨ table = "orders" := by simpa using htable
    rcases hcases with rfl | rfl
    · exact .inl users_readable
    · exact .inl orders_readable
  have hstates : Nonempty (Tables String ℕ Bool × Unit × Settings) :=
    ⟨sampleRows, (), sampleStagingConnection.session.settings⟩
  refine (sparesReadable_iff partialStaging_reads (by decide) partialStaging_begun hknown).mpr ?_
  intro hbad
  obtain ⟨table, htable, hbad⟩ := hbad
  have hcases : table = "users" ∨ table = "orders" := by simpa using htable
  rcases hcases with rfl | rfl
  · exact hbad.not_readable users_readable
  · exact hbad.not_readable orders_readable

end SandboxClient
