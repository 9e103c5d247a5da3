import ContraGate.TransactionSandbox

/-!
# Whether the sandbox isolates

`execute_in_sandbox` passes its text on as it is. A `COMMIT` in it ends the transaction that
`begin_sandbox` has opened, and with it the settings. As long as no such statement is executed,
`rollback_sandbox` leaves the staging database as it was.
-/

namespace TransactionSandbox

open Pg

variable {Query Rows Counters : Type} {pg : Postgres Query Rows Counters} {timeoutMs : Int}
  {sessionId : String} {rows : Rows} {counters : Counters}

/-- The settings that guard the sandbox. -/
def InForce (timeoutMs : Int) (g : Settings) : Prop :=
  g.current "app.sandbox_mode" = some "true" ∧
    g.current "statement_timeout" = some (toString timeoutMs ++ "ms")

/-- PostgreSQL reads the texts that the server sends of its own. -/
structure ReadsSetup (pg : Postgres Query Rows Counters) (timeoutMs : Int) (sessionId : String) :
    Prop where
  begin : pg.parse "BEGIN" = some [.begin]
  rollback : pg.parse "ROLLBACK" = some [.rollback false]
  timeout : pg.parse ("SET LOCAL statement_timeout = '" ++ toString timeoutMs ++ "ms'") =
    some [.set .transaction "statement_timeout" (some (toString timeoutMs ++ "ms"))]
  mode : pg.parse "SET LOCAL app.sandbox_mode = 'true'" =
    some [.set .transaction "app.sandbox_mode" (some "true")]
  session : pg.parse ("SET LOCAL app.sandbox_session_id = '" ++ sessionId ++ "'") =
    some [.set .transaction "app.sandbox_session_id" (some sessionId)]

/-- After `rollback_sandbox` the staging database is as before, and every statement that was
executed in between was guarded as long as it ran. -/
def Isolated (pg : Postgres Query Rows Counters) (timeoutMs : Int) (rows : Rows)
    (counters : Counters) (final : Sandbox Query Rows Counters) : Prop :=
  (∃ closed, (rollbackSandbox pg final).2 = some closed ∧ closed.session.stored = rows ∧
    closed.session.counters = counters) ∧
    ∀ e ∈ final.ran, ∀ g ∈ e.2.inForce pg e.1, InForce timeoutMs g

/-! ## Inside the sandbox -/

/-- The transaction of `begin_sandbox` is open, and everything has been guarded. -/
structure Inside (pg : Postgres Query Rows Counters) (timeoutMs : Int) (rows : Rows)
    (counters : Counters) (sandbox : Sandbox Query Rows Counters)
    (conn : Connection Rows Counters) : Prop where
  entry : sandbox.entry = some conn
  begun : conn.begun = true
  held : conn.session.Held (InForce timeoutMs) rows counters
  guarded : ∀ e ∈ sandbox.ran, ∀ g ∈ e.2.inForce pg e.1, InForce timeoutMs g

/-- Every statement that has been executed was harmless. -/
def AllHarmless (pg : Postgres Query Rows Counters) (timeoutMs : Int)
    (sandbox : Sandbox Query Rows Counters) : Prop :=
  ∀ e ∈ sandbox.ran, e.2.Harmless pg (InForce timeoutMs) e.1

/-- The session in the transaction of `begin_sandbox`. -/
def openSession (pg : Postgres Query Rows Counters) (rows : Rows) (counters : Counters)
    (g : Settings) : Session Rows Counters where
  rows := rows
  counters := counters
  settings := g
  block := some ((connect pg rows counters).newBlock true)

theorem message_begin (hbegin : pg.parse "BEGIN" = some [.begin]) :
    (connect pg rows counters).message pg "BEGIN" =
      { session := openSession pg rows counters ⟨pg.defaults, pg.defaults⟩
        ran := [(.begin, connect pg rows counters)], result := .ok none } :=
  Session.message_single hbegin rfl rfl

/-- A statement that changes nothing but the settings. -/
theorem execute_open {g g' : Settings} {text : String} {st : Statement Query}
    (hparse : pg.parse text = some [st])
    (hexecutes : ((connect pg rows counters).newBlock true).executes st = true)
    (hstep : (openSession pg rows counters g).step pg ((connect pg rows counters).newBlock true) st =
      (openSession pg rows counters g', .ok none)) :
    Connection.execute pg ⟨openSession pg rows counters g, true⟩ text =
      (⟨openSession pg rows counters g', true⟩, [(st, openSession pg rows counters g)],
        .ok none) := by
  have hsent := Session.message_single (s := openSession pg rows counters g) hparse hexecutes hstep
  simp only [Connection.execute, Connection.begin, if_true, hsent, List.nil_append]
  rfl

theorem executeAll_ok {conn next : Connection Rows Counters} {text : String}
    {texts : List String} {ran : List (Executed Query Rows Counters)} {reply : Option Reply}
    (h : conn.execute pg text = (next, ran, .ok reply)) :
    executeAll pg conn (text :: texts) = executeAll pg next texts := by
  rw [executeAll, h]

/-- `begin_sandbox` opens the transaction and guards it. -/
theorem beginSandbox_isOk (hreads : ReadsSetup pg timeoutMs sessionId) (rows : Rows)
    (counters : Counters) :
    ∃ g, InForce timeoutMs g ∧ beginSandbox pg timeoutMs sessionId (connect pg rows counters) =
      .ok ⟨openSession pg rows counters g, true⟩ := by
  have hfirst : Connection.execute pg ⟨connect pg rows counters, false⟩ "BEGIN" =
      (⟨openSession pg rows counters ⟨pg.defaults, pg.defaults⟩, true⟩,
        [(.begin, connect pg rows counters),
          (.begin, openSession pg rows counters ⟨pg.defaults, pg.defaults⟩)], .ok none) := by
    have hagain : (openSession pg rows counters ⟨pg.defaults, pg.defaults⟩).message pg "BEGIN" =
        _ := Session.message_single hreads.begin rfl rfl
    simp only [Connection.execute, Connection.begin, Bool.false_eq_true, if_false,
      message_begin hreads.begin]
    rw [hagain]
    rfl
  rw [beginSandbox, beginTexts, executeAll_ok hfirst,
    executeAll_ok (execute_open hreads.timeout rfl rfl),
    executeAll_ok (execute_open hreads.mode rfl rfl),
    executeAll_ok (execute_open hreads.session rfl rfl), executeAll]
  exact ⟨_, ⟨rfl, rfl⟩, rfl⟩

/-- The connection that it returns. -/
theorem beginSandbox_open (hreads : ReadsSetup pg timeoutMs sessionId)
    {conn : Connection Rows Counters}
    (h : beginSandbox pg timeoutMs sessionId (connect pg rows counters) = .ok conn) :
    ∃ g, InForce timeoutMs g ∧ conn = ⟨openSession pg rows counters g, true⟩ := by
  obtain ⟨g, hguards, hopened⟩ := beginSandbox_isOk hreads rows counters
  exact ⟨g, hguards, (Except.ok.inj (hopened.symm.trans h)).symm⟩

theorem beginSandbox_held (hreads : ReadsSetup pg timeoutMs sessionId)
    {conn : Connection Rows Counters}
    (h : beginSandbox pg timeoutMs sessionId (connect pg rows counters) = .ok conn) :
    conn.begun = true ∧ conn.session.Held (InForce timeoutMs) rows counters := by
  obtain ⟨g, hguards, rfl⟩ := beginSandbox_open hreads h
  exact ⟨rfl, {
    counters_eq := rfl
    keep := hguards
    block := ⟨_, rfl, rfl, rfl, List.forall_mem_nil _⟩ }⟩

/-! ## The calls -/

/-- Texts of harmless statements leave the sandbox as it is. -/
theorem execute_inside {sandbox : Sandbox Query Rows Counters} {conn : Connection Rows Counters}
    (h : Inside pg timeoutMs rows counters sandbox conn) {text : String}
    (hharmless : AllHarmless pg timeoutMs (sandbox.execute pg conn text).1) :
    Inside pg timeoutMs rows counters (sandbox.execute pg conn text).1
      (sandbox.execute pg conn text).2.1 := by
  have hran : (sandbox.execute pg conn text).1.ran =
      sandbox.ran ++ (conn.session.message pg text).ran := by
    simp [Sandbox.execute, Connection.execute, Connection.begin, h.begun]
  have hsession : (sandbox.execute pg conn text).2.1.session =
      (conn.session.message pg text).session := by
    simp [Sandbox.execute, Connection.execute, Connection.begin, h.begun]
  unfold AllHarmless at hharmless
  rw [hran] at hharmless
  have hsent : ∀ e ∈ (conn.session.message pg text).ran,
      e.2.Harmless pg (InForce timeoutMs) e.1 := fun e he =>
    hharmless e (List.mem_append_right _ he)
  obtain ⟨hheld, hguarded⟩ := Session.message_held h.held hsent
  refine ⟨rfl, rfl, hsession ▸ hheld, ?_⟩
  rw [hran]
  exact List.forall_mem_append.mpr ⟨h.guarded, hguarded⟩

/-- No call takes back what has been executed. -/
theorem execute_ran (sandbox : Sandbox Query Rows Counters) (conn : Connection Rows Counters)
    (text : String) : sandbox.ran ⊆ (sandbox.execute pg conn text).1.ran :=
  List.subset_append_left _ _

theorem countTables_ran (sandbox : Sandbox Query Rows Counters) (conn : Connection Rows Counters)
    (tables : List String) (counts : Py.Dict) :
    sandbox.ran ⊆ (countTables pg sandbox conn tables counts).1.ran := by
  induction tables generalizing sandbox conn counts with
  | nil => exact List.Subset.refl _
  | cons table tables ih => exact List.Subset.trans (execute_ran sandbox conn _) (ih _ _ _)

theorem countTables_inside {sandbox : Sandbox Query Rows Counters}
    {conn : Connection Rows Counters} (h : Inside pg timeoutMs rows counters sandbox conn)
    {tables : List String} {counts : Py.Dict}
    (hharmless : AllHarmless pg timeoutMs (countTables pg sandbox conn tables counts).1) :
    ∃ next, Inside pg timeoutMs rows counters (countTables pg sandbox conn tables counts).1 next := by
  induction tables generalizing sandbox conn counts with
  | nil => exact ⟨conn, h⟩
  | cons table tables ih =>
    unfold countTables at hharmless ⊢
    have hfirst : AllHarmless pg timeoutMs (sandbox.execute pg conn (countText table)).1 :=
      fun e he => hharmless e (countTables_ran _ _ _ _ he)
    exact ih (execute_inside h hfirst) hharmless

/-- The one call that is not a text is a list of texts. -/
theorem call_eq {sandbox : Sandbox Query Rows Counters} {conn : Connection Rows Counters}
    (h : sandbox.entry = some conn) (c : Call) : sandbox.call pg sessionId c =
      match c with
      | .execute sql => (sandbox.execute pg conn sql).1
      | .captureDiff tables => (countTables pg sandbox conn tables []).1
      | .getTriggerLog => (sandbox.execute pg conn (triggerLogText sessionId)).1 := by
  cases c with
  | execute sql =>
    simp only [Sandbox.call, executeInSandbox, h]
    split <;> rename_i heq <;> rw [heq]
  | captureDiff tables => simp only [Sandbox.call, captureDiff, h]
  | getTriggerLog =>
    simp only [Sandbox.call, getTriggerLog, h]
    split <;> rename_i heq <;> rw [heq]

theorem call_ran (sandbox : Sandbox Query Rows Counters) (c : Call) :
    sandbox.ran ⊆ (sandbox.call pg sessionId c).ran := by
  cases hentry : sandbox.entry with
  | none => cases c <;> simp [Sandbox.call, executeInSandbox, captureDiff, getTriggerLog, hentry]
  | some conn =>
    rw [call_eq hentry]
    cases c with
    | execute | getTriggerLog => exact execute_ran sandbox conn _
    | captureDiff => exact countTables_ran sandbox conn _ _

/-- A call of harmless statements, successful or not, stays inside. -/
theorem call_inside {sandbox : Sandbox Query Rows Counters} {conn : Connection Rows Counters}
    (h : Inside pg timeoutMs rows counters sandbox conn) (c : Call)
    (hharmless : AllHarmless pg timeoutMs (sandbox.call pg sessionId c)) :
    ∃ next, Inside pg timeoutMs rows counters (sandbox.call pg sessionId c) next := by
  rw [call_eq h.entry] at hharmless ⊢
  cases c with
  | execute | getTriggerLog => exact ⟨_, execute_inside h hharmless⟩
  | captureDiff => exact countTables_inside h hharmless

/-! ## Leaving the sandbox -/

/-- From inside, the rollback goes back to the rows of `begin_sandbox`. -/
theorem rollback_isolated {sandbox : Sandbox Query Rows Counters}
    {conn : Connection Rows Counters} (hrollback : pg.parse "ROLLBACK" = some [.rollback false])
    (h : Inside pg timeoutMs rows counters sandbox conn) :
    Isolated pg timeoutMs rows counters sandbox := by
  obtain ⟨b, hb, -, hstart, -⟩ := h.held.block
  have hsent : conn.session.message pg "ROLLBACK" =
      { session := conn.session.abort b, ran := [(.rollback false, conn.session)]
        result := .ok none } :=
    Session.message_single (t := conn.session.abort b) hrollback rfl (by rw [hb]; rfl)
  refine ⟨⟨(conn.rollback pg).close, ?_, ?_, ?_⟩, h.guarded⟩
  · rw [rollbackSandbox, h.entry]
    rfl
  · rw [Connection.rollback, if_pos h.begun, hsent]
    exact hstart
  · rw [Connection.rollback, if_pos h.begun, hsent]
    exact h.held.counters_eq

/-- **Sandbox isolation**: in every run in which no executed statement ends the transaction,
unsets a guard or moves a counter, the sandbox isolates. -/
theorem sandbox_isolated (hreads : ReadsSetup pg timeoutMs sessionId)
    {conn : Connection Rows Counters}
    (hbegin : beginSandbox pg timeoutMs sessionId (connect pg rows counters) = .ok conn)
    {calls : List Call} {final : Sandbox Query Rows Counters}
    (hrun : (sandboxMachine pg sessionId).exec { entry := some conn, ran := [] } calls = some final)
    (hharmless : ∀ e ∈ final.ran, e.2.Harmless pg (InForce timeoutMs) e.1) :
    Isolated pg timeoutMs rows counters final := by
  obtain ⟨hbegun, hheld⟩ := beginSandbox_held hreads hbegin
  have hinv := (sandboxMachine pg sessionId).exec_invariant
    (I := fun sandbox => AllHarmless pg timeoutMs sandbox →
      ∃ next, Inside pg timeoutMs rows counters sandbox next)
    (G := fun _ _ => True) ?_ (fun _ => ⟨conn, rfl, hbegun, hheld, List.forall_mem_nil _⟩)
    (Machine.guarded_of_forall _ (fun _ _ => trivial) _ _) hrun
  · obtain ⟨next, hinside⟩ := hinv hharmless
    exact rollback_isolated hreads.rollback hinside
  · intro sandbox c after hinside _ hstep hafter
    obtain rfl := Option.some.inj hstep
    obtain ⟨next, hnext⟩ := hinside fun e he => hafter e (call_ran sandbox c he)
    exact call_inside hnext c hafter

/-! ## A text that gets out -/

/-- A server with one table, that knows two statements about it. -/
def samplePostgres : Postgres String (List String) Nat where
  parse text :=
    match text with
    | "BEGIN" => some [.begin]
    | "ROLLBACK" => some [.rollback false]
    | "SET LOCAL statement_timeout = '5000ms'" =>
      some [.set .transaction "statement_timeout" (some "5000ms")]
    | "SET LOCAL app.sandbox_mode = 'true'" =>
      some [.set .transaction "app.sandbox_mode" (some "true")]
    | "SET LOCAL app.sandbox_session_id = 's'" =>
      some [.set .transaction "app.sandbox_session_id" (some "s")]
    | "DELETE FROM t" => some [.query "DELETE FROM t"]
    | "COMMIT; DELETE FROM t" => some [.commit false, .query "DELETE FROM t"]
    | "SELECT COUNT(*) FROM \"contragate_staging\".\"t\"" => some [.query "count"]
    | _ => none
  defaults _ := none
  run q rows counters settings :=
    match q with
    | "DELETE FROM t" => (counters, .ok ([], settings, ⟨rows.length, []⟩))
    | "count" => (counters, .ok (rows, settings, ⟨1, [[("count", .int rows.length)]]⟩))
    | _ => (counters, .error "syntax error")
  during _ _ _ _ := []

theorem samplePostgres_reads : ReadsSetup samplePostgres 5000 "s" :=
  ⟨rfl, rfl, rfl, rfl, rfl⟩

/-- The connection that `begin_sandbox` returns there. -/
def sampleConnection : Connection (List String) Nat :=
  { session := openSession samplePostgres ["a", "b"] 0
      (((⟨fun _ => none, fun _ => none⟩ : Settings).set .transaction "statement_timeout"
        (some "5000ms")).set .transaction "app.sandbox_mode" (some "true") |>.set .transaction
          "app.sandbox_session_id" (some "s"))
    begun := true }

theorem sampleConnection_begun :
    beginSandbox samplePostgres 5000 "s" (connect samplePostgres ["a", "b"] 0) =
      .ok sampleConnection := by
  rfl

/-- After the `COMMIT` the `DELETE` runs on its own, unguarded, and stays. -/
theorem commit_escapes : ∃ conn final,
    beginSandbox samplePostgres 5000 "s" (connect samplePostgres ["a", "b"] 0) = .ok conn ∧
    (sandboxMachine samplePostgres "s").exec { entry := some conn, ran := [] }
        [.execute "COMMIT; DELETE FROM t"] = some final ∧
      ¬ Isolated samplePostgres 5000 ["a", "b"] 0 final := by
  refine ⟨_, _, sampleConnection_begun, rfl, fun h => ?_⟩
  obtain ⟨⟨closed, hclosed, hstored, -⟩, -⟩ := h
  obtain rfl := Option.some.inj hclosed
  cases hstored

theorem sandbox_isolated_delete : ∃ final,
    (sandboxMachine samplePostgres "s").exec { entry := some sampleConnection, ran := [] }
        [.captureDiff ["t"], .execute "DELETE FROM t", .captureDiff ["t"]] = some final ∧
      Isolated samplePostgres 5000 ["a", "b"] 0 final := by
  have hrun : (sandboxMachine samplePostgres "s").exec { entry := some sampleConnection, ran := [] }
      [.captureDiff ["t"], .execute "DELETE FROM t", .captureDiff ["t"]] = some _ := rfl
  refine ⟨_, hrun, sandbox_isolated samplePostgres_reads sampleConnection_begun hrun ?_⟩
  intro e he
  change e ∈ [_, _, _] at he
  rcases List.mem_cons.mp he with rfl | he
  · refine ⟨rfl, List.forall_mem_nil _, fun r hr => ?_⟩
    obtain rfl := Except.ok.inj hr
    exact ⟨rfl, rfl⟩
  rcases List.mem_cons.mp he with rfl | he
  · refine ⟨rfl, List.forall_mem_nil _, fun r hr => ?_⟩
    obtain rfl := Except.ok.inj hr
    exact ⟨rfl, rfl⟩
  · rw [List.mem_singleton.mp he]
    refine ⟨rfl, List.forall_mem_nil _, fun r hr => ?_⟩
    obtain rfl := Except.ok.inj hr
    exact ⟨rfl, rfl⟩

end TransactionSandbox
