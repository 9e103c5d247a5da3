import ContraGate.ContextSim
import ContraGate.ContractAgent
import ContraGate.Library.Fallible

/-!
# Simulation data from an earlier round

The contract survives from round to round, and the agent writes the results of a simulation over
those of the last one only if an attempt of this round has run to its end. After a skipped or failed
simulation `simulation_executed` is false, and the counts of the last round are still there.
-/

namespace SandboxClient

variable (tools : SandboxTools) (c : HandoffContract)

/-! ## How the replies end an attempt -/

/-- `capture_diff` is answered with these counts, whatever they are. -/
def Counted (session : Py.Json) (phase : String) (counts : Py.Json) : Prop :=
  ∃ reply entries, tools "capture_diff" [("session_id", session),
      ("tables", .arr ((tablesToCount c).map .str)), ("phase", .str phase)] = .result reply ∧
    reply.dict? = some entries ∧ Py.Dict.getD entries "table_counts" (.obj []) = counts

/-- The sandbox opens a session and counts the tables before the statement. -/
def Opens (session pre : Py.Json) : Prop :=
  (∃ begun entries, tools "begin_sandbox" [("tenant_id", .str c.tenantId)] = .result begun ∧
    begun.dict? = some entries ∧ Py.Dict.get entries "session_id" = session) ∧
  session.truthy = true ∧ Counted tools c session "pre" pre

/-- A table can be looked for in the counts: they are a dictionary, a list or a text. -/
def Searchable : Py.Json → Prop
  | .obj _ | .arr _ | .str _ => True
  | _ => False

/-- The table is a key of the dictionary, an item of the list or a part of the text. -/
def Lists (counts : Py.Json) (table : String) : Prop := counted counts table = .ok true

/-- The table can be looked for in both counts, the second ones only after it was found in the
first; found in both, its counts are as they have to be. -/
def Found (pre post : Py.Json) (table : String) (counts : Prop) : Prop :=
  Searchable pre ∧ (Lists pre table → Searchable post ∧ (Lists post table → counts))

/-- The counts are a dictionary, with this value for the table. -/
def CountIs (counts : Py.Json) (table : String) (value : Py.Json) : Prop :=
  ∃ entries, counts = .obj entries ∧ entries.lookup table = some value

/-- `x >= 0`. -/
def NotNegative (x : Py.Number) : Prop := x.value.ge (.finite 0) = true

/-- The counts of the primary table: two dictionaries, with numbers as far as they are compared. -/
def PrimaryComparable (pre post : Py.Json) (table : String) : Prop :=
  Found pre post table (∃ before, CountIs pre table before ∧ ∃ after, CountIs post table after ∧
    ∃ x, before.num? = some x ∧ (NotNegative x → ∃ y, after.num? = some y ∧
      (NotNegative y → (x.absDiff y).isSome = true)))

/-- The counts of a cascaded table: the same, but the second is looked up only when the first is not
negative, and the difference has to be whole. -/
def EntryComparable (pre post : Py.Json) (table : String) : Prop :=
  Found pre post table (∃ before, CountIs pre table before ∧ ∃ x, before.num? = some x ∧
    (NotNegative x → ∃ after, CountIs post table after ∧ ∃ y, after.num? = some y ∧
      (NotNegative y → ((x.absDiff y).bind Py.Number.int?).isSome = true)))

/-- The counts have a result. -/
structure Comparable (pre post : Py.Json) : Prop where
  primary : c.primaryTable ≠ "" → PrimaryComparable pre post c.primaryTable
  cascade : ∀ entry ∈ c.cascade, EntryComparable pre post entry.table

/-- All calls of an attempt are answered, and the counts can be compared. -/
def Completes : Prop :=
  ∃ session pre post, Opens tools c session pre ∧
    (∃ reply, tools "execute_in_sandbox" [("session_id", session), ("sql", .str c.rawSql)] =
      .result reply) ∧
    Counted tools c session "post" post ∧
    (∃ reply, tools "get_trigger_log" [("session_id", session)] = .result reply ∧
      reply.dict?.isSome = true) ∧
    Comparable c pre post

/-- The statement runs into its timeout. -/
def TimesOut : Prop :=
  ∃ session pre message, Opens tools c session pre ∧
    tools "execute_in_sandbox" [("session_id", session), ("sql", .str c.rawSql)] =
      .mcpCallError message ∧ isTimeoutText message = true

variable {tools c}

/-! ## An attempt -/

theorem callTool_eq_ok {tool : String} {arguments : Py.Dict} {value : Py.Json} :
    callTool tools tool arguments = .ok value ↔ tools tool arguments = .result value := by
  unfold callTool
  cases tools tool arguments <;> simp

theorem expect_eq_ok {α : Type} {value : Option α} {v : α} :
    expect value = .ok v ↔ value = some v := by
  cases value <;> simp [expect]

theorem captureDiff_eq_ok {session counts : Py.Json} {phase : String} :
    captureDiff tools session (tablesToCount c) phase = .ok counts ↔
      Counted tools c session phase counts := by
  simp only [captureDiff, Counted, Fallible.bind_eq_ok, callTool_eq_ok, expect_eq_ok,
    Except.ok.injEq]
  grind

theorem executeInSandbox_eq_ok {session : Py.Json} {sql : String} :
    executeInSandbox tools session sql = .ok () ↔
      ∃ reply, tools "execute_in_sandbox" [("session_id", session), ("sql", .str sql)] =
        .result reply := by
  unfold executeInSandbox
  cases tools "execute_in_sandbox" [("session_id", session), ("sql", .str sql)] <;> simp

theorem executeInSandbox_eq_timeout {session : Py.Json} {sql : String} :
    executeInSandbox tools session sql = .error .timeout ↔
      ∃ message, tools "execute_in_sandbox" [("session_id", session), ("sql", .str sql)] =
        .mcpCallError message ∧ isTimeoutText message = true := by
  unfold executeInSandbox
  cases tools "execute_in_sandbox" [("session_id", session), ("sql", .str sql)] <;> simp

/-- The computation does not end with a timeout. -/
def NoTimeout {α : Type} (x : Except SimulationError α) : Prop := x ≠ .error .timeout

section NoTimeout

variable {α β : Type}

theorem NoTimeout.bind {x : Except SimulationError α} {f : α → Except SimulationError β}
    (hx : NoTimeout x) (hf : ∀ a, NoTimeout (f a)) : NoTimeout (x >>= f) := by
  cases x with
  | error e =>
    intro h
    exact hx (congrArg Except.error (Except.error.inj h))
  | ok a => exact hf a

theorem NoTimeout.ok_or_failed {x : Except SimulationError α} (h : NoTimeout x) :
    (∃ a, x = .ok a) ∨ x = .error .failed := by
  cases x with
  | ok a => exact .inl ⟨a, rfl⟩
  | error e =>
    cases e with
    | timeout => exact absurd rfl h
    | failed => exact .inr rfl

theorem noTimeout_ok (a : α) : NoTimeout (.ok a) := nofun

theorem noTimeout_expect (value : Option α) : NoTimeout (expect value) := by
  cases value <;> exact nofun

theorem noTimeout_mapM {f : α → Except SimulationError β} (hf : ∀ a, NoTimeout (f a))
    (l : List α) : NoTimeout (l.mapM f) := by
  induction l with
  | nil => exact noTimeout_ok []
  | cons a l ih =>
    rw [List.mapM_cons]
    exact (hf a).bind fun b => ih.bind fun bs => noTimeout_ok (b :: bs)

end NoTimeout

variable (tools) in
theorem noTimeout_callTool (tool : String) (arguments : Py.Dict) :
    NoTimeout (callTool tools tool arguments) := by
  unfold callTool
  cases tools tool arguments <;> exact nofun

variable (tools) in
theorem noTimeout_captureDiff (session : Py.Json) (tables : List String) (phase : String) :
    NoTimeout (captureDiff tools session tables phase) :=
  (noTimeout_callTool _ _ _).bind fun _ => (noTimeout_expect _).bind fun _ => noTimeout_ok _

theorem noTimeout_ite {α : Type} {b : Bool} {x y : Except SimulationError α} (hx : NoTimeout x)
    (hy : NoTimeout y) : NoTimeout (if b = true then x else y) := by
  split
  · exact hx
  · exact hy

theorem noTimeout_both {a b : Except SimulationError Bool} (ha : NoTimeout a) (hb : NoTimeout b) :
    NoTimeout (both a b) :=
  ha.bind fun _ => noTimeout_ite hb (noTimeout_ok _)

theorem noTimeout_counted (counts : Py.Json) (table : String) :
    NoTimeout (counted counts table) := by
  cases counts <;> exact nofun

theorem noTimeout_nonNegative (count : Py.Json) : NoTimeout (nonNegative count) :=
  (noTimeout_expect _).bind fun _ => noTimeout_ok _

theorem noTimeout_change (before after : Py.Json) : NoTimeout (change before after) :=
  (noTimeout_expect _).bind fun _ => (noTimeout_expect _).bind fun _ => noTimeout_expect _

theorem noTimeout_primaryDelta (pre post : Py.Json) (table : String) :
    NoTimeout (primaryDelta pre post table) :=
  (noTimeout_both (noTimeout_counted _ _) (noTimeout_counted _ _)).bind fun _ =>
    noTimeout_ite
      ((noTimeout_expect _).bind fun _ => (noTimeout_expect _).bind fun _ =>
        (noTimeout_both (noTimeout_nonNegative _) (noTimeout_nonNegative _)).bind fun _ =>
          noTimeout_ite ((noTimeout_change _ _).bind fun _ => noTimeout_ok _) (noTimeout_ok _))
      (noTimeout_ok _)

theorem noTimeout_measuredEntry (pre post : Py.Json) (entry : CascadeEntry) :
    NoTimeout (measuredEntry pre post entry) := by
  have hcount (counts : Py.Json) : NoTimeout (countOf counts entry.table >>= nonNegative) :=
    (noTimeout_expect _).bind noTimeout_nonNegative
  have hcondition := noTimeout_both (noTimeout_both (noTimeout_both
    (noTimeout_counted pre entry.table) (noTimeout_counted post entry.table)) (hcount pre))
    (hcount post)
  exact hcondition.bind fun _ =>
    noTimeout_ite
      ((noTimeout_expect _).bind fun _ => (noTimeout_expect _).bind fun _ =>
        (noTimeout_change _ _).bind fun _ => (noTimeout_expect _).bind fun _ => noTimeout_ok _)
      (noTimeout_ok _)

theorem noTimeout_buildResult (pre post log : Py.Json) :
    NoTimeout (buildResult c pre post log) := by
  have hcascade (rows : Option Py.Number) : NoTimeout (do
      let actualCascade ← c.cascade.mapM (measuredEntry pre post)
      .ok ({ executed := true, actualPrimaryRows := rows, actualCascade, triggerLog := log } :
        SimulationResult)) :=
    (noTimeout_mapM (noTimeout_measuredEntry pre post) _).bind fun _ => noTimeout_ok _
  unfold buildResult
  split
  · exact hcascade none
  · exact (noTimeout_primaryDelta _ _ _).bind hcascade

/-! ## Counts that can be compared -/

theorem counted_isOk_iff {counts : Py.Json} {table : String} :
    (∃ b, counted counts table = .ok b) ↔ Searchable counts := by
  cases counts <;> simp [counted, Searchable]

theorem both_isOk_iff {a b : Except SimulationError Bool} :
    (∃ r, both a b = .ok r) ↔ (∃ r, a = .ok r) ∧ (a = .ok true → ∃ r, b = .ok r) := by
  cases a with
  | error e => simp [both, bind, Except.bind]
  | ok r => cases r <;> simp [both, bind, Except.bind]

theorem both_eq_true {a b : Except SimulationError Bool} :
    both a b = .ok true ↔ a = .ok true ∧ b = .ok true := by
  cases a with
  | error e => simp [both, bind, Except.bind]
  | ok r => cases r <;> simp [both, bind, Except.bind]

/-- What is computed only under a condition. -/
theorem guarded_isOk_iff {α : Type} {condition : Except SimulationError Bool}
    {x : Except SimulationError α} {default : α} :
    (∃ r, (do if ← condition then x else .ok default) = .ok r) ↔
      (∃ b, condition = .ok b) ∧ (condition = .ok true → ∃ r, x = .ok r) := by
  cases condition with
  | error e => simp [bind, Except.bind]
  | ok b => cases b <;> simp [bind, Except.bind]

/-- Both counts are searched. -/
theorem found_iff {pre post : Py.Json} {table : String} {counts : Prop} :
    ((∃ r, both (counted pre table) (counted post table) = .ok r) ∧
      (both (counted pre table) (counted post table) = .ok true → counts)) ↔
        Found pre post table counts := by
  unfold Found Lists
  rw [both_isOk_iff, both_eq_true, counted_isOk_iff, counted_isOk_iff]
  tauto

theorem countOf_eq_ok {counts value : Py.Json} {table : String} :
    countOf counts table = .ok value ↔ CountIs counts table value := by
  unfold countOf CountIs
  rw [expect_eq_ok]
  cases counts <;> simp [Py.Json.dict?]

theorem CountIs.unique {counts value value' : Py.Json} {table : String}
    (h : CountIs counts table value) (h' : CountIs counts table value') : value = value' :=
  Except.ok.inj ((countOf_eq_ok.mpr h).symm.trans (countOf_eq_ok.mpr h'))

theorem nonNegative_isOk_iff {count : Py.Json} :
    (∃ b, nonNegative count = .ok b) ↔ ∃ x, count.num? = some x := by
  simp only [nonNegative, Fallible.bind_isOk_iff, expect_eq_ok, Except.ok.injEq, exists_eq',
    and_true]

theorem nonNegative_eq_true {count : Py.Json} :
    nonNegative count = .ok true ↔ ∃ x, count.num? = some x ∧ NotNegative x := by
  simp only [nonNegative, Fallible.bind_eq_ok, expect_eq_ok, Except.ok.injEq, NotNegative]

theorem change_of_numbers {before after : Py.Json} {x y : Py.Number} (hx : before.num? = some x)
    (hy : after.num? = some y) : change before after = expect (x.absDiff y) := by
  unfold change
  rw [hx, hy]
  rfl

theorem expect_isOk_iff {α : Type} {value : Option α} :
    (∃ v, expect value = .ok v) ↔ value.isSome = true := by
  simp only [expect_eq_ok, Option.isSome_iff_exists]

/-- The difference of two numbers. -/
theorem change_isOk_iff {α : Type} {before after : Py.Json} {x y : Py.Number}
    {f : Py.Number → α} (hx : before.num? = some x) (hy : after.num? = some y) :
    (∃ r, (do .ok (f (← change before after))) = .ok r) ↔ (x.absDiff y).isSome = true := by
  rw [change_of_numbers hx hy, ← expect_isOk_iff]
  simp only [Fallible.bind_isOk_iff, Except.ok.injEq, exists_eq', and_true]

theorem primaryDelta_isOk_iff {pre post : Py.Json} {table : String} :
    (∃ rows, primaryDelta pre post table = .ok rows) ↔ PrimaryComparable pre post table := by
  unfold primaryDelta PrimaryComparable
  rw [guarded_isOk_iff, ← found_iff]
  refine and_congr_right fun _ => imp_congr_right fun _ => ?_
  simp only [Fallible.bind_isOk_iff, countOf_eq_ok]
  refine exists_congr fun before => and_congr_right fun _ =>
    exists_congr fun after => and_congr_right fun _ => ?_
  rw [← Fallible.bind_isOk_iff, guarded_isOk_iff, both_isOk_iff, both_eq_true, nonNegative_isOk_iff,
    nonNegative_isOk_iff, nonNegative_eq_true, nonNegative_eq_true]
  constructor
  · rintro ⟨⟨⟨x, hx⟩, hsecond⟩, hchange⟩
    refine ⟨x, hx, fun hnonneg => ?_⟩
    obtain ⟨y, hy⟩ := hsecond ⟨x, hx, hnonneg⟩
    exact ⟨y, hy, fun hnonneg' =>
      (change_isOk_iff hx hy).mp (hchange ⟨⟨x, hx, hnonneg⟩, y, hy, hnonneg'⟩)⟩
  · rintro ⟨x, hx, hsecond⟩
    have hxs : ∀ x', before.num? = some x' → x' = x := fun x' hx' =>
      Option.some.inj (hx'.symm.trans hx)
    refine ⟨⟨⟨x, hx⟩, ?_⟩, ?_⟩
    · rintro ⟨x', hx', hnonneg⟩
      obtain rfl := hxs x' hx'
      obtain ⟨y, hy, -⟩ := hsecond hnonneg
      exact ⟨y, hy⟩
    · rintro ⟨⟨x', hx', hnonneg⟩, y', hy', hnonneg'⟩
      obtain rfl := hxs x' hx'
      obtain ⟨y, hy, hchange⟩ := hsecond hnonneg
      obtain rfl := Option.some.inj (hy'.symm.trans hy)
      exact (change_isOk_iff hx hy).mpr (hchange hnonneg')

/-- The count of a table, compared with zero. -/
theorem countOf_nonNegative {counts : Py.Json} {table : String} :
    ((∃ b, countOf counts table >>= nonNegative = .ok b) ↔
        ∃ value, CountIs counts table value ∧ ∃ x, value.num? = some x) ∧
      (countOf counts table >>= nonNegative = .ok true ↔
        ∃ value, CountIs counts table value ∧ ∃ x, value.num? = some x ∧ NotNegative x) := by
  constructor
  · simp only [Fallible.bind_isOk_iff, countOf_eq_ok, nonNegative_isOk_iff]
  · simp only [Fallible.bind_eq_ok, countOf_eq_ok, nonNegative_eq_true]

/-- The difference that `actual_rows` takes. -/
theorem wholeChange_isOk_iff {α : Type} {pre post before after : Py.Json} {table : String}
    {x y : Py.Number} {f : ℤ → α} (hbefore : CountIs pre table before)
    (hafter : CountIs post table after) (hx : before.num? = some x) (hy : after.num? = some y) :
    (∃ r, (do
      let rows ← change (← countOf pre table) (← countOf post table)
      .ok (f (← expect rows.int?))) = .ok r) ↔
        ((x.absDiff y).bind Py.Number.int?).isSome = true := by
  rw [countOf_eq_ok.mpr hbefore, countOf_eq_ok.mpr hafter]
  show (∃ r, (do
    let rows ← change before after
    .ok (f (← expect rows.int?))) = .ok r) ↔ _
  rw [change_of_numbers hx hy]
  cases x.absDiff y with
  | none => simp [expect, bind, Except.bind]
  | some d =>
    simp only [Fallible.bind_isOk_iff, expect_eq_ok, Except.ok.injEq, exists_eq', and_true,
      Option.some.injEq, exists_eq_left', Option.bind_some, Option.isSome_iff_exists]

theorem measuredEntry_isOk_iff {pre post : Py.Json} {entry : CascadeEntry} :
    (∃ measured, measuredEntry pre post entry = .ok measured) ↔
      EntryComparable pre post entry.table := by
  obtain ⟨hpreOk, hpreTrue⟩ := @countOf_nonNegative pre entry.table
  obtain ⟨hpostOk, hpostTrue⟩ := @countOf_nonNegative post entry.table
  unfold measuredEntry EntryComparable
  dsimp only
  rw [guarded_isOk_iff, ← found_iff]
  generalize both (counted pre entry.table) (counted post entry.table) = found
  rw [both_isOk_iff, both_isOk_iff, both_eq_true, both_eq_true, both_eq_true, hpreOk, hpreTrue,
    hpostOk, hpostTrue]
  constructor
  · rintro ⟨⟨⟨hfound, hfirst⟩, hsecond⟩, hchange⟩
    refine ⟨hfound, fun htrue => ?_⟩
    obtain ⟨before, hbefore, x, hx⟩ := hfirst htrue
    refine ⟨before, hbefore, x, hx, fun hnonneg => ?_⟩
    obtain ⟨after, hafter, y, hy⟩ := hsecond ⟨htrue, before, hbefore, x, hx, hnonneg⟩
    exact ⟨after, hafter, y, hy, fun hnonneg' =>
      (wholeChange_isOk_iff hbefore hafter hx hy).mp
        (hchange ⟨⟨htrue, before, hbefore, x, hx, hnonneg⟩, after, hafter, y, hy, hnonneg'⟩)⟩
  · rintro ⟨hfound, hcounts⟩
    refine ⟨⟨⟨hfound, fun htrue => ?_⟩, ?_⟩, ?_⟩
    · obtain ⟨before, hbefore, x, hx, -⟩ := hcounts htrue
      exact ⟨before, hbefore, x, hx⟩
    · rintro ⟨htrue, before', hbefore', x', hx', hnonneg⟩
      obtain ⟨before, hbefore, x, hx, hsecond⟩ := hcounts htrue
      obtain rfl := hbefore.unique hbefore'
      obtain rfl := Option.some.inj (hx'.symm.trans hx)
      obtain ⟨after, hafter, y, hy, -⟩ := hsecond hnonneg
      exact ⟨after, hafter, y, hy⟩
    · rintro ⟨⟨htrue, before', hbefore', x', hx', hnonneg⟩, after', hafter', y', hy', hnonneg'⟩
      obtain ⟨before, hbefore, x, hx, hsecond⟩ := hcounts htrue
      obtain rfl := hbefore.unique hbefore'
      obtain rfl := Option.some.inj (hx'.symm.trans hx)
      obtain ⟨after, hafter, y, hy, hchange⟩ := hsecond hnonneg
      obtain rfl := hafter.unique hafter'
      obtain rfl := Option.some.inj (hy'.symm.trans hy)
      exact (wholeChange_isOk_iff hbefore hafter hx hy).mpr (hchange hnonneg')

/-- A result needs counts that can be compared, and nothing else. -/
theorem buildResult_isOk_iff {pre post : Py.Json} (log : Py.Json) :
    (∃ result, buildResult c pre post log = .ok result) ↔ Comparable c pre post := by
  have hcascade : _ ↔ ∀ entry ∈ c.cascade, ∃ measured, measuredEntry pre post entry = .ok measured :=
    Fallible.mapM_isOk_iff
  simp only [measuredEntry_isOk_iff] at hcascade
  have hcomparable : Comparable c pre post ↔
      (c.primaryTable ≠ "" → PrimaryComparable pre post c.primaryTable) ∧
        ∀ entry ∈ c.cascade, EntryComparable pre post entry.table :=
    ⟨fun h => ⟨h.primary, h.cascade⟩, fun h => ⟨h.1, h.2⟩⟩
  rw [hcomparable, ← hcascade, ← primaryDelta_isOk_iff]
  unfold buildResult
  split
  · rename_i hprimary
    simp [hprimary, Fallible.bind_eq_ok]
  · rename_i hprimary
    simp [hprimary, Fallible.bind_eq_ok]

/-- What follows the statement. -/
def compare (tools : SandboxTools) (c : HandoffContract) (session pre : Py.Json) :
    Except SimulationError SimulationResult := do
  let post ← captureDiff tools session (tablesToCount c) "post"
  let log ← callTool tools "get_trigger_log" [("session_id", session)]
  buildResult c pre post (← expect (triggerLogOf log))

theorem noTimeout_compare (session pre : Py.Json) :
    NoTimeout (compare tools c session pre) :=
  (noTimeout_captureDiff _ _ _ _).bind fun _ => (noTimeout_callTool _ _ _).bind fun _ =>
    (noTimeout_expect _).bind fun _ => noTimeout_buildResult _ _ _

/-- An attempt that gets as far as the statement. -/
theorem runOnce_of_opens {session pre : Py.Json} (h : Opens tools c session pre) :
    runOnce tools c =
      executeInSandbox tools session c.rawSql >>= fun _ => compare tools c session pre := by
  obtain ⟨⟨begun, entries, hbegin, hentries, rfl⟩, htruthy, hpre⟩ := h
  have hcall : callTool tools "begin_sandbox" [("tenant_id", .str c.tenantId)] = .ok begun := by
    rw [callTool, hbegin]
  have hexpect : expect begun.dict? = .ok entries := by
    rw [hentries]
    rfl
  unfold runOnce
  simp only [hcall, hexpect, bind, Except.bind, htruthy, if_true,
    captureDiff_eq_ok.mpr hpre]
  rfl

variable (tools c) in
/-- One that does not fails before it. -/
theorem opens_or_failed :
    (∃ session pre, Opens tools c session pre) ∨ runOnce tools c = .error .failed := by
  obtain ⟨begun, hbegin⟩ | hfailed :=
    (noTimeout_callTool tools "begin_sandbox"
      [("tenant_id", .str c.tenantId)]).ok_or_failed
  · obtain ⟨entries, hentries⟩ | hfailed := (noTimeout_expect begun.dict?).ok_or_failed
    · by_cases htruthy : (Py.Dict.get entries "session_id").truthy = true
      · obtain ⟨pre, hpre⟩ | hfailed := (noTimeout_captureDiff tools
          (Py.Dict.get entries "session_id") (tablesToCount c) "pre").ok_or_failed
        · exact .inl ⟨_, pre, ⟨begun, entries, callTool_eq_ok.mp hbegin,
            expect_eq_ok.mp hentries, rfl⟩, htruthy, captureDiff_eq_ok.mp hpre⟩
        · right
          simp [runOnce, hbegin, hentries, htruthy, hfailed, bind, Except.bind]
      · right
        simp [runOnce, hbegin, hentries, htruthy, bind, Except.bind]
    · right
      simp [runOnce, hbegin, hfailed, bind, Except.bind]
  · right
    simp [runOnce, hfailed, bind, Except.bind]

/-- The comparison has a result if the calls after the statement are answered. -/
theorem compare_isOk_iff {session pre : Py.Json} :
    (∃ result, compare tools c session pre = .ok result) ↔
      ∃ post, Counted tools c session "post" post ∧
        (∃ reply, tools "get_trigger_log" [("session_id", session)] = .result reply ∧
          reply.dict?.isSome = true) ∧
        Comparable c pre post := by
  have hlogged (reply : Py.Json) : (triggerLogOf reply).isSome = reply.dict?.isSome := by
    unfold triggerLogOf
    cases reply.dict? <;> rfl
  simp only [compare, Fallible.bind_eq_ok, callTool_eq_ok, expect_eq_ok, captureDiff_eq_ok]
  constructor
  · rintro ⟨result, post, hpost, reply, hreply, log, hlog, hbuild⟩
    exact ⟨post, hpost, ⟨reply, hreply, by rw [← hlogged, hlog]; rfl⟩,
      (buildResult_isOk_iff log).mp ⟨result, hbuild⟩⟩
  · rintro ⟨post, hpost, ⟨reply, hreply, hdict⟩, hcomparable⟩
    obtain ⟨log, hlog⟩ := Option.isSome_iff_exists.mp ((hlogged reply).trans hdict)
    obtain ⟨result, hbuild⟩ := (buildResult_isOk_iff log).mpr hcomparable
    exact ⟨result, post, hpost, reply, hreply, log, hlog, hbuild⟩

/-- An attempt has a result if and only if it completes. -/
theorem runOnce_isOk_iff : (∃ result, runOnce tools c = .ok result) ↔ Completes tools c := by
  constructor
  · rintro ⟨result, hresult⟩
    obtain ⟨session, pre, hopens⟩ | hfailed := opens_or_failed tools c
    · rw [runOnce_of_opens hopens, Fallible.bind_eq_ok] at hresult
      obtain ⟨_, hexecute, hcompare⟩ := hresult
      obtain ⟨post, hrest⟩ := compare_isOk_iff.mp ⟨result, hcompare⟩
      exact ⟨session, pre, post, hopens, executeInSandbox_eq_ok.mp hexecute, hrest⟩
    · rw [hfailed] at hresult
      cases hresult
  · rintro ⟨session, pre, post, hopens, hexecute, hrest⟩
    rw [runOnce_of_opens hopens, executeInSandbox_eq_ok.mpr hexecute]
    exact compare_isOk_iff.mpr ⟨post, hrest⟩

/-- It raises a timeout if and only if the statement runs into its own. -/
theorem runOnce_eq_timeout_iff : runOnce tools c = .error .timeout ↔ TimesOut tools c := by
  constructor
  · intro htimeout
    obtain ⟨session, pre, hopens⟩ | hfailed := opens_or_failed tools c
    · rw [runOnce_of_opens hopens] at htimeout
      cases hexecute : executeInSandbox tools session c.rawSql with
      | error e =>
        rw [hexecute] at htimeout
        obtain rfl : e = .timeout := Except.error.inj htimeout
        obtain ⟨message, hmessage⟩ := executeInSandbox_eq_timeout.mp hexecute
        exact ⟨session, pre, message, hopens, hmessage⟩
      | ok _ =>
        rw [hexecute] at htimeout
        exact absurd htimeout (noTimeout_compare session pre)
    · rw [hfailed] at htimeout
      cases htimeout
  · rintro ⟨session, pre, message, hopens, hmessage⟩
    rw [runOnce_of_opens hopens, executeInSandbox_eq_timeout.mpr ⟨message, hmessage⟩]
    rfl

/-! ## The result of a simulation -/

theorem buildResult_executed {pre post log : Py.Json} {result : SimulationResult} (h : buildResult c pre post log = .ok result) :
    result.executed = true ∧ result.available = true ∧ result.timeoutOccurred = false := by
  unfold buildResult at h
  split at h
  · simp only [Fallible.bind_eq_ok] at h
    obtain ⟨_, -, _, -, h⟩ := h
    cases h
    exact ⟨rfl, rfl, rfl⟩
  · simp only [Fallible.bind_eq_ok] at h
    obtain ⟨_, -, _, -, h⟩ := h
    cases h
    exact ⟨rfl, rfl, rfl⟩

/-- A result is built from the counts before and after. -/
theorem runOnce_built {result : SimulationResult} (h : runOnce tools c = .ok result) :
    ∃ pre post log, buildResult c pre post log = .ok result := by
  obtain ⟨session, pre, hopens⟩ | hfailed := opens_or_failed tools c
  · rw [runOnce_of_opens hopens] at h
    simp only [compare, Fallible.bind_eq_ok] at h
    obtain ⟨_, -, post, -, reply, -, log, -, hbuild⟩ := h
    exact ⟨pre, post, log, hbuild⟩
  · rw [hfailed] at h
    cases h

theorem runOnce_executed {result : SimulationResult} (h : runOnce tools c = .ok result) :
    result.executed = true ∧ result.available = true ∧ result.timeoutOccurred = false := by
  obtain ⟨pre, post, log, hbuild⟩ := runOnce_built h
  exact buildResult_executed hbuild

variable (tools) in
/-- Nothing is simulated for a SELECT, or without a table. -/
theorem simulate_of_skipped (h : ¬ (c.operationType ≠ .select ∧ c.primaryTable ≠ "")) :
    ∃ reason, simulate tools c = { skippedReason := some reason } := by
  unfold simulate
  by_cases htype : c.operationType = .select
  · exact ⟨_, if_pos htype⟩
  · by_cases hprimary : c.primaryTable = ""
    · exact ⟨_, (if_neg htype).trans (if_pos hprimary)⟩
    · exact absurd ⟨htype, hprimary⟩ h

theorem simulate_eq_runOnce (htype : c.operationType ≠ .select) (hprimary : c.primaryTable ≠ "") :
    simulate tools c =
      match runOnce tools c with
      | .ok result => result
      | .error .timeout => { available := false, timeoutOccurred := true }
      | .error .failed => { available := false } :=
  (if_neg htype).trans (if_neg hprimary)

end SandboxClient

namespace ContextSimAgent

open SandboxClient

variable (first second : SandboxTools) (c : HandoffContract)

/-- There is something to simulate, and one of the at most two attempts completes. -/
def Simulated : Prop :=
  c.operationType ≠ .select ∧ c.primaryTable ≠ "" ∧
    (Completes first c ∨ TimesOut first c ∧ Completes second c)

variable {first second c}

variable (first second c) in
/-- The statement is executed if and only if an attempt completes, and only a result that is not
available tells of a timeout. -/
theorem runSimulationWithRetry_spec :
    ((runSimulationWithRetry first second c).executed = true ↔ Simulated first second c) ∧
      ((runSimulationWithRetry first second c).available = true →
        (runSimulationWithRetry first second c).timeoutOccurred = false) := by
  unfold runSimulationWithRetry Simulated
  by_cases hruns : c.operationType ≠ .select ∧ c.primaryTable ≠ ""
  · obtain ⟨htype, hprimary⟩ := hruns
    rw [simulate_eq_runOnce htype hprimary, simulate_eq_runOnce htype hprimary,
      ← runOnce_isOk_iff, ← runOnce_isOk_iff, ← runOnce_eq_timeout_iff]
    cases hfirst : runOnce first c with
    | ok result =>
      obtain ⟨hexecuted, havailable, htimeout⟩ := runOnce_executed hfirst
      simp [hexecuted, havailable, htimeout, htype, hprimary]
    | error e =>
      cases e with
      | failed => simp [gaveUp]
      | timeout =>
        cases hsecond : runOnce second c with
        | ok result =>
          obtain ⟨hexecuted, havailable, htimeout⟩ := runOnce_executed hsecond
          simp [hexecuted, havailable, htimeout, htype, hprimary]
        | error e => cases e <;> simp [gaveUp]
  · obtain ⟨reason, hskipped⟩ := simulate_of_skipped first hruns
    rw [hskipped]
    simp only [Option.isSome_some, or_true, if_true]
    exact ⟨⟨nofun, fun h => absurd ⟨h.1, h.2.1⟩ hruns⟩, fun _ => trivial⟩

/-! ## What the contract is left with -/

/-- Nothing that a simulation measures is in the contract; in the entries of its cascade only if the
reviewer's document can be built at all. -/
structure Unmeasured (c : HandoffContract) : Prop where
  actualPrimaryRows : c.actualPrimaryRows = none
  actualCascade : c.actualCascade = []
  sandboxTriggerLog : c.sandboxTriggerLog = .arr []
  sequenceGapWarning : c.sequenceGapWarning = false
  cascade : ContractBuilder.WholeCounts c →
    ContractBuilder.showsConfidence c.rowConfidence = true →
    ∀ entry ∈ c.cascade, entry.actualRows = none

/-- No row count of section 1 is a measured one. -/
structure ShowsNoActualRows (section1 : WhatWillHappen) : Prop where
  primary : section1.actualPrimaryRows = none
  cascade : ∀ entry ∈ section1.cascadeImpact, entry.actualRows = none
  total : section1.totalActualRows = none

/-- Without a simulation the contract has no data of one, and the reviewer sees none. -/
structure NoStaleData (c : HandoffContract) : Prop where
  fields : c.simulationExecuted = false → c.actualPrimaryRows = none ∧ c.actualCascade = [] ∧
    c.sandboxTriggerLog = .arr [] ∧ c.sequenceGapWarning = false
  timeout : c.simulationAvailable = true → c.simulationTimeout = false
  section1 : c.simulationExecuted = false → ∀ formats first second hex now document,
    ContractAgent.approvalContract formats first second hex now c = some document →
      ShowsNoActualRows document.sections.whatWillHappen

/-- Section 1 shows the measured rows of the cascade, and a count of the contract. -/
theorem showsNoActualRows_iff {formats : ContractFormats} {summary : String}
    {section1 : WhatWillHappen} (hprimary : c.actualPrimaryRows = none)
    (h : ContractBuilder.buildSection1 formats c summary = some section1) :
    ShowsNoActualRows section1 ↔ ∀ entry ∈ c.cascade, entry.actualRows = none := by
  obtain ⟨hshown, htotal, hcascade⟩ := ContractBuilder.buildSection1_unmeasured hprimary h
  constructor
  · intro hnone entry hentry
    have hmem : _ ∈ section1.cascadeImpact := hcascade ▸ List.mem_map_of_mem hentry
    exact hnone.cascade _ hmem
  · intro hnone
    refine ⟨hshown, fun entry hentry => ?_, htotal⟩
    rw [hcascade] at hentry
    obtain ⟨estimated, hestimated, rfl⟩ := List.mem_map.mp hentry
    exact hnone estimated hestimated

variable (memory : MemoryTools) (now : Time)

variable (first second c) in
/-- What the agent always writes about the simulation, and what it leaves alone. -/
theorem run_simulation :
    (run memory first second now c).simulationExecuted =
        (runSimulationWithRetry first second c).executed ∧
      (run memory first second now c).simulationAvailable =
        (runSimulationWithRetry first second c).available ∧
      (run memory first second now c).simulationTimeout =
        (runSimulationWithRetry first second c).timeoutOccurred ∧
      (run memory first second now c).cascade = c.cascade ∧
      (run memory first second now c).estimatedPrimaryRows = c.estimatedPrimaryRows ∧
      (run memory first second now c).rowConfidence = c.rowConfidence := by
  unfold run SandboxClient.applyToContract
  dsimp only
  split_ifs <;> exact ⟨rfl, rfl, rfl, rfl, rfl, rfl⟩

/-- Without a simulation the agent writes no result of one. -/
theorem run_of_not_executed (h : (runSimulationWithRetry first second c).executed = false) :
    (run memory first second now c).actualPrimaryRows = c.actualPrimaryRows ∧
      (run memory first second now c).actualCascade = c.actualCascade ∧
      (run memory first second now c).sandboxTriggerLog = c.sandboxTriggerLog ∧
      (run memory first second now c).sequenceGapWarning = c.sequenceGapWarning := by
  unfold run SandboxClient.applyToContract
  simp [h, RetrievalClient.applyToContract, HandoffContract.addProvenance]

/-- A contract without data of a simulation shows none. -/
theorem showsNone_iff (hprimary : c.actualPrimaryRows = none) :
    (∀ formats first second hex now document,
        ContractAgent.approvalContract formats first second hex now c = some document →
          ShowsNoActualRows document.sections.whatWillHappen) ↔
      (ContractBuilder.WholeCounts c → ContractBuilder.showsConfidence c.rowConfidence = true →
        ∀ entry ∈ c.cascade, entry.actualRows = none) := by
  have hshows {formats first second hex now document} (hdocument :
      ContractAgent.approvalContract formats first second hex now c = some document) :
      ShowsNoActualRows document.sections.whatWillHappen ↔
        ∀ entry ∈ c.cascade, entry.actualRows = none := by
    obtain ⟨c', hassemble⟩ := ContractAgent.approvalContract_eq_some_iff.mp hdocument
    obtain ⟨_, _, -, hbuild, -⟩ := ContractAgent.assemble_eq_some_iff.mp hassemble
    obtain ⟨section1, _, hsection1, -, rfl⟩ := ContractBuilder.buildApprovalContract_eq_some hbuild
    exact showsNoActualRows_iff (c := ContractAgent.classify _ _ c) hprimary hsection1
  constructor
  · intro h hcounts hconfidence
    obtain ⟨⟨c', document⟩, hassemble⟩ := Option.isSome_iff_exists.mp
      ((@ContractAgent.isSome_assemble_iff .plain none none "" 0 c).mpr ⟨hcounts, hconfidence⟩)
    have hdocument := ContractAgent.approvalContract_eq_some_iff.mpr ⟨c', hassemble⟩
    exact (hshows hdocument).mp (h _ _ _ _ _ document hdocument)
  · intro h formats first second hex now document hdocument
    obtain ⟨c', hassemble⟩ := ContractAgent.approvalContract_eq_some_iff.mp hdocument
    obtain ⟨hcounts, hconfidence⟩ :=
      ContractAgent.isSome_assemble_iff.mp (Option.isSome_iff_exists.mpr ⟨_, hassemble⟩)
    exact (hshows hdocument).mpr (h hcounts hconfidence)

/-- There is no stale data after the agent if and only if it simulates, or found none. -/
theorem noStaleData_iff (first second : SandboxTools) (c : HandoffContract) :
    NoStaleData (run memory first second now c) ↔
      Simulated first second c ∨ Unmeasured c := by
  obtain ⟨hexecuted, havailable, htimeout, hcascade, hestimated, hconfidence⟩ :=
    run_simulation first second c memory now
  obtain ⟨hsimulated, htimeouts⟩ :=
    runSimulationWithRetry_spec first second c
  cases hrun : (runSimulationWithRetry first second c).executed with
  | true =>
    rw [hrun] at hexecuted
    refine ⟨fun _ => .inl (hsimulated.mp hrun), fun _ => ⟨?_, ?_, ?_⟩⟩
    · rw [hexecuted]
      exact nofun
    · rw [havailable, htimeout]
      exact htimeouts
    · rw [hexecuted]
      exact nofun
  | false =>
    rw [hrun] at hexecuted
    have hnot : ¬ Simulated first second c := fun h => by simpa [hrun] using hsimulated.mpr h
    obtain ⟨hprimary, hactual, hlog, hgap⟩ := run_of_not_executed memory now hrun
    constructor
    · intro h
      right
      obtain ⟨h₁, h₂, h₃, h₄⟩ := h.fields hexecuted
      refine ⟨hprimary ▸ h₁, hactual ▸ h₂, hlog ▸ h₃, hgap ▸ h₄, fun hcounts hshown => ?_⟩
      rw [← hcascade]
      exact (showsNone_iff h₁).mp (h.section1 hexecuted)
        (hcounts.of_eq hestimated hcascade hprimary hactual) (hconfidence ▸ hshown)
    · rintro (h | h)
      · exact absurd h hnot
      · have hnone := hprimary.trans h.actualPrimaryRows
        refine ⟨fun _ => ⟨hnone, hactual.trans h.actualCascade,
          hlog.trans h.sandboxTriggerLog, hgap.trans h.sequenceGapWarning⟩, ?_, fun _ => ?_⟩
        · rw [havailable, htimeout]
          exact htimeouts
        · refine (showsNone_iff hnone).mpr fun hcounts hshown => ?_
          rw [hcascade]
          exact h.cascade (hcounts.of_eq hestimated.symm hcascade.symm hprimary.symm hactual.symm)
            (hconfidence ▸ hshown)

/-- A round before this one has measured five rows. -/
def measuredContract : HandoffContract where
  operationId := "cg_1"
  tenantId := "demo_tenant"
  submittedBy := "agent"
  sourceType := .externalAgent
  submissionTimestamp := 0
  rawSql := "DELETE FROM orders"
  operationType := .delete
  primaryTable := "orders"
  simulationExecuted := true
  actualPrimaryRows := some (.int 5)

/-- No tool of the sandbox answers. -/
def down : SandboxTools := fun _ _ => .otherError

/-- Nor does the memory store. -/
def noMemory : MemoryTools :=
  ⟨fun _ _ _ => .error "", fun _ _ => .error "", fun _ => .error ""⟩

/-- The sandbox is down, and the five rows are still there. -/
theorem not_noStaleData :
    ¬ ∀ (memory : MemoryTools) (first second : SandboxTools) (now : Time) (c : HandoffContract),
      NoStaleData (run memory first second now c) := by
  intro h
  have hkept := @run_of_not_executed down down measuredContract noMemory 0 rfl
  have hnone := ((h noMemory down down 0 measuredContract).fields rfl).1
  rw [hkept.1] at hnone
  cases hnone

end ContextSimAgent
