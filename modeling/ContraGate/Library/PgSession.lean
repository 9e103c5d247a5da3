import Mathlib.Data.List.Basic

/-!
# A PostgreSQL session

One connection's transaction blocks, savepoints and settings. What is no transaction control
and no `SET` is a query, which the parameter `Server.run` executes: it changes the rows, which
a rollback undoes, the counters (sequences, and whatever else is outside transactions), which
it does not, and through functions the settings.

* `Session.step` executes one statement, `Session.message` a simple-query message;
* `Session.Held`: an explicit block stays open, and the settings keep a property;
* `message_held`: a message of `Harmless` statements preserves that.
-/

namespace Pg

inductive Scope
  /-- `SET` and `SET SESSION`. -/
  | session
  /-- `SET LOCAL`. -/
  | transaction
deriving DecidableEq

/-- A statement; `PREPARE TRANSACTION` is disabled by default, and so a query that fails. -/
inductive Statement (Query : Type)
  | begin
  | commit (chain : Bool)
  | rollback (chain : Bool)
  | savepoint (name : String)
  | rollbackTo (name : String)
  | release (name : String)
  /-- Without a value it is `SET .. TO DEFAULT` or `RESET`. -/
  | set (scope : Scope) (name : String) (value : Option String)
  | resetAll
  | query (q : Query)

/-- The settings of a session, and those it goes back to when the transaction ends. -/
structure Settings where
  current : String → Option String
  session : String → Option String

def Settings.set (g : Settings) (scope : Scope) (name : String) (value : Option String) :
    Settings where
  current n := if n = name then value else g.current n
  session n := if scope = .session ∧ n = name then value else g.session n

/-- PostgreSQL: its parser, the defaults of its settings, and the execution of a query. -/
structure Server (Query Rows Counters Reply : Type) where
  parse : String → Option (List (Statement Query))
  defaults : String → Option String
  run : Query → Rows → Counters → Settings → Counters × Except String (Rows × Settings × Reply)
  /-- The settings that a query passes through while it runs: a function, or the body of a `DO`,
  may set them more than once. -/
  during : Query → Rows → Counters → Settings → List Settings

/-- What a rollback goes back to. -/
structure Snapshot (Rows : Type) where
  rows : Rows
  settings : Settings

/-- An open transaction block; without a `BEGIN` it ends with the message. -/
structure Block (Rows : Type) where
  explicit : Bool
  start : Snapshot Rows
  /-- The latest first. -/
  saves : List (String × Snapshot Rows)
  failed : Bool

structure Session (Rows Counters : Type) where
  rows : Rows
  counters : Counters
  settings : Settings
  block : Option (Block Rows)

/-- What came of a message: the statements that were executed, each with the session before
it, and the reply to the last one. -/
structure Outcome (Query Rows Counters Reply : Type) where
  session : Session Rows Counters
  ran : List (Statement Query × Session Rows Counters)
  result : Except String (Option Reply)

variable {Query Rows Counters Reply : Type}

/-- In a failed block only what ends it, or a part of it, is executed. -/
def Block.executes (b : Block Rows) : Statement Query → Bool
  | .commit _ | .rollback _ | .rollbackTo _ => true
  | _ => !b.failed

@[simp] theorem Block.executes_query (b : Block Rows) (q : Query) :
    b.executes (.query q) = !b.failed := rfl

namespace Session

/-- The rows that other sessions see. -/
def stored (s : Session Rows Counters) : Rows :=
  match s.block with
  | some b => b.start.rows
  | none => s.rows

def snapshot (s : Session Rows Counters) : Snapshot Rows := ⟨s.rows, s.settings⟩

def newBlock (s : Session Rows Counters) (explicit : Bool) : Block Rows where
  explicit := explicit
  start := s.snapshot
  saves := []
  failed := false

def commit (s : Session Rows Counters) : Session Rows Counters :=
  { s with settings := ⟨s.settings.session, s.settings.session⟩, block := none }

def abort (s : Session Rows Counters) (b : Block Rows) : Session Rows Counters :=
  { s with rows := b.start.rows, settings := b.start.settings, block := none }

/-- `AND CHAIN` opens the next block at once. -/
def chained (s : Session Rows Counters) (chain : Bool) : Session Rows Counters :=
  if chain then { s with block := some (s.newBlock true) } else s

def withBlock (s : Session Rows Counters) (b : Block Rows) : Session Rows Counters :=
  { s with block := some b }

/-- After an error an explicit block is failed; an implicit one is undone. -/
def fail (s : Session Rows Counters) (b : Block Rows) : Session Rows Counters :=
  if b.explicit then s.withBlock { b with failed := true } else s.abort b

/-- At the end of a message an implicit block is committed. -/
def finish (s : Session Rows Counters) : Session Rows Counters :=
  match s.block with
  | some b => if b.explicit then s else s.commit
  | none => s

variable (server : Server Query Rows Counters Reply)

/-- Execute one statement in the block `b`. -/
def step (s : Session Rows Counters) (b : Block Rows) :
    Statement Query → Session Rows Counters × Except String (Option Reply)
  | .begin => (s.withBlock { b with explicit := true }, .ok none)
  | .commit chain =>
    if chain && !b.explicit then
      (s.withBlock b, .error "COMMIT AND CHAIN can only be used in transaction blocks")
    else ((if b.failed then s.abort b else s.commit).chained chain, .ok none)
  | .rollback chain =>
    if chain && !b.explicit then
      (s.withBlock b, .error "ROLLBACK AND CHAIN can only be used in transaction blocks")
    else ((s.abort b).chained chain, .ok none)
  | .savepoint name =>
    if b.explicit then
      (s.withBlock { b with saves := (name, s.snapshot) :: b.saves }, .ok none)
    else (s.withBlock b, .error "SAVEPOINT can only be used in transaction blocks")
  | .rollbackTo name =>
    match b.saves.dropWhile (·.1 != name) with
    | [] => (s.withBlock b, .error "savepoint does not exist")
    | save :: older =>
      ({ s with
          rows := save.2.rows, settings := save.2.settings
          block := some { b with saves := save :: older, failed := false } }, .ok none)
  | .release name =>
    match b.saves.dropWhile (·.1 != name) with
    | [] => (s.withBlock b, .error "savepoint does not exist")
    | _ :: older => (s.withBlock { b with saves := older }, .ok none)
  | .set scope name value =>
    let value := value.or (server.defaults name)
    (({ s with settings := s.settings.set scope name value }).withBlock b, .ok none)
  | .resetAll =>
    (({ s with settings := ⟨server.defaults, server.defaults⟩ }).withBlock b, .ok none)
  | .query q =>
    match server.run q s.rows s.counters s.settings with
    | (counters, .error message) =>
      (({ s with counters := counters }).withBlock b, .error message)
    | (counters, .ok (rows, settings, reply)) =>
      (({ s with rows := rows, counters := counters, settings := settings }).withBlock b,
        .ok (some reply))

/-- Execute statements in order, until one fails. Outside a block each opens one. -/
def runAll (s : Session Rows Counters) (reply : Option Reply) :
    List (Statement Query) → Outcome Query Rows Counters Reply
  | [] => { session := s.finish, ran := [], result := .ok reply }
  | st :: rest =>
    let b := s.block.getD (s.newBlock false)
    if b.executes st then
      match s.step server b st with
      | (t, .error message) =>
        { session := t.fail b, ran := [(st, s)], result := .error message }
      | (t, .ok reply) =>
        let outcome := t.runAll reply rest
        { outcome with ran := (st, s) :: outcome.ran }
    else
      { session := s.fail b, ran := []
        result := .error "current transaction is aborted, commands ignored until end of block" }

/-- Execute a simple-query message. A syntax error anywhere fails the whole message. -/
def message (s : Session Rows Counters) (text : String) : Outcome Query Rows Counters Reply :=
  match server.parse text with
  | some statements => s.runAll server none statements
  | none =>
    { session := { s with block := s.block.map fun b => { b with failed := true } }
      ran := [], result := .error "syntax error" }

/-- When the connection is closed, an open block is undone. -/
def close (s : Session Rows Counters) : Session Rows Counters :=
  match s.block with
  | some b => s.abort b
  | none => s

variable {server} in
/-- A message of one statement that succeeds. -/
theorem message_single {s t : Session Rows Counters} {text : String} {st : Statement Query}
    {reply : Option Reply} (hparse : server.parse text = some [st])
    (hexecutes : (s.block.getD (s.newBlock false)).executes st = true)
    (hstep : s.step server (s.block.getD (s.newBlock false)) st = (t, .ok reply)) :
    s.message server text = { session := t.finish, ran := [(st, s)], result := .ok reply } := by
  unfold message
  rw [hparse]
  simp only [runAll, if_pos hexecutes, hstep]

variable {server} in
/-- A message of one statement that fails. -/
theorem message_error {s t : Session Rows Counters} {b : Block Rows} {text message : String}
    {st : Statement Query} (hblock : s.block = some b) (hparse : server.parse text = some [st])
    (hexecutes : b.executes st = true) (hstep : s.step server b st = (t, .error message)) :
    s.message server text =
      { session := t.fail b, ran := [(st, s)], result := .error message } := by
  have hcurrent : s.block.getD (s.newBlock false) = b := by rw [hblock]; rfl
  unfold Session.message
  rw [hparse]
  simp only [runAll, hcurrent, if_pos hexecutes, hstep]

variable {server} in
/-- A message of one statement that a failed block refuses. -/
theorem message_refused {s : Session Rows Counters} {b : Block Rows} {text : String}
    {st : Statement Query} (hblock : s.block = some b) (hparse : server.parse text = some [st])
    (hrefuses : b.executes st = false) :
    s.message server text =
      { session := s.fail b, ran := []
        result :=
          .error "current transaction is aborted, commands ignored until end of block" } := by
  have hcurrent : s.block.getD (s.newBlock false) = b := by rw [hblock]; rfl
  unfold Session.message
  rw [hparse]
  simp only [runAll, hcurrent, hrefuses, Bool.false_eq_true, if_false]

/-! ## A block that stays open -/

/-- An explicit block is open over the rows `rows`; the counters have not moved, and the
settings, now and at every savepoint, satisfy `Keep`. -/
structure Held (Keep : Settings → Prop) (rows : Rows) (counters : Counters)
    (s : Session Rows Counters) : Prop where
  counters_eq : s.counters = counters
  keep : Keep s.settings
  block : ∃ b, s.block = some b ∧ b.explicit = true ∧ b.start.rows = rows ∧
    ∀ save ∈ b.saves, Keep save.2.settings

/-- The settings in force at some point of the statement's execution. -/
def inForce (s : Session Rows Counters) : Statement Query → List Settings
  | .query q => s.settings :: server.during q s.rows s.counters s.settings
  | _ => [s.settings]

/-- The statement does not end the block, keeps `Keep` all along, and moves no counter. -/
def Harmless (Keep : Settings → Prop) (s : Session Rows Counters) : Statement Query → Prop
  | .commit _ | .rollback _ => False
  | .set scope name value =>
    Keep (s.settings.set scope name (value.or (server.defaults name)))
  | .resetAll => Keep ⟨server.defaults, server.defaults⟩
  | .query q =>
    (server.run q s.rows s.counters s.settings).1 = s.counters ∧
      (∀ g ∈ server.during q s.rows s.counters s.settings, Keep g) ∧
      ∀ r, (server.run q s.rows s.counters s.settings).2 = .ok r → Keep r.2.1
  | _ => True

variable {server} {Keep : Settings → Prop} {rows : Rows} {counters : Counters}

theorem held_withBlock {s : Session Rows Counters} {b : Block Rows}
    (hcounters : s.counters = counters) (hkeep : Keep s.settings) (hexplicit : b.explicit = true)
    (hstart : b.start.rows = rows) (hsaves : ∀ save ∈ b.saves, Keep save.2.settings) :
    (s.withBlock b).Held Keep rows counters :=
  ⟨hcounters, hkeep, b, rfl, hexplicit, hstart, hsaves⟩

/-- What a harmless statement passes through satisfies `Keep`. -/
theorem inForce_keep {s : Session Rows Counters} {st : Statement Query} (hkeep : Keep s.settings)
    (hst : s.Harmless server Keep st) : ∀ g ∈ s.inForce server st, Keep g := by
  cases st with
  | query q => exact List.forall_mem_cons.mpr ⟨hkeep, hst.2.1⟩
  | begin | commit | rollback | savepoint | rollbackTo | release | set | resetAll =>
    exact List.forall_mem_singleton.mpr hkeep

/-- A harmless statement keeps the block. -/
theorem step_held {s : Session Rows Counters} {b : Block Rows} {st : Statement Query}
    (h : s.Held Keep rows counters) (hb : s.block = some b) (hst : s.Harmless server Keep st) :
    (s.step server b st).1.Held Keep rows counters := by
  obtain ⟨b', hb', hexplicit, hstart, hsaves⟩ := h.block
  obtain rfl : b = b' := by rw [hb] at hb'; exact Option.some.inj hb'
  have hcounters := h.counters_eq
  have hkeep := h.keep
  have hsame : (s.withBlock b).Held Keep rows counters :=
    held_withBlock hcounters hkeep hexplicit hstart hsaves
  -- savepoints that are left were there before
  have hdropped : ∀ {name : String} {save : String × Snapshot Rows} {older},
      b.saves.dropWhile (·.1 != name) = save :: older →
        ∀ x ∈ save :: older, Keep x.2.settings := by
    intro name save older hdrop x hx
    rw [← hdrop] at hx
    exact hsaves x (List.dropWhile_subset _ hx)
  cases st with
  | begin => exact held_withBlock hcounters hkeep rfl hstart hsaves
  -- a harmless statement does not end the block
  | commit | rollback => exact hst.elim
  | savepoint name =>
    simp only [step, if_pos hexplicit]
    refine held_withBlock hcounters hkeep hexplicit hstart ?_
    exact List.forall_mem_cons.mpr ⟨hkeep, hsaves⟩
  | rollbackTo name =>
    simp only [step]
    cases hdrop : b.saves.dropWhile (·.1 != name) with
    | nil => exact hsame
    | cons save older =>
      have hkept := hdropped hdrop
      exact ⟨hcounters, hkept save (List.mem_cons_self ..), _, rfl, hexplicit, hstart, hkept⟩
  | release name =>
    simp only [step]
    cases hdrop : b.saves.dropWhile (·.1 != name) with
    | nil => exact hsame
    | cons save older =>
      refine held_withBlock hcounters hkeep hexplicit hstart fun x hx => ?_
      exact hdropped hdrop x (List.mem_cons_of_mem _ hx)
  | set scope name value => exact held_withBlock hcounters hst hexplicit hstart hsaves
  | resetAll => exact held_withBlock hcounters hst hexplicit hstart hsaves
  | query q =>
    obtain ⟨hmoved, -, hsettings⟩ := hst
    simp only [step]
    rcases hrun : server.run q s.rows s.counters s.settings with ⟨moved, error | ⟨r⟩⟩
    · rw [hrun] at hmoved
      exact held_withBlock (hmoved.trans hcounters) hkeep hexplicit hstart hsaves
    · rw [hrun] at hmoved hsettings
      exact held_withBlock (hmoved.trans hcounters) (hsettings _ rfl) hexplicit hstart hsaves

/-- An error keeps it too: the block is failed, but open. -/
theorem fail_held {s t : Session Rows Counters} {b : Block Rows}
    (hs : s.Held Keep rows counters) (hb : s.block = some b) (ht : t.Held Keep rows counters) :
    (t.fail b).Held Keep rows counters := by
  obtain ⟨b', hb', hexplicit, hstart, hsaves⟩ := hs.block
  obtain rfl : b = b' := by rw [hb] at hb'; exact Option.some.inj hb'
  unfold fail
  rw [if_pos hexplicit]
  exact held_withBlock ht.counters_eq ht.keep hexplicit hstart hsaves

/-- Harmless statements keep the block, and each of them is executed under `Keep`. -/
theorem runAll_held {s : Session Rows Counters} {reply : Option Reply}
    {statements : List (Statement Query)} (h : s.Held Keep rows counters)
    (hran : ∀ e ∈ (s.runAll server reply statements).ran, e.2.Harmless server Keep e.1) :
    (s.runAll server reply statements).session.Held Keep rows counters ∧
      ∀ e ∈ (s.runAll server reply statements).ran, ∀ g ∈ e.2.inForce server e.1, Keep g := by
  induction statements generalizing s reply with
  | nil =>
    obtain ⟨b, hb, hexplicit, -⟩ := h.block
    refine ⟨?_, List.forall_mem_nil _⟩
    show s.finish.Held Keep rows counters
    rw [finish, hb]
    dsimp only
    rwa [if_pos hexplicit]
  | cons st rest ih =>
    obtain ⟨b, hb, -⟩ := h.block
    unfold runAll at hran ⊢
    rw [hb, Option.getD_some] at hran ⊢
    dsimp only at hran ⊢
    by_cases hexecutes : b.executes st = true
    · rw [if_pos hexecutes] at hran ⊢
      -- the first statement was executed, so it is harmless
      have hfirst : s.Harmless server Keep st := by
        split at hran <;> exact hran (st, s) (List.mem_cons_self ..)
      have hstep := step_held h hb hfirst
      have hkept := inForce_keep h.keep hfirst
      generalize s.step server b st = r at hran hstep ⊢
      obtain ⟨t, error | reply⟩ := r
      · exact ⟨fail_held h hb hstep, List.forall_mem_singleton.mpr hkept⟩
      · obtain ⟨hheld, hkeep⟩ := ih hstep fun e he => hran e (List.mem_cons_of_mem _ he)
        exact ⟨hheld, List.forall_mem_cons.mpr ⟨hkept, hkeep⟩⟩
    -- a failed block executes nothing
    · rw [if_neg hexecutes]
      exact ⟨fail_held h hb h, List.forall_mem_nil _⟩

/-- A message of harmless statements keeps the block, and each of them is executed under
`Keep`. -/
theorem message_held {s : Session Rows Counters} {text : String} (h : s.Held Keep rows counters)
    (hran : ∀ e ∈ (s.message server text).ran, e.2.Harmless server Keep e.1) :
    (s.message server text).session.Held Keep rows counters ∧
      ∀ e ∈ (s.message server text).ran, ∀ g ∈ e.2.inForce server e.1, Keep g := by
  unfold message at hran ⊢
  cases hparse : server.parse text with
  | some statements =>
    rw [hparse] at hran
    exact runAll_held h hran
  | none =>
    obtain ⟨b, hb, hexplicit, hstart, hsaves⟩ := h.block
    refine ⟨⟨h.counters_eq, h.keep, { b with failed := true }, ?_, hexplicit, hstart, hsaves⟩,
      List.forall_mem_nil _⟩
    rw [hb]
    rfl

end Session

end Pg
