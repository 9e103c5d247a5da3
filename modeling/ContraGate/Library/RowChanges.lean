import Mathlib.Algebra.Order.Group.Abs
import Mathlib.Algebra.Order.Group.Int
import Mathlib.Algebra.Ring.Int.Defs
import Mathlib.Data.List.Dedup
import Mathlib.Logic.Function.Basic
import ContraGate.Library.Machine

/-!
# Changes of the rows of tables

The rows of a table, by an identity of their own, and what one statement does to them: a list of
changes, each with its cause.

* `RowChange.machine`: the changes, one after the other, on the tables of a database;
* `length_exec`: how many rows a table has afterwards;
* `touched`: the rows of a table that a cause inserts, deletes or updates;
* `abs_net_eq_touched_iff`: when the number of rows moves by as many as a cause touches.
-/

/-- The rows of every table. -/
abbrev Tables (Name Id Val : Type*) := Name → List (Id × Val)

/-- A change of one row. -/
inductive RowOp (Id Val : Type*)
  | insert (id : Id) (row : Val)
  | delete (id : Id)
  | update (id : Id) (row : Val)

/-- A change of one row of a table, and what caused it. -/
structure RowChange (Name Id Val Cause : Type*) where
  table : Name
  cause : Cause
  op : RowOp Id Val

namespace RowOp

variable {Id Val : Type*} [DecidableEq Id]

/-- The rows afterwards: a row is inserted once, and what is deleted or updated is there. -/
def apply (rows : List (Id × Val)) : RowOp Id Val → Option (List (Id × Val))
  | insert id row => if rows.any (·.1 = id) then none else some (rows ++ [(id, row)])
  | delete id =>
    if rows.any (·.1 = id) then some (rows.eraseP (·.1 = id)) else none
  | update id row =>
    if rows.any (·.1 = id) then some (rows.map fun r => if r.1 = id then (id, row) else r)
    else none

def id : RowOp Id Val → Id
  | insert id _ | delete id | update id _ => id

def isInsert : RowOp Id Val → Bool
  | insert .. => true
  | _ => false

def isDelete : RowOp Id Val → Bool
  | delete _ => true
  | _ => false

def isUpdate : RowOp Id Val → Bool
  | update .. => true
  | _ => false

/-- By how much the number of rows grows. -/
def gain : RowOp Id Val → ℤ
  | insert .. => 1
  | delete _ => -1
  | update .. => 0

theorem length_apply {rows rows' : List (Id × Val)} {op : RowOp Id Val}
    (h : op.apply rows = some rows') : (rows'.length : ℤ) = rows.length + op.gain := by
  cases op with
  | insert id row =>
    simp only [apply] at h
    split at h
    · cases h
    · obtain rfl := Option.some.inj h
      simp [gain]
  | delete id =>
    simp only [apply] at h
    split at h
    · rename_i hany
      obtain rfl := Option.some.inj h
      obtain ⟨row, hmem, hrow⟩ := List.any_eq_true.mp hany
      have hlength := List.length_eraseP_of_mem (p := fun r => decide (r.1 = id)) hmem hrow
      have hpos := List.length_pos_of_mem hmem
      simp only [gain]
      omega
    · cases h
  | update id row =>
    simp only [apply] at h
    split at h
    · obtain rfl := Option.some.inj h
      simp [gain]
    · cases h

end RowOp

namespace RowChange

variable {Name Id Val Cause : Type*} [DecidableEq Name] [DecidableEq Id] [DecidableEq Cause]

/-- The changes, one after the other. -/
def machine : Machine (Tables Name Id Val) (RowChange Name Id Val Cause) where
  step db c := (c.op.apply (db c.table)).map fun rows => Function.update db c.table rows

/-- By how much the number of rows of a table grows in one change. -/
def gainAt (table : Name) (c : RowChange Name Id Val Cause) : ℤ :=
  if c.table = table then c.op.gain else 0

/-- By how much the number of rows of a table grows. -/
def net (table : Name) (changes : List (RowChange Name Id Val Cause)) : ℤ :=
  (changes.map (gainAt table)).sum

variable {db db' : Tables Name Id Val} {changes : List (RowChange Name Id Val Cause)}
  {cause : Cause} {table : Name}

omit [DecidableEq Cause] in
theorem length_step {c : RowChange Name Id Val Cause} (h : machine.step db c = some db')
    (table : Name) : ((db' table).length : ℤ) = (db table).length + gainAt table c := by
  obtain ⟨rows, hrows, rfl⟩ := Option.map_eq_some_iff.mp h
  unfold gainAt
  by_cases htable : c.table = table
  · subst htable
    rw [Function.update_self, if_pos rfl]
    exact RowOp.length_apply hrows
  · rw [Function.update_of_ne (Ne.symm htable), if_neg htable, Int.add_zero]

omit [DecidableEq Cause] in
/-- The number of rows afterwards. -/
theorem length_exec (h : machine.exec db changes = some db') (table : Name) :
    ((db' table).length : ℤ) = (db table).length + net table changes := by
  induction changes generalizing db with
  | nil =>
    obtain rfl := Option.some.inj h
    simp [net]
  | cons c changes ih =>
    obtain ⟨mid, hstep, hrest⟩ := machine.exec_cons_eq_some.mp h
    rw [ih hrest, length_step hstep table]
    simp [net, Int.add_assoc]

/-! ## What a cause does to a table -/

/-- The changes of one table by one cause. -/
def own (cause : Cause) (table : Name) (changes : List (RowChange Name Id Val Cause)) :
    List (RowOp Id Val) :=
  (changes.filter fun c => c.cause = cause ∧ c.table = table).map (·.op)

/-- The rows that the cause inserts into the table. -/
def inserted (cause : Cause) (table : Name) (changes : List (RowChange Name Id Val Cause)) : ℕ :=
  (own cause table changes).countP RowOp.isInsert

/-- The rows that the cause deletes from the table. -/
def deleted (cause : Cause) (table : Name) (changes : List (RowChange Name Id Val Cause)) : ℕ :=
  (own cause table changes).countP RowOp.isDelete

/-- The rows that the cause updates in the table, and neither inserts nor deletes. -/
def updated (cause : Cause) (table : Name) (changes : List (RowChange Name Id Val Cause)) : ℕ :=
  let ops := own cause table changes
  let others := (ops.filter fun op => !op.isUpdate).map RowOp.id
  (((ops.filter RowOp.isUpdate).map RowOp.id).filter (· ∉ others)).dedup.length

/-- The rows of the table that the cause inserts, deletes or updates. -/
def touched (cause : Cause) (table : Name) (changes : List (RowChange Name Id Val Cause)) : ℕ :=
  inserted cause table changes + deleted cause table changes + updated cause table changes

/-- By how much the number of rows grows through all other causes. -/
def netOfOthers (cause : Cause) (table : Name)
    (changes : List (RowChange Name Id Val Cause)) : ℤ :=
  net table (changes.filter fun c => c.cause ≠ cause)

omit [DecidableEq Id] in
theorem own_cons (c : RowChange Name Id Val Cause) :
    own cause table (c :: changes) =
      if c.cause = cause ∧ c.table = table then c.op :: own cause table changes
      else own cause table changes := by
  unfold own
  rw [List.filter_cons]
  split_ifs with h h' h'
  · rfl
  · exact absurd (of_decide_eq_true h) h'
  · exact absurd (decide_eq_true h') h
  · rfl

omit [DecidableEq Id] in
theorem netOfOthers_cons (c : RowChange Name Id Val Cause) :
    netOfOthers cause table (c :: changes) =
      (if c.cause = cause then 0 else gainAt table c) + netOfOthers cause table changes := by
  unfold netOfOthers
  rw [List.filter_cons]
  by_cases h : c.cause = cause <;> simp [h, net]

omit [DecidableEq Id] in
/-- The growth, of what the cause does and of everything else. -/
theorem net_eq (cause : Cause) (table : Name) (changes : List (RowChange Name Id Val Cause)) :
    net table changes = inserted cause table changes - deleted cause table changes +
      netOfOthers cause table changes := by
  induction changes with
  | nil => rfl
  | cons c changes ih =>
    have hcons : net table (c :: changes) = gainAt table c + net table changes := by simp [net]
    rw [hcons, ih, netOfOthers_cons]
    unfold inserted deleted
    rw [own_cons]
    by_cases hown : c.cause = cause ∧ c.table = table
    · -- a change of the cause itself counts among its own
      rw [if_pos hown, if_pos hown.1, gainAt, if_pos hown.2, List.countP_cons, List.countP_cons]
      cases c.op <;> simp only [RowOp.gain, RowOp.isInsert, RowOp.isDelete] <;> grind
    · -- any other moves this table through the others, if at all
      have hother : gainAt table c = if c.cause = cause then 0 else gainAt table c := by
        split_ifs with hcause
        · exact if_neg fun htable => hown ⟨hcause, htable⟩
        · rfl
      rw [if_neg hown, ← hother]
      omega

/-- What the other causes add or take balances what the cause itself does to the number of
rows. -/
def Balanced (cause : Cause) (table : Name) (changes : List (RowChange Name Id Val Cause)) :
    Prop :=
  netOfOthers cause table changes =
      updated cause table changes + 2 * deleted cause table changes ∨
    netOfOthers cause table changes =
      -(updated cause table changes + 2 * inserted cause table changes)

instance : Decidable (Balanced cause table changes) := inferInstanceAs (Decidable (_ ∨ _))

/-- The number of rows moves by as many as the cause touches exactly when it is balanced. -/
theorem abs_net_eq_touched_iff :
    |net table changes| = touched cause table changes ↔ Balanced cause table changes := by
  have hnet := net_eq cause table changes
  unfold Balanced touched
  rw [abs_eq (Int.natCast_nonneg _), hnet]
  omega

end RowChange
