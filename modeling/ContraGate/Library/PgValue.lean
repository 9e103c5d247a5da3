import Mathlib.Algebra.Group.Int.Defs

/-!
# Which values PostgreSQL takes

Texts, integers and limits; any other makes the statement fail.
-/

namespace Pg

/-- A text, or a string in a `jsonb` value: it has no NUL in it. -/
def isText (s : String) : Bool := !s.toList.contains (Char.ofNat 0)

/-- A value of an `INT` column. -/
def isInt4 (n : ℤ) : Bool := -2 ^ 31 ≤ n && n < 2 ^ 31

/-- A number of rows for `LIMIT` or `OFFSET`. -/
def isLimit (n : ℤ) : Bool := 0 ≤ n && n < 2 ^ 63

end Pg
