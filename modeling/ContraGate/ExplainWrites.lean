import ContraGate.ExplainTarget
import ContraGate.Library.SqlStatements

/-!
# Whether EXPLAIN can write

`run_explain` sends its argument behind an `EXPLAIN`, and with `analyze` PostgreSQL runs it.
The validator looks at the first word only; the statements nested in the text, the parts of
a `WITH` above all, may write.
-/

namespace ExplainParser

open Sql

/-! ## The text that is sent -/

/-- A connection to a table of names, which any statement that writes empties. -/
def sampleConnection : Connection (List String) String where
  execute text db :=
    if NoWrite (lex text.toList) then (db, .ok (some "[plan]")) else ([], .ok (some "[plan]"))

end ExplainParser
