import ContraGate.Library.SqlLex

/-!
# Where the statements of a text begin

`heads` finds the keywords that begin a statement, at any nesting level: the first word, the
statement behind `EXPLAIN`, the parts and the main statement of a `WITH`, a query in
parentheses, and what follows a `;`. A keyword in another place begins none (a column
called `update`, the lock of `FOR UPDATE`).
-/

namespace Sql

/-- What counts for the grammar. -/
inductive Token
  | word (keyword : String)
  | symbol (c : Char)
  | quoted
deriving DecidableEq

/-- White space and comments are no tokens. -/
def token? : Piece → Option Token
  | .word chars => some (.word (String.ofList (chars.map Char.toUpper)))
  | .symbol c => if isSpace c then none else some (.symbol c)
  | .line _ | .block _ => none
  | .single _ | .double _ _ | .dollar _ _ | .unclosed _ => some .quoted

/-- The place in a statement. -/
inductive Mode
  /-- A statement begins here. -/
  | start
  /-- Behind `EXPLAIN`, and in the parentheses there (options, or a query). -/
  | explain | options
  /-- `WITH` and the commas of its list; a name, up to `AS`; up to the parenthesis. -/
  | partName | partAs | partBody
  /-- Behind the parenthesis of a part. -/
  | partEnd
  /-- `SEARCH` and `CYCLE`, up to `SET`; the operand of `SET`, `TO`, `DEFAULT` or `USING`. -/
  | clause | operand
  /-- `PREPARE` and `DECLARE`, up to the word before the statement. -/
  | until (keyword : String)
  /-- Behind `COPY`. -/
  | copy
  /-- Behind an opening parenthesis inside a statement. -/
  | paren
  /-- Anywhere else. -/
  | body
deriving DecidableEq

/-- The modes to go back to are those of the open parentheses. -/
structure Place where
  mode : Mode
  back : List Mode

namespace Place

def enter (p : Place) (inner outer : Mode) : Place := { mode := inner, back := outer :: p.back }

def leave (p : Place) : Place := { mode := p.back.headD .body, back := p.back.tail }

/-- A statement begins with the word `w`. -/
def begin (p : Place) (w : String) : Place :=
  match w with
  | "EXPLAIN" => { p with mode := .explain }
  | "WITH" => { p with mode := .partName }
  | "PREPARE" => { p with mode := .until "AS" }
  | "DECLARE" => { p with mode := .until "FOR" }
  | "COPY" => { p with mode := .copy }
  | _ => { p with mode := .body }

end Place

/-- A word that begins a query. -/
def isQuery (w : String) : Bool := w ∈ ["SELECT", "WITH", "VALUES", "TABLE"]

/-- The next token; the keyword is the one that begins a statement, if it does. -/
def Place.step (p : Place) : Token → Place × Option String
  | .symbol ';' => ({ mode := .start, back := [] }, none)
  | .symbol ')' => (p.leave, none)
  | token =>
    match p.mode, token with
    | .start, .word w => (p.begin w, some w)
    | .start, .symbol '(' => (p.enter .paren .body, none)
    | .explain, .word w =>
      if w ∈ ["ANALYZE", "ANALYSE", "VERBOSE"] then (p, none) else (p.begin w, some w)
    | .explain, .symbol '(' => (p.enter .options .body, none)
    | .options, .word w =>
      if isQuery w then (p.begin w, some w)
      -- the statement comes behind the options
      else ({ mode := .body, back := .start :: p.back.tail }, none)
    | .partName, _ => ({ p with mode := .partAs }, none)
    | .partAs, .word "AS" => ({ p with mode := .partBody }, none)
    | .partAs, .symbol '(' => (p.enter .body .partAs, none)
    | .partBody, .symbol '(' => (p.enter .start .partEnd, none)
    | .partEnd, .word w =>
      if w ∈ ["SEARCH", "CYCLE"] then ({ p with mode := .clause }, none)
      else if w ∈ ["TO", "DEFAULT", "USING"] then ({ p with mode := .operand }, none)
      else (p.begin w, some w)
    | .partEnd, .symbol ',' => ({ p with mode := .partName }, none)
    | .clause, .word "SET" => ({ p with mode := .operand }, none)
    | .operand, _ => ({ p with mode := .partEnd }, none)
    | .until keyword, .word w =>
      if w = keyword then ({ p with mode := .start }, none) else (p, none)
    | .until keyword, .symbol '(' => (p.enter .body (.until keyword), none)
    | .copy, .symbol '(' => (p.enter .start .body, none)
    | .copy, _ => ({ p with mode := .body }, none)
    | .paren, .word w =>
      if isQuery w then (p.begin w, some w) else ({ p with mode := .body }, none)
    | .paren, .quoted => ({ p with mode := .body }, none)
    | _, .symbol '(' => (p.enter .paren .body, none)
    | .paren, _ => ({ p with mode := .body }, none)
    | _, _ => (p, none)

/-- A piece moves on if it is a token. -/
def Place.next (p : Place) (piece : Piece) : Place × Option String :=
  ((token? piece).map p.step).getD (p, none)

/-- The keywords that begin statements in a text read from `p` on. -/
def Place.heads (p : Place) : List Piece → List String
  | [] => []
  | piece :: rest => (p.next piece).2.toList ++ (p.next piece).1.heads rest

/-- The place behind a text. -/
def Place.after (p : Place) (pieces : List Piece) : Place :=
  pieces.foldl (fun q piece => (q.next piece).1) p

/-- Before the first word. -/
def Place.origin : Place := { mode := .start, back := [] }

/-- The keywords that begin the statements of a text. -/
def heads (pieces : List Piece) : List String := Place.origin.heads pieces

/-- The keywords of statements that write: data-modifying statements and DDL. -/
def isWrite (keyword : String) : Bool :=
  keyword ∈ ["INSERT", "UPDATE", "DELETE", "MERGE", "CREATE", "ALTER", "DROP", "TRUNCATE"]

/-- No statement of the text writes. -/
def NoWrite (pieces : List Piece) : Prop := ∀ keyword ∈ heads pieces, ¬ isWrite keyword

instance (pieces : List Piece) : Decidable (NoWrite pieces) := List.decidableBAll _ _

end Sql
