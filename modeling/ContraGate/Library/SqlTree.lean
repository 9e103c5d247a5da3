import Mathlib.Data.List.Forall2
import ContraGate.Library.SqlLex

/-!
# Statements and the base tables they refer to

Syntax trees of SQL statements, as far as their base tables are concerned: expressions and
options are lists of keywords, lexical pieces and subqueries. A tree has a list of tokens, and
a text renders the tree if the lexer reads these tokens from it, with white space and comments
between them.
-/

namespace SqlTree

/-- A name as it is written; a quoted one is split at its `""`. -/
inductive Name
  | plain (text : List Char)
  | quoted (segment : List Char) (more : List (List Char))
deriving DecidableEq

/-- The characters of the name. -/
def Name.text : Name → List Char
  | plain text => text
  | quoted segment more => segment ++ more.flatMap fun s => '"' :: s

/-- A reference to a base table. -/
structure TableRef where
  only : Bool := false
  /-- The schema, or the database and the schema. -/
  qualifiers : List Name := []
  name : Name

inductive Token
  /-- A keyword, in any letter case. -/
  | keyword (text : String)
  /-- The unqualified name in a reference to a base table. -/
  | table (name : Name)
  | piece (p : Sql.Piece)

/-! ## Trees -/

mutual

inductive Query
  | select (ctes : List Cte) (targets : List Item) (tables : List FromItem) (rest : List Item)
  /-- Two queries with `UNION`, `INTERSECT` or `EXCEPT` between them. -/
  | combine (left : Query) (op : List String) (right : Query)

/-- One part of a `WITH` list. -/
inductive Cte
  | mk (name : Name) (query : Query)

inductive FromItem
  /-- A table; `after` is its alias, as for the other kinds. -/
  | table (ref : TableRef) (after : List Item)
  /-- A reference to a part of the `WITH` list. -/
  | cte (name : Name) (after : List Item)
  | subquery (query : Query) (after : List Item)
  /-- `left <kind> JOIN right <condition>`. -/
  | join (left : FromItem) (kind : List String) (right : FromItem) (condition : List Item)
  | parens (item : FromItem)

/-- A part of an expression, a clause or an option. -/
inductive Item
  | keyword (text : String)
  | piece (p : Sql.Piece)
  | subquery (query : Query)

end

inductive Statement
  | query (q : Query)
  | withs (ctes : List Cte) (s : Statement)
  | insert (target : TableRef) (columns : List Item) (source : Option Query) (rest : List Item)
  | update (target : TableRef) (set : List Item) (tables : List FromItem) (rest : List Item)
  | delete (target : TableRef) (after : List Item) (others : List FromItem) (rest : List Item)
  /-- `TRUNCATE [TABLE] targets`. -/
  | truncate (word : Bool) (targets : List TableRef) (rest : List Item)
  /-- `CREATE | ALTER | DROP .. TABLE [IF [NOT] EXISTS] targets ..`. -/
  | tableDdl (verb : String) (before : List Item) (exists? : List String)
    (targets : List TableRef) (rest : List Item)

/-! ## Tokens -/

def Name.piece : Name → Sql.Piece
  | plain text => .word text
  | quoted segment more => .double segment more

def symbol (c : Char) : Token := .piece (.symbol c)

def keywords (words : List String) : List Token := words.map .keyword

def TableRef.tokens (ref : TableRef) : List Token :=
  (if ref.only then [.keyword "ONLY"] else []) ++
    (ref.qualifiers.flatMap fun n => [.piece n.piece, symbol '.']) ++ [.table ref.name]

/-- References with commas between them. -/
def refsTokens : List TableRef → List Token
  | [] => []
  | ref :: refs => ref.tokens ++ refs.flatMap fun r => symbol ',' :: r.tokens

mutual

def Query.tokens : Query → List Token
  | .select ctes targets tables rest =>
    withTokens ctes ++ (.keyword "SELECT" :: itemsTokens targets) ++
      tablesTokens "FROM" tables ++ itemsTokens rest
  | .combine left op right => left.tokens ++ keywords op ++ right.tokens

def Cte.tokens : Cte → List Token
  | .mk name query =>
    [.piece name.piece, .keyword "AS", symbol '('] ++ query.tokens ++ [symbol ')']

/-- The `WITH` list. -/
def withTokens : List Cte → List Token
  | [] => []
  | cte :: ctes => (.keyword "WITH" :: cte.tokens) ++ moreCtesTokens ctes

def moreCtesTokens : List Cte → List Token
  | [] => []
  | cte :: ctes => (symbol ',' :: cte.tokens) ++ moreCtesTokens ctes

def FromItem.tokens : FromItem → List Token
  | .table ref after => ref.tokens ++ itemsTokens after
  | .cte name after => .piece name.piece :: itemsTokens after
  | .subquery query after => (symbol '(' :: query.tokens) ++ (symbol ')' :: itemsTokens after)
  | .join left kind right condition =>
    left.tokens ++ keywords kind ++ (.keyword "JOIN" :: right.tokens) ++ itemsTokens condition
  | .parens item => (symbol '(' :: item.tokens) ++ [symbol ')']

/-- A list of tables behind the keyword that introduces it. -/
def tablesTokens (introducedBy : String) : List FromItem → List Token
  | [] => []
  | item :: items => (.keyword introducedBy :: item.tokens) ++ moreTablesTokens items

def moreTablesTokens : List FromItem → List Token
  | [] => []
  | item :: items => (symbol ',' :: item.tokens) ++ moreTablesTokens items

def Item.tokens : Item → List Token
  | .keyword text => [.keyword text]
  | .piece p => [.piece p]
  | .subquery query => (symbol '(' :: query.tokens) ++ [symbol ')']

def itemsTokens : List Item → List Token
  | [] => []
  | item :: items => item.tokens ++ itemsTokens items

end

def Statement.tokens : Statement → List Token
  | .query q => q.tokens
  | .withs ctes s => withTokens ctes ++ s.tokens
  | .insert target columns source rest =>
    [.keyword "INSERT", .keyword "INTO"] ++ target.tokens ++ itemsTokens columns ++
      (source.elim [] Query.tokens) ++ itemsTokens rest
  | .update target set tables rest =>
    (.keyword "UPDATE" :: target.tokens) ++ itemsTokens set ++ tablesTokens "FROM" tables ++
      itemsTokens rest
  | .delete target after others rest =>
    [.keyword "DELETE", .keyword "FROM"] ++ target.tokens ++ itemsTokens after ++
      tablesTokens "USING" others ++ itemsTokens rest
  | .truncate word targets rest =>
    (.keyword "TRUNCATE" :: if word then [.keyword "TABLE"] else []) ++ refsTokens targets ++
      itemsTokens rest
  | .tableDdl verb before exists? targets rest =>
    (.keyword verb :: itemsTokens before) ++
      (.keyword "TABLE" :: (keywords exists? ++ refsTokens targets)) ++ itemsTokens rest

def Token.table? : Token → Option Name
  | table name => some name
  | _ => none

/-- The names of the base tables that a statement refers to. -/
def Statement.tables (s : Statement) : List Name := s.tokens.filterMap Token.table?

/-! ## References directly behind a keyword -/

/-- The name, if it is neither quoted nor qualified and there is no `ONLY` before it. -/
def TableRef.plain? : TableRef → Option (List Char)
  | { only := false, qualifiers := [], name := .plain text } => some text
  | _ => none

/-- The table with which an entry of a `FROM` list begins, if it is a plain one. -/
def FromItem.first : FromItem → Option (List Char)
  | .table ref _ => ref.plain?
  | .join left _ _ _ => left.first
  | _ => none

def firstTable (tables : List FromItem) : Option (List Char) := tables.head?.bind FromItem.first

/-- The keywords behind which a table can stand. -/
inductive Introducer
  | fromTables | join | into | update | table | truncate

def Introducer.keyword : Introducer → String
  | fromTables => "FROM"
  | join => "JOIN"
  | into => "INTO"
  | update => "UPDATE"
  | table => "TABLE"
  | truncate => "TRUNCATE"

/-- A name behind a keyword. -/
def behind (k : Introducer) (name : Option (List Char)) : List (Introducer × List Char) :=
  name.toList.map fun text => (k, text)

mutual

/-- The plain references with the keyword directly before them. -/
def Query.direct : Query → List (Introducer × List Char)
  | .select ctes targets tables rest =>
    ctesDirect ctes ++ itemsDirect targets ++ behind .fromTables (firstTable tables) ++
      tablesDirect tables ++ itemsDirect rest
  | .combine left _ right => left.direct ++ right.direct

def Cte.direct : Cte → List (Introducer × List Char)
  | .mk _ query => query.direct

def ctesDirect : List Cte → List (Introducer × List Char)
  | [] => []
  | cte :: ctes => cte.direct ++ ctesDirect ctes

def FromItem.direct : FromItem → List (Introducer × List Char)
  | .table _ after | .cte _ after => itemsDirect after
  | .subquery query after => query.direct ++ itemsDirect after
  | .join left _ right condition =>
    left.direct ++ behind .join right.first ++ right.direct ++ itemsDirect condition
  | .parens item => item.direct

def tablesDirect : List FromItem → List (Introducer × List Char)
  | [] => []
  | item :: items => item.direct ++ tablesDirect items

def Item.direct : Item → List (Introducer × List Char)
  | .subquery query => query.direct
  | _ => []

def itemsDirect : List Item → List (Introducer × List Char)
  | [] => []
  | item :: items => item.direct ++ itemsDirect items

end

def Statement.direct : Statement → List (Introducer × List Char)
  | .query q => q.direct
  | .withs ctes s => ctesDirect ctes ++ s.direct
  | .insert target columns source rest =>
    behind .into target.plain? ++ itemsDirect columns ++ (source.elim [] Query.direct) ++
      itemsDirect rest
  | .update target set tables rest =>
    behind .update target.plain? ++ itemsDirect set ++ behind .fromTables (firstTable tables) ++
      tablesDirect tables ++ itemsDirect rest
  | .delete target after others rest =>
    behind .fromTables target.plain? ++ itemsDirect after ++ tablesDirect others ++ itemsDirect rest
  | .truncate word targets rest =>
    behind (if word then .table else .truncate) (targets.head?.bind TableRef.plain?) ++
      itemsDirect rest
  | .tableDdl _ before exists? targets rest =>
    itemsDirect before ++
      (if exists?.isEmpty then behind .table (targets.head?.bind TableRef.plain?) else []) ++
      itemsDirect rest

/-- The keyword stands directly before the plain name of a table. -/
def Adjacent (k : Introducer) (name : List Char) (tokens : List Token) : Prop :=
  [.keyword k.keyword, .table (.plain name)] <:+: tokens

section Adjacent

variable {k : Introducer} {name : List Char} {a b tokens : List Token}

theorem Adjacent.left (h : Adjacent k name a) : Adjacent k name (a ++ b) :=
  h.trans (List.infix_append [] a b)

theorem Adjacent.right (h : Adjacent k name b) : Adjacent k name (a ++ b) := by
  have hinfix := List.infix_append a b []
  rw [List.append_nil] at hinfix
  exact h.trans hinfix

theorem Adjacent.cons {t : Token} (h : Adjacent k name a) : Adjacent k name (t :: a) :=
  h.right (a := [t])

theorem adjacent_cons_cons : Adjacent k name (.keyword k.keyword :: .table (.plain name) :: a) :=
  ⟨[], a, rfl⟩

theorem mem_behind {k' : Introducer} {o : Option (List Char)} :
    (k, name) ∈ behind k' o ↔ k = k' ∧ o = some name := by
  cases o with
  | none => simp [behind]
  | some text => simp [behind, eq_comm]

theorem TableRef.tokens_of_plain? {ref : TableRef} (h : ref.plain? = some name) :
    ref.tokens = [.table (.plain name)] := by
  obtain ⟨only, qualifiers, written⟩ := ref
  unfold TableRef.plain? at h
  split at h
  · rename_i text heq
    obtain ⟨rfl, rfl, rfl⟩ := TableRef.mk.inj heq
    obtain rfl := Option.some.inj h
    rfl
  · cases h

/-- An entry that begins with a plain table has its name as the first token. -/
theorem FromItem.tokens_of_first : ∀ (item : FromItem), item.first = some name →
    ∃ rest, item.tokens = .table (.plain name) :: rest
  | .table ref after, h => by
    rw [FromItem.tokens, TableRef.tokens_of_plain? h]
    exact ⟨_, rfl⟩
  | .join left kind right condition, h => by
    obtain ⟨rest, hrest⟩ := FromItem.tokens_of_first left h
    rw [FromItem.tokens, hrest]
    exact ⟨_, rfl⟩
  | .cte _ _, h | .subquery _ _, h | .parens _, h => by cases h

theorem adjacent_tablesTokens {tables : List FromItem} (h : firstTable tables = some name) :
    Adjacent k name (tablesTokens k.keyword tables) := by
  obtain ⟨item, hhead, hfirst⟩ := Option.bind_eq_some_iff.mp h
  obtain ⟨items, rfl⟩ := List.head?_eq_some_iff.mp hhead
  obtain ⟨rest, hrest⟩ := FromItem.tokens_of_first item hfirst
  rw [tablesTokens, hrest]
  exact adjacent_cons_cons.left

theorem adjacent_refsTokens {refs : List TableRef}
    (h : refs.head?.bind TableRef.plain? = some name) :
    Adjacent k name (.keyword k.keyword :: refsTokens refs) := by
  obtain ⟨ref, hhead, hplain⟩ := Option.bind_eq_some_iff.mp h
  obtain ⟨others, rfl⟩ := List.head?_eq_some_iff.mp hhead
  rw [refsTokens, TableRef.tokens_of_plain? hplain]
  exact adjacent_cons_cons

mutual

theorem Query.adjacent_of_direct : ∀ (q : Query), (k, name) ∈ q.direct → Adjacent k name q.tokens
  | .select ctes targets tables rest, h => by
    rw [Query.direct] at h
    rw [Query.tokens]
    simp only [List.mem_append] at h
    rcases h with (((h | h) | h) | h) | h
    · exact (ctes_adjacent ctes h).left.left.left
    · exact (items_adjacent targets h).cons.right.left.left
    · obtain ⟨rfl, hfirst⟩ := mem_behind.mp h
      exact (adjacent_tablesTokens hfirst).right.left
    · exact (tables_adjacent tables h).right.left
    · exact (items_adjacent rest h).right
  | .combine left op right, h => by
    rw [Query.direct, List.mem_append] at h
    rw [Query.tokens]
    rcases h with h | h
    · exact (Query.adjacent_of_direct left h).left.left
    · exact (Query.adjacent_of_direct right h).right

theorem Cte.adjacent_of_direct : ∀ (cte : Cte), (k, name) ∈ cte.direct →
    Adjacent k name cte.tokens
  | .mk _ query, h => by
    rw [Cte.tokens]
    exact (Query.adjacent_of_direct query h).right.left

theorem moreCtes_adjacent : ∀ (ctes : List Cte), (k, name) ∈ ctesDirect ctes →
    Adjacent k name (moreCtesTokens ctes)
  | [], h => nomatch h
  | cte :: ctes, h => by
    rw [ctesDirect, List.mem_append] at h
    rw [moreCtesTokens]
    rcases h with h | h
    · exact (Cte.adjacent_of_direct cte h).cons.left
    · exact (moreCtes_adjacent ctes h).right

theorem ctes_adjacent : ∀ (ctes : List Cte), (k, name) ∈ ctesDirect ctes →
    Adjacent k name (withTokens ctes)
  | [], h => nomatch h
  | cte :: ctes, h => by
    rw [ctesDirect, List.mem_append] at h
    rw [withTokens]
    rcases h with h | h
    · exact (Cte.adjacent_of_direct cte h).cons.left
    · exact (moreCtes_adjacent ctes h).right

theorem FromItem.adjacent_of_direct : ∀ (item : FromItem), (k, name) ∈ item.direct →
    Adjacent k name item.tokens
  | .table _ after, h => by
    rw [FromItem.tokens]
    exact (items_adjacent after h).right
  | .cte _ after, h => by
    rw [FromItem.tokens]
    exact (items_adjacent after h).cons
  | .subquery query after, h => by
    rw [FromItem.direct, List.mem_append] at h
    rw [FromItem.tokens]
    rcases h with h | h
    · exact (Query.adjacent_of_direct query h).cons.left
    · exact (items_adjacent after h).cons.right
  | .join left kind right condition, h => by
    rw [FromItem.direct] at h
    simp only [List.mem_append] at h
    rw [FromItem.tokens]
    -- on the left, directly behind `JOIN`, deeper on the right, in the condition
    rcases h with ((h | h) | h) | h
    · exact (FromItem.adjacent_of_direct left h).left.left.left
    · obtain ⟨rfl, hfirst⟩ := mem_behind.mp h
      obtain ⟨rest, hrest⟩ := FromItem.tokens_of_first right hfirst
      rw [hrest]
      exact adjacent_cons_cons.right.left
    · exact (FromItem.adjacent_of_direct right h).cons.right.left
    · exact (items_adjacent condition h).right
  | .parens item, h => by
    rw [FromItem.tokens]
    exact (FromItem.adjacent_of_direct item h).cons.left

theorem moreTables_adjacent : ∀ (tables : List FromItem), (k, name) ∈ tablesDirect tables →
    Adjacent k name (moreTablesTokens tables)
  | [], h => nomatch h
  | item :: items, h => by
    rw [tablesDirect, List.mem_append] at h
    rw [moreTablesTokens]
    rcases h with h | h
    · exact (FromItem.adjacent_of_direct item h).cons.left
    · exact (moreTables_adjacent items h).right

theorem tables_adjacent {introducedBy : String} : ∀ (tables : List FromItem),
    (k, name) ∈ tablesDirect tables → Adjacent k name (tablesTokens introducedBy tables)
  | [], h => nomatch h
  | item :: items, h => by
    rw [tablesDirect, List.mem_append] at h
    rw [tablesTokens]
    rcases h with h | h
    · exact (FromItem.adjacent_of_direct item h).cons.left
    · exact (moreTables_adjacent items h).right

theorem Item.adjacent_of_direct : ∀ (item : Item), (k, name) ∈ item.direct →
    Adjacent k name item.tokens
  | .keyword _, h | .piece _, h => nomatch h
  | .subquery query, h => by
    rw [Item.tokens]
    exact (Query.adjacent_of_direct query h).cons.left

theorem items_adjacent : ∀ (items : List Item), (k, name) ∈ itemsDirect items →
    Adjacent k name (itemsTokens items)
  | [], h => nomatch h
  | item :: items, h => by
    rw [itemsDirect, List.mem_append] at h
    rw [itemsTokens]
    rcases h with h | h
    · exact (Item.adjacent_of_direct item h).left
    · exact (items_adjacent items h).right

end

/-- In the tokens of a statement, a plain reference has its keyword directly before it. -/
theorem Statement.adjacent_of_direct {s : Statement} (h : (k, name) ∈ s.direct) :
    Adjacent k name s.tokens := by
  induction s with
  | query q => exact q.adjacent_of_direct h
  | withs ctes s ih =>
    rw [Statement.direct, List.mem_append] at h
    rw [Statement.tokens]
    rcases h with h | h
    · exact (ctes_adjacent ctes h).left
    · exact (ih h).right
  | insert target columns source rest =>
    rw [Statement.direct] at h
    simp only [List.mem_append] at h
    rw [Statement.tokens]
    rcases h with ((h | h) | h) | h
    · obtain ⟨rfl, hplain⟩ := mem_behind.mp h
      rw [TableRef.tokens_of_plain? hplain]
      exact adjacent_cons_cons.cons.left.left.left
    · exact (items_adjacent columns h).right.left.left
    · cases source with
      | none => cases h
      | some query => exact (query.adjacent_of_direct h).right.left
    · exact (items_adjacent rest h).right
  | update target set tables rest =>
    rw [Statement.direct] at h
    simp only [List.mem_append] at h
    rw [Statement.tokens]
    rcases h with (((h | h) | h) | h) | h
    · obtain ⟨rfl, hplain⟩ := mem_behind.mp h
      rw [TableRef.tokens_of_plain? hplain]
      exact adjacent_cons_cons.left.left.left
    · exact (items_adjacent set h).right.left.left
    -- `FROM` stands directly before the first of the other tables
    · obtain ⟨rfl, hfirst⟩ := mem_behind.mp h
      exact (adjacent_tablesTokens hfirst).right.left
    · exact (tables_adjacent tables h).right.left
    · exact (items_adjacent rest h).right
  | delete target after others rest =>
    rw [Statement.direct] at h
    simp only [List.mem_append] at h
    rw [Statement.tokens]
    rcases h with ((h | h) | h) | h
    · obtain ⟨rfl, hplain⟩ := mem_behind.mp h
      rw [TableRef.tokens_of_plain? hplain]
      exact adjacent_cons_cons.cons.left.left.left
    · exact (items_adjacent after h).right.left.left
    · exact (tables_adjacent others h).right.left
    · exact (items_adjacent rest h).right
  | truncate word targets rest =>
    rw [Statement.direct, List.mem_append] at h
    rw [Statement.tokens]
    rcases h with h | h
    · obtain ⟨rfl, hfirst⟩ := mem_behind.mp h
      -- with or without the optional `TABLE` between verb and name
      cases word with
      | false => exact (adjacent_refsTokens hfirst).left
      | true => exact (adjacent_refsTokens hfirst).cons.left
    · exact (items_adjacent rest h).right
  | tableDdl verb before exists? targets rest =>
    rw [Statement.direct] at h
    simp only [List.mem_append] at h
    rw [Statement.tokens]
    rcases h with (h | h) | h
    · exact (items_adjacent before h).cons.left.left
    -- behind `IF EXISTS` no reference counts as direct
    · split at h
      · rename_i hempty
        obtain ⟨rfl, hfirst⟩ := mem_behind.mp h
        obtain rfl := List.isEmpty_iff.mp hempty
        exact (adjacent_refsTokens hfirst).right.left
      · cases h
    · exact (items_adjacent rest h).right

theorem Statement.mem_tables_of_direct {s : Statement} (h : (k, name) ∈ s.direct) :
    .plain name ∈ s.tables := by
  have hmem : Token.table (.plain name) ∈ s.tokens :=
    (s.adjacent_of_direct h).subset (List.mem_cons_of_mem _ (List.mem_singleton_self _))
  exact List.mem_filterMap.mpr ⟨_, hmem, rfl⟩

end Adjacent

/-! ## Renderings -/

/-- The lexer reads the token as this piece. -/
def Token.spells : Token → Sql.Piece → Bool
  | .keyword text, .word w => w.map Char.toUpper == text.toList
  | .keyword _, _ => false
  | .table name, p => p == name.piece
  | .piece q, p => p == q

/-- White space or a comment. -/
def isGap : Sql.Piece → Bool
  | .symbol c => Sql.isSpace c
  | .line _ | .block _ => true
  | _ => false

/-- The text is a rendering of the tokens. -/
def Renders (tokens : List Token) (text : List Char) : Prop :=
  List.Forall₂ (fun t p => t.spells p = true) tokens ((Sql.lex text).filter fun p => !isGap p)

/-- Where a rendering has the keyword and the name, with nothing but gaps between them. -/
theorem Renders.place {tokens : List Token} {text : List Char} {k : Introducer}
    {name : List Char} (h : Renders tokens text) (hadjacent : Adjacent k name tokens) :
    ∃ before kw mid after,
      Sql.lex text = before ++ .word kw :: (mid ++ .word name :: after) ∧
      (∀ p ∈ mid, isGap p = true) ∧ kw.map Char.toUpper = k.keyword.toList := by
  obtain ⟨pre, post, rfl⟩ := hadjacent
  unfold Renders at h
  rw [List.append_assoc] at h
  set pieces := (Sql.lex text).filter fun p => !isGap p with hpieces
  -- the pieces that are no gaps follow the tokens one by one
  have hdrop := List.forall₂_drop_append pieces pre _ h.flip
  obtain ⟨p, ps, hp, hps, hdropEq⟩ := List.forall₂_cons_right_iff.mp hdrop
  obtain ⟨q, qs, hq, -, rfl⟩ := List.forall₂_cons_right_iff.mp hps
  have hkw : ∃ kw, p = .word kw ∧ kw.map Char.toUpper = k.keyword.toList := by
    cases p with
    | word kw => exact ⟨kw, rfl, by simpa [Token.spells] using hp⟩
    | _ => cases hp
  obtain ⟨kw, rfl, hspelled⟩ := hkw
  obtain rfl : q = .word name := by simpa [Token.spells, Name.piece] using hq
  have hfilter : (Sql.lex text).filter (fun p => !isGap p) =
      pieces.take pre.length ++ .word kw :: .word name :: qs := by
    rw [← hpieces, ← hdropEq, List.take_append_drop]
  -- back to all pieces: what the filter took away between the two are gaps
  obtain ⟨before, behind, hlex, -, hbehind⟩ := List.filter_eq_append_iff.mp hfilter
  obtain ⟨gap, rest, rfl, hgap, -, hrest⟩ := List.filter_eq_cons_iff.mp hbehind
  obtain ⟨mid, after, rfl, hmid, -, -⟩ := List.filter_eq_cons_iff.mp hrest
  refine ⟨before ++ gap, kw, mid, after, ?_, ?_, hspelled⟩
  · rw [hlex, List.append_assoc]
  · intro p hp
    simpa using hmid p hp

end SqlTree
