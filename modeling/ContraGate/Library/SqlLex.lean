import ContraGate.Library.Scan

/-!
# The lexical structure of PostgreSQL

`lex` reads a text in a single left-to-right scan into pieces: unquoted words, quoted
constructs and comments, and single characters for the rest (operators, digits, white
space). No piece is dropped: `text_lex` gives the text back.

The rules: `''` and `""` stand for one quote and a backslash is an ordinary character;
`$tag$` opens a dollar-quoted string unless the `$` belongs to a word; a `--` comment ends
before the line end, and `/* */` comments nest.
-/

namespace Sql

/-- A letter, an underscore, or any character beyond ASCII. -/
def isIdentStart (c : Char) : Bool := c.isAlpha || c == '_' || 128 ≤ c.toNat

def isIdentCont (c : Char) : Bool := isIdentStart c || c.isDigit || c == '$'

/-- The characters of a dollar-quote tag. -/
def isTagCont (c : Char) : Bool := isIdentStart c || c.isDigit

/-- White space of SQL. -/
def isSpace (c : Char) : Bool :=
  c == ' ' || c == '\t' || c == '\n' || c == '\r' || c == '\x0b' || c == '\x0c'

/-- A lexical piece, with the text between its delimiters. -/
inductive Piece
  /-- An unquoted identifier or keyword. -/
  | word (chars : List Char)
  /-- Any other character outside quotes and comments. -/
  | symbol (c : Char)
  | single (body : List Char)
  /-- A quoted identifier, split at its `""`. -/
  | double (segment : List Char) (more : List (List Char))
  | dollar (tag body : List Char)
  | line (body : List Char)
  | block (body : List Char)
  /-- A construct that is not closed; it takes the rest of the text. -/
  | unclosed (chars : List Char)
deriving DecidableEq

/-- A dollar-quote delimiter. -/
def delimiter (tag : List Char) : List Char := '$' :: (tag ++ ['$'])

/-- The text of a piece. -/
def Piece.text : Piece → List Char
  | word chars | unclosed chars => chars
  | symbol c => [c]
  | single body => '\'' :: (body ++ ['\''])
  | double segment more => '"' :: (segment ++ more.flatMap (fun s => '"' :: '"' :: s) ++ ['"'])
  | dollar tag body => delimiter tag ++ body ++ delimiter tag
  | line body => '-' :: '-' :: body
  | block body => '/' :: '*' :: (body ++ ['*', '/'])

/-! ## The ends of the constructs

Each function reads from behind the opening delimiter and returns the body and the text
behind the closing one. -/

/-- To the line end; the carriage return of a `\r\n` is counted to the comment. -/
def lineBody : List Char → List Char × List Char
  | [] => ([], [])
  | '\n' :: cs => ([], '\n' :: cs)
  | '\r' :: '\n' :: cs => (['\r'], '\n' :: cs)
  | '\r' :: cs => ([], '\r' :: cs)
  | c :: cs => (c :: (lineBody cs).1, (lineBody cs).2)

/-- To the closing `*/`, with `depth` inner comments open. -/
def blockBody : ℕ → List Char → Option (List Char × List Char)
  | _, [] => none
  | depth, '/' :: '*' :: cs => (blockBody (depth + 1) cs).map fun r => ('/' :: '*' :: r.1, r.2)
  | 0, '*' :: '/' :: cs => some ([], cs)
  | depth + 1, '*' :: '/' :: cs => (blockBody depth cs).map fun r => ('*' :: '/' :: r.1, r.2)
  | depth, c :: cs => (blockBody depth cs).map fun r => (c :: r.1, r.2)

/-- To the closing quote; `''` is none. -/
def singleBody : List Char → Option (List Char × List Char)
  | [] => none
  | '\'' :: '\'' :: cs => (singleBody cs).map fun r => ('\'' :: '\'' :: r.1, r.2)
  | '\'' :: cs => some ([], cs)
  | c :: cs => (singleBody cs).map fun r => (c :: r.1, r.2)

/-- To the closing double quote, split at `""`. -/
def doubleBody : List Char → Option ((List Char × List (List Char)) × List Char)
  | [] => none
  | '"' :: '"' :: cs => (doubleBody cs).map fun r => (([], r.1.1 :: r.1.2), r.2)
  | '"' :: cs => some (([], []), cs)
  | c :: cs => (doubleBody cs).map fun r => ((c :: r.1.1, r.1.2), r.2)

/-- The tag of a dollar quote, read from behind its first `$`, and the text behind the
second. -/
def tagOf (cs : List Char) : Option (List Char × List Char) :=
  let tag := cs.takeWhile isTagCont
  match cs.dropWhile isTagCont with
  | '$' :: rest => if tag.head?.all isIdentStart then some (tag, rest) else none
  | _ => none

/-- A piece, or the rest of the text if it is not closed. -/
def closed (text : List Char) (piece : Option (Piece × List Char)) : Piece × List Char :=
  piece.getD (.unclosed text, [])

/-- The piece at the front of a text. -/
def next (c : Char) (cs : List Char) : Piece × List Char :=
  match c, cs with
  | '-', '-' :: cs => (.line (lineBody cs).1, (lineBody cs).2)
  | '/', '*' :: cs => closed ('/' :: '*' :: cs) ((blockBody 0 cs).map fun r => (.block r.1, r.2))
  | '\'', cs => closed ('\'' :: cs) ((singleBody cs).map fun r => (.single r.1, r.2))
  | '"', cs => closed ('"' :: cs) ((doubleBody cs).map fun r => (.double r.1.1 r.1.2, r.2))
  | '$', cs =>
    match tagOf cs with
    | some (tag, rest) =>
      closed ('$' :: cs) ((cut (delimiter tag) rest).map fun r => (.dollar tag r.1, r.2))
    | none => (.symbol '$', cs)
  | c, cs =>
    if isIdentStart c then (.word (c :: cs.takeWhile isIdentCont), cs.dropWhile isIdentCont)
    else (.symbol c, cs)

/-! ## No text is lost -/

theorem lineBody_eq (cs : List Char) : (lineBody cs).1 ++ (lineBody cs).2 = cs := by
  fun_induction lineBody cs <;> simp_all

theorem blockBody_eq {depth : ℕ} {cs : List Char} {r : List Char × List Char}
    (h : blockBody depth cs = some r) : r.1 ++ '*' :: '/' :: r.2 = cs := by
  fun_induction blockBody depth cs generalizing r <;> grind [Option.map_eq_some_iff]

theorem singleBody_eq {cs : List Char} {r : List Char × List Char}
    (h : singleBody cs = some r) : r.1 ++ '\'' :: r.2 = cs := by
  fun_induction singleBody cs generalizing r <;> grind [Option.map_eq_some_iff]

theorem doubleBody_eq {cs : List Char} {r : (List Char × List (List Char)) × List Char}
    (h : doubleBody cs = some r) :
    r.1.1 ++ r.1.2.flatMap (fun s => '"' :: '"' :: s) ++ '"' :: r.2 = cs := by
  fun_induction doubleBody cs generalizing r <;> grind [Option.map_eq_some_iff]

theorem tagOf_eq {cs tag rest : List Char} (h : tagOf cs = some (tag, rest)) :
    cs = tag ++ '$' :: rest ∧ tag.all isTagCont ∧ tag.head?.all isIdentStart := by
  unfold tagOf at h
  dsimp only at h
  split at h
  · rename_i rest' hrest
    split at h
    · rename_i htag
      simp only [Option.some.injEq, Prod.mk.injEq] at h
      obtain ⟨rfl, rfl⟩ := h
      refine ⟨?_, List.all_takeWhile, htag⟩
      rw [← hrest, List.takeWhile_append_dropWhile]
    · cases h
  · cases h

theorem closed_text {text : List Char} {piece : Option (Piece × List Char)}
    (h : ∀ r, piece = some r → r.1.text ++ r.2 = text) :
    (closed text piece).1.text ++ (closed text piece).2 = text := by
  cases piece with
  | none => exact List.append_nil text
  | some r => exact h r rfl

theorem next_text (c : Char) (cs : List Char) :
    (next c cs).1.text ++ (next c cs).2 = c :: cs := by
  unfold next
  split
  -- a line comment, then the four kinds that may be left unclosed
  · rename_i cs
    simp [Piece.text, lineBody_eq]
  · rename_i cs
    refine closed_text fun r hr => ?_
    obtain ⟨r', hr', rfl⟩ := Option.map_eq_some_iff.mp hr
    simpa [Piece.text] using blockBody_eq hr'
  · refine closed_text fun r hr => ?_
    obtain ⟨r', hr', rfl⟩ := Option.map_eq_some_iff.mp hr
    simpa [Piece.text] using singleBody_eq hr'
  · refine closed_text fun r hr => ?_
    obtain ⟨r', hr', rfl⟩ := Option.map_eq_some_iff.mp hr
    simpa [Piece.text] using doubleBody_eq hr'
  · split
    · rename_i tag rest htag
      obtain ⟨rfl, -⟩ := tagOf_eq htag
      refine closed_text fun r hr => ?_
      obtain ⟨r', hr', rfl⟩ := Option.map_eq_some_iff.mp hr
      have hcut := cut_eq (Prod.eta r' ▸ hr' : cut (delimiter tag) rest = some (r'.1, r'.2))
      simp [Piece.text, delimiter, hcut]
    · rfl
  · split
    · simp [Piece.text]
    · rfl

theorem closed_text_ne_nil {text : List Char} {piece : Option (Piece × List Char)}
    (htext : text ≠ []) (h : ∀ r, piece = some r → r.1.text ≠ []) :
    (closed text piece).1.text ≠ [] := by
  cases piece with
  | none => exact htext
  | some r => exact h r rfl

theorem next_text_ne_nil (c : Char) (cs : List Char) : (next c cs).1.text ≠ [] := by
  unfold next
  split
  · simp [Piece.text]
  · refine closed_text_ne_nil (by simp) fun r hr => ?_
    obtain ⟨r', -, rfl⟩ := Option.map_eq_some_iff.mp hr
    simp [Piece.text]
  · refine closed_text_ne_nil (by simp) fun r hr => ?_
    obtain ⟨r', -, rfl⟩ := Option.map_eq_some_iff.mp hr
    simp [Piece.text]
  · refine closed_text_ne_nil (by simp) fun r hr => ?_
    obtain ⟨r', -, rfl⟩ := Option.map_eq_some_iff.mp hr
    simp [Piece.text]
  · split
    · refine closed_text_ne_nil (by simp) fun r hr => ?_
      obtain ⟨r', -, rfl⟩ := Option.map_eq_some_iff.mp hr
      simp [Piece.text, delimiter]
    · simp [Piece.text]
  · split <;> simp [Piece.text]

/-- Every piece takes at least one character. -/
theorem next_length (c : Char) (cs : List Char) : (next c cs).2.length ≤ cs.length := by
  have hlen := congrArg List.length (next_text c cs)
  have hpos := List.length_pos_iff.mpr (next_text_ne_nil c cs)
  simp only [List.length_append, List.length_cons] at hlen
  omega

/-- The lexer. -/
def scanner : Scanner Char Piece where
  next := next
  next_length := next_length

/-- The pieces of a text. -/
def lex (s : List Char) : List Piece := scanner.run s

theorem lex_nil : lex [] = [] := rfl

theorem lex_cons (c : Char) (cs : List Char) :
    lex (c :: cs) = (next c cs).1 :: lex (next c cs).2 := scanner.run_cons c cs

/-- Induction along the pieces of a text. -/
theorem lex_induct {P : List Char → Prop} (nil : P [])
    (cons : ∀ c cs, P (next c cs).2 → P (c :: cs)) (s : List Char) : P s :=
  scanner.induct nil cons s

/-- The pieces of a text are all of its text. -/
theorem text_lex (s : List Char) : (lex s).flatMap Piece.text = s := by
  induction s using lex_induct with
  | nil => rfl
  | cons c cs ih =>
    rw [lex_cons, List.flatMap_cons, ih]
    exact next_text c cs

/-- The first word of a text. -/
def firstWord : List Piece → Option (List Char)
  | [] => none
  | .word chars :: _ => some chars
  | _ :: rest => firstWord rest

/-- The first keyword of a text, in upper case. -/
def firstKeyword (pieces : List Piece) : Option String :=
  (firstWord pieces).map fun chars => String.ofList (chars.map Char.toUpper)

/-! ## What a piece says about the text -/

/-- How a piece is read off the front of a text, and what it leaves. -/
inductive Read : List Char → Piece → List Char → Prop
  | word {c : Char} {cs : List Char} (h : isIdentStart c = true) :
    Read (c :: cs) (.word (c :: cs.takeWhile isIdentCont)) (cs.dropWhile isIdentCont)
  | symbol {c : Char} {cs : List Char} (hquote : c ≠ '\'' ∧ c ≠ '"')
    (hdash : c = '-' → cs.head? ≠ some '-') (hslash : c = '/' → cs.head? ≠ some '*')
    (hident : isIdentStart c = false) : Read (c :: cs) (.symbol c) cs
  | single {cs body rest : List Char} (h : singleBody cs = some (body, rest)) :
    Read ('\'' :: cs) (.single body) rest
  | double {cs segment rest : List Char} {more : List (List Char)}
    (h : doubleBody cs = some ((segment, more), rest)) :
    Read ('"' :: cs) (.double segment more) rest
  | dollar {cs tag body behind rest : List Char} (htag : tagOf cs = some (tag, behind))
    (h : cut (delimiter tag) behind = some (body, rest)) :
    Read ('$' :: cs) (.dollar tag body) rest
  | line {cs : List Char} : Read ('-' :: '-' :: cs) (.line (lineBody cs).1) (lineBody cs).2
  | block {cs body rest : List Char} (h : blockBody 0 cs = some (body, rest)) :
    Read ('/' :: '*' :: cs) (.block body) rest
  | unclosed {text : List Char} : Read text (.unclosed text) []

/-- The lexer reads by these rules. -/
theorem next_read (c : Char) (cs : List Char) : Read (c :: cs) (next c cs).1 (next c cs).2 := by
  unfold next
  split
  · exact .line
  · rename_i cs
    cases h : blockBody 0 cs with
    | none => exact .unclosed
    | some r => exact .block h
  · cases h : singleBody cs with
    | none => exact .unclosed
    | some r => exact .single h
  · cases h : doubleBody cs with
    | none => exact .unclosed
    | some r => exact .double h
  · split
    · rename_i tag behind htag
      cases h : cut (delimiter tag) behind with
      | none => exact .unclosed
      | some r => exact .dollar htag h
    · exact .symbol (by decide) nofun nofun (by decide)
  · rename_i hsingle hdouble _ hline hblock
    split
    · rename_i hident
      exact .word hident
    · rename_i hident
      -- the minus and the slash here start no comment, those cases are gone
      refine .symbol ⟨hsingle, hdouble⟩ (fun hc hhead => ?_) (fun hc hhead => ?_)
        (by simpa using hident)
      · obtain ⟨cs', hcs⟩ := List.head?_eq_some_iff.mp hhead
        exact hline cs' hc hcs
      · obtain ⟨cs', hcs⟩ := List.head?_eq_some_iff.mp hhead
        exact hblock cs' hc hcs

/-- A word starts as an identifier does, and what follows it continues none. -/
theorem lex_word {s w : List Char} {before after : List Piece}
    (h : lex s = before ++ .word w :: after) :
    (∃ c cs, w = c :: cs ∧ isIdentStart c = true) ∧
      (after.flatMap Piece.text).head?.all (fun c => !isIdentCont c) = true := by
  induction s using lex_induct generalizing before with
  | nil => simp [lex_nil] at h
  | cons c cs ih =>
    rw [lex_cons] at h
    cases before with
    | nil =>
      obtain ⟨hpiece, rfl⟩ := List.cons.inj h
      have hread := next_read c cs
      rw [hpiece] at hread
      rw [text_lex]
      generalize (next c cs).2 = rest at hread
      cases hread with
      | word hident =>
        refine ⟨⟨_, _, rfl, hident⟩, ?_⟩
        have hnot := List.head?_dropWhile_not isIdentCont cs
        cases hdrop : cs.dropWhile isIdentCont with
        | nil => rfl
        | cons d ds => simpa [hdrop] using hnot
    | cons p before => exact ih (List.cons.inj h).2

/-- A line comment ends at the end of the text, at a line feed or at a carriage return. -/
theorem lineBody_spec (cs : List Char) :
    '\n' ∉ (lineBody cs).1 ∧
      ((lineBody cs).2 = [] ∨ (lineBody cs).2.head? = some '\n' ∨
        (lineBody cs).2.head? = some '\r') := by
  fun_induction lineBody cs <;> grind

/-- A literal is not followed by another quote. -/
theorem singleBody_rest {cs body rest : List Char} (h : singleBody cs = some (body, rest)) :
    rest.head? ≠ some '\'' := by
  fun_induction singleBody cs generalizing body rest <;>
    grind [Option.map_eq_some_iff, List.head?_eq_some_iff]

/-- No segment of a quoted identifier contains a quote. -/
theorem doubleBody_segments {cs segment rest : List Char} {more : List (List Char)}
    (h : doubleBody cs = some ((segment, more), rest)) :
    '"' ∉ segment ∧ ∀ s ∈ more, '"' ∉ s := by
  fun_induction doubleBody cs generalizing segment more rest <;> grind [Option.map_eq_some_iff]

/-- The tag of a dollar quote contains no `$`. -/
theorem tagOf_dollar {cs tag behind : List Char} (h : tagOf cs = some (tag, behind)) :
    '$' ∉ tag := by
  intro hmem
  have hall := (tagOf_eq h).2.1
  have := List.all_eq_true.mp hall '$' hmem
  revert this
  decide

/-! ## A space behind code -/

end Sql
