import ContraGate.ExplainParserTheorems

/-!
# What the EXPLAIN target validator accepts

`SingleAllowed` is what it is meant to accept: a text that PostgreSQL reads as one statement
of an allowed type. The patterns do not read it like PostgreSQL, and there are texts with
several statements that pass. On a `Regular` text they do, and then the only difference is a
first word that does not stand alone: `SELECT(1)` is not accepted.
-/

namespace ExplainParser

open Sql

/-- The first keyword is an allowed type. -/
def AllowedFirst (pieces : List Piece) : Prop :=
  ∃ keyword, firstKeyword pieces = some keyword ∧ keyword ∈ allowedStatementTypes

/-- PostgreSQL reads one statement, whose first keyword is an allowed type. -/
def SingleAllowed (sql : String) : Prop :=
  .symbol ';' ∉ lex sql.toList ∧ AllowedFirst (lex sql.toList)

/-! ## A text that slips through -/

/-- The two `$a$` are in two literals, but the first pattern takes them for one
dollar-quoted string, `;` and all. -/
def hiddenDelete : String := "SELECT '$a$'; DELETE FROM t WHERE x = '$a$'"

theorem hiddenDelete_accepted : accepts hiddenDelete = true ∧ ¬ SingleAllowed hiddenDelete := by
  refine ⟨by rfl, fun h => h.1 ?_⟩
  decide

theorem accepts_not_exact : ¬ ∀ sql, accepts sql = true ↔ SingleAllowed sql := by
  intro hlaw
  exact hiddenDelete_accepted.2 ((hlaw hiddenDelete).mp hiddenDelete_accepted.1)

/-! ## When the validator is exact -/

/-- White space for Python, or a construct that is removed. -/
def isBlankPiece : Piece → Bool
  | .word _ | .unclosed _ => false
  | .symbol c => Py.isSpace c
  | _ => true

/-- The first word stands alone: white space and constructs before it, white space, a
construct or nothing behind it. -/
def StartsPlainly : List Piece → Prop
  | [] => True
  | .word _ :: rest => rest.head?.all isBlankPiece
  | p :: rest => isBlankPiece p ∧ StartsPlainly rest

/-- The patterns match the constructs and nothing else, and the first word is ASCII. -/
def Regular (sql : String) : Prop :=
  RegularPieces (lex sql.toList) ∧
    ∀ chars ∈ firstWord (lex sql.toList), ∀ c ∈ chars, c.toNat < 128

instance decidableStartsPlainly : (pieces : List Piece) → Decidable (StartsPlainly pieces)
  | [] => .isTrue trivial
  | .word _ :: _ => inferInstanceAs (Decidable (_ = _))
  | .symbol _ :: rest | .single _ :: rest | .double _ _ :: rest | .dollar _ _ :: rest
  | .line _ :: rest | .block _ :: rest | .unclosed _ :: rest =>
    have := decidableStartsPlainly rest
    inferInstanceAs (Decidable (_ ∧ _))

instance (sql : String) : Decidable (Regular sql) :=
  have (chars : List Char) : Decidable (∀ c ∈ chars, c.toNat < 128) := List.decidableBAll _ _
  inferInstanceAs (Decidable (_ ∧ _))

/-- All classes. -/
def allKinds : List Kind := [.dollar, .block, .line, .single, .double]

/-- On a regular text the patterns remove what PostgreSQL does not read as code. -/
theorem strip_lex {s : List Char} (hs : RegularPieces (lex s)) :
    stripSqlLiteralsAndComments s = renders allKinds (lex s) := by
  unfold stripSqlLiteralsAndComments
  dsimp only
  have hstart : s = renders [] (lex s) := (renders_none s).symm
  rw [hstart, renders_none s]
  calc doubleQuoted.sub [' '] (singleQuoted.sub [' '] (lineComments.sub [' ']
        (blockComments.sub [' '] (dollarQuoted.sub [' '] s))))
      = doubleQuoted.sub [' '] (singleQuoted.sub [' '] (lineComments.sub [' ']
          (blockComments.sub [' '] (renders [.dollar] (lex s))))) := by
        rw [← dollar_stage s hs, renders_none]
    _ = renders allKinds (lex s) := by
        rw [block_stage s hs, line_stage s hs, single_stage s hs, double_stage s hs]
        rfl

/-! ### The semicolon -/

theorem semicolon_not_ident : isIdentCont ';' = false := by decide

/-- A removed construct leaves spaces, and a word has no semicolon. -/
theorem semicolon_mem_render {t rest : List Char} {p : Piece} (hread : Read t p rest)
    (hpiece : RegularPiece p (lex rest)) :
    ';' ∈ render allKinds p ↔ p = .symbol ';' := by
  cases hread with
  | @word c cs hstart =>
    simp only [reduceCtorEq, iff_false]
    intro hmem
    have hident : isIdentCont ';' = true := by
      rcases List.mem_cons.mp hmem with rfl | hmem
      · simp [isIdentCont, hstart]
      · exact List.mem_takeWhile_imp hmem
    rw [semicolon_not_ident] at hident
    cases hident
  | symbol => simp [render, kind, Piece.text, eq_comm]
  | unclosed => exact hpiece.elim
  | double => simp [render, kind, allKinds, blank]
  | single | dollar | line | block => simp [render, kind, allKinds, blank]

theorem semicolon_mem {s : List Char} (hs : RegularPieces (lex s)) :
    ';' ∈ renders allKinds (lex s) ↔ .symbol ';' ∈ lex s := by
  induction s using lex_induct with
  | nil => simp [lex_nil]
  | cons c cs ih =>
    rw [lex_cons] at hs ⊢
    rw [renders_cons, List.mem_append, List.mem_cons, ih hs.2,
      semicolon_mem_render (next_read c cs) hs.1, eq_comm]

/-! ### The first word -/

/-- What holds of all ASCII characters can be checked. -/
theorem ascii_forall {P : Char → Prop} (h : ∀ n < 128, P (Char.ofNat n)) {c : Char}
    (hc : c.toNat < 128) : P c := by
  have hP := h c.toNat hc
  rwa [Char.ofNat_toNat] at hP

/-- An ASCII character of a word is no white space. -/
theorem not_isSpace_of_ident {c : Char} (hc : c.toNat < 128) :
    isIdentCont c = true → Py.isSpace c = false := by
  have hall : ∀ n < 128, isIdentCont (Char.ofNat n) = true →
      Py.isSpace (Char.ofNat n) = false := by decide
  exact ascii_forall (P := fun c => isIdentCont c = true → Py.isSpace c = false) hall hc

/-- On ASCII, `upper` changes letter by letter. -/
theorem upperChar_ascii {c : Char} (hc : c.toNat < 128) : Py.upperChar c = [c.toUpper] := by
  have hall : ∀ n < 128, Py.upperChar (Char.ofNat n) = [(Char.ofNat n).toUpper] := by
    decide
  exact ascii_forall (P := fun c => Py.upperChar c = [c.toUpper]) hall hc

theorem upper_ascii {chars : List Char} (h : ∀ c ∈ chars, c.toNat < 128) :
    Py.upper chars = chars.map Char.toUpper := by
  induction chars with
  | nil => rfl
  | cons c chars ih =>
    have hc := upperChar_ascii (h c (List.mem_cons_self ..))
    have htail := ih fun d hd => h d (List.mem_cons_of_mem _ hd)
    unfold Py.upper at htail ⊢
    rw [List.flatMap_cons, hc, htail]
    rfl

/-- What a blank piece leaves is white space. -/
theorem isSpace_of_blank {p : Piece} (h : isBlankPiece p = true) {c : Char}
    (hc : c ∈ render allKinds p) : Py.isSpace c = true := by
  have hspace : Py.isSpace ' ' = true := by decide
  cases p with
  | word | unclosed => cases h
  | symbol d =>
    obtain rfl : c = d := by simpa [render, kind, Piece.text] using hc
    exact h
  | double segment more =>
    obtain rfl : c = ' ' := by simpa [render, kind, allKinds, blank] using hc
    exact hspace
  | _ =>
    obtain rfl : c = ' ' := by simpa [render, kind, allKinds, blank] using hc
    exact hspace

/-- White space in front of a text does not change its first word. -/
theorem firstWord_append {t after : List Char} (h : ∀ c ∈ t, Py.isSpace c = true) :
    Py.firstWord (t ++ after) = Py.firstWord after := by
  unfold Py.firstWord
  rw [List.dropWhile_append_of_pos h]

/-- A word that stands alone is the first word. -/
theorem firstWord_word {chars after : List Char} (hne : chars ≠ [])
    (hchars : ∀ c ∈ chars, Py.isSpace c = false)
    (hafter : ∀ c, after.head? = some c → Py.isSpace c = true) :
    Py.firstWord (chars ++ after) = chars := by
  obtain ⟨c, cs, rfl⟩ := List.exists_cons_of_ne_nil hne
  have hc := hchars c (List.mem_cons_self ..)
  unfold Py.firstWord
  rw [List.cons_append, List.dropWhile_cons_of_neg (by simp [hc]), ← List.cons_append,
    List.takeWhile_append_of_pos fun d hd => by simp [hchars d hd]]
  cases after with
  | nil => simp
  | cons d ds => simp [hafter d rfl]

/-- If the next piece is blank, the text goes on with white space. -/
theorem isSpace_head {pieces : List Piece} (h : pieces.head?.all isBlankPiece = true) {c : Char}
    (hc : (renders allKinds pieces).head? = some c) : Py.isSpace c = true := by
  cases pieces with
  | nil => cases hc
  | cons p rest =>
    have hne : render allKinds p ≠ [] := by
      cases p with
      | word | unclosed => cases h
      | _ => simp [render, kind, allKinds, blank, Piece.text]
    rw [renders_cons, List.head?_append_of_ne_nil _ hne] at hc
    exact isSpace_of_blank h (List.mem_of_head? hc)

/-- A word with a character that no word begins with is no allowed type. -/
theorem upper_not_allowed {token : List Char} {c : Char} (hc : c ∈ token)
    (hnot : isIdentStart c = false) : String.ofList (Py.upper token) ∉ allowedStatementTypes := by
  have hascii : c.toNat < 128 := by
    simp only [isIdentStart, Bool.or_eq_false_iff, decide_eq_false_iff_not] at hnot
    omega
  have hall : ∀ n < 128, isIdentStart (Char.ofNat n) = false →
      (Char.ofNat n).toUpper.isAlpha = false := by decide
  have halpha : c.toUpper.isAlpha = false :=
    ascii_forall (P := fun c => isIdentStart c = false → c.toUpper.isAlpha = false) hall hascii hnot
  intro hmem
  have hletters : ∀ w ∈ allowedStatementTypes, w.toList.all Char.isAlpha = true := by decide
  have hupper : c.toUpper ∈ Py.upper token :=
    List.mem_flatMap.mpr ⟨c, hc, by rw [upperChar_ascii hascii]; exact List.mem_singleton_self _⟩
  have hletter := List.all_eq_true.mp (hletters _ hmem) c.toUpper (by rwa [String.toList_ofList])
  rw [halpha] at hletter
  cases hletter

/-- A piece that is neither white space nor a word leaves its one character. -/
theorem render_symbol {c : Char} {cs rest : List Char} {p : Piece} (hread : Read (c :: cs) p rest)
    (hpiece : RegularPiece p (lex rest)) (hblank : isBlankPiece p = false)
    (hstart : isIdentStart c = false) : render allKinds p = [c] ∧ Py.isSpace c = false := by
  cases hread with
  | word h => rw [h] at hstart; cases hstart
  | symbol => exact ⟨rfl, hblank⟩
  | unclosed => exact hpiece.elim
  | single | double | dollar | line | block => cases hblank

/-- The first word runs to the first white space at least. -/
theorem mem_firstWord {t after : List Char} {c : Char} (ht : ∀ d ∈ t, Py.isSpace d = false)
    (hc : Py.isSpace c = false) : c ∈ Py.firstWord (t ++ c :: after) := by
  have hall : ∀ d ∈ t ++ [c], Py.isSpace d = false := by
    intro d hd
    rcases List.mem_append.mp hd with hd | hd
    · exact ht d hd
    · rw [List.mem_singleton.mp hd]
      exact hc
  obtain ⟨d, ds, hds⟩ := List.exists_cons_of_ne_nil (List.concat_ne_nil c t)
  have hd := hall d (by rw [hds]; exact List.mem_cons_self ..)
  unfold Py.firstWord
  rw [List.append_cons, hds, List.cons_append, List.dropWhile_cons_of_neg (by simp [hd]),
    ← List.cons_append, ← hds, List.takeWhile_append_of_pos fun d hd => by simp [hall d hd]]
  simp

/-- The characters of the first word, when it is ASCII. -/
theorem word_chars {c : Char} {cs : List Char} (hstart : isIdentStart c = true)
    (hascii : ∀ d ∈ c :: cs.takeWhile isIdentCont, d.toNat < 128) :
    ∀ d ∈ c :: cs.takeWhile isIdentCont, Py.isSpace d = false := by
  intro d hd
  refine not_isSpace_of_ident (hascii d hd) ?_
  rcases List.mem_cons.mp hd with rfl | hd
  · simp [isIdentCont, hstart]
  · exact List.mem_takeWhile_imp hd

/-- The first word that Python finds is an allowed type if and only if the first word of the pieces
is one, and stands alone. -/
def FirstWordAgrees (pieces : List Piece) : Prop :=
  String.ofList (Py.upper (Py.firstWord (renders allKinds pieces))) ∈ allowedStatementTypes ↔
    AllowedFirst pieces ∧ StartsPlainly pieces

/-- Pieces that render to blanks are skipped on both sides. -/
theorem firstWordAgrees_blank {p : Piece} {pieces : List Piece} (hblank : isBlankPiece p = true)
    (h : FirstWordAgrees pieces) : FirstWordAgrees (p :: pieces) := by
  have hword : firstWord (p :: pieces) = firstWord pieces := by
    cases p with
    | word => cases hblank
    | _ => rfl
  have hplain : StartsPlainly (p :: pieces) ↔ StartsPlainly pieces := by
    cases p with
    | word => cases hblank
    | _ => exact and_iff_right hblank
  unfold FirstWordAgrees at h ⊢
  rw [renders_cons, firstWord_append fun d hd => isSpace_of_blank hblank hd, hplain, h,
    AllowedFirst, AllowedFirst, firstKeyword, firstKeyword, hword]

/-- The piece behind a word starts no identifier. -/
theorem isIdentStart_of_dropWhile {cs ds : List Char} {d : Char}
    (h : cs.dropWhile isIdentCont = d :: ds) : isIdentStart d = false := by
  have hhead := List.head?_dropWhile_not isIdentCont cs
  rw [h] at hhead
  have hd : isIdentCont d = false := by simpa using hhead
  simp only [isIdentCont, Bool.or_eq_false_iff] at hd
  exact hd.1.1

/-- A word stands alone if a blank follows, or nothing; otherwise Python reads the next character
into the word. -/
theorem firstWordAgrees_word {c : Char} {cs : List Char} (hstart : isIdentStart c = true)
    (hascii : ∀ d ∈ c :: cs.takeWhile isIdentCont, d.toNat < 128)
    (hs : RegularPieces (lex (cs.dropWhile isIdentCont))) :
    FirstWordAgrees (.word (c :: cs.takeWhile isIdentCont) :: lex (cs.dropWhile isIdentCont)) := by
  have hspace := word_chars hstart hascii
  have hrenderWord : render allKinds (.word (c :: cs.takeWhile isIdentCont)) =
      c :: cs.takeWhile isIdentCont := rfl
  unfold FirstWordAgrees
  rw [renders_cons, hrenderWord]
  by_cases hnext : (lex (cs.dropWhile isIdentCont)).head?.all isBlankPiece = true
  · rw [firstWord_word (List.cons_ne_nil _ _) hspace fun d hd => isSpace_head hnext hd,
      upper_ascii hascii]
    simp [AllowedFirst, firstKeyword, firstWord, StartsPlainly, hnext]
  · refine iff_of_false ?_ fun h => hnext h.2
    cases hrest : cs.dropWhile isIdentCont with
    | nil => simp [hrest, lex_nil] at hnext
    | cons d ds =>
      have hdstart := isIdentStart_of_dropWhile hrest
      rw [hrest, lex_cons] at hnext hs
      obtain ⟨hrender, hdspace⟩ := render_symbol (next_read d ds) hs.1 (by simpa using hnext) hdstart
      rw [lex_cons, renders_cons, hrender]
      exact upper_not_allowed (mem_firstWord hspace hdspace) hdstart

/-- What starts no identifier is in no allowed type. -/
theorem firstWordAgrees_symbol {c : Char} {cs rest : List Char} {p : Piece}
    (hread : Read (c :: cs) p rest) (hpiece : RegularPiece p (lex rest))
    (hblank : isBlankPiece p = false) (hstart : isIdentStart c = false) :
    FirstWordAgrees (p :: lex rest) := by
  obtain ⟨hrender, hspace⟩ := render_symbol hread hpiece hblank hstart
  have hmem : c ∈ Py.firstWord ([] ++ c :: renders allKinds (lex rest)) :=
    mem_firstWord (List.forall_mem_nil _) hspace
  unfold FirstWordAgrees
  rw [renders_cons, hrender]
  refine iff_of_false (upper_not_allowed hmem hstart) fun h => ?_
  cases p with
  | word =>
    cases hread with
    | word hword => rw [hstart] at hword; cases hword
  | _ => exact absurd (hblank.symm.trans h.2.1) (by decide)

/-- The first word that Python finds is an allowed type if and only if the first word of the
text is one, and stands alone. -/
theorem firstWord_allowed {s : List Char} (hs : RegularPieces (lex s))
    (hascii : ∀ chars ∈ firstWord (lex s), ∀ c ∈ chars, c.toNat < 128) :
    String.ofList (Py.upper (Py.firstWord (renders allKinds (lex s)))) ∈ allowedStatementTypes ↔
      AllowedFirst (lex s) ∧ StartsPlainly (lex s) := by
  change FirstWordAgrees (lex s)
  induction s using lex_induct with
  | nil => simp [FirstWordAgrees, lex_nil, AllowedFirst, firstKeyword, firstWord, Py.firstWord,
      Py.upper, allowedStatementTypes]
  | cons c cs ih =>
    rw [lex_cons] at hs hascii ⊢
    have hread := next_read c cs
    generalize (next c cs).1 = p at *
    generalize (next c cs).2 = rest at *
    cases hblank : isBlankPiece p with
    | true =>
      have hword : firstWord (p :: lex rest) = firstWord (lex rest) := by
        cases p with
        | word => cases hblank
        | _ => rfl
      exact firstWordAgrees_blank hblank (ih hs.2 (hword ▸ hascii))
    | false =>
      by_cases hstart : isIdentStart c = true
      · cases hread with
        | word => exact firstWordAgrees_word hstart (hascii _ rfl) hs.2
        | symbol _ _ _ h => rw [hstart] at h; cases h
        | unclosed => exact hs.1.elim
        | single | double | dollar | line | block => cases hblank
      · exact firstWordAgrees_symbol hread hs.1 hblank (Bool.eq_false_iff.mpr hstart)

/-- What the validator looks at. -/
theorem accepts_eq_true {sql : String} : accepts sql = true ↔
    ';' ∉ stripSqlLiteralsAndComments sql.toList ∧
      String.ofList (Py.upper (Py.firstWord (stripSqlLiteralsAndComments sql.toList))) ∈
        allowedStatementTypes := by
  unfold accepts validateExplainTarget
  dsimp only
  by_cases hsemi : ';' ∈ stripSqlLiteralsAndComments sql.toList
  · simp [hsemi]
  · rw [if_neg hsemi]
    cases htoken : Py.firstWord (stripSqlLiteralsAndComments sql.toList) with
    | nil => simp [Py.upper, allowedStatementTypes]
    | cons c cs =>
      by_cases hallowed : String.ofList (Py.upper (c :: cs)) ∈ allowedStatementTypes <;>
        simp [hallowed, hsemi]

/-- What the validator accepts among the regular texts: single statements of an allowed type
whose first word stands alone. -/
theorem accepts_of_regular {sql : String} (h : Regular sql) :
    accepts sql = true ↔ SingleAllowed sql ∧ StartsPlainly (lex sql.toList) := by
  rw [accepts_eq_true, strip_lex h.1, semicolon_mem h.1, firstWord_allowed h.1 h.2, SingleAllowed,
    and_assoc]

/-- **When the validator is exact**: on a regular text it is, if and only if the first word
of an allowed text stands alone. -/
theorem accepts_iff_singleAllowed_iff {sql : String} (h : Regular sql) :
    (accepts sql = true ↔ SingleAllowed sql) ↔
      (SingleAllowed sql → StartsPlainly (lex sql.toList)) := by
  rw [accepts_of_regular h]
  exact and_iff_left_iff_imp

theorem accepts_iff_singleAllowed_comment :
    (accepts "SELECT 1 /* no ; here */ FROM t WHERE note = 'a; b'" = true ↔
      SingleAllowed "SELECT 1 /* no ; here */ FROM t WHERE note = 'a; b'") ↔
    (SingleAllowed "SELECT 1 /* no ; here */ FROM t WHERE note = 'a; b'" →
      StartsPlainly (lex "SELECT 1 /* no ; here */ FROM t WHERE note = 'a; b'".toList)) :=
  accepts_iff_singleAllowed_iff (by decide)

end ExplainParser
