import ContraGate.ExplainParser
import ContraGate.Library.SqlLex
import Mathlib.Data.List.TakeWhile

/-!
# What the five patterns remove

The patterns run one after the other, while PostgreSQL reads the text once, from left to
right. `renders done` is the text in which the constructs of the classes in `done` have been
replaced by spaces; a stage theorem says that a pattern leads from one `renders` to the
next, on every text in which no pattern matches where it should not (`Regular`).
-/

namespace ExplainParser

open Sql

/-- The classes of constructs that the validator removes. -/
inductive Kind
  | dollar | block | line | single | double
deriving DecidableEq

/-- The class of a piece. -/
def kind : Piece → Option Kind
  | .dollar _ _ => some .dollar
  | .block _ => some .block
  | .line _ => some .line
  | .single _ => some .single
  | .double _ _ => some .double
  | _ => none

/-- The spaces that take the place of a construct; a quoted identifier leaves one for each
of its segments. -/
def blank : Piece → List Char
  | .double _ more => List.replicate (more.length + 1) ' '
  | _ => [' ']

/-- A piece, once the classes in `done` have been removed. -/
def render (done : List Kind) (p : Piece) : List Char :=
  if (kind p).any (done.contains ·) then blank p else p.text

/-- A text, once the classes in `done` have been removed. -/
def renders (done : List Kind) (pieces : List Piece) : List Char := pieces.flatMap (render done)

/-- No pattern matches in a piece where it should not: the earlier patterns match nowhere in
it, and its own pattern reads it as PostgreSQL does. -/
def RegularPiece (p : Piece) (rest : List Piece) : Prop :=
  match p with
  | .word _ | .symbol _ => dollarQuoted.Quiet p.text (renders [] rest)
  | .dollar _ _ => True
  | .block body => dollarQuoted.Quiet p.text (renders [] rest) ∧ ¬ ['/', '*'] <:+: body
  | .line _ => dollarQuoted.Quiet p.text (renders [] rest) ∧
      blockComments.Quiet p.text (renders [.dollar] rest) ∧ rest.head? ≠ some (.symbol '\r')
  | .single _ => dollarQuoted.Quiet p.text (renders [] rest) ∧
      blockComments.Quiet p.text (renders [.dollar] rest) ∧
      lineComments.Quiet p.text (renders [.dollar, .block] rest)
  | .double _ _ => dollarQuoted.Quiet p.text (renders [] rest) ∧
      blockComments.Quiet p.text (renders [.dollar] rest) ∧
      lineComments.Quiet p.text (renders [.dollar, .block] rest) ∧
      singleQuoted.Quiet p.text (renders [.dollar, .block, .line] rest) ∧ '\\' ∉ p.text
  | .unclosed _ => False

instance decidableRegularPiece (p : Piece) (rest : List Piece) : Decidable (RegularPiece p rest) :=
  match p with
  | .word _ | .symbol _ => Pattern.decidableQuiet _
  | .dollar _ _ => .isTrue trivial
  | .unclosed _ => .isFalse id
  | .block _ | .line _ | .single _ | .double _ _ => inferInstanceAs (Decidable (_ ∧ _))

/-- Every piece is regular. -/
def RegularPieces : List Piece → Prop
  | [] => True
  | p :: rest => RegularPiece p rest ∧ RegularPieces rest

instance decidableRegularPieces : (pieces : List Piece) → Decidable (RegularPieces pieces)
  | [] => .isTrue trivial
  | _ :: rest =>
    have := decidableRegularPieces rest
    inferInstanceAs (Decidable (_ ∧ _))

/-! ## The text behind a piece -/

@[simp] theorem renders_nil (done : List Kind) : renders done [] = [] := rfl

@[simp] theorem renders_cons (done : List Kind) (p : Piece) (rest : List Piece) :
    renders done (p :: rest) = render done p ++ renders done rest := rfl

theorem render_none (p : Piece) : render [] p = p.text := by
  cases p <;> rfl

theorem renders_none (s : List Char) : renders [] (lex s) = s := by
  unfold renders
  rw [funext render_none]
  exact text_lex s

/-- A piece that is removed leaves spaces. -/
theorem blank_eq (p : Piece) : ∃ n, blank p = List.replicate (n + 1) ' ' := by
  cases p with
  | double segment more => exact ⟨more.length, rfl⟩
  | _ => exact ⟨0, rfl⟩

/-- What is rendered begins as the text does, or with a space. -/
theorem renders_head (done : List Kind) (s : List Char) :
    (renders done (lex s)).head? = s.head? ∨ (renders done (lex s)).head? = some ' ' := by
  cases s with
  | nil => exact .inl rfl
  | cons c cs =>
    rw [lex_cons, renders_cons]
    unfold render
    split
    · obtain ⟨n, hn⟩ := blank_eq (next c cs).1
      right
      rw [hn, List.replicate_succ]
      rfl
    · left
      have htext := next_text c cs
      obtain ⟨d, t, ht⟩ := List.exists_cons_of_ne_nil (next_text_ne_nil c cs)
      rw [ht] at htext ⊢
      simp only [List.cons_append, List.cons.injEq] at htext
      rw [htext.1]
      rfl

/-- So it begins with no delimiter that the text does not begin with. -/
theorem renders_head_ne (done : List Kind) {s : List Char} {c : Char} (hc : c ≠ ' ')
    (h : s.head? ≠ some c) : (renders done (lex s)).head? ≠ some c := by
  intro hhead
  rcases renders_head done s with heq | heq
  · exact h (heq ▸ hhead)
  · rw [heq, Option.some.injEq] at hhead
    exact hc hhead.symm

/-! ## One pattern -/

theorem quiet_blank {m : Pattern Char} (hspace : ∀ s, m.rest? (' ' :: s) = none) (p : Piece)
    (after : List Char) : m.Quiet (blank p) after := by
  obtain ⟨n, hn⟩ := blank_eq p
  refine Pattern.quiet_of_forall fun c hc => ?_
  rw [hn] at hc
  obtain rfl := (List.mem_replicate.mp hc).2
  exact hspace

/-- A pattern leads from one text to the next if no match of it starts in code or in a
construct of a later class, and if it removes the constructs of its own class. -/
theorem sub_renders {m : Pattern Char} {done : List Kind} {k : Kind}
    (hspace : ∀ s, m.rest? (' ' :: s) = none)
    (hcode : ∀ {t p rest}, Read t p rest → kind p = none → RegularPiece p (lex rest) →
      m.Quiet p.text (renders done (lex rest)))
    (hown : ∀ {t p rest}, Read t p rest → kind p = some k → RegularPiece p (lex rest) →
      m.sub [' '] (p.text ++ renders done (lex rest)) =
        blank p ++ m.sub [' '] (renders done (lex rest)))
    (hlater : ∀ {p rest j}, kind p = some j → j ∉ done → j ≠ k → RegularPiece p rest →
      m.Quiet p.text (renders done rest))
    (s : List Char) (hs : RegularPieces (lex s)) :
    m.sub [' '] (renders done (lex s)) = renders (done ++ [k]) (lex s) := by
  induction s using lex_induct with
  | nil => rfl
  | cons c cs ih =>
    rw [lex_cons] at hs ⊢
    obtain ⟨hpiece, hrest⟩ := hs
    have hread := next_read c cs
    rw [renders_cons, renders_cons, ← ih hrest]
    generalize (next c cs).1 = p at *
    generalize (next c cs).2 = rest at *
    -- code stays, done classes are blank already, the own class goes, later ones stay
    cases hkind : kind p with
    | none =>
      have hrender (ks : List Kind) : render ks p = p.text := by simp [render, hkind]
      rw [hrender, hrender, Pattern.sub_append_of_quiet (hcode hread hkind hpiece)]
    | some j =>
      by_cases hdone : j ∈ done
      · have hrender (ks : List Kind) (hj : j ∈ ks) : render ks p = blank p := by
          simp [render, hkind, hj]
        rw [hrender done hdone, hrender (done ++ [k]) (List.mem_append_left _ hdone),
          Pattern.sub_append_of_quiet (quiet_blank hspace p _)]
      · have htext : render done p = p.text := by simp [render, hkind, hdone]
        by_cases hk : j = k
        · subst hk
          have hblank : render (done ++ [j]) p = blank p := by simp [render, hkind]
          rw [htext, hblank, hown hread hkind hpiece]
        · have hsame : render (done ++ [k]) p = p.text := by simp [render, hkind, hdone, hk]
          rw [htext, hsame, Pattern.sub_append_of_quiet (hlater hkind hdone hk hpiece)]

/-- No match of a pattern starts in a word, if none starts at a character of words. -/
theorem quiet_code {m : Pattern Char} {done : List Kind} {t rest : List Char} {p : Piece}
    (hident : ∀ c s, isIdentCont c = true → m.rest? (c :: s) = none)
    (hsymbol : ∀ c s, c ≠ '\'' ∧ c ≠ '"' → (c = '-' → s.head? ≠ some '-') →
      (c = '/' → s.head? ≠ some '*') → m.rest? (c :: s) = none)
    (hread : Read t p rest) (hkind : kind p = none) (hpiece : RegularPiece p (lex rest)) :
    m.Quiet p.text (renders done (lex rest)) := by
  cases hread with
  | @word c cs hstart =>
    refine Pattern.quiet_of_forall fun d hd s => hident d s ?_
    rcases List.mem_cons.mp hd with rfl | hd
    · simp [isIdentCont, hstart]
    · exact List.mem_takeWhile_imp hd
  | symbol hquote hdash hslash =>
    refine Pattern.quiet_cons.mpr ⟨hsymbol _ _ hquote (fun hc => ?_) fun hc => ?_,
      Pattern.quiet_nil⟩
    · exact renders_head_ne _ (by decide) (hdash hc)
    · exact renders_head_ne _ (by decide) (hslash hc)
  | unclosed => exact hpiece.elim
  | _ => cases hkind

/-! ## Dollar-quoted strings -/

theorem dollarQuoted_of_tag {tag body after : List Char} (htag : '$' ∉ tag)
    (hcut : cut (delimiter tag) (body ++ delimiter tag ++ after) = some (body, after)) :
    dollarQuoted.rest? (delimiter tag ++ body ++ delimiter tag ++ after) = some after := by
  have hall : ∀ c ∈ tag, (c != '$') = true := fun c hc => by
    simp only [bne_iff_ne, ne_eq]
    rintro rfl
    exact htag hc
  have htake (t : List Char) : (tag ++ '$' :: t).takeWhile (· != '$') = tag := by
    rw [List.takeWhile_append_of_pos hall]
    simp
  have hdrop (t : List Char) : (tag ++ '$' :: t).dropWhile (· != '$') = '$' :: t := by
    rw [List.dropWhile_append_of_pos hall]
    simp
  have htext : delimiter tag ++ body ++ delimiter tag ++ after =
      '$' :: (tag ++ '$' :: (body ++ delimiter tag ++ after)) := by simp [delimiter]
  rw [htext]
  simp only [dollarQuoted, hdrop, htake]
  show (cut (delimiter tag) _).map (·.2) = _
  rw [hcut]
  rfl

theorem dollar_stage (s : List Char) (hs : RegularPieces (lex s)) :
    dollarQuoted.sub [' '] (renders [] (lex s)) = renders [.dollar] (lex s) := by
  refine sub_renders (fun _ => rfl) (fun hread hkind hpiece => ?_) (fun hread hkind hpiece => ?_)
    (fun {p rest j} hkind _ hk hpiece => ?_) s hs
  · cases hread with
    | word | symbol => exact hpiece
    | unclosed => exact hpiece.elim
    | _ => cases hkind
  · cases hread with
    | @dollar cs tag body behind rest htag hcut =>
      rw [renders_none]
      have heq := cut_eq hcut
      rw [heq] at hcut
      have hmatch := dollarQuoted_of_tag (tagOf_dollar htag) hcut
      exact Pattern.sub_of_match _ _ hmatch
    | _ => cases hkind
  · cases p with
    | dollar => exact absurd (Option.some.inj hkind).symm hk
    | block | line | single | double => exact hpiece.1
    | _ => cases hkind

/-! ## Block comments -/

theorem not_infix_of_cons {c : Char} {t u : List Char} (h : ¬ u <:+: c :: t) : ¬ u <:+: t :=
  fun hin => h (hin.trans (List.suffix_cons c t).isInfix)

/-- Without an inner comment, the first `*/` ends the comment. -/
theorem cut_block {cs body rest : List Char} (h : blockBody 0 cs = some (body, rest))
    (hflat : ¬ ['/', '*'] <:+: body) (after : List Char) :
    cut ['*', '/'] (body ++ '*' :: '/' :: after) = some (body, after) := by
  generalize hdepth : 0 = depth at h
  fun_induction blockBody depth cs generalizing body rest with
  | case1 => cases h
  | case2 =>
    obtain ⟨r, -, heq⟩ := Option.map_eq_some_iff.mp h
    obtain ⟨rfl, -⟩ := Prod.mk.inj heq
    exact absurd (List.prefix_append ['/', '*'] r.1).isInfix hflat
  | case3 =>
    obtain ⟨rfl, -⟩ := Prod.mk.inj (Option.some.inj h)
    rfl
  | case4 => cases hdepth
  | case5 depth c cs hslash hzero hsucc ih =>
    subst hdepth
    obtain ⟨r, hr, heq⟩ := Option.map_eq_some_iff.mp h
    obtain ⟨rfl, -⟩ := Prod.mk.inj heq
    have hcut := ih (not_infix_of_cons hflat) rfl (Prod.eta r ▸ hr)
    -- the `*/` does not begin here
    have hprefix : ¬ ['*', '/'].isPrefixOf (c :: (r.1 ++ '*' :: '/' :: after)) = true := by
      intro hprefix
      obtain ⟨t, ht⟩ := List.isPrefixOf_iff_prefix.mp hprefix
      obtain ⟨rfl, htail⟩ := List.cons.inj ht
      have heq := blockBody_eq hr
      cases hbody : r.1 with
      | nil =>
        rw [hbody] at htail
        exact absurd (List.cons.inj htail).1 (by decide)
      | cons d ds =>
        rw [hbody] at htail heq
        obtain ⟨rfl, -⟩ := List.cons.inj htail
        exact hzero _ rfl rfl heq.symm
    show cut ['*', '/'] (c :: (r.1 ++ '*' :: '/' :: after)) = _
    rw [cut, if_neg hprefix, hcut]
    rfl

theorem blockComments_none {c : Char} {s : List Char} (h : c = '/' → s.head? ≠ some '*') :
    blockComments.rest? (c :: s) = none := by
  unfold blockComments
  dsimp only
  split
  · rename_i heq
    obtain ⟨rfl, rfl⟩ := List.cons.inj heq
    exact absurd rfl (h rfl)
  · rfl

theorem block_stage (s : List Char) (hs : RegularPieces (lex s)) :
    blockComments.sub [' '] (renders [.dollar] (lex s)) = renders [.dollar, .block] (lex s) := by
  refine sub_renders (fun _ => rfl) (quiet_code (fun c s hc => ?_) fun c s _ _ hslash => ?_)
    (fun {_ _ after} hread hkind hpiece => ?_) (fun {p rest j} hkind hdone hk hpiece => ?_) s hs
  · refine blockComments_none ?_
    rintro rfl
    exact absurd hc (by decide)
  · exact blockComments_none hslash
  · cases hread with
    | @block cs body _ h =>
      have hmatch : blockComments.rest? ('/' :: '*' :: (body ++ '*' :: '/' ::
          renders [.dollar] (lex after))) = some (renders [.dollar] (lex after)) := by
        show (cut ['*', '/'] _).map (·.2) = _
        rw [cut_block h hpiece.2]
        rfl
      have hsub := Pattern.sub_of_match blockComments [' '] hmatch
      simpa [Piece.text, blank] using hsub
    | _ => cases hkind
  · cases p with
    | dollar => cases hkind; simp at hdone
    | block => exact absurd (Option.some.inj hkind).symm hk
    | line | single | double => exact hpiece.2.1
    | _ => cases hkind

/-! ## Line comments -/

theorem lineComments_none {c : Char} {s : List Char} (h : c = '-' → s.head? ≠ some '-') :
    lineComments.rest? (c :: s) = none := by
  unfold lineComments
  dsimp only
  split
  · rename_i heq
    obtain ⟨rfl, rfl⟩ := List.cons.inj heq
    exact absurd rfl (h rfl)
  · rfl

/-- Behind a regular line comment the text is at its end or at a line feed. -/
theorem renders_lineBody (done : List Kind) {cs : List Char}
    (h : (lex (lineBody cs).2).head? ≠ some (.symbol '\r')) :
    renders done (lex (lineBody cs).2) = [] ∨
      (renders done (lex (lineBody cs).2)).head? = some '\n' := by
  rcases (lineBody_spec cs).2 with hnil | hfeed | hreturn
  · left
    rw [hnil]
    rfl
  · right
    obtain ⟨t, ht⟩ := List.head?_eq_some_iff.mp hfeed
    rw [ht, lex_cons]
    rfl
  · obtain ⟨t, ht⟩ := List.head?_eq_some_iff.mp hreturn
    rw [ht, lex_cons] at h
    exact absurd rfl h

theorem line_stage (s : List Char) (hs : RegularPieces (lex s)) :
    lineComments.sub [' '] (renders [.dollar, .block] (lex s)) =
      renders [.dollar, .block, .line] (lex s) := by
  refine sub_renders (fun _ => rfl) (quiet_code (fun c s hc => ?_) fun c s _ hdash _ => ?_)
    (fun {_ _ after} hread hkind hpiece => ?_) (fun {p rest j} hkind hdone hk hpiece => ?_) s hs
  · refine lineComments_none ?_
    rintro rfl
    exact absurd hc (by decide)
  · exact lineComments_none hdash
  · cases hread with
    | @line cs =>
      have hbody : ∀ c ∈ (lineBody cs).1, (c != '\n') = true := fun c hc => by
        simp only [bne_iff_ne, ne_eq]
        rintro rfl
        exact (lineBody_spec cs).1 hc
      -- the pattern stops where the comment does
      have hmatch : lineComments.rest? ('-' :: '-' :: ((lineBody cs).1 ++
          renders [.dollar, .block] (lex (lineBody cs).2))) =
          some (renders [.dollar, .block] (lex (lineBody cs).2)) := by
        show some (List.dropWhile _ _) = _
        rw [List.dropWhile_append_of_pos hbody]
        rcases renders_lineBody [.dollar, .block] hpiece.2.2 with hnil | hfeed
        · rw [hnil]
          rfl
        · obtain ⟨t, ht⟩ := List.head?_eq_some_iff.mp hfeed
          rw [ht]
          rfl
      exact Pattern.sub_of_match lineComments [' '] hmatch
    | _ => cases hkind
  · cases p with
    | dollar | block => cases hkind; simp at hdone
    | line => exact absurd (Option.some.inj hkind).symm hk
    | single => exact hpiece.2.2
    | double => exact hpiece.2.2.1
    | _ => cases hkind

/-! ## Literals -/

theorem singleQuoted_none {c : Char} {s : List Char} (h : c ≠ '\'') :
    singleQuoted.rest? (c :: s) = none := by
  unfold singleQuoted
  dsimp only
  split
  · rename_i heq
    exact absurd (List.cons.inj heq).1 h
  · rfl

/-- The pattern closes a literal where PostgreSQL does. -/
theorem closeSingle_body {cs body rest : List Char} (h : singleBody cs = some (body, rest))
    {after : List Char} (hafter : after.head? ≠ some '\'') :
    closeSingle (body ++ '\'' :: after) = some after := by
  fun_induction singleBody cs generalizing body rest with
  | case1 => cases h
  | case2 cs ih =>
    obtain ⟨r, hr, heq⟩ := Option.map_eq_some_iff.mp h
    obtain ⟨rfl, -⟩ := Prod.mk.inj heq
    simp [closeSingle, ih (Prod.eta r ▸ hr)]
  | case3 =>
    obtain ⟨rfl, -⟩ := Prod.mk.inj (Option.some.inj h)
    cases after with
    | nil => rfl
    | cons c t =>
      have hc : c ≠ '\'' := by simpa using hafter
      simp [closeSingle, hc]
  | case4 c cs hpair hquote ih =>
    obtain ⟨r, hr, heq⟩ := Option.map_eq_some_iff.mp h
    obtain ⟨rfl, -⟩ := Prod.mk.inj heq
    have hc : c ≠ '\'' := hquote
    simp [closeSingle, hc, ih (Prod.eta r ▸ hr)]

theorem single_stage (s : List Char) (hs : RegularPieces (lex s)) :
    singleQuoted.sub [' '] (renders [.dollar, .block, .line] (lex s)) =
      renders [.dollar, .block, .line, .single] (lex s) := by
  refine sub_renders (fun _ => rfl) (quiet_code (fun c s hc => ?_) fun c s hquote _ _ => ?_)
    (fun {_ _ after} hread hkind hpiece => ?_) (fun {p rest j} hkind hdone hk hpiece => ?_) s hs
  · refine singleQuoted_none ?_
    rintro rfl
    exact absurd hc (by decide)
  · exact singleQuoted_none hquote.1
  · cases hread with
    | @single cs body _ h =>
      have hafter := renders_head_ne [.dollar, .block, .line] (by decide)
        (singleBody_rest h)
      -- a doubled quote does not close the literal for the pattern either
      have hmatch : singleQuoted.rest? ('\'' :: (body ++ '\'' ::
          renders [.dollar, .block, .line] (lex after))) =
          some (renders [.dollar, .block, .line] (lex after)) := closeSingle_body h hafter
      have hsub := Pattern.sub_of_match singleQuoted [' '] hmatch
      simpa [Piece.text, blank] using hsub
    | _ => cases hkind
  · cases p with
    | dollar | block | line => cases hkind; simp at hdone
    | single => exact absurd (Option.some.inj hkind).symm hk
    | double => exact hpiece.2.2.2.1
    | _ => cases hkind

/-! ## Quoted identifiers -/

theorem doubleQuoted_none {c : Char} {s : List Char} (h : c ≠ '"') :
    doubleQuoted.rest? (c :: s) = none := by
  unfold doubleQuoted
  dsimp only
  split
  · rename_i heq
    exact absurd (List.cons.inj heq).1 h
  · rfl

/-- Without a backslash, the next quote closes. -/
theorem closeDouble_segment {segment : List Char} (hquote : '"' ∉ segment)
    (hback : '\\' ∉ segment) (after : List Char) :
    closeDouble (segment ++ '"' :: after) = some after := by
  induction segment with
  | nil => rfl
  | cons c segment ih =>
    have hc : c ≠ '"' ∧ c ≠ '\\' := by
      refine ⟨?_, ?_⟩
      · rintro rfl
        exact hquote (List.mem_cons_self ..)
      · rintro rfl
        exact hback (List.mem_cons_self ..)
    have htail := ih (fun h => hquote (List.mem_cons_of_mem _ h))
      fun h => hback (List.mem_cons_of_mem _ h)
    simp [closeDouble, hc.1, hc.2, htail]

/-- The pattern removes an identifier segment by segment. -/
theorem sub_double {segment : List Char} {more : List (List Char)}
    (hquote : '"' ∉ segment ∧ ∀ s ∈ more, '"' ∉ s)
    (hback : '\\' ∉ (Piece.double segment more).text) (after : List Char) :
    doubleQuoted.sub [' '] ((Piece.double segment more).text ++ after) =
      blank (.double segment more) ++ doubleQuoted.sub [' '] after := by
  obtain ⟨hsegment, hmore⟩ := hquote
  induction more generalizing segment with
  | nil =>
    have hclose := closeDouble_segment hsegment (fun h => hback (by simp [Piece.text, h])) after
    have hsub := Pattern.sub_of_match doubleQuoted [' '] (a := '"') hclose
    simpa [Piece.text, blank] using hsub
  | cons s more ih =>
    have hback' : '\\' ∉ (Piece.double s more).text := fun h =>
      hback (by simp_all [Piece.text])
    have hrest := ih hback' (hmore s (List.mem_cons_self ..)) fun t ht =>
      hmore t (List.mem_cons_of_mem _ ht)
    have hclose := closeDouble_segment hsegment (fun h => hback (by simp [Piece.text, h]))
      ((Piece.double s more).text ++ after)
    have hsub := Pattern.sub_of_match doubleQuoted [' '] (a := '"') hclose
    rw [hrest] at hsub
    simpa [Piece.text, blank, List.replicate_succ] using hsub

theorem double_stage (s : List Char) (hs : RegularPieces (lex s)) :
    doubleQuoted.sub [' '] (renders [.dollar, .block, .line, .single] (lex s)) =
      renders [.dollar, .block, .line, .single, .double] (lex s) := by
  refine sub_renders (fun _ => rfl) (quiet_code (fun c s hc => ?_) fun c s hquote _ _ => ?_)
    (fun {_ _ after} hread hkind hpiece => ?_) (fun {p rest j} hkind hdone hk hpiece => ?_) s hs
  · refine doubleQuoted_none ?_
    rintro rfl
    exact absurd hc (by decide)
  · exact doubleQuoted_none hquote.2
  · cases hread with
    | double h => exact sub_double (doubleBody_segments h) hpiece.2.2.2.2 _
    | _ => cases hkind
  · cases p with
    | dollar | block | line | single => cases hkind; simp at hdone
    | double => exact absurd (Option.some.inj hkind).symm hk
    | _ => cases hkind

end ExplainParser

