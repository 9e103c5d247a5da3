import Mathlib.Tactic.IntervalCases
import ContraGate.ExtractTables
import ContraGate.Library.SqlTree
import ContraGate.PolicyEvaluation

/-!
# Which tables the extraction finds

The patterns find a plain name behind its keyword when only white space is between them. Such
a name is missed only where an earlier match of the same pattern runs over the keyword.
-/

namespace RiskGate

/-! ## One pattern -/

section Pattern

variable {wide : Char → Bool} {keyword spaces name rest s : List Char}

/-- The parts of a match. -/
theorem wordAfter_eq_some (h : (wordAfter wide keyword).match? s = some (name, rest)) :
    ∃ spaces, s = keyword ++ (spaces ++ (name ++ rest)) ∧ spaces ≠ [] ∧
      spaces.all Py.isSpace = true ∧ name.all (Py.isWord wide) = true ∧
      name.head?.all (fun c => !Py.isSpace c) = true := by
  unfold wordAfter at h
  dsimp only at h
  split at h
  · rename_i hprefix
    obtain ⟨behind, rfl⟩ := List.isPrefixOf_iff_prefix.mp hprefix
    rw [List.drop_left] at h
    split at h
    · cases h
    · rename_i hnonempty
      simp only [Option.some.injEq, Prod.mk.injEq] at h
      obtain ⟨rfl, rfl⟩ := h
      simp only [Bool.or_eq_true, List.isEmpty_iff, not_or] at hnonempty
      refine ⟨behind.takeWhile Py.isSpace, ?_, hnonempty.1, List.all_takeWhile,
        List.all_takeWhile, ?_⟩
      -- the two runs and what they leave make up the text
      · rw [List.takeWhile_append_dropWhile, List.takeWhile_append_dropWhile]
      -- the run of white space is maximal, so the name cannot start with more of it
      · have hnot := List.head?_dropWhile_not Py.isSpace behind
        cases hdrop : behind.dropWhile Py.isSpace with
        | nil => rfl
        | cons c cs =>
          rw [hdrop] at hnot
          rw [List.takeWhile_cons]
          split
          · simpa using hnot
          · rfl
  · cases h

/-- A run of white space and a name are a match, if no word character follows. -/
theorem wordAfter_append (hspaces : spaces.all Py.isSpace = true) (hne : spaces ≠ [])
    (hname : ∀ c ∈ name, Py.isWord wide c = true ∧ Py.isSpace c = false) (hname' : name ≠ [])
    (hrest : rest.head?.all (fun c => !Py.isWord wide c) = true) :
    (wordAfter wide keyword).match? (keyword ++ (spaces ++ (name ++ rest))) =
      some (name, rest) := by
  -- the name starts with a word character, so the white space ends where it should
  have hspaces' : (spaces ++ (name ++ rest)).takeWhile Py.isSpace = spaces ∧
      (spaces ++ (name ++ rest)).dropWhile Py.isSpace = name ++ rest := by
    obtain ⟨c, cs, rfl⟩ := List.exists_cons_of_ne_nil hname'
    have hc := (hname c (List.mem_cons_self ..)).2
    rw [List.takeWhile_append_of_pos (List.all_eq_true.mp hspaces),
      List.dropWhile_append_of_pos (List.all_eq_true.mp hspaces)]
    simp [hc]
  have hword : ∀ c ∈ name, Py.isWord wide c = true := fun c hc => (hname c hc).1
  have hname'' : (name ++ rest).takeWhile (Py.isWord wide) = name ∧
      (name ++ rest).dropWhile (Py.isWord wide) = rest := by
    rw [List.takeWhile_append_of_pos hword, List.dropWhile_append_of_pos hword]
    cases rest with
    | nil => simp
    | cons d ds =>
      have hd : Py.isWord wide d = false := by simpa using hrest
      simp [hd]
  unfold wordAfter
  dsimp only
  rw [if_pos (List.isPrefixOf_iff_prefix.mpr (List.prefix_append ..)), List.drop_left,
    hspaces'.1, hspaces'.2, hname''.1, hname''.2, if_neg (by simp [hne, hname'])]

/-- No end of the keyword but itself begins it. -/
def Borderless (keyword : List Char) : Prop :=
  ∀ t ∈ keyword.tails.tail, t ≠ [] → ¬ t <+: keyword

instance : Decidable (Borderless keyword) :=
  inferInstanceAs (Decidable (∀ t ∈ keyword.tails.tail, t ≠ [] → ¬ t <+: keyword))

/-- The text ends in an occurrence of the keyword with white space and a word behind it, where
the word may be empty. -/
def endsInMatch (wide : Char → Bool) (keyword before : List Char) : Bool :=
  before.tails.any fun t =>
    let behind := t.drop keyword.length
    keyword.isPrefixOf t && !(behind.takeWhile Py.isSpace).isEmpty &&
      (behind.dropWhile Py.isSpace).all (Py.isWord wide)

theorem endsInMatch_append (before : List Char) (hspaces : spaces.all Py.isSpace = true)
    (hne : spaces ≠ []) (hname : name.all (Py.isWord wide) = true)
    (hhead : name.head?.all (fun c => !Py.isSpace c) = true) :
    endsInMatch wide keyword (before ++ (keyword ++ (spaces ++ name))) = true := by
  refine List.any_eq_true.mpr ⟨_, (List.mem_tails _ _).mpr (List.suffix_append ..), ?_⟩
  have htake : name.takeWhile Py.isSpace = [] ∧ name.dropWhile Py.isSpace = name := by
    cases name with
    | nil => exact ⟨rfl, rfl⟩
    | cons c cs =>
      have hc : Py.isSpace c = false := by simpa using hhead
      simp [hc]
  dsimp only
  rw [List.drop_left, List.takeWhile_append_of_pos (List.all_eq_true.mp hspaces),
    List.dropWhile_append_of_pos (List.all_eq_true.mp hspaces), htake.1, htake.2, hname]
  simp [hne]

theorem endsInMatch_of_suffix {t before : List Char} (hsuffix : t <:+ before)
    (h : endsInMatch wide keyword t = true) : endsInMatch wide keyword before = true := by
  obtain ⟨u, hu, hmatch⟩ := List.any_eq_true.mp h
  refine List.any_eq_true.mpr ⟨u, (List.mem_tails _ _).mpr ?_, hmatch⟩
  exact ((List.mem_tails _ _).mp hu).trans hsuffix

/-- A match that begins before an occurrence of the keyword and runs over its first letter ends
within the word in front of the keyword. -/
theorem endsInMatch_of_overlap {k : Char} {letters before found left behind : List Char}
    (hkeyword : keyword = k :: letters) (hk : Py.isSpace k = false)
    (hborder : Borderless keyword) (hbefore : before ≠ [])
    (hmatch : (wordAfter wide keyword).match? (before ++ (keyword ++ behind)) =
      some (found, left)) (hover : left.length < (keyword ++ behind).length) :
    endsInMatch wide keyword before = true := by
  obtain ⟨spaces, heq, hne, hspaces, hfound, hhead⟩ := wordAfter_eq_some hmatch
  have hnot : ∀ u v : List Char, keyword ++ behind = u ++ v → u.all Py.isSpace = true → u = [] := by
    intro u v huv hu
    cases u with
    | nil => rfl
    | cons c u =>
      rw [hkeyword] at huv
      obtain rfl : k = c := (List.cons.inj huv).1
      rw [List.all_cons, hk] at hu
      cases hu
  rcases List.append_eq_append_iff.mp heq with ⟨part, hpart, htail⟩ | ⟨part, rfl, htail⟩
  · -- the occurrences share letters
    by_cases hpart' : part = []
    · subst hpart'
      exact absurd (hnot spaces _ htail hspaces) hne
    · have hprefix : part <+: keyword :=
        List.prefix_of_prefix_length_le ⟨_, htail.symm⟩ (List.prefix_append keyword behind)
          (by rw [hpart, List.length_append]; omega)
      refine absurd hprefix (hborder part ?_ hpart')
      obtain ⟨c, cs, rfl⟩ := List.exists_cons_of_ne_nil hbefore
      rw [hpart, List.cons_append, List.tails_cons, List.tail_cons, List.mem_tails]
      exact List.suffix_append ..
  · rcases List.append_eq_append_iff.mp htail with ⟨word, rfl, hword⟩ | ⟨gap, hgap, hgap'⟩
    · -- the keyword begins behind the white space of the match
      rcases List.append_eq_append_iff.mp hword with ⟨more, -, hleft⟩ | ⟨more, rfl, -⟩
      · rw [hleft, List.length_append] at hover
        omega
      · rw [List.all_append, Bool.and_eq_true] at hfound
        have hhead' : word.head?.all (fun c => !Py.isSpace c) = true := by
          cases word with
          | nil => rfl
          | cons c cs => exact hhead
        exact endsInMatch_append [] hspaces hne hfound.1 hhead'
    · -- it begins within the white space, so directly behind it
      rw [hgap, List.all_append, Bool.and_eq_true] at hspaces
      obtain rfl := hnot gap _ hgap' hspaces.2
      rw [List.append_nil] at hgap
      have hends : endsInMatch wide keyword ([] ++ (keyword ++ (part ++ []))) = true :=
        endsInMatch_append [] hspaces.1 (hgap ▸ hne) rfl rfl
      rwa [List.append_nil, List.nil_append] at hends

/-- A name behind its keyword is found, unless the text in front of the keyword ends in a
match. -/
theorem mem_findAll_wordAfter {k : Char} {letters before : List Char}
    (hkeyword : keyword = k :: letters) (hk : Py.isSpace k = false)
    (hborder : Borderless keyword) (hspaces : spaces.all Py.isSpace = true) (hne : spaces ≠ [])
    (hname : ∀ c ∈ name, Py.isWord wide c = true ∧ Py.isSpace c = false) (hname' : name ≠ [])
    (hrest : rest.head?.all (fun c => !Py.isWord wide c) = true)
    (hends : endsInMatch wide keyword before = false) :
    name ∈ (wordAfter wide keyword).findAll
      (before ++ (keyword ++ (spaces ++ (name ++ rest)))) := by
  have hmatch : (wordAfter wide keyword).match? (keyword ++ (spaces ++ (name ++ rest))) =
      some (name, rest) := wordAfter_append hspaces hne hname hname' hrest
  generalize hbehind : spaces ++ (name ++ rest) = behind at hmatch ⊢
  induction hn : before.length using Nat.strongRecOn generalizing before with
  | _ n ih =>
    cases before with
    | nil =>
      rw [List.nil_append]
      rw [hkeyword, List.cons_append] at hmatch ⊢
      rw [Capture.findAll_of_match hmatch]
      exact List.mem_cons_self ..
    | cons c before =>
      have hends' : ∀ t, t <:+ c :: before → endsInMatch wide keyword t = false := by
        intro t ht
        by_contra h
        rw [endsInMatch_of_suffix ht (by simpa using h)] at hends
        cases hends
      rw [List.cons_append]
      cases hfirst : (wordAfter wide keyword).match? (c :: (before ++ (keyword ++ behind))) with
      | none =>
        rw [Capture.findAll_of_no_match hfirst]
        refine ih before.length ?_ (hends' _ (List.suffix_cons ..)) rfl
        rw [← hn, List.length_cons]
        omega
      | some result =>
        obtain ⟨found, left⟩ := result
        rw [Capture.findAll_of_match hfirst]
        refine List.mem_cons_of_mem _ ?_
        by_cases hover : left.length < (keyword ++ behind).length
        · rw [endsInMatch_of_overlap hkeyword hk hborder (List.cons_ne_nil _ _) hfirst hover]
            at hends
          cases hends
        · -- the match ends before the keyword
          obtain ⟨spaces', heq, -⟩ := wordAfter_eq_some hfirst
          rw [← List.cons_append, ← List.append_assoc spaces', ← List.append_assoc keyword] at heq
          have hsuffix : keyword ++ behind <:+ left :=
            List.suffix_of_suffix_length_le ⟨_, heq⟩ (List.suffix_append ..) (by omega)
          obtain ⟨between, rfl⟩ := hsuffix
          rw [← List.append_assoc _ between] at heq
          have hbetween := List.append_cancel_right heq
          refine ih between.length ?_ (hends' between ⟨_, hbetween.symm⟩) rfl
          have hlen := (wordAfter wide keyword).match_length _ _ _ hfirst
          simp only [List.length_cons, List.length_append] at hlen hn
          omega

end Pattern

/-! ## From the statement to the text in upper case -/

section Upper

variable (letters : Py.CaseMap) {wide : Char → Bool}

theorem toUpper_ascii {c : Char} (h : c.toUpper.toNat < 128) : c.toNat < 128 := by
  rcases Py.toLower_of_toUpper_eq (Eq.refl c.toUpper) with heq | heq
  · rwa [← heq] at h
  · rw [heq]
    generalize c.toUpper = d at h
    have hall : ∀ n < 128, (Char.ofNat n).toLower.toNat < 128 := by decide
    have hd := hall d.toNat h
    rwa [Char.ofNat_toNat] at hd

/-- A keyword in any letter case becomes the keyword of the pattern. -/
theorem upper_keyword {kw keyword : List Char}
    (hascii : (keyword.all fun c => decide (c.toNat < 128)) = true)
    (h : kw.map Char.toUpper = keyword) : kw.flatMap letters.upper = keyword := by
  subst h
  induction kw with
  | nil => rfl
  | cons c kw ih =>
    rw [List.map_cons, List.all_cons, Bool.and_eq_true] at hascii
    have hc := toUpper_ascii (of_decide_eq_true hascii.1)
    rw [List.flatMap_cons, letters.upper_ascii c hc, ih hascii.2]
    rfl

theorem isSpace_spec {c : Char} (h : Sql.isSpace c = true) :
    letters.upper c = [c] ∧ Py.isSpace c = true := by
  unfold Sql.isSpace at h
  simp only [Bool.or_eq_true, beq_iff_eq] at h
  rcases h with ((((rfl | rfl) | rfl) | rfl) | rfl) | rfl
  all_goals exact ⟨letters.upper_ascii _ (by decide), by decide⟩

/-- White space is left as it is. -/
theorem upper_gap {mid : List Sql.Piece} (hgap : ∀ p ∈ mid, SqlTree.isGap p = true)
    (hsymbol : ∀ p ∈ mid, ∃ c, p = .symbol c) :
    ((mid.flatMap Sql.Piece.text).flatMap letters.upper).all Py.isSpace = true ∧
      (mid ≠ [] → (mid.flatMap Sql.Piece.text).flatMap letters.upper ≠ []) := by
  induction mid with
  | nil => exact ⟨rfl, fun h => absurd rfl h⟩
  | cons p mid ih =>
    rw [List.forall_mem_cons] at hgap hsymbol
    obtain ⟨c, rfl⟩ := hsymbol.1
    obtain ⟨hupper, hspace⟩ := isSpace_spec letters hgap.1
    have htext : ((Sql.Piece.symbol c :: mid).flatMap Sql.Piece.text).flatMap letters.upper =
        c :: (mid.flatMap Sql.Piece.text).flatMap letters.upper := by
      simp [Sql.Piece.text, hupper]
    rw [htext, List.all_cons, hspace]
    exact ⟨(ih hgap.2 hsymbol.2).1, fun _ => List.cons_ne_nil _ _⟩

theorem isIdentCont_spec (wide : Char → Bool) {c : Char} (h : Sql.isIdentCont c = false) :
    letters.upper c = [c] ∧ Py.isWord wide c = false := by
  have hascii : c.toNat < 128 := by
    by_contra hlarge
    have hident : Sql.isIdentCont c = true := by
      simp [Sql.isIdentCont, Sql.isIdentStart, Nat.le_of_not_lt hlarge]
    rw [hident] at h
    cases h
  have hall : ∀ n < 128, Sql.isIdentCont (Char.ofNat n) = false →
      (Char.ofNat n).toUpper = Char.ofNat n ∧
      ((Char.ofNat n).isAlphanum || Char.ofNat n == '_') = false := by decide
  have hc := hall c.toNat hascii
  rw [Char.ofNat_toNat] at hc
  refine ⟨?_, ?_⟩
  · rw [letters.upper_ascii c hascii, (hc h).1]
  · unfold Py.isWord
    rw [if_pos hascii, (hc h).2]

/-- A character that continues no identifier becomes no character of a word. -/
theorem upper_head {s : List Char}
    (h : s.head?.all (fun c => !Sql.isIdentCont c) = true) :
    (s.flatMap letters.upper).head?.all (fun c => !Py.isWord wide c) = true := by
  cases s with
  | nil => rfl
  | cons c s =>
    obtain ⟨hupper, hword⟩ := isIdentCont_spec letters wide (by simpa using h)
    rw [List.flatMap_cons, hupper]
    simp [hword]

end Upper

/-! ## The tables of a statement -/

open SqlTree

variable (letters : Py.CaseMap) (wide : Char → Bool)

/-- A name that a pattern takes whole, and that is none of the stop words. -/
structure Extractable (name : List Char) : Prop where
  word : ∀ c ∈ name.flatMap letters.upper, Py.isWord wide c = true ∧ Py.isSpace c = false
  nonempty : name.flatMap letters.upper ≠ []
  lower : letters.lower (name.flatMap letters.upper) = letters.lower name
  listed : String.ofList (letters.lower name) ∉ stopWords

/-- A name of ASCII letters, digits and underscores is extractable unless it is a stop word. -/
theorem extractable_of_ascii {name : List Char} (hne : name ≠ [])
    (hchars : (name.all fun c => decide (c.toNat < 128) && (c.isAlphanum || c == '_')) = true)
    (hlisted : String.ofList (name.map Char.toLower) ∉ stopWords) :
    Extractable letters wide name := by
  have hword : ∀ c ∈ name, c.toNat < 128 ∧ (c.isAlphanum || c == '_') = true := by
    intro c hc
    simpa using List.all_eq_true.mp hchars c hc
  have hupper : name.flatMap letters.upper = name.map Char.toUpper := by
    rw [← List.flatMap_singleton' (name.map Char.toUpper), List.flatMap_map]
    exact List.flatMap_congr fun c hc => letters.upper_ascii c (hword c hc).1
  -- what upper-casing does to the letters is checked on the 128 characters
  have hall : ∀ n < 128, ((Char.ofNat n).isAlphanum || Char.ofNat n == '_') = true →
      (Char.ofNat n).toUpper.toNat < 128 ∧
      ((Char.ofNat n).toUpper.isAlphanum || (Char.ofNat n).toUpper == '_') = true ∧
      Py.isSpace (Char.ofNat n).toUpper = false ∧
      (Char.ofNat n).toUpper.toLower = (Char.ofNat n).toLower := by decide
  have hchar : ∀ c ∈ name, c.toUpper.toNat < 128 ∧
      (c.toUpper.isAlphanum || c.toUpper == '_') = true ∧ Py.isSpace c.toUpper = false ∧
      c.toUpper.toLower = c.toLower := by
    intro c hc
    have hn := hall c.toNat (hword c hc).1
    rw [Char.ofNat_toNat] at hn
    exact hn (hword c hc).2
  have hlower : letters.lower name = name.map Char.toLower :=
    letters.lower_ascii name (List.all_eq_true.mpr fun c hc => decide_eq_true (hword c hc).1)
  constructor
  · intro c hc
    rw [hupper] at hc
    obtain ⟨d, hd, rfl⟩ := List.mem_map.mp hc
    obtain ⟨hascii, hword', hspace, -⟩ := hchar d hd
    refine ⟨?_, hspace⟩
    unfold Py.isWord
    rw [if_pos hascii, hword']
  · rw [hupper]
    simpa using hne
  · rw [hupper, hlower, letters.lower_ascii _ (List.all_eq_true.mpr ?_), List.map_map]
    · exact List.map_congr_left fun c hc => (hchar c hc).2.2.2
    · intro c hc
      obtain ⟨d, hd, rfl⟩ := List.mem_map.mp hc
      exact decide_eq_true (hchar d hd).1
  · rwa [hlower]

/-- Wherever the keyword is before the name, only white space is between them, and the text in
front of the keyword does not end in a match. -/
def Clear (k : Introducer) (name text : List Char) : Prop :=
  ∀ before kw mid after,
    Sql.lex text = before ++ .word kw :: (mid ++ .word name :: after) →
    kw.map Char.toUpper = k.keyword.toList → (∀ p ∈ mid, isGap p = true) →
    (∀ p ∈ mid, ∃ c, p = .symbol c) ∧
      endsInMatch wide k.keyword.toList
        ((before.flatMap Sql.Piece.text).flatMap letters.upper) = false

/-- What the patterns need of the keywords. -/
theorem keyword_spec (k : Introducer) :
    k.keyword ∈ tableKeywords ∧
    (k.keyword.toList.all fun c => decide (c.toNat < 128)) = true ∧
    Borderless k.keyword.toList ∧
    ∃ c cs, k.keyword.toList = c :: cs ∧ Py.isSpace c = false := by
  cases k
  all_goals exact ⟨by decide, by decide, by decide, _, _, rfl, by decide⟩

variable {letters wide}

theorem mem_extractTables {rawSql keyword : String} {name : List Char}
    (hkeyword : keyword ∈ tableKeywords)
    (hname : name ∈ (wordAfter wide keyword.toList).findAll
      (rawSql.toList.flatMap letters.upper))
    (hlisted : String.ofList (letters.lower name) ∉ stopWords) :
    String.ofList (letters.lower name) ∈ extractTables letters wide rawSql := by
  unfold extractTables namesAfter
  dsimp only
  rw [List.mem_eraseDups, List.mem_flatMap]
  refine ⟨keyword, hkeyword, List.mem_filter.mpr ⟨List.mem_map_of_mem hname, ?_⟩⟩
  simpa using hlisted

/-- A plain name directly behind its keyword is reported. -/
theorem mem_extractTables_of_direct {s : Statement} {rawSql : String} {k : Introducer}
    {name : List Char} (hrenders : Renders s.tokens rawSql.toList)
    (hdirect : (k, name) ∈ s.direct) (hname : Extractable letters wide name)
    (hclear : Clear letters wide k name rawSql.toList) :
    String.ofList (letters.lower name) ∈ extractTables letters wide rawSql := by
  obtain ⟨before, kw, mid, after, hlex, hgap, hkw⟩ :=
    hrenders.place (Statement.adjacent_of_direct hdirect)
  obtain ⟨hsymbol, hends⟩ := hclear before kw mid after hlex hkw hgap
  obtain ⟨hlisted, hascii, hborder, c, cs, hcs, hc⟩ := keyword_spec k
  -- two words next to each other would have been read as one
  have hmid : mid ≠ [] := by
    rintro rfl
    obtain ⟨-, hhead⟩ := Sql.lex_word hlex
    have hlexName : Sql.lex rawSql.toList = (before ++ [.word kw]) ++ .word name :: after :=
      hlex.trans (List.append_cons ..)
    obtain ⟨⟨d, ds, rfl, hd⟩, -⟩ := Sql.lex_word hlexName
    simp [Sql.Piece.text, Sql.isIdentCont, hd] at hhead
  obtain ⟨hspaces, hne⟩ := upper_gap letters hgap hsymbol
  have hlexName : Sql.lex rawSql.toList = (before ++ .word kw :: mid) ++ .word name :: after := by
    rw [hlex, List.append_assoc, List.cons_append]
  have hrest := (Sql.lex_word hlexName).2
  have htext : rawSql.toList.flatMap letters.upper =
      (before.flatMap Sql.Piece.text).flatMap letters.upper ++ (k.keyword.toList ++
        ((mid.flatMap Sql.Piece.text).flatMap letters.upper ++ (name.flatMap letters.upper ++
          (after.flatMap Sql.Piece.text).flatMap letters.upper))) := by
    rw [← Sql.text_lex rawSql.toList, hlex, ← upper_keyword letters hascii hkw]
    simp only [List.flatMap_append, List.flatMap_cons, Sql.Piece.text]
  have hfound := mem_findAll_wordAfter hcs hc hborder hspaces (hne hmid) hname.word
    hname.nonempty (upper_head letters hrest) hends
  rw [← htext] at hfound
  have hmem := mem_extractTables hlisted hfound (by rw [hname.lower]; exact hname.listed)
  rwa [hname.lower] at hmem

/-- The tables and the rule on PII tables: a plain name directly behind its keyword is reported,
so the rule is triggered when it is the name of a PII table. -/
theorem extractTables_complete {s : Statement} {rawSql : String} {k : Introducer}
    {name : List Char} (hrenders : Renders s.tokens rawSql.toList)
    (hdirect : (k, name) ∈ s.direct) (hname : Extractable letters wide name)
    (hclear : Clear letters wide k name rawSql.toList) :
    .plain name ∈ s.tables ∧
    String.ofList (letters.lower name) ∈ extractTables letters wide rawSql ∧
    ∀ (args : PolicyArguments) (piiTables : List String) (rules : List PolicyRule)
      (e : Evaluation), args.tables = extractTables letters wide rawSql →
      String.ofList (letters.lower name) ∈ piiTables →
      PolicyStore.evaluateOperation args piiTables rules = .ok e →
      ∀ rule ∈ rules, rule.ruleId = "POLICY_PII_STANDARD_REVIEW" → rule ∈ e.triggeredRules := by
  have hmem := mem_extractTables_of_direct hrenders hdirect hname hclear
  refine ⟨Statement.mem_tables_of_direct hdirect, hmem, ?_⟩
  intro args piiTables rules e htables hpii heval rule hrule hid
  obtain ⟨-, rfl⟩ := PolicyStore.evaluateOperation_eq_ok.mp heval
  rw [PolicyStore.foldl_addTriggered_triggeredRules, List.nil_append]
  have hoverlaps : PolicyStore.overlaps args.tables piiTables = true :=
    List.any_eq_true.mpr ⟨_, htables ▸ hmem, List.contains_iff_mem.mpr hpii⟩
  exact List.mem_filter.mpr ⟨hrule, PolicyStore.fires_iff.mpr (.inr (.inl ⟨hid, hoverlaps⟩))⟩

/-! ## A name that is found, and names that are missed -/

def usersRef : TableRef := { name := .plain "users".toList }

def selectId (tables : List FromItem) : Statement :=
  .query (.select [] [.piece (.word "id".toList)] tables [])

theorem clear_selectId :
    Clear .ascii (fun _ => false) .fromTables "users".toList "select id from users".toList := by
  intro before kw mid after hlex hkw _
  have hpieces : Sql.lex "select id from users".toList =
      [.word "select".toList, .symbol ' ', .word "id".toList, .symbol ' ', .word "from".toList,
       .symbol ' ', .word "users".toList] := by decide
  rw [hpieces] at hlex
  -- the keyword is one of the seven pieces, and only the fifth is spelled so
  have hlen : before.length < 7 := by
    have heq := congrArg List.length hlex
    simp only [List.length_cons, List.length_append, List.length_nil] at heq
    omega
  have hword := congrArg (fun l => l[before.length]?) hlex
  have hbefore := congrArg (List.take before.length) hlex
  have hbehind := congrArg (List.drop (before.length + 1)) hlex
  rw [List.take_left] at hbefore
  simp only [List.getElem?_append_right (Nat.le_refl _), Nat.sub_self,
    List.getElem?_cons_zero] at hword
  rw [List.append_cons, List.drop_left' (by simp)] at hbehind
  generalize before.length = n at hlen hword hbefore hbehind
  have hn : n = 4 := by
    by_contra hne
    interval_cases n
    all_goals first
      | exact hne rfl
      | (obtain rfl := Sql.Piece.word.inj (Option.some.inj hword); cases hkw)
      | cases hword
  subst hn
  rw [← hbefore]
  refine ⟨?_, by decide⟩
  intro p hp
  -- between it and the name one piece has room
  have hmid : mid.length ≤ 1 := by
    have heq := congrArg List.length hbehind
    simp only [List.length_drop, List.length_append, List.length_cons, List.length_nil] at heq
    omega
  obtain ⟨q, rfl⟩ := List.length_eq_one_iff.mp
    (Nat.le_antisymm hmid (List.length_pos_of_mem hp))
  obtain rfl := List.mem_singleton.mp hp
  exact ⟨' ', (List.cons.inj hbehind).1.symm⟩

/-- A name that is found. -/
theorem users_found :
    "users" ∈ extractTables .ascii (fun _ => false) "select id from users" :=
  (extractTables_complete (s := selectId [.table usersRef []]) (k := .fromTables)
    (by unfold Renders; decide) (List.mem_singleton_self _)
    (extractable_of_ascii .ascii _ (by decide) (by decide) (by decide)) clear_selectId).2.1

/-- The statement refers to the table, and the table is not reported. -/
def Missed (s : Statement) (rawSql table : String) : Prop :=
  Renders s.tokens rawSql.toList ∧ (∃ name ∈ s.tables, String.ofList name.text = table) ∧
    table ∉ extractTables .ascii (fun _ => false) rawSql

/-- In a list behind the first entry, qualified, quoted, behind `ONLY`, `USING`, `IF EXISTS` or a
comment, with a `$`, and as a stop word. -/
theorem extractTables_misses :
    Missed (selectId [.table { name := .plain "orders".toList } [], .table usersRef []])
      "SELECT id FROM orders, users" "users" ∧
    Missed (selectId [.table { usersRef with qualifiers := [.plain "public".toList] } []])
      "SELECT id FROM public.users" "users" ∧
    Missed (selectId [.table { name := .quoted "users".toList [] } []])
      "SELECT id FROM \"users\"" "users" ∧
    Missed (selectId [.table { usersRef with only := true } []])
      "SELECT id FROM ONLY users" "users" ∧
    Missed (.delete { name := .plain "orders".toList } [] [.table usersRef []] [])
      "DELETE FROM orders USING users" "users" ∧
    Missed (.tableDdl "DROP" [] ["IF", "EXISTS"] [usersRef] [])
      "DROP TABLE IF EXISTS users" "users" ∧
    Missed (selectId [.table usersRef []]) "SELECT id FROM/**/users" "users" ∧
    Missed (selectId [.table { name := .plain "users$1".toList } []])
      "SELECT id FROM users$1" "users$1" ∧
    Missed (selectId [.table { name := .plain "values".toList } []])
      "SELECT id FROM values" "values" := by
  refine ⟨?_, ?_, ?_, ?_, ?_, ?_, ?_, ?_, ?_⟩
  all_goals exact ⟨by unfold Renders; decide, by decide, by decide⟩

end RiskGate
