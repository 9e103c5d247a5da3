import Mathlib.Data.Bool.AllAny
import Mathlib.Data.List.DropRight
import Mathlib.Data.List.Forall2
import Mathlib.Data.List.Infix

/-!
# Python text

The characters Python counts as white space (`str.isspace`, and `\s` in a `str` pattern),
and what `str.strip` and `str.split` make of them; upper case; and the words of a `str`
pattern (`\w`), where the letters and digits beyond ASCII are a parameter.
-/

namespace Py

/-- `c.isspace()`. -/
def isSpace (c : Char) : Bool :=
  let n := c.toNat
  (9 ≤ n && n ≤ 13) || (28 ≤ n && n ≤ 32) || n == 0x85 || n == 0xA0 || n == 0x1680 ||
    (0x2000 ≤ n && n ≤ 0x200A) || n == 0x2028 || n == 0x2029 || n == 0x202F || n == 0x205F ||
    n == 0x3000

/-- `not text.strip()`. -/
def isBlank (text : List Char) : Bool := text.all isSpace

/-- `text.split()[0]` when there is one: the first run of characters that are not white
space. -/
def firstWord (text : List Char) : List Char :=
  (text.dropWhile isSpace).takeWhile fun c => !isSpace c

/-- `c.upper()`. Beyond ASCII only the characters are changed whose upper case has an ASCII
letter in it; for a comparison with ASCII text the others do not matter. -/
def upperChar (c : Char) : List Char :=
  match c with
  | 'ı' => ['I']
  | 'ſ' => ['S']
  | 'ß' => ['S', 'S']
  | 'ŉ' => ['ʼ', 'N']
  | 'ǰ' => ['J', '\u030c']
  | 'ẖ' => ['H', '\u0331']
  | 'ẗ' => ['T', '\u0308']
  | 'ẘ' => ['W', '\u030a']
  | 'ẙ' => ['Y', '\u030a']
  | 'ẚ' => ['A', 'ʾ']
  | 'ﬀ' => ['F', 'F']
  | 'ﬁ' => ['F', 'I']
  | 'ﬂ' => ['F', 'L']
  | 'ﬃ' => ['F', 'F', 'I']
  | 'ﬄ' => ['F', 'F', 'L']
  | 'ﬅ' | 'ﬆ' => ['S', 'T']
  | c => [c.toUpper]

/-- `text.upper()`. -/
def upper (text : List Char) : List Char := text.flatMap upperChar

/-- `text.strip()`. -/
def strip (text : List Char) : List Char := (text.dropWhile isSpace).rdropWhile isSpace

/-- `text.rstrip(c)`, for one character. -/
def rstrip (c : Char) (text : List Char) : List Char := text.rdropWhile (· == c)

/-- The case mapping of Unicode: `upper` of a character, and `lower` of a text, where a
character's lower case can depend on its neighbours. -/
structure CaseMap where
  upper : Char → List Char
  lower : List Char → List Char
  upper_ascii : ∀ c, c.toNat < 128 → upper c = [c.toUpper]
  lower_ascii : ∀ s : List Char, (s.all fun c => decide (c.toNat < 128)) →
    lower s = s.map Char.toLower

/-- ASCII letters have their ASCII case, other characters have none. -/
def CaseMap.ascii : CaseMap where
  upper c := [c.toUpper]
  lower s := s.map Char.toLower
  upper_ascii _ _ := rfl
  lower_ascii _ _ := rfl

/-! ## Words in a pattern -/

/-- The pattern `k`, an ASCII capital, matches `c` when case is ignored. -/
def matchesLetter (k c : Char) : Bool :=
  c == k || c == k.toLower || (k == 'S' && c == 'ſ') || (k == 'K' && c == '\u212a') ||
    (k == 'I' && (c == 'ı' || c == 'İ'))

/-- The pattern `keyword`, of ASCII capitals, matches the whole of `text` when case is
ignored. -/
def matchesWord : List Char → List Char → Bool
  | [], [] => true
  | k :: keyword, c :: text => matchesLetter k c && matchesWord keyword text
  | _, _ => false

/-- A word is matched letter by letter. -/
theorem matchesWord_iff_forall₂ {keyword text : List Char} :
    matchesWord keyword text = true ↔
      List.Forall₂ (fun k c => matchesLetter k c = true) keyword text := by
  induction keyword generalizing text with
  | nil => cases text <;> simp [matchesWord]
  | cons k keyword ih =>
    cases text with
    | nil => simp [matchesWord]
    | cons c text => rw [matchesWord, Bool.and_eq_true, ih, List.forall₂_cons]

variable (wide : Char → Bool)

/-- `\w`; `wide` says which characters beyond ASCII are letters or digits. -/
def isWord (c : Char) : Bool :=
  if c.toNat < 128 then c.isAlphanum || c == '_'
  else wide c || c == 'ſ' || c == 'ı' || c == 'İ' || c == '\u212a'

/-- What `\s*(\w*)` takes at the start of a text. -/
def leadingWord (text : List Char) : List Char := (text.dropWhile isSpace).takeWhile (isWord wide)

/-! ## Words without regard to case

For most keywords the pattern and a comparison of the upper case agree: the ones without `I`
and `K`, which match characters with another upper case, and without two letters in a row that
are the upper case of one character. -/

/-- The capitals that match only characters of which they are the upper case. -/
def plainCapitals : List Char := "ABCDEFGHJLMNOPQRSTUVWXYZ".toList

/-- The characters whose upper case has more than one character. -/
def expanding : List Char :=
  ['ß', 'ŉ', 'ǰ', 'ẖ', 'ẗ', 'ẘ', 'ẙ', 'ẚ', 'ﬀ', 'ﬁ', 'ﬂ', 'ﬃ', 'ﬄ', 'ﬅ', 'ﬆ']

omit wide

/-- A word of plain capitals. -/
def isPlain (keyword : List Char) : Bool := keyword.all plainCapitals.contains

/-- No character has the first letters of this text as its upper case, nor those of any end of
it. -/
def isUnexpanded (keyword : List Char) : Bool :=
  keyword.tails.all fun rest => expanding.all fun d => !(upperChar d).isPrefixOf rest

/-- What is to know about the plain capitals. -/
theorem plainCapitals_spec {k : Char} (hk : k ∈ plainCapitals) :
    k ≠ 'I' ∧ k ≠ 'K' ∧ upperChar k = [k] ∧ upperChar k.toLower = [k] := by
  have hall : (plainCapitals.all fun k => decide (k ≠ 'I' ∧ k ≠ 'K' ∧ upperChar k = [k] ∧
      upperChar k.toLower = [k])) = true := by decide
  exact of_decide_eq_true (List.all_eq_true.mp hall k hk)

theorem upperChar_of_matchesLetter {k c : Char} (hk : k ∈ plainCapitals)
    (h : matchesLetter k c = true) : upperChar c = [k] := by
  obtain ⟨hI, hK, hself, hlower⟩ := plainCapitals_spec hk
  unfold matchesLetter at h
  simp only [Bool.or_eq_true, Bool.and_eq_true, beq_iff_eq, hI, hK, false_and, or_false] at h
  rcases h with (rfl | rfl) | ⟨rfl, rfl⟩
  · exact hself
  · exact hlower
  · rfl

theorem toLower_of_toUpper_eq {c k : Char} (h : c.toUpper = k) : c = k ∨ c = k.toLower := by
  by_cases hrange : 97 ≤ c.toNat ∧ c.toNat ≤ 122
  · right
    have hletters : ∀ n < 26, (Char.ofNat (97 + n)).toUpper.toLower = Char.ofNat (97 + n) := by
      decide
    have hc := hletters (c.toNat - 97) (by omega)
    rw [show 97 + (c.toNat - 97) = c.toNat by omega, Char.ofNat_toNat, h] at hc
    exact hc.symm
  · left
    unfold Char.toUpper at h
    have hnot : ¬ (c.val ≥ 'a'.val ∧ c.val ≤ 'z'.val) := by
      intro hc
      exact hrange ⟨hc.1, hc.2⟩
    rw [dif_neg hnot] at h
    exact h

theorem matchesLetter_of_upperChar {c k : Char} (h : upperChar c = [k]) :
    matchesLetter k c = true := by
  unfold upperChar at h
  unfold matchesLetter
  split at h
  case h_18 => rcases toLower_of_toUpper_eq (List.cons.inj h).1 with rfl | rfl <;> simp
  all_goals cases h
  · rfl
  · rfl

theorem exists_upperChar {c : Char} (h : c ∉ expanding) : ∃ k, upperChar c = [k] := by
  unfold upperChar
  split
  all_goals first
    | exact ⟨_, rfl⟩
    | exact absurd (by decide) h

/-- The upper case of a text begins with that of its first character. -/
theorem upper_cons {c k : Char} {text rest : List Char} (h : upper (c :: text) = k :: rest)
    (hrest : ∀ d ∈ expanding, (upperChar d).isPrefixOf (k :: rest) = false) :
    upperChar c = [k] ∧ upper text = rest := by
  unfold upper at h ⊢
  rw [List.flatMap_cons] at h
  by_cases hc : c ∈ expanding
  · have hprefix : upperChar c <+: k :: rest := ⟨_, h⟩
    rw [← List.isPrefixOf_iff_prefix, hrest c hc] at hprefix
    cases hprefix
  · obtain ⟨u, hu⟩ := exists_upperChar hc
    rw [hu] at h
    obtain ⟨rfl, htext⟩ := List.cons.inj h
    exact ⟨hu, htext⟩

theorem isUnexpanded_of_suffix {keyword rest : List Char} (h : isUnexpanded keyword = true)
    (hrest : rest <:+ keyword) : ∀ d ∈ expanding, (upperChar d).isPrefixOf rest = false := by
  intro d hd
  have hall := List.all_eq_true.mp h rest ((List.mem_tails _ _).mpr hrest)
  simpa using List.all_eq_true.mp hall d hd

theorem isUnexpanded_tail {k : Char} {keyword : List Char}
    (h : isUnexpanded (k :: keyword) = true) : isUnexpanded keyword = true := by
  unfold isUnexpanded at h ⊢
  rw [List.tails_cons, List.all_cons, Bool.and_eq_true] at h
  exact h.2

/-- A text whose upper case is a keyword is matched by it, also where the pattern matches other
texts too. -/
theorem matchesWord_of_upper {keyword : List Char} (hexpand : isUnexpanded keyword = true)
    {text : List Char} (h : upper text = keyword) : matchesWord keyword text = true := by
  induction keyword generalizing text with
  | nil =>
    cases text with
    | nil => rfl
    | cons c text =>
      -- a character that expands to several gives no prefix of the keyword
      have hempty : upperChar c = [] := (List.append_eq_nil_iff.mp h).1
      by_cases hc : c ∈ expanding
      · have hprefix := isUnexpanded_of_suffix hexpand List.suffix_rfl c hc
        rw [hempty] at hprefix
        cases hprefix
      · obtain ⟨u, hu⟩ := exists_upperChar hc
        rw [hempty] at hu
        cases hu
  | cons k keyword ih =>
    cases text with
    | nil => cases h
    | cons c text =>
      obtain ⟨hc, htext⟩ := upper_cons h (isUnexpanded_of_suffix hexpand List.suffix_rfl)
      rw [matchesWord, Bool.and_eq_true]
      exact ⟨matchesLetter_of_upperChar hc, ih (isUnexpanded_tail hexpand) htext⟩

/-- For a plain keyword the two ways of ignoring case agree. -/
theorem matchesWord_iff_upper {keyword : List Char} (hplain : isPlain keyword = true)
    (hexpand : isUnexpanded keyword = true) (text : List Char) :
    matchesWord keyword text = true ↔ upper text = keyword := by
  refine ⟨fun h => ?_, matchesWord_of_upper hexpand⟩
  clear hexpand
  rw [matchesWord_iff_forall₂] at h
  induction h with
  | nil => rfl
  | @cons k c keyword text hletter _ ih =>
    unfold isPlain at hplain ih
    rw [List.all_cons, Bool.and_eq_true] at hplain
    show upperChar c ++ upper text = k :: keyword
    rw [upperChar_of_matchesLetter (List.contains_iff_mem.mp hplain.1) hletter, ih hplain.2]
    rfl

/-! ## The first word of a text -/

def isCapital (k : Char) : Bool := ('I' :: 'K' :: plainCapitals).contains k

/-- A capital matches letters only. -/
theorem isWord_of_matchesLetter {wide : Char → Bool} {k c : Char} (hk : isCapital k = true)
    (h : matchesLetter k c = true) : isWord wide c = true := by
  have hascii : (('I' :: 'K' :: plainCapitals).all fun k =>
      decide (k.toNat < 128 ∧ k.isAlphanum = true ∧ k.toLower.toNat < 128 ∧
        k.toLower.isAlphanum = true)) = true := by decide
  obtain ⟨hk, hk', hl, hl'⟩ :=
    of_decide_eq_true (List.all_eq_true.mp hascii k (List.contains_iff_mem.mp hk))
  unfold matchesLetter at h
  simp only [Bool.or_eq_true, Bool.and_eq_true, beq_iff_eq] at h
  rcases h with (((rfl | rfl) | ⟨-, rfl⟩) | ⟨-, rfl⟩) | ⟨-, rfl | rfl⟩
  · unfold isWord
    rw [if_pos hk, hk']
    rfl
  · unfold isWord
    rw [if_pos hl, hl']
    rfl
  all_goals simp [isWord]

/-- A text that a keyword matches is all of one word. -/
theorem isWord_of_matchesWord {wide : Char → Bool} {keyword text : List Char}
    (hkeyword : keyword.all isCapital = true)
    (h : matchesWord keyword text = true) : ∀ c ∈ text, isWord wide c = true := by
  rw [matchesWord_iff_forall₂] at h
  induction h with
  | nil => exact fun c hc => absurd hc List.not_mem_nil
  | cons hletter _ ih =>
    rw [List.all_cons, Bool.and_eq_true] at hkeyword
    intro d hd
    rcases List.mem_cons.mp hd with rfl | hd
    · exact isWord_of_matchesLetter hkeyword.1 hletter
    · exact ih hkeyword.2 d hd

/-- Characters at the end that no run takes do not change the run at the front. -/
theorem takeWhile_rdropWhile {p q : Char → Bool} (h : ∀ c, q c = true → p c = false)
    (text : List Char) : (text.rdropWhile q).takeWhile p = text.takeWhile p := by
  have hnone : (text.rtakeWhile q).takeWhile p = [] := by
    cases hend : text.rtakeWhile q with
    | nil => rfl
    | cons c rest =>
      have hc : c ∈ text.rtakeWhile q := hend ▸ List.mem_cons_self ..
      rw [List.takeWhile_cons, h c (List.mem_rtakeWhile_imp hc)]
      rfl
  conv_rhs => rw [← List.rdropWhile_append_rtakeWhile (p := q) (l := text)]
  rw [List.takeWhile_append, hnone, List.append_nil]
  split_ifs with hall
  · exact (List.takeWhile_prefix p).eq_of_length hall
  · rfl

theorem dropWhile_strip (text : List Char) : (strip text).dropWhile isSpace = strip text := by
  cases hstrip : strip text with
  | nil => rfl
  | cons c rest =>
    -- the first character left is the first one that is no white space
    obtain ⟨more, hmore⟩ := List.rdropWhile_prefix isSpace (l := text.dropWhile isSpace)
    have hfirst := List.head?_dropWhile_not isSpace text
    rw [← hmore, ← strip, hstrip] at hfirst
    rw [List.dropWhile_cons, hfirst]
    rfl

/-- Only white space is stripped. -/
theorem mem_strip_iff {c : Char} (h : isSpace c = false) {text : List Char} :
    c ∈ strip text ↔ c ∈ text := by
  have hback : text.dropWhile isSpace =
      strip text ++ (text.dropWhile isSpace).rtakeWhile isSpace :=
    List.rdropWhile_append_rtakeWhile.symm
  have hfront : c ∉ text.takeWhile isSpace := fun hc => by
    rw [List.mem_takeWhile_imp hc] at h
    cases h
  have hend : c ∉ (text.dropWhile isSpace).rtakeWhile isSpace := fun hc => by
    rw [List.mem_rtakeWhile_imp hc] at h
    cases h
  conv_rhs => rw [← List.takeWhile_append_dropWhile (p := isSpace) (l := text), hback]
  simp [hfront, hend]

/-- No white space is a letter or a digit, so `\s` and `\w` have no character in common. -/
def SpacesApart (wide : Char → Bool) : Prop := ∀ c, isSpace c = true → isWord wide c = false

/-- So it is in a Python for texts in ASCII. -/
theorem spacesApart_ascii : SpacesApart fun _ => false := by
  intro c hspace
  have hascii : ∀ n < 128, isSpace (Char.ofNat n) = true →
      isWord (fun _ => false) (Char.ofNat n) = false := by decide
  by_cases hc : c.toNat < 128
  · have hword := hascii c.toNat hc
    rw [Char.ofNat_toNat] at hword
    exact hword hspace
  · have hne : ∀ d ∈ ['ſ', 'ı', 'İ', '\u212a'], c ≠ d := by
      intro d hd heq
      have hnone : ∀ d ∈ ['ſ', 'ı', 'İ', '\u212a'], isSpace d = false :=
        List.all_iff_forall_prop.mp (by decide)
      rw [heq, hnone d hd] at hspace
      cases hspace
    simp only [List.forall_mem_cons, List.not_mem_nil] at hne
    simp [isWord, hc, hne]

theorem leadingWord_strip {wide : Char → Bool} (h : SpacesApart wide) (text : List Char) :
    leadingWord wide (strip text) = leadingWord wide text := by
  unfold leadingWord
  rw [dropWhile_strip]
  exact takeWhile_rdropWhile h _

theorem firstWord_strip (text : List Char) : firstWord (strip text) = firstWord text := by
  unfold firstWord
  rw [dropWhile_strip]
  exact takeWhile_rdropWhile (fun c hc => by rw [hc]; rfl) _

/-- A text that a keyword matches at its front has a first word that begins with the keyword. -/
theorem prefix_upper_firstWord {wide : Char → Bool} {keyword text : List Char}
    (hplain : isPlain keyword = true) (hexpand : isUnexpanded keyword = true)
    (hletters : keyword.all isCapital = true)
    (h : matchesWord keyword (leadingWord wide text) = true) :
    keyword <+: upper (firstWord text) := by
  have hspace : ∀ c ∈ leadingWord wide text, (!isSpace c) = true := by
    intro c hc
    have hword : isWord (fun _ => false) c = true := isWord_of_matchesWord hletters h c hc
    cases hspace : isSpace c with
    | false => rfl
    | true => rw [spacesApart_ascii c hspace] at hword; cases hword
  rw [← (matchesWord_iff_upper hplain hexpand _).mp h]
  unfold leadingWord at hspace ⊢
  unfold firstWord
  generalize text.dropWhile isSpace = rest at hspace ⊢
  conv_rhs => rw [← List.takeWhile_append_dropWhile (p := isWord wide) (l := rest)]
  rw [List.takeWhile_append_of_pos hspace]
  unfold upper
  rw [List.flatMap_append]
  exact List.prefix_append ..

/-! ## White space at the ends -/

section Ends

variable {α : Type*} {p : α → Bool} {text after : List α}

theorem rdropWhile_append_of_pos (h : ∀ c ∈ after, p c = true) :
    (text ++ after).rdropWhile p = text.rdropWhile p := by
  unfold List.rdropWhile
  rw [List.reverse_append, List.dropWhile_append_of_pos]
  intro c hc
  exact h c (List.mem_reverse.mp hc)

theorem rdropWhile_append_of_ne_nil (h : after.rdropWhile p ≠ []) :
    (text ++ after).rdropWhile p = text ++ after.rdropWhile p := by
  conv_lhs => rw [← List.rdropWhile_append_rtakeWhile (p := p) (l := after), ← List.append_assoc]
  rw [rdropWhile_append_of_pos fun c hc => List.mem_rtakeWhile_imp hc,
    List.rdropWhile_eq_self_iff]
  intro hnil
  rw [List.getLast_append_of_ne_nil _ h]
  exact List.rdropWhile_last_not p after h

theorem rdropWhile_append_of_self (after : List α) (h : text.rdropWhile p = text) :
    (text ++ after).rdropWhile p = text ++ after.rdropWhile p := by
  by_cases hafter : after.rdropWhile p = []
  · rw [rdropWhile_append_of_pos (List.rdropWhile_eq_nil_iff.mp hafter), h, hafter,
      List.append_nil]
  · exact rdropWhile_append_of_ne_nil hafter

end Ends

/-- There is no white space at the ends. -/
structure Trimmed (text : List Char) : Prop where
  front : text.dropWhile isSpace = text
  back : text.rdropWhile isSpace = text

theorem dropWhile_append_of_trimmed {text after : List Char} (hne : text ≠ [])
    (h : text.dropWhile isSpace = text) : (text ++ after).dropWhile isSpace = text ++ after := by
  obtain ⟨c, rest, rfl⟩ := List.exists_cons_of_ne_nil hne
  have hc : isSpace c = false := by
    have hhead := List.head?_dropWhile_not isSpace (c :: rest)
    rw [h] at hhead
    simpa using hhead
  rw [List.cons_append, List.dropWhile_cons, hc]
  rfl

theorem trimmed_of_forall {text : List Char} (h : ∀ c ∈ text, isSpace c = false) :
    Trimmed text := by
  cases text with
  | nil => exact ⟨rfl, rfl⟩
  | cons c text =>
    refine ⟨?_, List.rdropWhile_eq_self_iff.mpr fun hne => ?_⟩
    · rw [List.dropWhile_cons, h c List.mem_cons_self]
      rfl
    · rw [h _ (List.getLast_mem hne)]
      exact Bool.false_ne_true

/-- A text that begins and ends with trimmed ones. -/
theorem Trimmed.append {text mid more : List Char} (h : Trimmed text) (hne : text ≠ [])
    (hmore : Trimmed more) (hne' : more ≠ []) : Trimmed (text ++ (mid ++ more)) := by
  refine ⟨dropWhile_append_of_trimmed hne h.front, List.rdropWhile_eq_self_iff.mpr fun _ => ?_⟩
  rw [List.getLast_append_of_ne_nil _ (List.append_ne_nil_of_right_ne_nil _ hne'),
    List.getLast_append_of_ne_nil _ hne']
  exact List.rdropWhile_eq_self_iff.mp hmore.back hne'

theorem strip_trimmed (text : List Char) : Trimmed (strip text) :=
  ⟨dropWhile_strip text, List.rdropWhile_idempotent isSpace _⟩

theorem exists_strip (text : List Char) :
    ∃ front back, text = front ++ (strip text ++ back) ∧ (∀ c ∈ front, isSpace c = true) ∧
      ∀ c ∈ back, isSpace c = true := by
  refine ⟨text.takeWhile isSpace, (text.dropWhile isSpace).rtakeWhile isSpace, ?_,
    fun c hc => List.mem_takeWhile_imp hc, fun c hc => List.mem_rtakeWhile_imp hc⟩
  rw [strip, List.rdropWhile_append_rtakeWhile, List.takeWhile_append_dropWhile]

/-- A text in which something else follows than white space. -/
theorem strip_append {front text after : List Char} (hfront : ∀ c ∈ front, isSpace c = true)
    (hne : text ≠ []) (htext : Trimmed text) :
    strip (front ++ (text ++ after)) = text ++ after.rdropWhile isSpace := by
  unfold strip
  rw [List.dropWhile_append_of_pos hfront, dropWhile_append_of_trimmed hne htext.front,
    rdropWhile_append_of_self _ htext.back]

/-- White space around a text is stripped. -/
theorem strip_of_spaces {front text back : List Char} (hfront : ∀ c ∈ front, isSpace c = true)
    (hback : ∀ c ∈ back, isSpace c = true) (htext : Trimmed text) :
    strip (front ++ (text ++ back)) = text := by
  by_cases hne : text = []
  · subst hne
    unfold strip
    rw [List.nil_append, List.dropWhile_append_of_pos hfront,
      List.dropWhile_eq_nil_iff.mpr hback]
    rfl
  · rw [strip_append hfront hne htext, List.rdropWhile_eq_nil_iff.mpr hback, List.append_nil]

theorem strip_append_of_spaces {text back : List Char} (htext : Trimmed text)
    (hback : ∀ c ∈ back, isSpace c = true) : strip (text ++ back) = text :=
  @strip_of_spaces [] text back (fun _ hc => absurd hc List.not_mem_nil) hback htext

/-- What is left of a text that is not blank is not blank. -/
theorem isBlank_strip {text : List Char} (h : strip text ≠ []) : isBlank (strip text) = false := by
  rw [Bool.eq_false_iff]
  intro hblank
  have hfront := (strip_trimmed text).front
  rw [List.dropWhile_eq_nil_iff.mpr (List.all_eq_true.mp hblank)] at hfront
  exact h hfront.symm

theorem strip_strip (text : List Char) : strip (strip text) = strip text := by
  have hstrip := strip_append_of_spaces (strip_trimmed text)
    (List.forall_mem_nil (isSpace · = true))
  rwa [List.append_nil] at hstrip

/-- An end of a trimmed text is no white space. -/
theorem Trimmed.exists_of_append (before : List Char) {text : List Char}
    (h : Trimmed (before ++ text)) (hne : text ≠ []) : ∃ c ∈ text, isSpace c = false := by
  have hlast := List.rdropWhile_eq_self_iff.mp h.back (List.append_ne_nil_of_right_ne_nil _ hne)
  rw [List.getLast_append_of_ne_nil _ hne, Bool.not_eq_true] at hlast
  exact ⟨_, List.getLast_mem hne, hlast⟩

end Py
