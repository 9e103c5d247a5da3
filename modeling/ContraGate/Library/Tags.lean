import Mathlib.Algebra.GroupWithZero.Nat
import Mathlib.Data.List.Basic
import Mathlib.Data.List.Infix
import ContraGate.Library.Scan

/-!
# Splitting a text at two tags

* `Tags`: an opening and a closing tag that begin with one symbol, which does not come again in
  either, so occurrences of tags never overlap;
* `Tags.tokens`: a text split at all tags, from left to right. The elements of the text may carry
  more than a symbol: `symbol` says which symbol an element shows;
* `Tags.Free`: no tag occurs, and `Tags.Clean`: nor does anything untrusted;
* `Tags.Bounded`: the tags of the text alternate, and its regions have the given contents.
-/

/-- An opening and a closing tag. -/
structure Tags (α : Type*) where
  /-- The first symbol of both. -/
  head : α
  openTail : List α
  closeTail : List α
  openTail_fresh : head ∉ openTail
  closeTail_fresh : head ∉ closeTail
  apart : ¬ openTail <+: closeTail ∧ ¬ closeTail <+: openTail

/-- A piece of a split text. -/
inductive TagToken (β : Type*)
  | text (b : β)
  | opening
  | closing

namespace TagToken

variable {β : Type*}

def isOpening : TagToken β → Bool
  | opening => true
  | _ => false

def isClosing : TagToken β → Bool
  | closing => true
  | _ => false

end TagToken

namespace Tags

variable {α β : Type*} [DecidableEq α] (tags : Tags α) (symbol : β → α)

/-- Reads a tag or an element. -/
def scanner : Scanner β (TagToken β) where
  next b bs :=
    if symbol b = tags.head ∧ tags.openTail <+: bs.map symbol then
      (.opening, bs.drop tags.openTail.length)
    else if symbol b = tags.head ∧ tags.closeTail <+: bs.map symbol then
      (.closing, bs.drop tags.closeTail.length)
    else (.text b, bs)
  next_length b bs := by
    split_ifs <;> simp

/-- The text, split at its tags. -/
def tokens (s : List β) : List (TagToken β) := (tags.scanner symbol).run s

/-- The number of opening tags. -/
def opens (s : List β) : ℕ := (tags.tokens symbol s).countP TagToken.isOpening

/-- The number of closing tags. -/
def closes (s : List β) : ℕ := (tags.tokens symbol s).countP TagToken.isClosing

/-- No tag occurs in the text. -/
def Free (s : List β) : Prop := tags.tokens symbol s = s.map .text

/-- No tag and nothing untrusted occurs in the text. -/
def Clean (untrusted : β → Prop) (s : List β) : Prop :=
  tags.Free symbol s ∧ ∀ b ∈ s, ¬ untrusted b

/-- The tokens of a region, and of the text behind it. -/
def regionTokens (region : List β × List β) : List (TagToken β) :=
  .opening :: (region.1.map .text ++ .closing :: region.2.map .text)

/-- Split at its tags, the text consists of regions with these contents, one after the other,
and nothing outside the regions is untrusted. -/
def Bounded (untrusted : β → Prop) (s : List β) (contents : List (List α)) : Prop :=
  ∃ (outside : List β) (regions : List (List β × List β)),
    tags.tokens symbol s = outside.map .text ++ regions.flatMap regionTokens ∧
    regions.map (fun region => region.1.map symbol) = contents ∧
    (∀ b ∈ outside, ¬ untrusted b) ∧ ∀ region ∈ regions, ∀ b ∈ region.2, ¬ untrusted b

/-! ## Reading one token -/

variable {tags symbol} {s t u : List β} {b : β}

theorem next_opening (hb : symbol b = tags.head) (h : tags.openTail <+: s.map symbol) :
    (tags.scanner symbol).next b s = (.opening, s.drop tags.openTail.length) :=
  if_pos ⟨hb, h⟩

theorem next_closing (hb : symbol b = tags.head) (h : tags.closeTail <+: s.map symbol) :
    (tags.scanner symbol).next b s = (.closing, s.drop tags.closeTail.length) := by
  -- of two prefixes of one text the shorter is a prefix of the longer
  have hopen : ¬ tags.openTail <+: s.map symbol := by
    intro hopen
    rcases le_total tags.openTail.length tags.closeTail.length with hle | hle
    · exact tags.apart.1 (List.prefix_of_prefix_length_le hopen h hle)
    · exact tags.apart.2 (List.prefix_of_prefix_length_le h hopen hle)
  exact (if_neg fun hif => hopen hif.2).trans (if_pos ⟨hb, h⟩)

theorem next_text (hopen : ¬ (symbol b = tags.head ∧ tags.openTail <+: s.map symbol))
    (hclose : ¬ (symbol b = tags.head ∧ tags.closeTail <+: s.map symbol)) :
    (tags.scanner symbol).next b s = (.text b, s) :=
  (if_neg hopen).trans (if_neg hclose)

@[simp] theorem tokens_nil : tags.tokens symbol [] = [] := rfl

theorem tokens_cons :
    tags.tokens symbol (b :: s) = ((tags.scanner symbol).next b s).1 ::
      tags.tokens symbol ((tags.scanner symbol).next b s).2 :=
  Scanner.run_cons _ _ _

/-- An element that does not show the first symbol of a tag. -/
theorem tokens_cons_of_ne (h : symbol b ≠ tags.head) :
    tags.tokens symbol (b :: s) = .text b :: tags.tokens symbol s := by
  rw [tokens_cons, next_text (fun hif => h hif.1) (fun hif => h hif.1)]

/-- A text without the first symbol of a tag is read element by element. -/
theorem tokens_append_of_forall (h : ∀ b ∈ t, symbol b ≠ tags.head) :
    tags.tokens symbol (t ++ s) = t.map .text ++ tags.tokens symbol s := by
  induction t with
  | nil => rfl
  | cons b t ih =>
    rw [List.cons_append, tokens_cons_of_ne (h b List.mem_cons_self),
      ih fun c hc => h c (List.mem_cons_of_mem _ hc)]
    rfl

/-- An opening tag. -/
theorem tokens_opening (h : t.map symbol = tags.head :: tags.openTail) :
    tags.tokens symbol (t ++ s) = .opening :: tags.tokens symbol s := by
  obtain ⟨b, tail, rfl, hb, htail⟩ := List.map_eq_cons_iff.mp h
  have hprefix : tags.openTail <+: (tail ++ s).map symbol := by
    rw [List.map_append, htail]
    exact List.prefix_append _ _
  have hlength : tags.openTail.length = tail.length := by rw [← htail, List.length_map]
  rw [List.cons_append, tokens_cons, next_opening hb hprefix, hlength, List.drop_left]

/-- A closing tag. -/
theorem tokens_closing (h : t.map symbol = tags.head :: tags.closeTail) :
    tags.tokens symbol (t ++ s) = .closing :: tags.tokens symbol s := by
  obtain ⟨b, tail, rfl, hb, htail⟩ := List.map_eq_cons_iff.mp h
  have hprefix : tags.closeTail <+: (tail ++ s).map symbol := by
    rw [List.map_append, htail]
    exact List.prefix_append _ _
  have hlength : tags.closeTail.length = tail.length := by rw [← htail, List.length_map]
  rw [List.cons_append, tokens_cons, next_closing hb hprefix, hlength, List.drop_left]

/-! ## Two texts, one behind the other -/

/-- A text that is a prefix of `u ++ v` is one of `u`, if it lacks the first element of `v`. -/
theorem prefix_append_iff {w u v : List α} (h : ∀ a ∈ v.head?, a ∉ w) :
    w <+: u ++ v ↔ w <+: u := by
  constructor
  · intro hw
    by_contra hnot
    have hlt : u.length < w.length := by
      by_contra hle
      exact hnot (List.prefix_of_prefix_length_le hw (List.prefix_append u v) (by omega))
    have hu : u <+: w :=
      List.prefix_of_prefix_length_le (List.prefix_append u v) hw (by omega)
    obtain ⟨z, rfl⟩ := hu
    have hz : z <+: v := (List.prefix_append_right_inj u).mp hw
    cases z with
    | nil => simp at hlt
    | cons a z =>
      obtain ⟨r, rfl⟩ := hz
      exact h a rfl (by simp)
  · exact fun hw => hw.trans (List.prefix_append u v)

/-- No inner symbol of a tag begins the text, so it cannot complete a tag. -/
def Starts (tags : Tags α) (symbol : β → α) (t : List β) : Prop :=
  ∀ b ∈ t.head?, symbol b ∉ tags.openTail ∧ symbol b ∉ tags.closeTail

omit [DecidableEq α] in
/-- The first symbol of a tag is no inner symbol of one. -/
theorem starts_of_head (h : ∀ b ∈ t.head?, symbol b = tags.head) : tags.Starts symbol t := by
  intro b hb
  rw [h b hb]
  exact ⟨tags.openTail_fresh, tags.closeTail_fresh⟩

theorem tokens_append (h : tags.Starts symbol t) :
    tags.tokens symbol (s ++ t) = tags.tokens symbol s ++ tags.tokens symbol t := by
  have hhead : ∀ w, (w = tags.openTail ∨ w = tags.closeTail) →
      ∀ a ∈ (t.map symbol).head?, a ∉ w := by
    intro w hw a ha
    rw [List.head?_map] at ha
    obtain ⟨b, hb, rfl⟩ := Option.map_eq_some_iff.mp ha
    rcases hw with rfl | rfl
    · exact (h b hb).1
    · exact (h b hb).2
  induction s using (tags.scanner symbol).induct with
  | nil => rfl
  | cons b s ih =>
    have hopen : tags.openTail <+: (s ++ t).map symbol ↔ tags.openTail <+: s.map symbol := by
      rw [List.map_append]
      exact prefix_append_iff (hhead _ (.inl rfl))
    have hclose : tags.closeTail <+: (s ++ t).map symbol ↔ tags.closeTail <+: s.map symbol := by
      rw [List.map_append]
      exact prefix_append_iff (hhead _ (.inr rfl))
    -- the same item is read off `s` and off `s ++ t`
    have hnext : (tags.scanner symbol).next b (s ++ t) =
        (((tags.scanner symbol).next b s).1, ((tags.scanner symbol).next b s).2 ++ t) := by
      by_cases ho : symbol b = tags.head ∧ tags.openTail <+: s.map symbol
      · have hlength : tags.openTail.length ≤ s.length := by simpa using ho.2.length_le
        rw [next_opening ho.1 ho.2, next_opening ho.1 (hopen.mpr ho.2),
          List.drop_append_of_le_length hlength]
      · by_cases hc : symbol b = tags.head ∧ tags.closeTail <+: s.map symbol
        · have hlength : tags.closeTail.length ≤ s.length := by simpa using hc.2.length_le
          rw [next_closing hc.1 hc.2, next_closing hc.1 (hclose.mpr hc.2),
            List.drop_append_of_le_length hlength]
        · rw [next_text ho hc, next_text (fun h' => ho ⟨h'.1, hopen.mp h'.2⟩)
            fun h' => hc ⟨h'.1, hclose.mp h'.2⟩]
    rw [List.cons_append, tokens_cons, tokens_cons, hnext, ih, List.cons_append]

/-! ## Texts without tags -/

theorem countP_text (p : TagToken β → Bool) (h : ∀ b, p (.text b) = false) (s : List β) :
    (s.map TagToken.text).countP p = 0 := by
  rw [List.countP_eq_zero]
  intro token htoken
  obtain ⟨b, -, rfl⟩ := List.mem_map.mp htoken
  simp [h b]

/-- A text in which no tag is read has no tag. -/
theorem free_iff : tags.Free symbol s ↔ tags.opens symbol s = 0 ∧ tags.closes symbol s = 0 := by
  unfold Free opens closes
  constructor
  · intro h
    rw [h]
    exact ⟨countP_text _ (fun _ => rfl) s, countP_text _ (fun _ => rfl) s⟩
  · induction s using (tags.scanner symbol).induct with
    | nil => exact fun _ => rfl
    | cons b s ih =>
      rintro ⟨hopens, hcloses⟩
      rw [tokens_cons] at hopens hcloses ⊢
      by_cases ho : symbol b = tags.head ∧ tags.openTail <+: s.map symbol
      · rw [next_opening ho.1 ho.2] at hopens
        simp [TagToken.isOpening] at hopens
      · by_cases hc : symbol b = tags.head ∧ tags.closeTail <+: s.map symbol
        · rw [next_closing hc.1 hc.2] at hcloses
          simp [TagToken.isClosing] at hcloses
        · rw [next_text ho hc] at ih hopens hcloses ⊢
          rw [ih ⟨by simpa [TagToken.isOpening] using hopens,
            by simpa [TagToken.isClosing] using hcloses⟩]
          rfl

instance : Decidable (tags.Free symbol s) := decidable_of_iff _ free_iff.symm

theorem free_append (h : tags.Starts symbol t) :
    tags.Free symbol (s ++ t) ↔ tags.Free symbol s ∧ tags.Free symbol t := by
  rw [free_iff, free_iff, free_iff]
  unfold opens closes
  rw [tokens_append h, List.countP_append, List.countP_append]
  omega

theorem free_append_of_forall (h : ∀ b ∈ s, symbol b ≠ tags.head) :
    tags.Free symbol (s ++ t) ↔ tags.Free symbol t := by
  rw [free_iff, free_iff]
  unfold opens closes
  rw [tokens_append_of_forall h, List.countP_append, List.countP_append,
    countP_text _ (fun _ => rfl), countP_text _ (fun _ => rfl), Nat.zero_add, Nat.zero_add]

/-- Whether a tag occurs depends on the symbols only. -/
theorem free_map_iff : tags.Free id (s.map symbol) ↔ tags.Free symbol s := by
  have htokens : tags.tokens id (s.map symbol) = (tags.tokens symbol s).map fun
      | .text b => .text (symbol b)
      | .opening => .opening
      | .closing => .closing := by
    induction s using (tags.scanner symbol).induct with
    | nil => rfl
    | cons b s ih =>
      have hid : (s.map symbol).map id = s.map symbol := List.map_id _
      rw [List.map_cons, tokens_cons, tokens_cons]
      by_cases ho : symbol b = tags.head ∧ tags.openTail <+: s.map symbol
      · rw [next_opening ho.1 ho.2] at ih ⊢
        rw [next_opening (s := s.map symbol) ho.1 (by rw [hid]; exact ho.2), ← List.map_drop, ih]
        rfl
      · by_cases hc : symbol b = tags.head ∧ tags.closeTail <+: s.map symbol
        · rw [next_closing hc.1 hc.2] at ih ⊢
          rw [next_closing (s := s.map symbol) hc.1 (by rw [hid]; exact hc.2), ← List.map_drop, ih]
          rfl
        · rw [next_text ho hc] at ih ⊢
          rw [next_text (s := s.map symbol) (by rw [hid]; exact ho) (by rw [hid]; exact hc), ih]
          rfl
  have hopens : tags.opens id (s.map symbol) = tags.opens symbol s := by
    unfold opens
    rw [htokens, List.countP_map]
    exact List.countP_congr fun token _ => by cases token <;> rfl
  have hcloses : tags.closes id (s.map symbol) = tags.closes symbol s := by
    unfold closes
    rw [htokens, List.countP_map]
    exact List.countP_congr fun token _ => by cases token <;> rfl
  rw [free_iff, free_iff, hopens, hcloses]

/-- A text that holds an opening tag is not free of tags. -/
theorem not_free_of_opening (ht : t.map symbol = tags.head :: tags.openTail) :
    ¬ tags.Free symbol (s ++ (t ++ u)) := by
  obtain ⟨b, tail, rfl, hb, -⟩ := List.map_eq_cons_iff.mp ht
  have hstarts : tags.Starts symbol ((b :: tail) ++ u) := by
    refine starts_of_head fun c hc => ?_
    cases hc
    exact hb
  rw [free_append hstarts, free_iff (s := _ ++ u)]
  rintro ⟨-, hopens, -⟩
  unfold opens at hopens
  rw [tokens_opening ht] at hopens
  simp [TagToken.isOpening] at hopens

/-! ## Clean texts -/

section Clean

variable {untrusted : β → Prop}

theorem clean_nil : tags.Clean symbol untrusted [] := ⟨rfl, fun _ hb => by cases hb⟩

theorem clean_append (h : tags.Starts symbol t) :
    tags.Clean symbol untrusted (s ++ t) ↔
      tags.Clean symbol untrusted s ∧ tags.Clean symbol untrusted t := by
  unfold Clean
  rw [free_append h, List.forall_mem_append]
  tauto

/-- A trusted text without the first symbol of a tag. -/
theorem clean_append_of_forall (h : ∀ b ∈ s, symbol b ≠ tags.head ∧ ¬ untrusted b) :
    tags.Clean symbol untrusted (s ++ t) ↔ tags.Clean symbol untrusted t := by
  unfold Clean
  rw [free_append_of_forall fun b hb => (h b hb).1, List.forall_mem_append]
  have htrusted : ∀ b ∈ s, ¬ untrusted b := fun b hb => (h b hb).2
  tauto

/-- Joined lines are as clean as the lines. -/
theorem clean_intercalate {γ : Type*} {P : γ → Prop} {sep : List β} {line : γ → List β}
    (hsep : ∀ b ∈ sep, symbol b ≠ tags.head ∧ ¬ untrusted b)
    (hstarts : ∀ t, tags.Starts symbol (sep ++ t)) {xs : List γ}
    (hline : ∀ x ∈ xs, ∀ t, tags.Starts symbol t →
      (tags.Clean symbol untrusted (line x ++ t) ↔ P x ∧ tags.Clean symbol untrusted t))
    (ht : tags.Starts symbol t) :
    tags.Clean symbol untrusted (sep.intercalate (xs.map line) ++ t) ↔
      (∀ x ∈ xs, P x) ∧ tags.Clean symbol untrusted t := by
  induction xs with
  | nil => simp
  | cons x xs ih =>
    have hrest := ih fun y hy => hline y (List.mem_cons_of_mem _ hy)
    cases xs with
    | nil => simpa using hline x List.mem_cons_self t ht
    | cons y ys =>
      rw [List.map_cons, List.map_cons, List.intercalate_cons_cons, List.append_assoc,
        List.append_assoc, hline x List.mem_cons_self _ (hstarts _), clean_append_of_forall hsep,
        ← List.map_cons, hrest, List.forall_mem_cons (l := y :: ys), and_assoc]

end Clean

/-! ## Texts that are put together from regions -/

/-- A text, then the regions: each an opening tag, its content, a closing tag and the text
behind it. -/
def assemble (opening closing outside : List β) (regions : List (List β × List β)) : List β :=
  outside ++ regions.flatMap fun region => opening ++ (region.1 ++ (closing ++ region.2))

variable {opening closing outside : List β} {regions : List (List β × List β)}

theorem tokens_assemble (outside : List β) (regions : List (List β × List β))
    (hopening : opening.map symbol = tags.head :: tags.openTail)
    (hclosing : closing.map symbol = tags.head :: tags.closeTail) :
    tags.tokens symbol (assemble opening closing outside regions) =
      tags.tokens symbol outside ++ regions.flatMap fun region =>
        .opening :: (tags.tokens symbol region.1 ++ .closing :: tags.tokens symbol region.2) := by
  obtain ⟨a, openRest, rfl, ha, -⟩ := List.map_eq_cons_iff.mp hopening
  obtain ⟨c, closeRest, rfl, hc, -⟩ := List.map_eq_cons_iff.mp hclosing
  have hstartsOpen : ∀ s, tags.Starts symbol ((a :: openRest) ++ s) := by
    intro s
    refine starts_of_head fun b hb => ?_
    cases hb
    exact ha
  have hstartsClose : ∀ s, tags.Starts symbol ((c :: closeRest) ++ s) := by
    intro s
    refine starts_of_head fun b hb => ?_
    cases hb
    exact hc
  induction regions generalizing outside with
  | nil => simp [assemble]
  | cons region regions ih =>
    have hassemble : assemble (a :: openRest) (c :: closeRest) outside (region :: regions) =
        outside ++ ((a :: openRest) ++ (region.1 ++ ((c :: closeRest) ++
          assemble (a :: openRest) (c :: closeRest) region.2 regions))) := by
      simp [assemble]
    rw [hassemble, tokens_append (hstartsOpen _), tokens_opening hopening,
      tokens_append (hstartsClose _), tokens_closing hclosing, ih]
    simp

/-- Of a kind of tag that comes once in each region, the regions hold their number, and those
that come in the texts within. -/
theorem countP_regions (regions : List (List β × List β)) (p : TagToken β → Bool)
    (hp : [TagToken.opening, .closing].countP p = 1) (read : List β → List (TagToken β)) :
    (regions.flatMap fun region =>
      .opening :: (read region.1 ++ .closing :: read region.2)).countP p =
      regions.length +
        (regions.map fun region => (read region.1).countP p + (read region.2).countP p).sum := by
  induction regions with
  | nil => rfl
  | cons region regions ih =>
    simp only [List.countP_cons, List.countP_nil] at hp
    rw [List.flatMap_cons, List.countP_append, ih, List.countP_cons, List.countP_append,
      List.countP_cons, List.map_cons, List.sum_cons, List.length_cons]
    omega

/-- Of a kind of tag that comes once in each region, a text that splits into regions holds as
many as it has regions. -/
theorem countP_regionTokens (outside : List β) (regions : List (List β × List β))
    (p : TagToken β → Bool) (hp : [TagToken.opening, .closing].countP p = 1)
    (htext : ∀ b, p (.text b) = false) :
    (outside.map TagToken.text ++ regions.flatMap regionTokens).countP p = regions.length := by
  have hregions := countP_regions regions p hp (List.map TagToken.text)
  have hsum : (regions.map fun region =>
      (region.1.map TagToken.text).countP p + (region.2.map TagToken.text).countP p).sum = 0 := by
    simp [countP_text p htext]
  rw [List.countP_append, countP_text p htext]
  unfold regionTokens
  rw [hregions, hsum, Nat.zero_add, Nat.add_zero]

/-- The tokens before a tag are told apart from the rest. -/
theorem map_text_append_cons_inj {xs ys : List β} {v w : List (TagToken β)}
    {token : TagToken β} (htoken : ∀ b, token ≠ .text b)
    (h : xs.map .text ++ token :: v = ys.map .text ++ token :: w) : xs = ys ∧ v = w := by
  induction xs generalizing ys with
  | nil =>
    cases ys with
    | nil => exact ⟨rfl, (List.cons.inj h).2⟩
    | cons y ys => exact absurd (List.cons.inj h).1 (htoken y)
  | cons x xs ih =>
    cases ys with
    | nil => exact absurd (List.cons.inj h).1.symm (htoken x)
    | cons y ys =>
      obtain ⟨hhead, htail⟩ := List.cons.inj h
      obtain ⟨rfl, rfl⟩ := ih htail
      cases hhead
      exact ⟨rfl, rfl⟩

/-- The split of a text into regions is unique. -/
theorem regions_inj {outside' : List β} {regions' : List (List β × List β)}
    (h : outside.map .text ++ regions.flatMap regionTokens =
      outside'.map .text ++ regions'.flatMap regionTokens) :
    outside = outside' ∧ regions = regions' := by
  have hlength : regions.length = regions'.length := by
    rw [← countP_regionTokens outside regions TagToken.isOpening rfl fun _ => rfl, h,
      countP_regionTokens _ _ TagToken.isOpening rfl fun _ => rfl]
  induction regions generalizing outside outside' regions' with
  | nil =>
    rw [List.length_eq_zero_iff.mp hlength.symm] at h ⊢
    rw [List.flatMap_nil, List.append_nil, List.append_nil] at h
    exact ⟨List.map_injective_iff.mpr (fun _ _ => TagToken.text.inj) h, rfl⟩
  | cons region regions ih =>
    obtain ⟨region', regions', rfl⟩ := List.exists_cons_of_length_eq_add_one hlength.symm
    simp only [List.flatMap_cons, regionTokens, List.cons_append, List.append_assoc] at h
    obtain ⟨rfl, hbody⟩ := map_text_append_cons_inj (fun _ => by simp) h
    obtain ⟨hfirst, hrest⟩ := map_text_append_cons_inj (fun _ => by simp) hbody
    obtain ⟨hsecond, rfl⟩ := ih hrest (Nat.succ.inj hlength)
    exact ⟨rfl, by rw [Prod.ext hfirst hsecond]⟩

/-- A text that is put together from regions splits into exactly these regions if and only if
no tag occurs in a content or in the text outside, and none of that text is untrusted. -/
theorem bounded_assemble_iff {untrusted : β → Prop}
    (hopening : opening.map symbol = tags.head :: tags.openTail)
    (hclosing : closing.map symbol = tags.head :: tags.closeTail) :
    tags.Bounded symbol untrusted (assemble opening closing outside regions)
        (regions.map fun region => region.1.map symbol) ↔
      tags.Clean symbol untrusted outside ∧
        ∀ region ∈ regions, tags.Free symbol region.1 ∧
          tags.Clean symbol untrusted region.2 := by
  have htokens := tokens_assemble outside regions hopening hclosing
  -- if no tag occurs within, the text splits into the regions it was put together from
  have hsplit (houtside : tags.Free symbol outside)
      (hregions : ∀ region ∈ regions, tags.Free symbol region.1 ∧ tags.Free symbol region.2) :
      tags.tokens symbol (assemble opening closing outside regions) =
        outside.map .text ++ regions.flatMap regionTokens := by
    rw [htokens, houtside]
    congr 1
    refine List.flatMap_congr fun region hregion => ?_
    obtain ⟨hfirst, hsecond⟩ := hregions region hregion
    rw [hfirst, hsecond]
    rfl
  constructor
  · rintro ⟨outside', regions', heq, hcontents, houtside', hregions'⟩
    have hlength : regions'.length = regions.length := by
      simpa using congrArg List.length hcontents
    -- a tag within would be one more than there are regions
    have hcount (p : TagToken β → Bool) (hp : [TagToken.opening, .closing].countP p = 1)
        (htext : ∀ b, p (.text b) = false) :
        (tags.tokens symbol outside).countP p = 0 ∧ ∀ region ∈ regions,
          (tags.tokens symbol region.1).countP p = 0 ∧
            (tags.tokens symbol region.2).countP p = 0 := by
      have hcounts := countP_regionTokens outside' regions' p hp htext
      rw [← heq, htokens, List.countP_append, countP_regions _ p hp] at hcounts
      have hsum : (regions.map fun region => (tags.tokens symbol region.1).countP p +
          (tags.tokens symbol region.2).countP p).sum = 0 := by omega
      refine ⟨by omega, fun region hregion => ?_⟩
      have hzero := List.sum_eq_zero_iff_forall_eq_nat.mp hsum _ (List.mem_map_of_mem hregion)
      exact Nat.add_eq_zero_iff.mp hzero
    obtain ⟨hopens, hopensIn⟩ := hcount TagToken.isOpening rfl fun _ => rfl
    obtain ⟨hcloses, hclosesIn⟩ := hcount TagToken.isClosing rfl fun _ => rfl
    have houtside : tags.Free symbol outside := free_iff.mpr ⟨hopens, hcloses⟩
    have hregions : ∀ region ∈ regions,
        tags.Free symbol region.1 ∧ tags.Free symbol region.2 := fun region hregion =>
      ⟨free_iff.mpr ⟨(hopensIn region hregion).1, (hclosesIn region hregion).1⟩,
        free_iff.mpr ⟨(hopensIn region hregion).2, (hclosesIn region hregion).2⟩⟩
    obtain ⟨rfl, rfl⟩ := regions_inj ((hsplit houtside hregions).symm.trans heq)
    exact ⟨⟨houtside, houtside'⟩, fun region hregion =>
      ⟨(hregions region hregion).1, (hregions region hregion).2, hregions' region hregion⟩⟩
  · rintro ⟨⟨houtside, htrusted⟩, hregions⟩
    exact ⟨outside, regions,
      hsplit houtside fun region hregion =>
        ⟨(hregions region hregion).1, (hregions region hregion).2.1⟩,
      rfl, htrusted, fun region hregion => (hregions region hregion).2.2⟩

end Tags
