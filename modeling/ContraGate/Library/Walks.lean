import Mathlib.Algebra.GroupWithZero.Nat
import Mathlib.Data.List.Basic
import Mathlib.Logic.Relation

/-!
# Walks in an ordered multigraph

Every vertex has a finite list of outgoing edges. A walk is the list of its steps, and a step
names the place of its edge in that list, so parallel edges give different walks and the
lexicographic order on places is the order in which a depth-first search meets the walks.

* `fresh_cons`: a fresh walk is a step to an unseen vertex and a fresh walk from there;
* `mem_freshWalks`, `freshWalks_pairwise`: the search enumerates the bounded fresh walks, each
  once and in order;
* `Repeats.length_freshWalks`: an edge that is there several times makes the search longer, if a
  fresh walk can take it;
* `exists_simple_of_reaches`: a reachable vertex is the end of a simple walk.
-/

structure Multigraph (V E : Type*) where
  out : V → List E
  target : E → V

namespace Multigraph

variable {V E : Type*} (G : Multigraph V E)

/-- Where a walk from `v` ends. -/
def dest : V → List (ℕ × E) → V
  | v, [] => v
  | _, s :: p => dest (G.target s.2) p

/-- The vertices a walk comes to after its start. -/
def visited (p : List (ℕ × E)) : List V := p.map fun s => G.target s.2

/-- `p` is a walk from `v`. -/
inductive IsWalk : V → List (ℕ × E) → Prop
  | nil (v : V) : IsWalk v []
  | cons {v : V} {s : ℕ × E} {p : List (ℕ × E)} (hedge : (G.out v)[s.1]? = some s.2)
      (hrest : IsWalk (G.target s.2) p) : IsWalk v (s :: p)

/-- The walk comes to no vertex twice and to none of `seen`. -/
structure IsFresh (seen : List V) (v : V) (p : List (ℕ × E)) : Prop where
  walk : G.IsWalk v p
  nodup : (G.visited p).Nodup
  unseen : ∀ u ∈ G.visited p, u ∉ seen

/-- The walk meets no vertex twice, its start included. -/
structure IsSimple (v : V) (p : List (ℕ × E)) : Prop where
  walk : G.IsWalk v p
  nodup : (v :: G.visited p).Nodup

/-- `u` can be reached from `v`. -/
def Reaches : V → V → Prop :=
  Relation.ReflTransGen fun u w => ∃ e ∈ G.out u, G.target e = w

/-- A depth-first search meets `p` before `q`. -/
def Before (p q : List (ℕ × E)) : Prop := p.map Prod.fst < q.map Prod.fst

variable {G} {seen : List V} {v u : V} {s : ℕ × E} {p q : List (ℕ × E)}

/-! ## Walks -/

@[simp] theorem dest_nil : G.dest v [] = v := rfl

@[simp] theorem dest_cons : G.dest v (s :: p) = G.dest (G.target s.2) p := rfl

@[simp] theorem visited_nil : G.visited [] = [] := rfl

@[simp] theorem visited_cons : G.visited (s :: p) = G.target s.2 :: G.visited p := rfl

theorem visited_append : G.visited (p ++ q) = G.visited p ++ G.visited q := by
  simp [visited]

theorem isWalk_cons :
    G.IsWalk v (s :: p) ↔ (G.out v)[s.1]? = some s.2 ∧ G.IsWalk (G.target s.2) p := by
  constructor
  · rintro ⟨⟩
    exact ⟨‹_›, ‹_›⟩
  · rintro ⟨hedge, hrest⟩
    exact .cons hedge hrest

theorem dest_append : G.dest v (p ++ q) = G.dest (G.dest v p) q := by
  induction p generalizing v with
  | nil => rfl
  | cons s p ih => exact ih

theorem isWalk_append :
    G.IsWalk v (p ++ q) ↔ G.IsWalk v p ∧ G.IsWalk (G.dest v p) q := by
  induction p generalizing v with
  | nil => simp [IsWalk.nil]
  | cons s p ih => rw [List.cons_append, isWalk_cons, isWalk_cons, ih, dest_cons, and_assoc]

/-- A walk ends at the last vertex it meets. -/
theorem dest_mem_visited (hp : p ≠ []) : G.dest v p ∈ G.visited p := by
  induction p generalizing v with
  | nil => exact absurd rfl hp
  | cons s p ih =>
    rw [dest_cons, visited_cons]
    by_cases hrest : p = []
    · subst hrest
      exact List.mem_cons_self
    · exact List.mem_cons_of_mem _ (ih hrest)

/-- A walk can be cut at every vertex it meets. -/
theorem exists_prefix_dest (hu : u ∈ v :: G.visited p) :
    ∃ q r, p = q ++ r ∧ G.dest v q = u := by
  induction p generalizing v with
  | nil =>
    have huv : u = v := by simpa using hu
    exact ⟨[], [], rfl, huv.symm⟩
  | cons s p ih =>
    rw [List.mem_cons] at hu
    rcases hu with rfl | hu
    · exact ⟨[], s :: p, rfl, rfl⟩
    · obtain ⟨q, r, rfl, hdest⟩ := ih hu
      exact ⟨s :: q, r, rfl, hdest⟩

/-! ## Fresh and simple walks -/

theorem isSimple_iff_fresh : G.IsSimple v p ↔ G.IsFresh [v] v p := by
  constructor
  · rintro ⟨hwalk, hnodup⟩
    rw [List.nodup_cons] at hnodup
    refine ⟨hwalk, hnodup.2, fun u hu hmem => ?_⟩
    rw [List.mem_singleton] at hmem
    exact hnodup.1 (hmem ▸ hu)
  · rintro ⟨hwalk, hnodup, hunseen⟩
    exact ⟨hwalk, List.nodup_cons.mpr ⟨fun hv => hunseen v hv (by simp), hnodup⟩⟩

theorem isFresh_nil : G.IsFresh seen v [] := ⟨.nil v, List.nodup_nil, by simp⟩

/-- A fresh walk is a step to an unseen vertex and a fresh walk from there. -/
theorem fresh_cons :
    G.IsFresh seen v (s :: p) ↔ (G.out v)[s.1]? = some s.2 ∧ G.target s.2 ∉ seen ∧
      G.IsFresh (G.target s.2 :: seen) (G.target s.2) p := by
  constructor
  · rintro ⟨hwalk, hnodup, hunseen⟩
    rw [isWalk_cons] at hwalk
    rw [visited_cons, List.nodup_cons] at hnodup
    refine ⟨hwalk.1, hunseen _ (by simp), hwalk.2, hnodup.2, fun u hu hmem => ?_⟩
    rw [List.mem_cons] at hmem
    rcases hmem with rfl | hmem
    · exact hnodup.1 hu
    · exact hunseen u (by simp [hu]) hmem
  · rintro ⟨hedge, hnew, hwalk, hnodup, hunseen⟩
    refine ⟨.cons hedge hwalk, ?_, fun u hu => ?_⟩
    · rw [visited_cons, List.nodup_cons]
      exact ⟨fun hmem => hunseen _ hmem (by simp), hnodup⟩
    · rw [visited_cons, List.mem_cons] at hu
      rcases hu with rfl | hu
      · exact hnew
      · exact fun hmem => hunseen u hu (by simp [hmem])

/-- A prefix of a simple walk is simple. -/
theorem IsSimple.of_append (h : G.IsSimple v (p ++ q)) : G.IsSimple v p := by
  have hnodup : (v :: (G.visited p ++ G.visited q)).Nodup := visited_append (G := G) ▸ h.nodup
  rw [← List.cons_append] at hnodup
  exact ⟨(isWalk_append.mp h.walk).1, (List.nodup_append.mp hnodup).1⟩

/-- A simple walk of length `n` or more has a prefix of length `n`. -/
theorem IsSimple.exists_length_eq {n : ℕ} (h : G.IsSimple v p) (hn : n ≤ p.length) :
    ∃ q, G.IsSimple v q ∧ q.length = n := by
  have hsplit : p.take n ++ p.drop n = p := List.take_append_drop n p
  refine ⟨p.take n, IsSimple.of_append (q := p.drop n) (hsplit.symm ▸ h), ?_⟩
  rw [List.length_take]
  omega

/-- A simple walk goes on to a vertex it has not met. -/
theorem IsSimple.concat {i : ℕ} {e : E} (h : G.IsSimple v p)
    (hedge : (G.out (G.dest v p))[i]? = some e) (hnew : G.target e ∉ v :: G.visited p) :
    G.IsSimple v (p ++ [(i, e)]) := by
  refine ⟨isWalk_append.mpr ⟨h.walk, .cons hedge (.nil _)⟩, ?_⟩
  rw [visited_append, ← List.cons_append]
  have hlast : G.visited [(i, e)] = [G.target e] := rfl
  rw [hlast, List.nodup_append]
  refine ⟨h.nodup, List.pairwise_singleton _ _, fun a ha b hb => ?_⟩
  -- the only vertex that is added is the new one
  rw [List.mem_singleton] at hb
  rintro rfl
  exact hnew (hb ▸ ha)

/-- A reachable vertex is the end of a simple walk. -/
theorem exists_simple_of_reaches (h : G.Reaches v u) : ∃ p, G.IsSimple v p ∧ G.dest v p = u := by
  induction h with
  | refl => exact ⟨[], ⟨.nil v, by simp⟩, rfl⟩
  | tail _ hedge ih =>
    obtain ⟨p, hsimple, rfl⟩ := ih
    obtain ⟨e, he, rfl⟩ := hedge
    by_cases hmem : G.target e ∈ v :: G.visited p
    · -- the edge goes back to the walk, which is cut there
      obtain ⟨q, r, rfl, hdest⟩ := exists_prefix_dest hmem
      exact ⟨q, hsimple.of_append, hdest⟩
    · obtain ⟨i, hi⟩ := List.mem_iff_getElem?.mp he
      refine ⟨p ++ [(i, e)], hsimple.concat hi hmem, ?_⟩
      rw [dest_append]
      rfl

/-! ## What a bounded search notices -/

variable (G) in
/-- A fresh walk of fewer than `n` steps ends at a vertex with an edge back to `seen` or to the
walk. -/
def Closes (n : ℕ) (seen : List V) (v : V) : Prop :=
  ∃ p, G.IsFresh seen v p ∧ p.length < n ∧
    ∃ e ∈ G.out (G.dest v p), G.target e ∈ seen ∨ G.target e ∈ G.visited p

variable (G) in
/-- There is a fresh walk of `n` steps. -/
def Extends (n : ℕ) (seen : List V) (v : V) : Prop := ∃ p, G.IsFresh seen v p ∧ p.length = n

theorem not_closes_zero : ¬ G.Closes 0 seen v := fun ⟨_, _, hlength, _⟩ => Nat.not_lt_zero _ hlength

theorem closes_succ {n : ℕ} :
    G.Closes (n + 1) seen v ↔ ∃ e ∈ G.out v,
      G.target e ∈ seen ∨ (G.target e ∉ seen ∧ G.Closes n (G.target e :: seen) (G.target e)) := by
  constructor
  · rintro ⟨p, hfresh, hlength, e, he, hback⟩
    -- the edge leaves the start itself or a vertex behind the first step
    cases p with
    | nil =>
      have hseen : G.target e ∈ seen := by simpa using hback
      exact ⟨e, he, .inl hseen⟩
    | cons s p =>
      obtain ⟨hedge, hnew, hrest⟩ := fresh_cons.mp hfresh
      refine ⟨s.2, List.mem_of_getElem? hedge, .inr ⟨hnew, p, hrest, ?_, e, he, ?_⟩⟩
      · rw [List.length_cons] at hlength
        omega
      · rw [visited_cons, List.mem_cons] at hback
        rw [List.mem_cons]
        tauto
  · rintro ⟨e, he, hseen | ⟨hnew, p, hrest, hlength, e', he', hback⟩⟩
    · exact ⟨[], isFresh_nil, by simp, e, he, .inl hseen⟩
    · obtain ⟨i, hi⟩ := List.mem_iff_getElem?.mp he
      have hlength' : ((i, e) :: p).length < n + 1 := by
        rw [List.length_cons]
        omega
      refine ⟨(i, e) :: p, fresh_cons.mpr ⟨hi, hnew, hrest⟩, hlength', e', he', ?_⟩
      rw [visited_cons, List.mem_cons]
      rw [List.mem_cons] at hback
      tauto

theorem extends_zero : G.Extends 0 seen v := ⟨[], isFresh_nil, rfl⟩

theorem extends_succ {n : ℕ} :
    G.Extends (n + 1) seen v ↔ ∃ e ∈ G.out v,
      G.target e ∉ seen ∧ G.Extends n (G.target e :: seen) (G.target e) := by
  constructor
  · rintro ⟨p, hfresh, hlength⟩
    cases p with
    | nil => cases hlength
    | cons s p =>
      obtain ⟨hedge, hnew, hrest⟩ := fresh_cons.mp hfresh
      exact ⟨s.2, List.mem_of_getElem? hedge, hnew, p, hrest, Nat.succ.inj hlength⟩
  · rintro ⟨e, he, hnew, p, hrest, hlength⟩
    obtain ⟨i, hi⟩ := List.mem_iff_getElem?.mp he
    exact ⟨(i, e) :: p, fresh_cons.mpr ⟨hi, hnew, hrest⟩, by rw [List.length_cons, hlength]⟩

variable (G) in
/-- Every edge of every fresh walk of at most `n` steps satisfies `P`. -/
def Every (P : E → Prop) (n : ℕ) (seen : List V) (v : V) : Prop :=
  ∀ p, G.IsFresh seen v p → p.length ≤ n → ∀ s ∈ p, P s.2

theorem every_zero {P : E → Prop} : G.Every P 0 seen v := by
  intro p _ hlength s hs
  have hp : p = [] := List.eq_nil_of_length_eq_zero (Nat.le_zero.mp hlength)
  exact absurd (hp ▸ hs) List.not_mem_nil

theorem every_succ {P : E → Prop} {n : ℕ} :
    G.Every P (n + 1) seen v ↔ ∀ e ∈ G.out v, G.target e ∉ seen →
      P e ∧ G.Every P n (G.target e :: seen) (G.target e) := by
  constructor
  · intro h e he hnew
    obtain ⟨i, hi⟩ := List.mem_iff_getElem?.mp he
    -- a walk from the target is one from the start with this edge in front
    have hwalk : ∀ p, G.IsFresh (G.target e :: seen) (G.target e) p → p.length ≤ n →
        ∀ s ∈ (i, e) :: p, P s.2 := by
      intro p hfresh hlength
      apply h _ (fresh_cons.mpr ⟨hi, hnew, hfresh⟩)
      rw [List.length_cons]
      omega
    exact ⟨hwalk [] isFresh_nil (Nat.zero_le n) _ List.mem_cons_self,
      fun p hfresh hlength s hs => hwalk p hfresh hlength s (List.mem_cons_of_mem _ hs)⟩
  · intro h p hfresh hlength
    cases p with
    | nil => exact fun s hs => absurd hs List.not_mem_nil
    | cons s p =>
      obtain ⟨hedge, hnew, hrest⟩ := fresh_cons.mp hfresh
      obtain ⟨hs, hevery⟩ := h s.2 (List.mem_of_getElem? hedge) hnew
      rw [List.length_cons] at hlength
      exact List.forall_mem_cons.mpr ⟨hs, hevery p hrest (by omega)⟩

/-! ## Graphs with the same targets -/

section SameTargets

variable {F : Type*} {H : Multigraph V F}

variable (G H) in
/-- From every vertex the edges of the two graphs lead to the same vertices, however often. -/
def SameTargets : Prop := ∀ v u, (∃ e ∈ G.out v, G.target e = u) ↔ ∃ f ∈ H.out v, H.target f = u

theorem SameTargets.exists_iff (h : SameTargets G H) (v : V) (P : V → Prop) :
    (∃ e ∈ G.out v, P (G.target e)) ↔ ∃ f ∈ H.out v, P (H.target f) := by
  constructor
  · rintro ⟨e, he, hP⟩
    obtain ⟨f, hf, heq⟩ := (h v _).mp ⟨e, he, rfl⟩
    exact ⟨f, hf, heq ▸ hP⟩
  · rintro ⟨f, hf, hP⟩
    obtain ⟨e, he, heq⟩ := (h v _).mpr ⟨f, hf, rfl⟩
    exact ⟨e, he, heq ▸ hP⟩

theorem SameTargets.closes_iff (h : SameTargets G H) {n : ℕ} :
    G.Closes n seen v ↔ H.Closes n seen v := by
  induction n generalizing seen v with
  | zero => exact iff_of_false not_closes_zero not_closes_zero
  | succ n ih =>
    rw [closes_succ, closes_succ,
      h.exists_iff v fun u => u ∈ seen ∨ (u ∉ seen ∧ G.Closes n (u :: seen) u)]
    simp only [ih]

theorem SameTargets.extends_iff (h : SameTargets G H) {n : ℕ} :
    G.Extends n seen v ↔ H.Extends n seen v := by
  induction n generalizing seen v with
  | zero => exact iff_of_true extends_zero extends_zero
  | succ n ih =>
    rw [extends_succ, extends_succ,
      h.exists_iff v fun u => u ∉ seen ∧ G.Extends n (u :: seen) u]
    simp only [ih]

end SameTargets

/-! ## The depth-first enumeration -/

variable [DecidableEq V]

variable (G) in
/-- The fresh walks of one to `n` steps, in the order of a depth-first search. -/
def freshWalks : ℕ → List V → V → List (List (ℕ × E))
  | 0, _, _ => []
  | n + 1, seen, v => (G.out v).zipIdx.flatMap fun (e, i) =>
    if G.target e ∈ seen then []
    else [(i, e)] :: (freshWalks n (G.target e :: seen) (G.target e)).map ((i, e) :: ·)

/-- The enumeration is complete and correct. -/
theorem mem_freshWalks {n : ℕ} :
    p ∈ G.freshWalks n seen v ↔ p ≠ [] ∧ p.length ≤ n ∧ G.IsFresh seen v p := by
  induction n generalizing seen v p with
  | zero =>
    cases p with
    | nil => simp [freshWalks]
    | cons s p => simp [freshWalks]
  | succ n ih =>
    simp only [freshWalks, List.mem_flatMap, Prod.exists, List.mem_zipIdx_iff_getElem?]
    constructor
    · rintro ⟨e, i, hedge, hp⟩
      split at hp
      · cases hp
      next hnew =>
        rw [List.mem_cons, List.mem_map] at hp
        -- the single step, or a longer walk that begins with it
        rcases hp with rfl | ⟨p, hp, rfl⟩
        · exact ⟨by simp, by simp, fresh_cons.mpr ⟨hedge, hnew, isFresh_nil⟩⟩
        · obtain ⟨-, hlength, hfresh⟩ := ih.mp hp
          refine ⟨by simp, ?_, fresh_cons.mpr ⟨hedge, hnew, hfresh⟩⟩
          rw [List.length_cons]
          omega
    · rintro ⟨hne, hlength, hfresh⟩
      obtain ⟨s, p, rfl⟩ := List.exists_cons_of_ne_nil hne
      obtain ⟨hedge, hnew, hrest⟩ := fresh_cons.mp hfresh
      refine ⟨s.2, s.1, hedge, ?_⟩
      rw [if_neg hnew, List.mem_cons, List.mem_map]
      by_cases hp : p = []
      · exact .inl (by rw [hp])
      · rw [List.length_cons] at hlength
        exact .inr ⟨p, ih.mpr ⟨hp, by omega, hrest⟩, rfl⟩

theorem before_cons : Before (s :: p) (s :: q) ↔ Before p q := by
  unfold Before
  simp

/-- The enumeration lists the walks in the order of a depth-first search, each once. -/
theorem freshWalks_pairwise (n : ℕ) (seen : List V) (v : V) :
    (G.freshWalks n seen v).Pairwise Before := by
  induction n generalizing seen v with
  | zero => exact List.Pairwise.nil
  | succ n ih =>
    rw [freshWalks, List.pairwise_flatMap]
    constructor
    · rintro ⟨e, i⟩ -
      dsimp only
      split
      · exact List.Pairwise.nil
      · rw [List.pairwise_cons, List.pairwise_map]
        constructor
        · intro p hp
          obtain ⟨p', hp', rfl⟩ := List.mem_map.mp hp
          obtain ⟨s, p'', rfl⟩ := List.exists_cons_of_ne_nil (mem_freshWalks.mp hp').1
          rw [before_cons]
          exact List.nil_lt_cons _ _
        · exact (ih _ _).imp fun h => before_cons.mpr h
    · -- the walks through an earlier edge come first
      have hplaces : (G.out v).zipIdx.Pairwise fun a b => a.2 < b.2 := by
        rw [← List.pairwise_map (f := Prod.snd), List.zipIdx_map_snd]
        exact List.pairwise_lt_range'
      refine hplaces.imp fun {a b} hab p hp q hq => ?_
      have hhead : ∀ {c : E × ℕ} {r : List (ℕ × E)},
          r ∈ (if G.target c.1 ∈ seen then []
            else [(c.2, c.1)] ::
              (G.freshWalks n (G.target c.1 :: seen) (G.target c.1)).map ((c.2, c.1) :: ·)) →
          ∃ r', r = (c.2, c.1) :: r' := by
        intro c r hr
        split at hr
        · cases hr
        · rw [List.mem_cons, List.mem_map] at hr
          rcases hr with rfl | ⟨r', -, rfl⟩
          · exact ⟨[], rfl⟩
          · exact ⟨r', rfl⟩
      obtain ⟨p', rfl⟩ := hhead hp
      obtain ⟨q', rfl⟩ := hhead hq
      exact List.Lex.rel hab

/-- The number of fresh walks, by their first steps. -/
theorem length_freshWalks_succ {n : ℕ} :
    (G.freshWalks (n + 1) seen v).length = (((G.out v).map G.target).map fun u =>
      if u ∈ seen then 0 else (G.freshWalks n (u :: seen) u).length + 1).sum := by
  have hfst : (G.out v).zipIdx.map Prod.fst = G.out v := List.zipIdx_map_fst 0 _
  rw [freshWalks, List.length_flatMap, List.map_map]
  conv_rhs => rw [← hfst, List.map_map]
  congr 1
  apply List.map_congr_left
  rintro ⟨e, i⟩ -
  dsimp only [Function.comp_apply]
  split
  · rfl
  · rw [List.length_cons, List.length_map]

/-! ## Graphs with repeated edges -/

section Repeats

variable {F : Type*} {H : Multigraph V F}

variable (G H) in
/-- The edges of `G` are those of `H`, an edge `f` of `H` being there `times f` times. -/
structure Repeats (times : F → ℕ) : Prop where
  pos : ∀ f, 0 < times f
  targets : ∀ v, ((G.out v).map G.target).Perm
    ((H.out v).flatMap fun f => List.replicate (times f) (H.target f))

variable {times : F → ℕ}

omit [DecidableEq V] in
theorem Repeats.sameTargets (h : Repeats G H times) : SameTargets G H := by
  intro v u
  have hmem := (h.targets v).mem_iff (a := u)
  simp only [List.mem_map, List.mem_flatMap, List.mem_replicate] at hmem
  rw [hmem]
  exact exists_congr fun f => and_congr_right fun _ =>
    ⟨fun hf => hf.2.symm, fun hf => ⟨Nat.ne_of_gt (h.pos f), hf.symm⟩⟩

omit [DecidableEq V] in
/-- A sum over the targets of `G`. -/
theorem Repeats.sum_targets (h : Repeats G H times) (v : V) (weight : V → ℕ) :
    (((G.out v).map G.target).map weight).sum =
      ((H.out v).map fun f => times f * weight (H.target f)).sum := by
  rw [((h.targets v).map weight).sum_nat]
  induction H.out v with
  | nil => rfl
  | cons f l ih =>
    rw [List.flatMap_cons, List.map_append, List.sum_append, ih, List.map_cons, List.sum_cons,
      List.map_replicate, List.sum_replicate_nat]

/-- Numbers that are compared one by one: so are the sums, which agree only if the numbers do. -/
theorem sum_map_le_and_eq_iff {α : Type*} {f g : α → ℕ} {l : List α} (h : ∀ a ∈ l, f a ≤ g a) :
    (l.map f).sum ≤ (l.map g).sum ∧ ((l.map f).sum = (l.map g).sum ↔ ∀ a ∈ l, f a = g a) := by
  induction l with
  | nil => exact ⟨Nat.le_refl _, iff_of_true rfl fun a ha => absurd ha List.not_mem_nil⟩
  | cons a l ih =>
    obtain ⟨hle, heq⟩ := ih fun b hb => h b (List.mem_cons_of_mem a hb)
    have ha := h a List.mem_cons_self
    simp only [List.map_cons, List.sum_cons, List.forall_mem_cons, ← heq]
    exact ⟨by omega, by omega⟩

/-- A repeated edge that a fresh walk can take makes the search longer, and nothing makes it
shorter. -/
theorem Repeats.length_freshWalks (h : Repeats G H times) {n : ℕ} :
    (H.freshWalks n seen v).length ≤ (G.freshWalks n seen v).length ∧
      ((H.freshWalks n seen v).length = (G.freshWalks n seen v).length ↔
        H.Every (fun f => times f = 1) n seen v) := by
  induction n generalizing seen v with
  | zero => exact ⟨Nat.le_refl _, iff_of_true rfl every_zero⟩
  | succ n ih =>
    have hterm : ∀ f ∈ H.out v,
        (if H.target f ∈ seen then 0
          else (H.freshWalks n (H.target f :: seen) (H.target f)).length + 1) ≤
        times f * if H.target f ∈ seen then 0
          else (G.freshWalks n (H.target f :: seen) (H.target f)).length + 1 := by
      intro f _
      split
      · exact Nat.zero_le _
      · exact Nat.succ_le_of_lt (Nat.lt_of_lt_of_le (Nat.lt_succ_of_le ih.1)
          (Nat.le_mul_of_pos_left _ (h.pos f)))
    obtain ⟨hle, heq⟩ := sum_map_le_and_eq_iff hterm
    rw [length_freshWalks_succ, length_freshWalks_succ, h.sum_targets, List.map_map]
    refine ⟨hle, heq.trans ?_⟩
    rw [every_succ]
    refine forall_congr' fun f => forall_congr' fun _ => ?_
    by_cases hnew : H.target f ∈ seen
    · simp [hnew]
    · have hbehind : (H.freshWalks n (H.target f :: seen) (H.target f)).length ≤ _ ∧ (_ ↔ _) := ih
      rw [if_neg hnew, if_neg hnew, ← hbehind.2]
      have hsub := hbehind.1
      generalize (H.freshWalks n (H.target f :: seen) (H.target f)).length = m at hsub
      generalize (G.freshWalks n (H.target f :: seen) (H.target f)).length = k at hsub
      constructor
      · -- the edge counts once, and so do those behind it
        intro hf _
        have hone : times f = 1 := by
          have hpos := h.pos f
          by_contra hne
          have htwo : 2 * (k + 1) ≤ times f * (k + 1) := Nat.mul_le_mul_right _ (by omega)
          omega
        rw [hone] at hf
        exact ⟨hone, by omega⟩
      · intro hf
        obtain ⟨hone, rfl⟩ := hf hnew
        rw [hone, Nat.one_mul]

end Repeats

end Multigraph
