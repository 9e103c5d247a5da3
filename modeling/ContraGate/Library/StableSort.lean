import Mathlib.Order.Lattice
import Mathlib.Order.Defs.LinearOrder
import Mathlib.Data.List.Basic

/-!
# Stable sorting by a key, largest first

`sortDesc key l` is Python's `sorted(l, key=key, reverse=True)`: items with equal keys keep
their order. A stable sort is determined by its order and, for every key, by the sublist of
the items with that key (`eq_of_pairwise_of_filter`); so it commutes with a filter, and the
items with the largest key come first, in the order of the list.
-/

variable {α β κ : Type*} [LinearOrder κ]

/-- Sort by `key`, largest first. -/
def sortDesc (key : α → κ) (l : List α) : List α :=
  l.mergeSort fun a b => decide (key b ≤ key a)

/-- Sorting by a key, smallest first. -/
theorem pairwise_mergeSort_key (key : α → κ) (l : List α) :
    (l.mergeSort fun a b => decide (key a ≤ key b)).Pairwise fun a b => key a ≤ key b := by
  have hsorted : (l.mergeSort fun a b => decide (key a ≤ key b)).Pairwise
      fun a b => decide (key a ≤ key b) := by
    refine List.pairwise_mergeSort ?_ ?_ l
    · intro a b c hab hbc
      exact decide_eq_true ((of_decide_eq_true hab).trans (of_decide_eq_true hbc))
    · intro a b
      simpa using le_total (key a) (key b)
  exact hsorted.imp of_decide_eq_true

theorem mem_sortDesc {key : α → κ} {l : List α} {a : α} : a ∈ sortDesc key l ↔ a ∈ l :=
  List.mem_mergeSort

theorem length_sortDesc (key : α → κ) (l : List α) : (sortDesc key l).length = l.length :=
  List.length_mergeSort l

theorem sortDesc_pairwise (key : α → κ) (l : List α) :
    (sortDesc key l).Pairwise fun a b => key b ≤ key a := by
  have hsorted : (sortDesc key l).Pairwise fun a b => decide (key b ≤ key a) :=
    List.pairwise_mergeSort
    (fun a b c hab hbc => decide_eq_true ((of_decide_eq_true hbc).trans (of_decide_eq_true hab)))
    (fun a b => by simpa using le_total (key b) (key a)) l
  exact hsorted.imp fun h => of_decide_eq_true h

/-- Items with equal keys keep their order. -/
theorem filter_key_sortDesc (key : α → κ) (k : κ) (l : List α) :
    (sortDesc key l).filter (fun a => key a = k) = l.filter fun a => key a = k := by
  have hequal : (l.filter fun a => key a = k).Pairwise fun a b => decide (key b ≤ key a) := by
    refine List.pairwise_of_forall_mem_list fun a ha b hb => ?_
    have hka : key a = k := by simpa using (List.mem_filter.mp ha).2
    have hkb : key b = k := by simpa using (List.mem_filter.mp hb).2
    rw [decide_eq_true_eq, hka, hkb]
  have hsub : (l.filter fun a => key a = k).Sublist (sortDesc key l) :=
    List.sublist_mergeSort
      (fun a b c hab hbc => decide_eq_true ((of_decide_eq_true hbc).trans (of_decide_eq_true hab)))
      (fun a b => by simpa using le_total (key b) (key a)) hequal List.filter_sublist
  have hfilter := hsub.filter fun a => decide (key a = k)
  simp only [List.filter_filter, Bool.and_self] at hfilter
  have hperm : (sortDesc key l).Perm l := List.mergeSort_perm l _
  exact (hfilter.eq_of_length (hperm.filter _).length_eq.symm).symm

/-- A sorted list is determined by the sublists of equal keys. -/
theorem eq_of_pairwise_of_filter {key : α → κ} {l m : List α}
    (hl : l.Pairwise fun a b => key b ≤ key a) (hm : m.Pairwise fun a b => key b ≤ key a)
    (hfilter : ∀ k, (l.filter fun a => key a = k) = m.filter fun a => key a = k) : l = m := by
  have hmem : ∀ {l m : List α}, (∀ k, (l.filter fun a => key a = k) =
      m.filter fun a => key a = k) → ∀ a ∈ l, a ∈ m := by
    intro l m hfilter a ha
    have hin : a ∈ l.filter fun b => key b = key a := List.mem_filter.mpr ⟨ha, by simp⟩
    rw [hfilter] at hin
    exact (List.mem_filter.mp hin).1
  induction l generalizing m with
  | nil =>
    refine (List.eq_nil_iff_forall_not_mem.mpr fun a ha => ?_).symm
    exact List.not_mem_nil (hmem (fun k => (hfilter k).symm) a ha)
  | cons a l ih =>
    cases m with
    | nil => exact absurd (hmem hfilter a (by simp)) List.not_mem_nil
    | cons b m =>
      rw [List.pairwise_cons] at hl hm
      -- both heads have the largest key
      have hab : key a ≤ key b := by
        rcases List.mem_cons.mp (hmem hfilter a (by simp)) with rfl | ha
        · exact le_rfl
        · exact hm.1 a ha
      have hba : key b ≤ key a := by
        rcases List.mem_cons.mp (hmem (fun k => (hfilter k).symm) b (by simp)) with rfl | hb
        · exact le_rfl
        · exact hl.1 b hb
      have hkey : key b = key a := le_antisymm hba hab
      have hheads := hfilter (key a)
      simp only [List.filter_cons, hkey, decide_true, if_true, List.cons.injEq] at hheads
      obtain ⟨rfl, -⟩ := hheads
      rw [ih hl.2 hm.2 fun k => ?_]
      have hk := hfilter k
      simp only [List.filter_cons] at hk
      split at hk
      · exact List.cons_inj_right a |>.mp hk
      · exact hk

/-- Sorting commutes with a filter. -/
theorem filter_sortDesc (key : α → κ) (p : α → Bool) (l : List α) :
    (sortDesc key l).filter p = sortDesc key (l.filter p) := by
  refine eq_of_pairwise_of_filter ((sortDesc_pairwise key l).filter p) (sortDesc_pairwise _ _)
    fun k => ?_
  rw [filter_key_sortDesc, List.filter_filter, List.filter_filter]
  have hcomm : ∀ a, (decide (key a = k) && p a) = (p a && decide (key a = k)) :=
    fun a => Bool.and_comm _ _
  simp only [hcomm]
  rw [← List.filter_filter, filter_key_sortDesc, List.filter_filter]

/-- Sorting commutes with a map. -/
theorem sortDesc_map (key : β → κ) (f : α → β) (l : List α) :
    sortDesc key (l.map f) = (sortDesc (fun a => key (f a)) l).map f :=
  (List.map_mergeSort (f := f) (s := fun a b => decide (key b ≤ key a)) fun _ _ _ _ => rfl).symm

/-- A sorted list starts with its items of the largest key. -/
theorem eq_filter_append_of_pairwise {key : α → κ} {k : κ} {l : List α}
    (hl : l.Pairwise fun a b => key b ≤ key a) (hmax : ∀ a ∈ l, key a ≤ k) :
    l = (l.filter fun a => key a = k) ++ l.filter fun a => ¬ key a = k := by
  induction l with
  | nil => rfl
  | cons a l ih =>
    rw [List.pairwise_cons] at hl
    by_cases hk : key a = k
    · have htail := ih hl.2 fun b hb => hmax b (by simp [hb])
      simp only [List.filter_cons, hk, decide_true, if_true, not_true, decide_false,
        Bool.false_eq_true, if_false, List.cons_append]
      exact congrArg (a :: ·) htail
    · -- nothing behind a smaller key has the largest
      have hnone : ((a :: l).filter fun b => key b = k) = [] := by
        rw [List.filter_eq_nil_iff]
        intro b hb
        rw [decide_eq_true_eq]
        have hba : key b ≤ key a := by
          rcases List.mem_cons.mp hb with rfl | hb
          · exact le_rfl
          · exact hl.1 b hb
        have hlt : key a < k := lt_of_le_of_ne (hmax a (by simp)) hk
        exact (lt_of_le_of_lt hba hlt).ne
      have hall : ((a :: l).filter fun b => ¬ key b = k) = a :: l := by
        rw [List.filter_eq_self]
        intro b hb
        have hb' := (List.filter_eq_nil_iff.mp hnone) b hb
        simpa using hb'
      rw [hnone, hall, List.nil_append]

/-- The items of the largest key come first, in the order of the list. -/
theorem sortDesc_eq_append {key : α → κ} {k : κ} {l : List α} (hmax : ∀ a ∈ l, key a ≤ k) :
    sortDesc key l = (l.filter fun a => key a = k) ++ sortDesc key (l.filter fun a => ¬ key a = k) := by
  have hsplit := eq_filter_append_of_pairwise (sortDesc_pairwise key l) (k := k)
    fun a ha => hmax a (mem_sortDesc.mp ha)
  rw [filter_key_sortDesc, filter_sortDesc] at hsplit
  exact hsplit
