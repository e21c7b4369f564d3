import Mathlib

/-! Sorting by a key: what it keeps of the order of the list. -/
namespace KeyedSort
open List
variable {α κ : Type*} [LinearOrder κ] (key : α → κ)

/-- With distinct keys the sorted list does not depend on the order. -/
theorem sort_congr {l l' : List α} (hperm : l.Perm l') (hnodup : (l.map key).Nodup) :
    l.insertionSort (fun a b => key a ≤ key b) = l'.insertionSort (fun a b => key a ≤ key b) := by
  apply List.Perm.eq_of_pairwise _ (pairwise_insertionSort _ l) (pairwise_insertionSort _ l')
  · exact (perm_insertionSort _ l).trans (hperm.trans (perm_insertionSort _ l').symm)
  · intro a b ha hb hab hba
    rw [mem_insertionSort] at ha hb
    exact inj_on_of_nodup_map hnodup ha (hperm.mem_iff.mpr hb) (le_antisymm hab hba)

theorem pair_order {l : List α} (hnodup : l.Nodup) (hab : [a, b].Sublist l) (hba : [b, a].Sublist l) : a = b := by
  induction l with
  | nil => cases hab
  | cons x rest ih =>
    obtain ⟨hfresh, hrest⟩ := nodup_cons.mp hnodup
    cases hab with
    | cons _ hab =>
      cases hba with
      | cons _ hba => exact ih hrest hab hba
      | cons_cons _ hba => exact absurd (hab.subset (mem_cons_of_mem _ mem_cons_self)) hfresh
    | cons_cons _ hab =>
      cases hba with
      | cons _ hba => exact absurd (hba.subset (mem_cons_of_mem _ mem_cons_self)) hfresh
      | cons_cons _ hba => rfl

theorem pair_sublist (ha : a ∈ l) (hb : b ∈ l) (hne : a ≠ b) : [a, b].Sublist l ∨ [b, a].Sublist l := by
  obtain ⟨before, after, rfl⟩ := append_of_mem ha
  rcases mem_append.mp hb with hbefore | hafter
  · right
    exact (singleton_sublist.mpr hbefore).append (singleton_sublist.mpr mem_cons_self)
  · left
    rcases mem_cons.mp hafter with rfl | hafter
    · exact absurd rfl hne
    · exact ((singleton_sublist.mpr hafter).cons_cons a).trans (sublist_append_right before _)

/-- Sorting is stable: elements that share a key keep their order. -/
theorem sort_reverse_ne {l : List α} (hnodup : l.Nodup) (ha : a ∈ l) (hb : b ∈ l) (hne : a ≠ b) (hkey : key a = key b) :
    l.reverse.insertionSort (fun a b => key a ≤ key b) ≠ l.insertionSort (fun a b => key a ≤ key b) := by
  have hkept : ∀ {a b : α}, key a = key b → [a, b].Sublist l →
      l.reverse.insertionSort (fun a b => key a ≤ key b) = l.insertionSort (fun a b => key a ≤ key b) → a = b := by
    intro a b hkey hpair hsame
    have hfirst := pair_sublist_insertionSort (r := fun a b => key a ≤ key b) hkey.le hpair
    have hsecond := pair_sublist_insertionSort (r := fun a b => key a ≤ key b) hkey.ge (reverse_sublist.mpr hpair)
    rw [hsame] at hsecond
    exact pair_order ((perm_insertionSort _ l).nodup_iff.mpr hnodup) hfirst hsecond
  intro hsame
  rcases pair_sublist ha hb hne with hpair | hpair
  · exact hne (hkept hkey hpair hsame)
  · exact hne (hkept hkey.symm hpair hsame).symm

end KeyedSort
