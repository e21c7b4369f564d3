import Mathlib

/-! Fitting the prompt of a summary to its window (`compaction/surface.rs`). A unit costs any number; sums stay below
the bound of `u64`. -/
namespace Aworkit.Desktop.Compaction
open List

/-- A positioned message or a closed exchange; what fitting does not read is of any type. -/
inductive ContextUnit (μ χ : Type) where
  | message (instructionEventId role : Option String) (rest : μ)
  | exchange (exchange : χ)

structure SummaryFit where
  (droppedUnits droppedTokens : Nat)
  fits : Bool

abbrev Surface (μ χ : Type) := List (ContextUnit μ χ)

variable {μ χ : Type}

def ordinary : ContextUnit μ χ → Bool
  | .message none role _ => role.getD "user" == "user"
  | _ => false

/-- The list without the oldest unit it can spare, unless there is none. -/
def shrinkSummary (surface : Surface μ χ) : Option (Surface μ χ) :=
  let base := surface.findIdx? ordinary
  ((range (surface.length - 1)).find? fun index => some index != base).map surface.eraseIdx

theorem shrinkSummary_sublist {surface next : Surface μ χ} (h : shrinkSummary surface = some next) :
    next <+ surface ∧ next.length < surface.length := by
  obtain ⟨index, hfound, rfl⟩ := Option.map_eq_some_iff.mp h
  have hindex := mem_range.mp (mem_of_find?_eq_some hfound)
  refine ⟨eraseIdx_sublist surface index, ?_⟩
  rw [length_eraseIdx_of_lt (by omega)]
  omega

variable (tokens : ContextUnit μ χ → Nat)

def total (surface : Surface μ χ) : Nat := (surface.map tokens).sum

/-- The loop with the probe, the units and the tokens dropped so far. -/
def fitLoop (budget : Nat) (probe : Surface μ χ) (units dropped : Nat) : Surface μ χ × Nat × Nat :=
  if total tokens probe ≤ budget then (probe, units, dropped)
  else
    match _h : shrinkSummary probe with
    | none => (probe, units, dropped)
    | some next => fitLoop budget next (units + 1) (dropped + (total tokens probe - total tokens next))
termination_by probe.length
decreasing_by exact (shrinkSummary_sublist _h).2

/-- The surface afterwards and what fitting did. -/
def fitSummary (surface : Surface μ χ) (budget : Nat) : Surface μ χ × SummaryFit :=
  let (probe, units, dropped) := fitLoop tokens budget surface 0 0
  if total tokens probe ≤ budget then (probe, ⟨units, dropped, true⟩) else (surface, ⟨0, 0, false⟩)

section Parts
variable (surface : Surface μ χ)

/-- The units before the first ordinary user message and the last unit. -/
def early : Surface μ χ := surface.dropLast.takeWhile (!ordinary ·)

/-- The first ordinary user message before the last unit, if any, and what is between the two. -/
def later : Surface μ χ := surface.dropLast.dropWhile (!ordinary ·)

/-- All units but the first ordinary user message and the last unit. -/
def droppable : Surface μ χ := early surface ++ (later surface).tail

def undroppable : Surface μ χ := (later surface).head?.toList ++ surface.getLast?.toList

/-- The surface without its oldest droppable units, as many as given. -/
def withoutOldest (count : Nat) : Surface μ χ :=
  (early surface).drop count ++ (later surface).head?.toList ++ (later surface).tail.drop (count - (early surface).length) ++
    surface.getLast?.toList

end Parts

variable {tokens} {surface kept rest : Surface μ χ} {unit : ContextUnit μ χ}

theorem shrinkSummary_early (h : ordinary unit = false) (hrest : rest ≠ []) : shrinkSummary (unit :: rest) = some rest := by
  obtain ⟨next, later, rfl⟩ := exists_cons_of_ne_nil hrest
  have hbase : (unit :: next :: later).findIdx? ordinary ≠ some 0 := by simp [findIdx?_eq_some_iff_getElem, h]
  simp [shrinkSummary, range_succ_eq_map, hbase.symm]

theorem shrinkSummary_later (h : ordinary unit = true) (hrest : rest ≠ []) (next : ContextUnit μ χ) :
    shrinkSummary (unit :: next :: rest) = some (unit :: rest) := by
  obtain ⟨third, later, rfl⟩ := exists_cons_of_ne_nil hrest
  simp [shrinkSummary, findIdx?_cons, h, range_succ_eq_map]

theorem shrinkSummary_last (h : ordinary unit = true) (last : ContextUnit μ χ) : shrinkSummary [unit, last] = none := by
  simp [shrinkSummary, findIdx?_cons, h]

theorem total_le (h : kept <+ surface) : total tokens kept ≤ total tokens surface :=
  (h.map tokens).sum_le_sum fun _ _ => Nat.zero_le _

/-- Along lists that each lose a unit the loop stops at the first that fits, or the last. -/
theorem fitLoop_chain (tokens : ContextUnit μ χ → Nat) (budget : Nat) (s : Nat → Surface μ χ) {n k : Nat}
    (hstep : ∀ i < n, shrinkSummary (s i) = some (s (i + 1))) (hend : shrinkSummary (s n) = none) (hk : k ≤ n)
    (units dropped : Nat) :
    ∃ j, k ≤ j ∧ j ≤ n ∧ total tokens (s j) ≤ total tokens (s k) ∧ fitLoop tokens budget (s k) units dropped =
        (s j, units + (j - k), dropped + (total tokens (s k) - total tokens (s j))) ∧
      (∀ i, k ≤ i → i < j → budget < total tokens (s i)) ∧ (budget < total tokens (s j) → j = n) := by
  -- The induction is on the units that can still go.
  induction hleft : n - k generalizing k units dropped with
  | zero =>
    obtain rfl : k = n := by omega
    refine ⟨k, le_rfl, hk, le_rfl, ?_, fun i _ _ => by omega, fun _ => rfl⟩
    rw [fitLoop]
    split
    · simp
    · split <;> simp_all
  | succ left ih =>
    rw [fitLoop]
    by_cases hfits : total tokens (s k) ≤ budget
    · exact ⟨k, le_rfl, hk, le_rfl, by simp [hfits], fun i _ _ => by omega, fun _ => by omega⟩
    obtain ⟨j, hkj, hjn, hle, hloop, hover, hlast⟩ :=
      ih (k := k + 1) (by omega) (units + 1) (dropped + (total tokens (s k) - total tokens (s (k + 1)))) (by omega)
    have hnext := hstep k (by omega)
    have hfell : total tokens (s (k + 1)) ≤ total tokens (s k) := total_le (shrinkSummary_sublist hnext).1
    refine ⟨j, by omega, hjn, hle.trans hfell, ?_, fun i hki hij => ?_, hlast⟩
    · rw [if_neg hfits]
      split <;> simp_all
      omega
    · rcases hki.eq_or_lt with rfl | hlt
      · omega
      · exact hover i hlt hij

theorem later_cases (surface : Surface μ χ) :
    later surface = [] ∨ ∃ base middle, later surface = base :: middle ∧ ordinary base = true := by
  rcases h : later surface with _ | ⟨base, middle⟩
  · exact .inl rfl
  · have := head?_dropWhile_not (!ordinary ·) surface.dropLast
    exact .inr ⟨base, middle, rfl, by simp_all [later]⟩

theorem withoutOldest_step {k : Nat} (hk : k < (droppable surface).length) :
    shrinkSummary (withoutOldest surface k) = some (withoutOldest surface (k + 1)) := by
  obtain ⟨last, hlast⟩ : ∃ last, surface.getLast? = some last := by
    rcases hempty : surface.getLast? with _ | last
    · simp [droppable, early, later, getLast?_eq_none_iff.mp hempty] at hk
    · exact ⟨last, rfl⟩
  rw [droppable, length_append] at hk
  unfold withoutOldest
  by_cases hearly : k < (early surface).length
  · have hunit : ordinary (early surface)[k] = false := by
      simpa [early] using mem_takeWhile_imp (getElem_mem hearly)
    rw [drop_eq_getElem_cons hearly, Nat.sub_eq_zero_of_le hearly.le, Nat.sub_eq_zero_of_le hearly]
    exact shrinkSummary_early hunit (by simp [hlast])
  · rcases later_cases surface with hnone | ⟨base, middle, hlater, hbase⟩
    · simp [hnone] at hk
      omega
    · rw [hlater, tail_cons] at hk ⊢
      have hmiddle : k - (early surface).length < middle.length := by omega
      have hgone : ∀ i, k ≤ i → (early surface).drop i = [] := fun i hi => drop_of_length_le (by omega)
      rw [hgone k le_rfl, hgone (k + 1) (by omega), drop_eq_getElem_cons hmiddle,
        show k + 1 - (early surface).length = k - (early surface).length + 1 by omega]
      exact shrinkSummary_later hbase (by simp [hlast]) _

theorem withoutOldest_all : withoutOldest surface (droppable surface).length = undroppable surface := by
  rw [withoutOldest, droppable, length_append, drop_of_length_le (by omega), drop_of_length_le (by omega), undroppable]
  simp

private theorem undroppable_sublist (k : Nat) : undroppable surface <+ withoutOldest surface k :=
  ((sublist_append_right _ _).trans (sublist_append_left _ _)).append (.refl _)

private theorem undroppable_end : shrinkSummary (undroppable surface) = none := by
  rcases hlast : surface.getLast? with _ | last
  · simp [getLast?_eq_none_iff.mp hlast, undroppable, later, shrinkSummary]
  rcases later_cases surface with hnone | ⟨base, middle, hlater, hbase⟩
  · simp [undroppable, hnone, hlast, shrinkSummary]
  · simpa [undroppable, hlater, hlast] using shrinkSummary_last hbase last

theorem withoutOldest_zero (surface : Surface μ χ) : withoutOldest surface 0 = surface := by
  rcases eq_nil_or_concat surface with rfl | ⟨front, last, rfl⟩
  · simp [withoutOldest, early, later]
  · have hbase : ∀ rest : Surface μ χ, rest.head?.toList ++ rest.tail = rest := fun rest => by cases rest <;> rfl
    simp [withoutOldest, early, later, hbase, takeWhile_append_dropWhile]

/-- What is left and what is gone cost as much as the surface. -/
theorem total_withoutOldest (tokens : ContextUnit μ χ → Nat) (surface : Surface μ χ) (k : Nat) :
    total tokens (withoutOldest surface k) + total tokens ((droppable surface).take k) = total tokens surface := by
  have hparts : ∀ rest : Surface μ χ, ∀ i, total tokens rest = total tokens (rest.take i) + total tokens (rest.drop i) :=
    fun rest i => by rw [total, total, total, ← sum_append, ← map_append, take_append_drop]
  have hearly := hparts (early surface) k
  have hlater := hparts (later surface).tail (k - (early surface).length)
  conv_rhs => rw [← withoutOldest_zero surface]
  simp only [withoutOldest, droppable, take_append, total, map_append, sum_append, drop_zero, Nat.zero_sub] at *
  omega

/-- Fitting drops the fewest oldest units that suffice, or none if no number does. -/
theorem fitSummary_least (tokens : ContextUnit μ χ → Nat) (surface : Surface μ χ) (budget : Nat) :
    ((fitSummary tokens surface budget).2.fits = false ↔ budget < total tokens (undroppable surface)) ∧
    (fitSummary tokens surface budget = (surface, ⟨0, 0, false⟩) ∨
      ∃ k ≤ (droppable surface).length, fitSummary tokens surface budget =
          (withoutOldest surface k, ⟨k, total tokens ((droppable surface).take k), true⟩) ∧
        total tokens (withoutOldest surface k) ≤ budget ∧
        ∀ fewer < k, budget < total tokens (withoutOldest surface fewer)) := by
  obtain ⟨k, -, hk, -, hloop, hover, hall⟩ := fitLoop_chain tokens budget (withoutOldest surface)
    (fun _ hk => withoutOldest_step hk) (withoutOldest_all ▸ undroppable_end) (Nat.zero_le _) 0 0
  have hspent : total tokens surface - total tokens (withoutOldest surface k) = total tokens ((droppable surface).take k) := by
    have := total_withoutOldest tokens surface k
    omega
  rw [withoutOldest_zero, hspent, Nat.zero_add, Nat.zero_add, Nat.sub_zero] at hloop
  simp only [fitSummary, hloop]
  by_cases hfits : total tokens (withoutOldest surface k) ≤ budget
  · have hundroppable : total tokens (undroppable surface) ≤ budget := (total_le (undroppable_sublist k)).trans hfits
    exact ⟨by simp [hfits, hundroppable], .inr ⟨k, hk, by simp [hfits], hfits, fun i hi => hover i (Nat.zero_le _) hi⟩⟩
  · have hundroppable := hall (not_le.mp hfits) ▸ not_le.mp hfits
    rw [withoutOldest_all] at hundroppable
    exact ⟨by simp [hfits, hundroppable], .inl (by simp [hfits])⟩

end Aworkit.Desktop.Compaction
