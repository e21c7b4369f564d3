import Mathlib

/-! Append-only logs whose entries were admitted on those before. -/
variable {α : Type*}

/-- Each entry of the log stands in the given relation to what precedes it. -/
def Justified (admits : List α → α → Prop) (log : List α) : Prop :=
  ∀ before entry after, log = before ++ entry :: after → admits before entry

namespace Justified
variable {admits : List α → α → Prop} {log : List α}

theorem iff_take : Justified admits log ↔ ∀ n, (h : n < log.length) → admits (log.take n) log[n] := by
  constructor
  · intro hlog n h
    refine hlog (log.take n) log[n] (log.drop (n + 1)) ?_
    rw [List.cons_getElem_drop_succ, List.take_append_drop]
  · rintro h before entry after rfl
    simpa using h before.length (by simp)

instance [∀ before entry, Decidable (admits before entry)] : Decidable (Justified admits log) :=
  decidable_of_iff' _ iff_take

theorem nil : Justified admits [] := by
  intro before entry after h
  simp at h

theorem imp {admits' : List α → α → Prop} (himp : ∀ before entry, admits before entry → admits' before entry)
    (h : Justified admits log) : Justified admits' log :=
  fun before entry after hsplit => himp before entry (h before entry after hsplit)

theorem snoc {last : α} (h : Justified admits log) (hlast : admits log last) : Justified admits (log ++ [last]) := by
  intro before entry after hsplit
  induction after using List.reverseRecOn with
  | nil =>
    obtain ⟨rfl, hentry⟩ := List.append_inj' hsplit rfl
    rw [← List.singleton_inj.mp hentry]
    exact hlast
  | append_singleton after other _ =>
    rw [← List.cons_append, ← List.append_assoc] at hsplit
    exact h before entry after (List.append_inj' hsplit rfl).1

theorem of_snoc (h : Justified admits (log ++ [last])) : Justified admits log ∧ admits log last := by
  refine ⟨?_, h log last [] rfl⟩
  intro before entry after hsplit
  exact h before entry (after ++ [last]) (by rw [hsplit]; simp)

theorem initial (h : Justified admits (before ++ after)) : Justified admits before := by
  intro earlier entry rest hsplit
  exact h earlier entry (rest ++ after) (by rw [hsplit]; simp)

theorem mem (h : Justified admits log) (hentry : entry ∈ log) :
    ∃ before after, log = before ++ entry :: after ∧ admits before entry := by
  obtain ⟨before, after, rfl⟩ := List.append_of_mem hentry
  exact ⟨before, after, rfl, h before entry after rfl⟩

/-- A property of the empty log that every admitted entry keeps. -/
theorem induction {motive : List α → Prop} (hnil : motive [])
    (hsnoc : ∀ log last, Justified admits log → admits log last → motive log → motive (log ++ [last]))
    (h : Justified admits log) : motive log := by
  induction log using List.reverseRecOn with
  | nil => exact hnil
  | append_singleton log last ih =>
    obtain ⟨hlog, hlast⟩ := h.of_snoc
    exact hsnoc log last hlog hlast (ih hlog)

end Justified
