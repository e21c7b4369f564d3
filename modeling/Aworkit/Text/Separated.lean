import Mathlib

/-! Texts of fields with a separator: a field without it can be read back. -/
namespace Separated

private theorem split_unique {α : Type*} {sep : α} {left left' right right' : List α} (hleft : sep ∉ left)
    (hleft' : sep ∉ left') (h : left ++ sep :: right = left' ++ sep :: right') : left = left' ∧ right = right' := by
  induction left generalizing left' with
  | nil =>
    cases left' with
    | nil => exact ⟨rfl, (List.cons.inj h).2⟩
    | cons a rest => exact absurd (List.mem_cons.mpr (.inl (List.cons.inj h).1)) hleft'
  | cons a rest ih =>
    cases left' with
    | nil => exact absurd (List.mem_cons.mpr (.inl (List.cons.inj h).1.symm)) hleft
    | cons a' rest' =>
      obtain ⟨rfl, htail⟩ := List.cons.inj h
      obtain ⟨rfl, hright⟩ := ih (List.not_mem_of_not_mem_cons hleft) (List.not_mem_of_not_mem_cons hleft') htail
      exact ⟨rfl, hright⟩

/-- The field before the first separator and the rest are determined. -/
theorem field_unique {sep : Char} {field field' rest rest' : String} (hfield : sep ∉ field.toList)
    (hfield' : sep ∉ field'.toList)
    (h : field ++ String.singleton sep ++ rest = field' ++ String.singleton sep ++ rest') :
    field = field' ∧ rest = rest' := by
  have hlist := congrArg String.toList h
  simp only [String.toList_append, String.toList_singleton, List.append_assoc, List.singleton_append] at hlist
  obtain ⟨hf, hr⟩ := split_unique hfield hfield' hlist
  exact ⟨String.toList_injective hf, String.toList_injective hr⟩

theorem separator_not_mem_repr {sep : Char} (hsep : sep.isDigit = false) (n : Nat) : sep ∉ (toString n).toList := by
  intro hmem
  have hdigits : sep ∈ Nat.toDigits 10 n := by simpa [Nat.toString_eq_repr, Nat.repr] using hmem
  rw [Nat.isDigit_of_mem_toDigits (by decide) (by decide) hdigits] at hsep
  cases hsep

end Separated
