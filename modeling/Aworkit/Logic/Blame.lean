import Aworkit.Collections.OrderedMap

/-! Which errors a chain of checks can end in, by how it is put together. -/
namespace Fallible
universe u v w
variable {α β : Type u} {ε : Type v} {p : ε → Prop} {x : Except ε α} {check : α → Except ε Unit}

/-- Where the computation fails, its error is one of those described. -/
structure FailsOnly (p : ε → Prop) (x : Except ε α) : Prop where
  blame : ∀ e, x = .error e → p e

namespace FailsOnly

theorem ok {a : α} (h : x = .ok a) : FailsOnly p x := by
  constructor
  intro e he
  rw [h] at he
  cases he

theorem error (h : p e) : FailsOnly p (.error e : Except ε α) := by
  constructor
  intro found hfound
  cases hfound
  exact h

theorem bind {first : Except ε α} {next : α → Except ε β} (hfirst : FailsOnly p first)
    (hnext : ∀ a, first = .ok a → FailsOnly p (next a)) : FailsOnly p (first >>= next) := by
  cases first with
  | error e => exact error (hfirst.blame e rfl)
  | ok a => exact hnext a rfl

theorem map (f : α → β) (h : FailsOnly p x) : FailsOnly p (x.map f) := by
  cases x with
  | error e => exact error (h.blame e rfl)
  | ok a => exact ok rfl

theorem refuseIf (h : condition = true → p e) : FailsOnly p (Fallible.refuseIf condition e) := by
  cases condition with
  | false => exact ok rfl
  | true => exact error (h rfl)

theorem require (h : found = none → p e) : FailsOnly p (Fallible.require found e) := by
  cases found with
  | none => exact error (h rfl)
  | some a => exact ok rfl

theorem checkAll (h : ∀ item ∈ items, FailsOnly p (check item)) : FailsOnly p (Fallible.checkAll check items) := by
  induction items with
  | nil => exact ok rfl
  | cons item rest ih =>
    apply bind (h item List.mem_cons_self)
    intro _ _
    apply ih
    intro other hother
    exact h other (List.mem_cons_of_mem _ hother)

theorem foldlM {step : σ → α → Except ε σ} {items : List α}
    (h : ∀ state, ∀ item ∈ items, FailsOnly p (step state item)) (first : σ) : FailsOnly p (items.foldlM step first) := by
  induction items generalizing first with
  | nil => exact ok rfl
  | cons item rest ih =>
    rw [List.foldlM_cons]
    apply bind (h first item List.mem_cons_self)
    intro next _
    apply ih
    intro state other hother
    exact h state other (List.mem_cons_of_mem _ hother)

/-- A table under a unique key fails by an item's own check or its repetition. -/
theorem collectUnique {κ : Type*} [Ord κ] [Std.TransOrd κ] {duplicate : α → ε} {key : α → κ}
    (hcheck : ∀ item ∈ items, FailsOnly p (check item)) (hduplicate : ∀ item ∈ items, p (duplicate item)) :
    FailsOnly p (OrderedMap.collectUnique check duplicate key items) := by
  apply foldlM
  intro table item hitem
  unfold OrderedMap.collectStep
  cases hc : check item with
  | error e => exact error ((hcheck item hitem).blame e hc)
  | ok u =>
    dsimp only
    split
    · exact error (hduplicate item hitem)
    · exact ok rfl

end FailsOnly
end Fallible
