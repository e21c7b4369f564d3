import Mathlib.Data.List.Nodup

/-! Runs that emit marks. An emitted mark is new and stays set, so a run emits each mark at most once. -/
namespace Once
variable {σ α μ : Type*}

/-- What the steps of a run emit, in order. -/
def emitted (step : σ → α → σ) (emits : σ → α → List μ) (s : σ) : List α → List μ
  | [] => []
  | a :: rest => emits s a ++ emitted step emits (step s a) rest

theorem emitted_append (step : σ → α → σ) (emits : σ → α → List μ) (s : σ) (first second : List α) :
    emitted step emits s (first ++ second) = emitted step emits s first ++ emitted step emits (first.foldl step s) second := by
  induction first generalizing s with
  | nil => rfl
  | cons a rest ih => rw [List.cons_append, emitted, emitted, ih, List.foldl_cons, List.append_assoc]

/-- The invariant is kept, marks stay, and every emission is new. -/
structure Marked (step : σ → α → σ) (emits : σ → α → List μ) (inv : σ → Prop) (marked : σ → μ → Prop) : Prop where
  kept : ∀ s a, inv s → inv (step s a)
  stays : ∀ s a m, inv s → marked s m → marked (step s a) m
  fresh : ∀ s a m, inv s → m ∈ emits s a → ¬marked s m
  set : ∀ s a m, inv s → m ∈ emits s a → marked (step s a) m
  nodup : ∀ s a, inv s → (emits s a).Nodup

variable {step : σ → α → σ} {emits : σ → α → List μ} {inv : σ → Prop} {marked : σ → μ → Prop}

/-- No mark is emitted twice, and none that was set before the run. -/
theorem Marked.emitted_once (h : Marked step emits inv marked) (hs : inv s) (actions : List α) :
    (emitted step emits s actions).Nodup ∧ ∀ m ∈ emitted step emits s actions, ¬marked s m := by
  induction actions generalizing s with
  | nil => simp [emitted]
  | cons a rest ih =>
    obtain ⟨hnodup, hnew⟩ := ih (h.kept s a hs)
    constructor
    · apply List.nodup_append'.mpr
      refine ⟨h.nodup s a hs, hnodup, ?_⟩
      intro m hnow hlater
      exact hnew m hlater (h.set s a m hs hnow)
    · intro m hm
      rcases List.mem_append.mp hm with hnow | hlater
      · exact h.fresh s a m hs hnow
      · exact fun hmarked => hnew m hlater (h.stays s a m hs hmarked)

end Once
