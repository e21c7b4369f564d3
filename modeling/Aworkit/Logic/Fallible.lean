import Mathlib

/-! Checks that refuse with an error: refusals, required values and checks of every item, with what their success
tells. -/
namespace Fallible
universe u v w
variable {α β : Type u} {ε : Type v}

def refuseIf (condition : Bool) (e : ε) : Except ε Unit := if condition then .error e else .ok ()

def require (found : Option α) (e : ε) : Except ε α :=
  match found with
  | none => .error e
  | some a => .ok a

/-- Checks the items in turn and stops at the first error. -/
def checkAll (check : α → Except ε Unit) : List α → Except ε Unit
  | [] => .ok ()
  | item :: rest => check item >>= fun _ => checkAll check rest

theorem bind_ok_iff (first : Except ε α) (next : α → Except ε β) (b : β) :
    (first >>= next) = .ok b ↔ ∃ a, first = .ok a ∧ next a = .ok b := by
  refine ⟨fun h => ?_, ?_⟩
  · rcases first with e | a
    · cases h
    · exact ⟨a, rfl, h⟩
  · rintro ⟨a, rfl, h⟩
    exact h

theorem ok_bind (a : α) (next : α → Except ε β) : (Except.ok a >>= next) = next a := rfl

@[simp] theorem refuseIf_eq_ok (condition : Bool) (e : ε) (u : Unit) :
    refuseIf condition e = .ok u ↔ condition = false := by
  cases condition <;> simp [refuseIf]

@[simp] theorem require_eq_ok (found : Option α) (e : ε) (a : α) : require found e = .ok a ↔ found = some a := by
  cases found <;> simp [require]

/-- What passed checks say, as one rule for `simp`. -/
theorem passes : (∀ {α β ε : Type} (first : Except ε α) (next : α → Except ε β) (b : β),
      (first >>= next) = .ok b ↔ ∃ a, first = .ok a ∧ next a = .ok b) ∧
    (∀ {ε : Type} (condition : Bool) (e : ε) (u : Unit), refuseIf condition e = .ok u ↔ condition = false) ∧
    ∀ {α ε : Type} (found : Option α) (e : ε) (a : α), require found e = .ok a ↔ found = some a :=
  ⟨bind_ok_iff, refuseIf_eq_ok, require_eq_ok⟩

/-- What unmet conditions of refusals say, as one rule for `simp`. -/
theorem unmet : (∀ {a b : Bool}, (a || b) = false ↔ a = false ∧ b = false) ∧
    (∀ {α : Type} [BEq α] [LawfulBEq α] {a b : α}, (a != b) = false ↔ a = b) ∧
    (∀ a : Bool, ((!a) = false) = (a = true)) ∧ ∀ {p : Prop} [Decidable p], decide p = false ↔ ¬p :=
  ⟨Bool.or_eq_false_iff, bne_eq_false_iff_eq, Bool.not_eq_false', decide_eq_false_iff_not⟩

/-- What a condition says when it is met, as one rule for `simp`. -/
theorem met : (∀ a b : Bool, ((a && b) = true) = (a = true ∧ b = true)) ∧
    (∀ a b : Bool, ((a || b) = true) = (a = true ∨ b = true)) ∧ (∀ b : Bool, ((!b) = true) = (b = false)) ∧
    (∀ {α : Type} [BEq α] [LawfulBEq α] {a b : α}, (a == b) = true ↔ a = b) ∧
    ∀ {p : Prop} [Decidable p], (decide p = true) = p :=
  ⟨Bool.and_eq_true, Bool.or_eq_true, @Bool.not_eq_true', beq_iff_eq, @decide_eq_true_eq⟩

theorem mapError_eq_ok {δ : Type*} (x : Except ε α) (rename : ε → δ) (a : α) : x.mapError rename = .ok a ↔ x = .ok a := by
  cases x <;> simp [Except.mapError]

theorem checkAll_eq_ok (check : α → Except ε Unit) (items : List α) (u : Unit) :
    checkAll check items = .ok u ↔ ∀ item ∈ items, check item = .ok () := by
  induction items with
  | nil => simp [checkAll]
  | cons item rest ih =>
    rw [checkAll, bind_ok_iff, List.forall_mem_cons]
    refine ⟨?_, fun ⟨hitem, hrest⟩ => ⟨(), hitem, ih.mpr hrest⟩⟩
    rintro ⟨_, hitem, hrest⟩
    exact ⟨hitem, ih.mp hrest⟩

/-- A successful loop keeps what its steps keep, which may speak of the items done. -/
theorem foldlM_keeps (step : σ → α → Except ε σ) (keeps : List α → σ → Prop)
    (hstep : ∀ done state item next, keeps done state → step state item = .ok next → keeps (done ++ [item]) next)
    (rest done : List α) (state last : σ) (hstate : keeps done state) (h : rest.foldlM step state = .ok last) :
    keeps (done ++ rest) last := by
  induction rest generalizing done state with
  | nil =>
    cases h
    simpa using hstate
  | cons item rest ih =>
    rw [List.foldlM_cons, bind_ok_iff] at h
    obtain ⟨next, hnext, hrest⟩ := h
    have hall := ih (done ++ [item]) next (hstep done state item next hstate hnext) hrest
    simpa using hall

/-- A loop succeeds when its steps do in the states so described. -/
theorem foldlM_succeeds (step : σ → α → Except ε σ) (keeps : List α → σ → Prop) (rest done : List α)
    (hstep : ∀ before state item after, done ++ rest = before ++ item :: after → keeps before state →
      ∃ next, step state item = .ok next ∧ keeps (before ++ [item]) next)
    (state : σ) (hstate : keeps done state) : ∃ last, rest.foldlM step state = .ok last ∧ keeps (done ++ rest) last := by
  induction rest generalizing done state with
  | nil => exact ⟨state, rfl, by simpa using hstate⟩
  | cons item rest ih =>
    obtain ⟨next, hnext, hkeeps⟩ := hstep done state item rest rfl hstate
    have hassoc : done ++ [item] ++ rest = done ++ item :: rest := by simp
    obtain ⟨last, hlast, hall⟩ := ih (done ++ [item]) (by rw [hassoc]; exact hstep) next hkeeps
    rw [hassoc] at hall
    refine ⟨last, ?_, hall⟩
    rw [List.foldlM_cons, bind_ok_iff]
    exact ⟨next, hnext, hlast⟩

theorem eq_ok_of_isOk (x : Except ε α) (fallback : α) (h : x.isOk = true) : x = .ok (x.toOption.getD fallback) := by
  cases x with
  | error e => cases h
  | ok a => rfl

end Fallible
