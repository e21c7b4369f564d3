import Mathlib

/-! Programs over a state that survives failures, with pre- and postconditions. -/
namespace Hoare
variable {ε σ α β δ τ : Type} {a : α} {mid post' : α → σ → Prop} {wrap : δ → ε} {s s' : σ} {left : σ → Prop}

/-- A program answers or fails, and leaves a state in both cases. -/
def Prog (ε σ α : Type) : Type := σ → Except ε α × σ

namespace Prog

instance : Monad (Prog ε σ) where
  pure a := fun s => (.ok a, s)
  bind m k := fun s =>
    match m s with
    | (.ok a, s') => k a s'
    | (.error e, s') => (.error e, s')

def fail (e : ε) : Prog ε σ α := fun s => (.error e, s)

/-- The answer of a computation that reads no state. -/
def lift : Except ε α → Prog ε σ α
  | .ok a => pure a
  | .error e => fail e

def read : Prog ε σ σ := fun s => (.ok s, s)

def update (f : σ → σ) : Prog ε σ Unit := fun s => (.ok (), f s)

/-- Runs a program over each item and sums the answers; the first failure stops it. -/
def sumOver (body : α → Prog ε σ Nat) : List α → Prog ε σ Nat
  | [] => pure 0
  | item :: rest => do
    let first ← body item
    let others ← sumOver body rest
    pure (first + others)

/-- Runs a program over each item and lists the answers, up to a failure. -/
def collect (body : α → Prog ε σ β) : List α → Prog ε σ (List β)
  | [] => pure []
  | item :: rest => do
    let first ← body item
    let others ← collect body rest
    pure (first :: others)

/-- Runs a program on a part of the state, with its errors renamed. -/
def zoom {δ τ : Type} (part : σ → τ) (put : σ → τ → σ) (wrap : δ → ε) (m : Prog δ τ α) : Prog ε σ α := fun s =>
  match m (part s) with
  | (.ok a, t) => (.ok a, put s t)
  | (.error e, t) => (.error (wrap e), put s t)

/-- Runs the second program from where the first has failed. -/
def handle (m : Prog ε σ α) (recover : ε → Prog ε σ α) : Prog ε σ α := fun s =>
  match m s with
  | (.ok a, s') => (.ok a, s')
  | (.error e, s') => recover e s'

theorem run_bind {m : Prog ε σ α} {k : α → Prog ε σ β} (h : m s = (.ok a, s')) : (m >>= k) s = k a s' := by
  show (match m s with | (.ok a, s') => k a s' | (.error e, s') => (.error e, s')) = k a s'
  rw [h]

theorem run_failed {m : Prog ε σ α} {k : α → Prog ε σ β} {e : ε} (h : m s = (.error e, s')) :
    (m >>= k) s = (.error e, s') := by
  show (match m s with | (.ok a, s') => k a s' | (.error e, s') => (.error e, s')) = _
  rw [h]

theorem run_lift {x : Except ε α} {k : α → Prog ε σ β} (h : x = .ok a) : (lift x >>= k) s = k a s := by
  subst h
  rfl

theorem run_read {k : σ → Prog ε σ β} (s : σ) : (read >>= k) s = k s s := rfl

theorem run_zoom {part : σ → τ} {put : σ → τ → σ} {m : Prog δ τ α} {t : τ}
    (h : m (part s) = (.ok a, t)) : zoom part put wrap m s = (.ok a, put s t) := by
  rw [zoom, h]

theorem state_discard (m : Prog ε σ α) (s : σ) : ((m >>= fun _ => (pure () : Prog ε σ Unit)) s).2 = (m s).2 := by
  show (match m s with | (.ok _, s') => (Except.ok (), s') | (.error e, s') => (Except.error e, s')).2 = (m s).2
  cases m s with
  | mk answer s' => cases answer <;> rfl

end Prog

/-- The program answers with `post`, or fails with `failed`, which may speak of the error. -/
def Outcome (m : Prog ε σ α) (s : σ) (post : α → σ → Prop) (failed : ε → σ → Prop) : Prop :=
  match m s with
  | (.ok a, s') => post a s'
  | (.error e, s') => failed e s'

/-- The program leaves such a state, whether or not it fails. -/
abbrev Ends (m : Prog ε σ α) (s : σ) (left : σ → Prop) : Prop := Outcome m s (fun _ => left) fun _ => left

variable {m : Prog ε σ α} {k : α → Prog ε σ β} {x : Except ε α} {post : α → σ → Prop} {last : β → σ → Prop}
  {failed : ε → σ → Prop}

namespace Outcome

/-- What the outcome tells of each answer tells of the run. -/
@[elab_as_elim] theorem elim {goal : Except ε α × σ → Prop} (h : Outcome m s post failed)
    (hok : ∀ a s', post a s' → goal (.ok a, s')) (hfailed : ∀ e s', failed e s' → goal (.error e, s')) : goal (m s) := by
  unfold Outcome at h
  revert h
  cases m s with
  | mk answer s' =>
    cases answer with
    | error e => exact hfailed e s'
    | ok a => exact hok a s'

theorem bind (hm : Outcome m s mid failed)
    (hk : ∀ a s', mid a s' → Outcome (k a) s' last failed) : Outcome (m >>= k) s last failed := by
  show match (match m s with | (.ok a, s') => k a s' | (.error e, s') => (.error e, s')) with
    | (.ok a, s') => last a s'
    | (.error e, s') => failed e s'
  exact hm.elim hk fun _ _ h => h

theorem via (mid : α → σ → Prop) (hm : Outcome m s mid failed)
    (hk : ∀ a s', mid a s' → Outcome (k a) s' last failed) : Outcome (m >>= k) s last failed :=
  bind hm hk

/-- A program that never answers does not get to the next step. -/
theorem halts (h : Outcome m s (fun _ _ => False) failed) : Outcome (m >>= k) s last failed :=
  bind h fun _ _ h => h.elim

theorem lift (herror : ∀ e, x = .error e → failed e s) (hok : ∀ a, x = .ok a → post a s) :
    Outcome (Prog.lift x) s post failed := by
  cases x with
  | error e => exact herror e rfl
  | ok a => exact hok a rfl

theorem conseq {failed' : ε → σ → Prop} (h : Outcome m s post failed) (hpost : ∀ a s', post a s' → post' a s')
    (hfailed : ∀ e s', failed e s' → failed' e s') : Outcome m s post' failed' := by
  unfold Outcome
  exact h.elim hpost hfailed

theorem weaken (h : Outcome m s post failed) (hpost : ∀ a s', post a s' → post' a s') :
    Outcome m s post' failed := h.conseq hpost fun _ _ h => h

/-- The failures may be described otherwise. -/
theorem refail {failed' : ε → σ → Prop} (h : Outcome m s post failed) (hfailed : ∀ e s', failed e s' → failed' e s') :
    Outcome m s post failed' := h.conseq (fun _ _ h => h) hfailed

/-- A program that never fails. -/
theorem never (h : Outcome m s post fun _ _ => False) : Outcome m s post failed := h.refail fun _ _ h => h.elim

section Zoom
variable {part : σ → τ} {put : σ → τ → σ} {m : Prog δ τ α}

theorem zoom (h : Outcome m (part s) (fun a t => post a (put s t)) fun e t => failed (wrap e) (put s t)) :
    Outcome (Prog.zoom part put wrap m) s post failed := by
  unfold Outcome Prog.zoom
  exact h.elim (fun _ _ h => h) fun _ _ h => h

/-- A failure that leaves the part as it was leaves the whole state so. -/
theorem zoom_same {post : α → τ → Prop} (h : Outcome m (part s) post fun _ t => t = part s)
    (hput : put s (part s) = s) : Outcome (Prog.zoom part put wrap m) s (fun a s' => ∃ t, s' = put s t ∧ post a t)
      fun _ s' => s' = s :=
  zoom (h.conseq (fun _ t hpost => ⟨t, rfl, hpost⟩) fun _ _ hsame => hsame ▸ hput)

end Zoom

theorem handle {mid : ε → σ → Prop} {recover : ε → Prog ε σ α} (hm : Outcome m s post mid)
    (hrecover : ∀ e s', mid e s' → Outcome (recover e) s' post failed) :
    Outcome (Prog.handle m recover) s post failed := by
  unfold Outcome Prog.handle
  exact hm.elim (fun _ _ h => h) hrecover

/-- A program that may answer with an error of its own, which is an answer. -/
theorem attempt {m : ExceptT δ (Prog ε σ) α} {k : α → ExceptT δ (Prog ε σ) β}
    {mid : Except δ α → σ → Prop} {last : Except δ β → σ → Prop} (hm : Outcome m.run s mid failed)
    (herror : ∀ e s', mid (.error e) s' → last (.error e) s')
    (hok : ∀ a s', mid (.ok a) s' → Outcome (k a).run s' last failed) : Outcome (m >>= k).run s last failed := by
  refine bind (k := fun answer => ExceptT.bindCont k answer) hm ?_
  intro answer s' hmid
  cases answer with
  | error e => exact herror e s' hmid
  | ok a => exact hok a s' hmid

theorem result {left : Except ε α → σ → Prop} (h : Outcome m s (fun a => left (.ok a)) fun e => left (.error e)) :
    left (m s).1 (m s).2 :=
  h.elim (fun _ _ h => h) fun _ _ h => h

theorem state (h : Ends m s left) : left (m s).2 := @result _ _ _ _ _ (fun _ => left) h

theorem of_error (h : Outcome m s post failed) (hrun : m s = (.error e, s')) : failed e s' := by
  unfold Outcome at h
  rw [hrun] at h
  exact h

theorem of_ok (h : Outcome m s post failed) (hrun : m s = (.ok a, s')) : post a s' := by
  unfold Outcome at h
  rw [hrun] at h
  exact h

/-- A loop does what its rounds do, in turn, whether or not it fails. -/
theorem collect {reaches : σ → σ → Prop} (hrefl : ∀ s, reaches s s)
    (htrans : ∀ s s' s'', reaches s s' → reaches s' s'' → reaches s s'') {body : α → Prog ε σ β}
    (hbody : ∀ item s, Ends (body item) s (reaches s)) (items : List α) (s : σ) :
    Ends (Prog.collect body items) s (reaches s) := by
  induction items generalizing s with
  | nil => exact hrefl s
  | cons item rest ih =>
    apply bind (hbody item s)
    intro first s' hfirst
    have hrest := (ih s').conseq (fun _ s'' => htrans s s' s'' hfirst) (fun _ s'' => htrans s s' s'' hfirst)
    exact bind hrest fun others s'' hothers => hothers

/-- A loop whose rounds count up, or fail and change nothing, changes nothing exactly if its first round fails. -/
theorem collect_same_iff {count : σ → Nat} {body : α → Prog ε σ β}
    (hbody : ∀ item s, Outcome (body item) s (fun _ s' => count s < count s') fun _ s' => s' = s) (first : α)
    (rest : List α) (s : σ) : (Prog.collect body (first :: rest) s).2 = s ↔ ∃ e, (body first s).1 = .error e := by
  have hrest : ∀ s, Ends (Prog.collect body rest) s fun s' => count s ≤ count s' := by
    refine @collect _ _ _ _ (fun s s' => count s ≤ count s') (fun _ => le_rfl) (fun _ _ _ => le_trans) _ ?_ rest
    intro item s
    exact (hbody item s).conseq (fun _ _ => le_of_lt) fun _ _ hsame => hsame ▸ le_rfl
  cases hfirst : body first s with
  | mk answer s' =>
    cases answer with
    | error e =>
      have hrun : Prog.collect body (first :: rest) s = (.error e, s') := Prog.run_failed hfirst
      rw [hrun]
      exact iff_of_true ((hbody first s).of_error hfirst) ⟨e, rfl⟩
    | ok a =>
      have hrun : Prog.collect body (first :: rest) s =
        (Prog.collect body rest >>= fun others => pure (a :: others)) s' := Prog.run_bind hfirst
      have hgrown := (hbody first s).of_ok hfirst
      have hlater : Ends (Prog.collect body rest >>= fun others => (pure (a :: others) : Prog ε σ _)) s'
        fun t => count s' ≤ count t := bind (hrest s') fun _ _ h => h
      rw [hrun]
      refine iff_of_false (fun hsame => ?_) (by simp)
      exact absurd hgrown (hsame ▸ hlater.state).not_gt

theorem certain (h : Outcome m s (fun b t => b = a ∧ t = s') fun _ _ => False) : m s = (.ok a, s') := by
  refine h.elim ?_ fun _ _ => False.elim
  rintro _ _ ⟨rfl, rfl⟩
  rfl

end Outcome

/-- The last step only makes the answer. -/
theorem Ends.answer {f : α → β} (h : Ends m s left) : Ends (m >>= fun a => pure (f a)) s left :=
  .bind h fun _ _ h => h

/-- From a state with `pre` the program answers with `post`, or fails with `failed`. -/
def Triple (pre : σ → Prop) (m : Prog ε σ α) (post : α → σ → Prop) (failed : σ → Prop) : Prop :=
  ∀ s, pre s → match m s with
    | (.ok a, s') => post a s'
    | (.error _, s') => failed s'

section Rules
variable {pre pre' : σ → Prop} {failed failed' : σ → Prop}

theorem Triple.pure (h : ∀ s, pre s → post a s) : Triple pre (Pure.pure a : Prog ε σ α) post failed :=
  fun s hs => h s hs

theorem Triple.fail (h : ∀ s, pre s → failed s) : Triple pre (Prog.fail e : Prog ε σ α) post failed :=
  fun s hs => h s hs

theorem Triple.bind {m : Prog ε σ α} {k : α → Prog ε σ β} {last : β → σ → Prop}
    (hm : Triple pre m mid failed) (hk : ∀ a, Triple (mid a) (k a) last failed) :
    Triple pre (m >>= k) last failed := fun s hs => Outcome.bind (hm s hs) hk

theorem Triple.conseq (h : Triple pre m post failed) (hpre : ∀ s, pre' s → pre s)
    (hpost : ∀ a s, post a s → post' a s) (hfailed : ∀ s, failed s → failed' s) : Triple pre' m post' failed' :=
  fun s hs => Outcome.conseq (h s (hpre s hs)) hpost fun _ => hfailed

theorem Triple.refail (h : Triple pre m post failed) (hfailed : ∀ s, failed s → failed' s) :
    Triple pre m post failed' := h.conseq (fun _ hs => hs) (fun _ _ hs => hs) hfailed

/-- A fact about no state may be taken out of a precondition. -/
theorem Triple.given {p : Prop} (h : p → Triple pre m post failed) : Triple (fun s => p ∧ pre s) m post failed :=
  fun s hs => h hs.1 s hs.2

theorem Triple.sumOver {body : α → Prog ε σ Nat} (items : List α)
    (hbody : ∀ item ∈ items, Triple pre (body item) (fun _ => pre) failed) :
    Triple pre (Prog.sumOver body items) (fun _ => pre) failed := by
  induction items with
  | nil => exact .pure fun _ hs => hs
  | cons item rest ih =>
    refine .bind (hbody item List.mem_cons_self) fun first => ?_
    refine .bind (ih fun other hother => hbody other (List.mem_cons_of_mem _ hother)) fun others => ?_
    exact .pure fun _ hs => hs

theorem Triple.state (h : Triple pre m (fun _ => failed) failed) (hs : pre s) : failed (m s).2 := Outcome.state (h s hs)

end Rules

theorem lift_bind (herror : ∀ e, x = .error e → failed e s)
    (hok : ∀ a, x = .ok a → Outcome (k a) s last failed) : Outcome (Prog.lift x >>= k) s last failed := by
  have hlift : Outcome (Prog.lift x) s (fun a s' => x = .ok a ∧ s' = s) failed :=
    .lift herror fun a ha => ⟨ha, rfl⟩
  refine hlift.bind ?_
  rintro a _ ⟨ha, rfl⟩
  exact hok a ha

theorem pass_bind {a : α} (hx : x = .ok a) (hk : Outcome (k a) s last failed) :
    Outcome (Prog.lift x >>= k) s last failed := by
  subst hx
  exact hk

/-- A check in front of a program whose failures leave the state as it was. -/
theorem check_bind (hok : ∀ a, x = .ok a → Outcome (k a) s last fun _ s' => s' = s) :
    Outcome (Prog.lift x >>= k) s last fun _ s' => s' = s := lift_bind (fun _ _ => rfl) hok

theorem read_bind {k : σ → Prog ε σ β} (h : Outcome (k s) s last failed) : Outcome (Prog.read >>= k) s last failed := h

theorem update_bind {f : σ → σ} {k : Unit → Prog ε σ β} (h : Outcome (k ()) (f s) last failed) :
    Outcome (Prog.update f >>= k) s last failed := h

end Hoare
