import Mathlib

/-! Forests given by a parent for each node: the walk to the root, and when two forests agree on it. -/
namespace Forest
open List
variable {κ : Type*}

/-- Why a walk to the root stops early. -/
inductive Stray (κ : Type*) where
  | cycle
  | missing (node : κ)

/-- The walk from a node upwards, which refuses to meet a node twice. An absent node has no answer, a root `none`. -/
def climb [DecidableEq κ] (parent : κ → Option (Option κ)) : Nat → List κ → κ → Except (Stray κ) (List κ)
  | 0, _, _ => .error .cycle
  | rounds + 1, seen, node =>
    if node ∈ seen then .error .cycle
    else
      match parent node with
      | none => .error (.missing node)
      | some none => .ok [node]
      | some (some above) => (climb parent rounds (node :: seen) above).map (node :: ·)

/-- The path from a node to its root. -/
inductive Lineage (parent : κ → Option (Option κ)) : κ → List κ → Prop
  | root {node : κ} (h : parent node = some none) : Lineage parent node [node]
  | child {node above : κ} {path : List κ} (h : parent node = some (some above)) (hpath : Lineage parent above path) :
      Lineage parent node (node :: path)

/-- Ranks that fall by one from each node to its parent, which is present. -/
def Ranked (parent : κ → Option (Option κ)) (rank : κ → Nat) : Prop :=
  ∀ node above, parent node = some (some above) → (parent above).isSome ∧ rank node = rank above + 1

variable {parent parent' : κ → Option (Option κ)} {rank : κ → Nat} {node other : κ} {path path' : List κ}

section
variable (h : Lineage parent node path)
include h

theorem Lineage.self_mem : node ∈ path := by
  cases h with
  | root => exact mem_singleton_self _
  | child => exact mem_cons_self

theorem Lineage.present (hother : other ∈ path) : (parent other).isSome := by
  induction h with
  | root hroot =>
    rw [mem_singleton.mp hother, hroot]
    rfl
  | child hchild _ ih =>
    rcases mem_cons.mp hother with rfl | hrest
    · rw [hchild]
      rfl
    · exact ih hrest

theorem Lineage.unique (h' : Lineage parent node path') : path = path' := by
  induction h generalizing path' with
  | root hroot =>
    cases h' with
    | root => rfl
    | child hchild _ =>
      rw [hroot] at hchild
      cases hchild
  | child hchild _ ih =>
    cases h' with
    | root hroot =>
      rw [hchild] at hroot
      cases hroot
    | child hchild' hpath' =>
      rw [hchild] at hchild'
      obtain rfl := Option.some.inj (Option.some.inj hchild')
      rw [ih hpath']

theorem Lineage.rest (hother : other ∈ path) : ∃ rest, Lineage parent other rest ∧ rest.length ≤ path.length := by
  induction h with
  | root hroot =>
    obtain rfl := mem_singleton.mp hother
    exact ⟨_, .root hroot, Nat.le_refl _⟩
  | child hchild hpath ih =>
    rcases mem_cons.mp hother with rfl | hlater
    · exact ⟨_, .child hchild hpath, Nat.le_refl _⟩
    · obtain ⟨rest, hrest, hlength⟩ := ih hlater
      exact ⟨rest, hrest, Nat.le_succ_of_le hlength⟩

/-- A path meets no node twice: from its second place it would be shorter. -/
theorem Lineage.nodup : path.Nodup := by
  induction h with
  | root => exact nodup_singleton _
  | child hchild hpath ih =>
    refine nodup_cons.mpr ⟨?_, ih⟩
    intro hmem
    obtain ⟨rest, hrest, hlength⟩ := hpath.rest hmem
    rw [hrest.unique (.child hchild hpath), length_cons] at hlength
    omega

theorem Lineage.congr (hsame : ∀ k ∈ path, parent' k = parent k) : Lineage parent' node path := by
  induction h with
  | root hroot => exact .root ((hsame _ (mem_singleton_self _)).trans hroot)
  | child hchild _ ih =>
    rw [forall_mem_cons] at hsame
    exact .child (hsame.1.trans hchild) (ih hsame.2)

theorem Lineage.parent_of_mem (hother : other ∈ path) (hne : other ≠ node) :
    ∃ below, parent below = some (some other) := by
  induction h with
  | root => exact absurd (mem_singleton.mp hother) hne
  | @child node above path hchild hpath ih =>
    rcases mem_cons.mp hother with rfl | hrest
    · exact absurd rfl hne
    · by_cases habove : other = above
      · exact ⟨node, habove ▸ hchild⟩
      · exact ih hrest habove

theorem Lineage.root_mem : ∃ top ∈ path, parent top = some none := by
  induction h with
  | root hroot => exact ⟨_, mem_singleton_self _, hroot⟩
  | child _ _ ih =>
    obtain ⟨top, htop, hroot⟩ := ih
    exact ⟨top, mem_cons_of_mem _ htop, hroot⟩

end

theorem Ranked.exists_lineage (h : Ranked parent rank) (hnode : (parent node).isSome) : ∃ path, Lineage parent node path := by
  induction hrank : rank node generalizing node with
  | zero =>
    obtain ⟨above, habove⟩ := Option.isSome_iff_exists.mp hnode
    cases above with
    | none => exact ⟨_, .root habove⟩
    | some above =>
      have hlater := (h node above habove).2
      omega
  | succ n ih =>
    obtain ⟨above, habove⟩ := Option.isSome_iff_exists.mp hnode
    cases above with
    | none => exact ⟨_, .root habove⟩
    | some above =>
      obtain ⟨hpresent, hlater⟩ := h node above habove
      obtain ⟨path, hpath⟩ := ih hpresent (by omega)
      exact ⟨_, .child habove hpath⟩

theorem climb_eq [DecidableEq κ] (hpath : Lineage parent node path) (hrounds : path.length ≤ rounds)
    (hseen : ∀ k ∈ path, k ∉ seen) : climb parent rounds seen node = .ok path := by
  induction hpath generalizing rounds seen with
  | root hroot =>
    cases rounds with
    | zero => simp at hrounds
    | succ rounds => simp [climb, hroot, hseen _ (mem_singleton_self _)]
  | @child node above path hchild hrest ih =>
    cases rounds with
    | zero => simp at hrounds
    | succ rounds =>
      have hnodup := (Lineage.child hchild hrest).nodup
      rw [nodup_cons] at hnodup
      rw [forall_mem_cons] at hseen
      have hapart : ∀ k ∈ path, k ∉ node :: seen := by
        intro k hk
        rw [mem_cons, not_or]
        refine ⟨?_, hseen.2 k hk⟩
        rintro rfl
        exact hnodup.1 hk
      have hrec := ih (Nat.le_of_succ_le_succ hrounds) hapart
      simp only [climb, hseen.1, if_false, hchild, hrec]
      rfl

theorem climb_ok [DecidableEq κ] (h : climb parent rounds seen node = .ok path) : Lineage parent node path := by
  induction rounds generalizing seen node path with
  | zero => cases h
  | succ rounds ih =>
    rw [climb] at h
    split at h
    · cases h
    split at h
    · cases h
    next hroot =>
      cases h
      exact .root hroot
    next above hchild =>
      cases hrest : climb parent rounds (node :: seen) above with
      | error e =>
        rw [hrest] at h
        cases h
      | ok rest =>
        rw [hrest] at h
        cases h
        exact .child hchild (ih hrest)

end Forest
