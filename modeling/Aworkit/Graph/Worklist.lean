import Aworkit.Collections.OrderedMap

/-! Worklist search over the links of a finite table: it stops at the first key it is told to, and otherwise has seen
what its roots reach. -/
namespace Worklist
open List
variable {κ ν : Type} [Ord κ] [Std.TransOrd κ] [Std.LawfulEqOrd κ]

/-- One key leads to another through a stored entry. -/
def Link (table : Std.ExtTreeMap κ ν) (links : ν → List κ) (k k' : κ) : Prop :=
  ∃ v : ν, table[k]? = some v ∧ k' ∈ links v

/-- What a key reaches, itself included. -/
def Reaches (table : Std.ExtTreeMap κ ν) (links : ν → List κ) : κ → κ → Prop := Relation.ReflTransGen (Link table links)

/-- The stored keys that have not been seen. -/
def unseen (table : Std.ExtTreeMap κ ν) (seen : Std.ExtTreeSet κ) : List κ :=
  table.keys.filter fun k => !seen.contains k

omit [Std.LawfulEqOrd κ] in
theorem unseen_insert (table : Std.ExtTreeMap κ ν) (seen : Std.ExtTreeSet κ) (k : κ) :
    (unseen table (seen.insert k)).Sublist (unseen table seen) := by
  apply monotone_filter_right
  intro other hother
  rw [Std.ExtTreeSet.contains_insert, Bool.not_or, Bool.and_eq_true] at hother
  exact hother.2

theorem unseen_insert_lt {seen : Std.ExtTreeSet κ} (hstored : table[k]? = some v) (hnew : ¬seen.contains k = true) :
    (unseen table (seen.insert k)).length < (unseen table seen).length := by
  have hsub := unseen_insert table seen k
  apply lt_of_le_of_ne hsub.length_le
  intro hlength
  have hmem : k ∈ unseen table seen := by
    apply mem_filter.mpr
    refine ⟨Std.ExtTreeMap.mem_keys.mpr ?_, by rwa [Bool.not_eq_true', ← Bool.not_eq_true]⟩
    exact Std.ExtTreeMap.mem_iff_isSome_getElem?.mpr (by simp [hstored])
  rw [← hsub.eq_of_length hlength] at hmem
  have hseen := (mem_filter.mp hmem).2
  simp at hseen

/-- Pops a key, stops at it if told to, and otherwise pushes the links of a key seen for the first time. -/
def explore {κ ν : Type} [Ord κ] [Std.TransOrd κ] [Std.LawfulEqOrd κ] (table : Std.ExtTreeMap κ ν)
    (links : ν → List κ) (push : List κ → List κ → List κ) (stop : κ → Bool)
    (seen : Std.ExtTreeSet κ) (pending : List κ) : Except κ (Std.ExtTreeSet κ) :=
  match pending with
  | [] => .ok seen
  | k :: rest =>
    if stop k then .error k
    else if _ : seen.contains k then explore table links push stop seen rest
    else
      match _ : table[k]? with
      | some v => explore table links push stop (seen.insert k) (push (links v) rest)
      | none => explore table links push stop (seen.insert k) rest
termination_by ((unseen table seen).length, pending.length)
decreasing_by
  · exact .right _ (by simp)
  · exact .left _ _ (unseen_insert_lt ‹_› ‹_›)
  · rcases (unseen_insert table seen k).length_le.lt_or_eq with hlt | heq
    · exact .left _ _ hlt
    · rw [heq]
      exact .right _ (by simp)

section Exact
variable {table : Std.ExtTreeMap κ ν} {links : ν → List κ} {push : List κ → List κ → List κ} {stop : κ → Bool}
  {seen found : Std.ExtTreeSet κ} {pending : List κ}

/-- The search stops at a key that one of the pending keys reaches. -/
theorem explore_error (hpush : ∀ first rest k, k ∈ push first rest → k ∈ first ∨ k ∈ rest)
    (h : explore table links push stop seen pending = .error k) :
    stop k = true ∧ ∃ root ∈ pending, Reaches table links root k := by
  fun_induction explore table links push stop seen pending with
  | case1 => cases h
  | case2 seen k' rest hstop =>
    obtain rfl := Except.error.inj h
    exact ⟨hstop, k', mem_cons_self, .refl⟩
  | case3 seen k' rest _ _ ih | case5 seen k' rest _ _ _ ih =>
    obtain ⟨hstop, root, hroot, hreaches⟩ := ih h
    exact ⟨hstop, root, mem_cons_of_mem k' hroot, hreaches⟩
  | case4 seen k' rest _ _ v hstored ih =>
    obtain ⟨hstop, root, hroot, hreaches⟩ := ih h
    rcases hpush _ _ root hroot with hlink | hrest
    · exact ⟨hstop, k', mem_cons_self, .head ⟨v, hstored, hlink⟩ hreaches⟩
    · exact ⟨hstop, root, mem_cons_of_mem k' hrest, hreaches⟩

/-- Every link of a seen key is seen or pending. -/
def Closed (table : Std.ExtTreeMap κ ν) (links : ν → List κ) (seen : Std.ExtTreeSet κ) (pending : List κ) : Prop :=
  ∀ k ∈ seen, ∀ k', Link table links k k' → k' ∈ seen ∨ k' ∈ pending

omit [Std.LawfulEqOrd κ] in
theorem Closed.reaches (h : Closed table links seen pending) (hk : k ∈ seen)
    (hreaches : Reaches table links k k') : k' ∈ seen ∨ ∃ root ∈ pending, Reaches table links root k' := by
  induction hreaches using Relation.ReflTransGen.head_induction_on with
  | refl => exact .inl hk
  | head hlink hrest ih =>
    rcases h _ hk _ hlink with hseen | hpending
    · exact ih hseen
    · exact .inr ⟨_, hpending, hrest⟩

theorem mem_insert_iff : k' ∈ seen.insert k ↔ k' = k ∨ k' ∈ seen := by
  rw [Std.ExtTreeSet.mem_insert, Std.LawfulEqOrd.compare_eq_iff_eq, @eq_comm _ k]

theorem Closed.popped {rest next : List κ} (h : Closed table links seen (k :: rest))
    (hlinks : ∀ target, Link table links k target → target ∈ next) (hrest : ∀ target ∈ rest, target ∈ next) :
    Closed table links (seen.insert k) next := by
  intro other hother target hlink
  rw [mem_insert_iff]
  rcases mem_insert_iff.mp hother with rfl | hold
  · exact .inr (hlinks target hlink)
  · rcases h other hold target hlink with hseen | hpending
    · exact .inl (.inr hseen)
    · rcases mem_cons.mp hpending with rfl | hlater
      · exact .inl (.inl rfl)
      · exact .inr (hrest target hlater)

/-- What is still to be seen after the pop is what was to be seen before it. -/
theorem Closed.popped_iff {rest next : List κ} (h : Closed table links (seen.insert k) next)
    (hback : ∀ root ∈ next, Link table links k root ∨ root ∈ rest) (hrest : ∀ root ∈ rest, root ∈ next) (k' : κ) :
    (k' ∈ seen.insert k ∨ ∃ root ∈ next, Reaches table links root k') ↔
      k' ∈ seen ∨ ∃ root ∈ k :: rest, Reaches table links root k' := by
  constructor
  · rintro (hseen | ⟨root, hroot, hreaches⟩)
    · rcases mem_insert_iff.mp hseen with rfl | hold
      · exact .inr ⟨k', mem_cons_self, .refl⟩
      · exact .inl hold
    · rcases hback root hroot with hlink | hlater
      · exact .inr ⟨k, mem_cons_self, .head hlink hreaches⟩
      · exact .inr ⟨root, mem_cons_of_mem k hlater, hreaches⟩
  · rintro (hold | ⟨root, hroot, hreaches⟩)
    · exact .inl (mem_insert_iff.mpr (.inr hold))
    · rcases mem_cons.mp hroot with rfl | hlater
      · exact h.reaches (mem_insert_iff.mpr (.inl rfl)) hreaches
      · exact .inr ⟨root, hrest root hlater, hreaches⟩

/-- A search that does not stop has seen what it knew and what is reached from it. -/
theorem explore_ok (hpush : ∀ first rest k, k ∈ push first rest ↔ k ∈ first ∨ k ∈ rest)
    (h : explore table links push stop seen pending = .ok found) (hclosed : Closed table links seen pending) (k : κ) :
    k ∈ found ↔ k ∈ seen ∨ ∃ root ∈ pending, Reaches table links root k := by
  fun_induction explore table links push stop seen pending with
  | case1 seen =>
    cases h
    simp
  | case2 => cases h
  | case3 seen k' rest _ hseen ih =>
    have hmem : k' ∈ seen := Std.ExtTreeSet.contains_iff_mem.mp hseen
    have hrest : Closed table links seen rest := by
      intro other hother target hlink
      rcases hclosed other hother target hlink with hold | hpending
      · exact .inl hold
      · rcases mem_cons.mp hpending with rfl | hlater
        · exact .inl hmem
        · exact .inr hlater
    rw [ih h hrest]
    constructor
    · rintro (hold | ⟨root, hroot, hreaches⟩)
      · exact .inl hold
      · exact .inr ⟨root, mem_cons_of_mem k' hroot, hreaches⟩
    · rintro (hold | ⟨root, hroot, hreaches⟩)
      · exact .inl hold
      · rcases mem_cons.mp hroot with rfl | hlater
        · exact hrest.reaches hmem hreaches
        · exact .inr ⟨root, hlater, hreaches⟩
  | case4 seen k' rest _ _ v hstored ih =>
    have hnext : Closed table links (seen.insert k') (push (links v) rest) := by
      apply hclosed.popped
      · rintro target ⟨entry, hentry, htarget⟩
        obtain rfl := Option.some.inj (hstored.symm.trans hentry)
        exact (hpush _ _ target).mpr (.inl htarget)
      · intro target htarget
        exact (hpush _ _ target).mpr (.inr htarget)
    rw [ih h hnext]
    apply hnext.popped_iff
    · intro root hroot
      exact ((hpush _ _ root).mp hroot).imp_left fun hlink => ⟨v, hstored, hlink⟩
    · intro root hroot
      exact (hpush _ _ root).mpr (.inr hroot)
  | case5 seen k' rest _ _ hstored ih =>
    have hnext : Closed table links (seen.insert k') rest := by
      apply hclosed.popped
      · rintro target ⟨entry, hentry, _⟩
        cases hstored.symm.trans hentry
      · exact fun _ htarget => htarget
    rw [ih h hnext]
    exact hnext.popped_iff (fun _ hroot => .inr hroot) (fun _ hroot => hroot) k

theorem explore_passed (h : explore table links push stop seen pending = .ok found)
    (hseen : ∀ k ∈ seen, stop k = false) : ∀ k ∈ found, stop k = false := by
  fun_induction explore table links push stop seen pending with
  | case1 seen =>
    cases h
    exact hseen
  | case2 => cases h
  | case3 seen k' rest _ _ ih => exact ih h hseen
  | case4 seen k' rest hstop _ v _ ih | case5 seen k' rest hstop _ _ ih =>
    apply ih h
    intro other hother
    rcases mem_insert_iff.mp hother with rfl | hold
    · exact Bool.eq_false_iff.mpr hstop
    · exact hseen other hold

/-- From nothing seen, the search stops exactly when its roots reach such a key. -/
theorem explore_stops_iff (hpush : ∀ first rest k, k ∈ push first rest ↔ k ∈ first ∨ k ∈ rest) :
    (∃ k, explore table links push stop ∅ pending = .error k) ↔
      ∃ k, stop k = true ∧ ∃ root ∈ pending, Reaches table links root k := by
  constructor
  · rintro ⟨k, hk⟩
    exact ⟨k, explore_error (fun first rest other => (hpush first rest other).mp) hk⟩
  · rintro ⟨k, hstop, hreached⟩
    cases hresult : explore table links push stop ∅ pending with
    | error stopped => exact ⟨stopped, rfl⟩
    | ok found =>
      have hfound := (explore_ok hpush hresult (by simp [Closed]) k).mpr (.inr hreached)
      rw [explore_passed hresult (by simp) k hfound] at hstop
      cases hstop

end Exact

end Worklist
