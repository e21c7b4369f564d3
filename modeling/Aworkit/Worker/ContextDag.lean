import Aworkit.Worker.Context

/-! The revisions as a graph of parent links: what each operation may do to it, what every run keeps, and when pruning
leaves a headless leaf. -/
namespace Aworkit.Worker
open Protocol Fallible Hoare OrderedMap Std ContextStore ContextRevision List Option ExtTreeSet

namespace ContextStore

variable {m : ContextProg α} {revision : ContextRevision} {k : ContextStore → ContextProg α} {id : Nat} {α β : Type}

def Stored (s : ContextStore) (id : Nat) : Prop := ∃ revision : ContextRevision, s.revisions[id]? = some revision

/-- What a revision reaches by parent links, itself included. -/
def Reaches (s : ContextStore) : Nat → Nat → Prop := Worklist.Reaches s.revisions parents

section Growth
variable {s s' : ContextStore} {enc : ContextEncoding}

/-- The store after a new revision was appended behind stored parents. -/
structure Appended (s : ContextStore) (parents : List Nat) (revision : ContextRevision) (s' : ContextStore) : Prop where
  named : revision.id = s.nextId
  links : revision.parents = parents
  nonempty : parents ≠ []
  room : s.revisions.size < s.maxRevisions
  next : s.nextId < u64Max
  known : ∀ parent ∈ parents, s.Stored parent
  result : s' = { s with nextId := s.nextId + 1 }.append revision

theorem get_eq_ok : s.get id = .ok revision ↔ s.revisions[id]? = some revision :=
  require_eq_ok _ _ _

private theorem checkParents_ok {parents : List Nat} {unique : ExtTreeSet Nat} (h : s.checkParents parents = .ok unique) :
    ∀ parent ∈ parents, s.Stored parent := by
  have hall := foldlM_keeps _ (fun done _ => ∀ parent ∈ done, s.Stored parent) ?_ parents [] ∅ unique (by simp) h
  · simpa using hall
  · intro done state parent next hdone hstep
    simp only [bind_ok_iff, get_eq_ok] at hstep
    obtain ⟨revision, hrevision, _⟩ := hstep
    intro other hother
    rcases mem_append.mp hother with hold | hnew
    · exact hdone other hold
    · rw [mem_singleton.mp hnew]
      exact ⟨revision, hrevision⟩

/-- An append stores its revision, or fails and changes nothing: behind the new counter the first parent is found. -/
theorem append_outcome (parents : List Nat) (value : Value) (provenance : ContextProvenance)
    (lineageSuffix : Option String) (s : ContextStore) :
    Outcome (appendWithProvenance enc parents value provenance lineageSuffix) s
      (fun id s' => id = s.nextId ∧ enc.encodedSize value ≤ s.maxInlineBytes ∧
        ∃ revision : ContextRevision, revision.value = value ∧ Appended s parents revision s')
      (fun _ s' => s' = s) := by
  apply read_bind
  apply check_bind
  intro _ hempty
  apply check_bind
  intro _ hroom
  apply check_bind
  intro _ hfits
  apply check_bind
  intro unique hunique
  apply check_bind
  intro next hnext
  have hstored := checkParents_ok hunique
  have hne : parents ≠ [] := by simpa using hempty
  simp only [refuseIf_eq_ok, unmet, Nat.not_le, Nat.not_lt] at hroom hfits
  rw [require_eq_ok, checkedSucc] at hnext
  split at hnext
  · next hlt =>
    cases hnext
    apply update_bind
    obtain ⟨first, hfirst⟩ : s.Stored (parents.headD 0) := by
      apply hstored
      cases parents with
      | nil => exact absurd rfl hne
      | cons first rest => exact mem_cons_self
    apply lift_bind
    · intro e herror
      rw [get_eq_ok.mpr hfirst] at herror
      cases herror
    · intro _ _
      apply update_bind
      exact ⟨rfl, hfits, _, rfl, rfl, rfl, hne, hroom, hlt, hstored, rfl⟩
  · cases hnext

/-- Everything an operation but pruning does to the store, one change at a time. -/
inductive Grows (s : ContextStore) : ContextStore → Prop where
  | appended (parents : List Nat) (revision : ContextRevision) (s' : ContextStore)
      (happended : Appended s parents revision s') : Grows s s'
  | attached (parent root : Nat) (childId : String) (hparent : s.Stored parent) (hroot : s.Stored root) :
      Grows s { s with
        heads := s.heads.insert parent
        children := s.children.insert childId ⟨root, false⟩ }
  | marked (childId : String) :
      Grows s { s with children := s.children.modify childId fun record => { record with integrated := true } }

def Grown : ContextStore → ContextStore → Prop := Relation.ReflTransGen Grows

/-- Whether it answers or fails, the program grows the store. -/
def Growing {α : Type} (m : ContextProg α) : Prop := ∀ s, Outcome m s (fun _ => Grown s) (fun _ => Grown s)

/-- A program that grows the store, or fails and changes nothing. -/
def Atomic {α : Type} (m : ContextProg α) : Prop := ∀ s, Outcome m s (fun _ => Grown s) fun _ s' => s' = s

theorem Atomic.growing (h : Atomic m) : Growing m :=
  fun s => (h s).refail fun _ _ hsame => hsame ▸ .refl

theorem Atomic.after_read (h : ∀ s, Atomic (k s)) : Atomic (Prog.read >>= k) := fun s => read_bind (h s s)

theorem Atomic.after_check {x : Except ContextError α} {k : α → ContextProg β} (h : ∀ a, Atomic (k a)) :
    Atomic (Prog.lift x >>= k) := fun s => check_bind fun a _ => h a s

theorem append_atomic (parents : List Nat) (value : Value) (provenance : ContextProvenance)
    (lineageSuffix : Option String) : Atomic (appendWithProvenance enc parents value provenance lineageSuffix) := by
  intro s
  apply (append_outcome parents value provenance lineageSuffix s).conseq
  · rintro id s' ⟨_, _, revision, _, happended⟩
    exact .single (.appended parents revision s' happended)
  · exact fun _ _ hsame => hsame

theorem Growing.after_read (h : ∀ s, Growing (k s)) : Growing (Prog.read >>= k) := fun s => read_bind (h s s)

theorem Growing.after_check {x : Except ContextError α} {k : α → ContextProg β} (h : ∀ a, Growing (k a)) :
    Growing (Prog.lift x >>= k) := fun s => lift_bind (fun _ _ => .refl) fun a _ => h a s

theorem Growing.collect {body : α → ContextProg β} (h : ∀ item, Growing (body item)) (items : List α) :
    Growing (Prog.collect body items) := by
  intro s
  exact .collect (fun _ => .refl) (fun _ _ _ => .trans) h items s

theorem patchObject_atomic (parent : Nat) (operationId : String) (patch : List (String × Value)) :
    Atomic (patchObject enc parent operationId patch) := by
  apply Atomic.after_read
  intro s
  apply Atomic.after_check
  intro revision
  apply Atomic.after_check
  intro object
  exact append_atomic _ _ _ _

theorem fork_growing (parent copies : Nat) : Growing (fork enc parent copies) := by
  apply Growing.after_check
  intro _
  apply Growing.after_read
  intro s
  apply Growing.after_check
  intro revision
  apply Growing.collect
  intro index
  exact (append_atomic _ _ _ _).growing

theorem project_atomic (parent : Nat) (keys : List String) : Atomic (project enc parent keys) := by
  apply Atomic.after_read
  intro s
  apply Atomic.after_check
  intro revision
  apply Atomic.after_check
  intro value
  exact append_atomic _ _ _ _

theorem forEachWindow_growing (parent start limit : Nat) : Growing (forEachWindow enc parent start limit) := by
  apply Growing.after_read
  intro s
  apply Growing.after_check
  intro revision
  apply Growing.after_check
  intro items
  apply Growing.collect
  intro entry
  exact (append_atomic _ _ _ _).growing

theorem forEach_growing (parent : Nat) : Growing (forEach enc parent) := by
  apply Growing.after_read
  intro s
  apply Growing.after_check
  intro revision
  apply Growing.after_check
  intro items
  exact forEachWindow_growing parent 0 items.length

theorem joinValues_atomic (orderedHeads : List Nat) (strategy : JoinStrategy) (provenance : ContextProvenance) :
    Atomic (joinValues enc orderedHeads strategy provenance) := by
  apply Atomic.after_read
  intro s
  apply Atomic.after_check
  intro revisions
  apply Atomic.after_check
  intro value
  exact append_atomic _ _ _ _

theorem join_atomic (heads : List Nat) (strategy : JoinStrategy) : Atomic (join enc heads strategy) := by
  apply Atomic.after_check
  intro _
  exact joinValues_atomic _ _ _

theorem joinDeclared_atomic (contract : JoinContract) : Atomic (joinDeclared enc contract) := by
  apply Atomic.after_read
  intro s
  apply Atomic.after_check
  intro _
  exact joinValues_atomic _ _ _

theorem spawnChild_outcome (spec : ChildContextSpec) (s : ContextStore) :
    Outcome (spawnChild enc spec) s
      (fun root s' => root = s.nextId ∧ s.children[spec.childId]? = none ∧
        ∃ parent revision selected appended,
          s.revisions[spec.parentRevision]? = some parent ∧ selectedContext spec parent.value = .ok selected ∧
          revision.value = .object selected ∧ Appended s [spec.parentRevision] revision appended ∧
          s' = { appended with
            heads := appended.heads.insert spec.parentRevision
            children := appended.children.insert spec.childId ⟨root, false⟩ })
      (fun _ s' => s' = s) := by
  apply read_bind
  apply check_bind
  intro _ habsent
  apply check_bind
  intro parent hparent
  apply check_bind
  intro selected hselected
  apply Outcome.bind (append_outcome _ _ _ _ s)
  rintro root appended ⟨hroot, _, revision, hvalue, happended⟩
  apply update_bind
  rw [refuseIf_eq_ok, ExtTreeMap.contains_eq_isSome_getElem?, isSome_eq_false_iff,
    isNone_iff_eq_none] at habsent
  exact ⟨hroot, habsent, parent, revision, selected, appended, get_eq_ok.mp hparent, hselected, hvalue, happended, rfl⟩

theorem integrateChild_outcome (childId : String) (childHead parentHead : Nat) (result : Value)
    (integration : ChildIntegration) (s : ContextStore) :
    Outcome (integrateChild enc childId childHead parentHead result integration) s
      (fun _ s' => ∃ revision appended, Appended s [parentHead, childHead] revision appended ∧ s' = { appended with
        children := appended.children.modify childId fun record => { record with integrated := true } })
      (fun _ s' => s' = s) := by
  apply read_bind
  apply check_bind
  intro child _
  apply check_bind
  intro _ _
  apply check_bind
  intro parent _
  apply check_bind
  intro members _
  apply check_bind
  intro value _
  apply Outcome.bind (append_outcome _ _ _ _ s)
  rintro id appended ⟨_, _, revision, _, happended⟩
  exact ⟨revision, appended, happended, rfl⟩

theorem Appended.stored_new {parents : List Nat} (h : Appended s parents revision s') : s'.Stored s.nextId := by
  rw [h.result]
  exact ⟨revision, by rw [← h.named]; exact ExtTreeMap.getElem?_insert_self⟩

theorem spawnChild_atomic (spec : ChildContextSpec) : Atomic (spawnChild enc spec) := by
  intro s
  apply (spawnChild_outcome spec s).conseq
  · rintro root s' ⟨rfl, _, parent, revision, selected, appended, hparent, _, _, happended, rfl⟩
    have hparent : appended.Stored spec.parentRevision := by
      by_cases hsame : s.nextId = spec.parentRevision
      · exact hsame ▸ happended.stored_new
      · refine ⟨parent, ?_⟩
        rw [happended.result]
        exact (insert_ne _ _ (happended.named ▸ hsame)).trans hparent
    exact .tail (.single (.appended _ revision appended happended)) (.attached _ _ _ hparent happended.stored_new)
  · exact fun _ _ hsame => hsame

theorem integrateChild_atomic (childId : String) (childHead parentHead : Nat) (result : Value)
    (integration : ChildIntegration) : Atomic (integrateChild enc childId childHead parentHead result integration) := by
  intro s
  apply (integrateChild_outcome childId childHead parentHead result integration s).conseq
  · rintro id s' ⟨revision, appended, happended, rfl⟩
    exact .tail (.single (.appended _ revision appended happended)) (.marked childId)
  · exact fun _ _ hsame => hsame

end Growth

section Invariant
variable {s s' s'' : ContextStore}

/-- The links lead between stored revisions to smaller ids. -/
structure Dag (s : ContextStore) : Prop where
  parents : ∀ (id : Nat) (revision : ContextRevision), s.revisions[id]? = some revision →
    ∀ parent ∈ revision.parents, s.Stored parent ∧ parent < id
  heads : ∀ id ∈ s.heads, s.Stored id
  children : ∀ (childId : String) (child : ChildRecord), s.children[childId]? = some child → s.Stored child.rootRevision
  below : ∀ id, s.Stored id → id < s.nextId
  bounded : s.revisions.size ≤ s.maxRevisions

/-- Every revision without a stored child is a head. -/
def LeavesAreHeads (s : ContextStore) : Prop :=
  ∀ id, s.Stored id → (∀ (child : Nat) (revision : ContextRevision), s.revisions[child]? = some revision →
    id ∉ revision.parents) → id ∈ s.heads

/-- What is below the old counter was stored before, with the same content. -/
structure Kept (s s' : ContextStore) : Prop where
  limit : s'.maxRevisions = s.maxRevisions
  next : s.nextId ≤ s'.nextId
  same : ∀ (id : Nat) (revision : ContextRevision), id < s.nextId → s'.revisions[id]? = some revision →
    s.revisions[id]? = some revision

theorem Kept.refl (s : ContextStore) : Kept s s := ⟨rfl, le_rfl, fun _ _ _ h => h⟩

theorem Kept.trans (h : Kept s s') (h' : Kept s' s'') : Kept s s'' where
  limit := h'.limit.trans h.limit
  next := h.next.trans h'.next
  same id revision hid hfound := h.same id revision hid (h'.same id revision (hid.trans_le h.next) hfound)

private theorem mem_erase_all (parents : List Nat) (heads : ExtTreeSet Nat) (id : Nat) :
    id ∈ parents.foldl (fun heads parent => heads.erase parent) heads ↔ id ∈ heads ∧ id ∉ parents := by
  induction parents generalizing heads with
  | nil => simp
  | cons parent rest ih =>
    rw [foldl_cons, ih, mem_erase, mem_cons, ne_eq, LawfulEqOrd.compare_eq_iff_eq,
      @eq_comm _ parent]
    tauto

section Appended
variable {parents : List Nat} (h : Appended s parents revision s')
include h

theorem Appended.lookup (hdag : Dag s) :
    s'.revisions[id]? = some found ↔ s.revisions[id]? = some found ∨ (id = s.nextId ∧ found = revision) := by
  have hfresh : s.revisions[s.nextId]? = none := by
    rw [eq_none_iff_forall_ne_some]
    intro other hother
    exact absurd (hdag.below _ ⟨other, hother⟩) (lt_irrefl _)
  rw [h.result]
  show (s.revisions.insert revision.id revision)[id]? = some found ↔ _
  rw [h.named]
  by_cases hid : s.nextId = id
  · subst hid
    simp [hfresh, eq_comm]
  · simp [insert_ne _ _ hid, Ne.symm hid]

theorem Appended.stored (hdag : Dag s) (id : Nat) : s'.Stored id ↔ s.Stored id ∨ id = s.nextId := by
  simp only [Stored, h.lookup hdag, exists_or]
  simp

theorem Appended.mem_heads (id : Nat) : id ∈ s'.heads ↔ id = s.nextId ∨ (id ∈ s.heads ∧ id ∉ parents) := by
  rw [h.result]
  show id ∈ (revision.parents.foldl (fun heads parent => heads.erase parent) s.heads).insert revision.id ↔ _
  rw [mem_insert, LawfulEqOrd.compare_eq_iff_eq, mem_erase_all, h.named, h.links, @eq_comm _ id]

theorem Appended.nextId : s'.nextId = s.nextId + 1 := by
  rw [h.result]
  rfl

theorem Appended.dag (hdag : Dag s) : Dag s' where
  parents := by
    intro id found hfound parent hparent
    rcases (h.lookup hdag).mp hfound with hold | ⟨rfl, rfl⟩
    · obtain ⟨hstored, hlt⟩ := hdag.parents id found hold parent hparent
      exact ⟨(h.stored hdag parent).mpr (.inl hstored), hlt⟩
    · have hstored := h.known parent (h.links ▸ hparent)
      exact ⟨(h.stored hdag parent).mpr (.inl hstored), hdag.below parent hstored⟩
  heads := by
    intro id hid
    rcases (h.mem_heads id).mp hid with rfl | ⟨hold, _⟩
    · exact (h.stored hdag _).mpr (.inr rfl)
    · exact (h.stored hdag id).mpr (.inl (hdag.heads id hold))
  children := by
    intro childId child hchild
    rw [h.result] at hchild
    exact (h.stored hdag _).mpr (.inl (hdag.children childId child hchild))
  below := by
    intro id hid
    rw [h.nextId]
    rcases (h.stored hdag id).mp hid with hold | rfl
    · exact Nat.lt_succ_of_lt (hdag.below id hold)
    · exact Nat.lt_succ_self _
  bounded := by
    rw [h.result]
    exact ExtTreeMap.size_insert_le.trans h.room

theorem Appended.leaves (hdag : Dag s) (hleaves : LeavesAreHeads s) : LeavesAreHeads s' := by
  intro id hid hleaf
  rw [h.mem_heads]
  rcases (h.stored hdag id).mp hid with hold | rfl
  · refine .inr ⟨hleaves id hold ?_, ?_⟩
    · intro child found hfound
      exact hleaf child found ((h.lookup hdag).mpr (.inl hfound))
    · exact h.links ▸ hleaf s.nextId revision ((h.lookup hdag).mpr (.inr ⟨rfl, rfl⟩))
  · exact .inl rfl

theorem Appended.kept (hdag : Dag s) : Kept s s' where
  limit := by
    rw [h.result]
    rfl
  next := by
    rw [h.nextId]
    exact Nat.le_succ _
  same := by
    intro id found hid hfound
    rcases (h.lookup hdag).mp hfound with hold | ⟨rfl, _⟩
    · exact hold
    · exact absurd hid (lt_irrefl _)

end Appended

theorem Grows.keeps (h : Grows s s') (hdag : Dag s) : Dag s' ∧ Kept s s' ∧ (LeavesAreHeads s → LeavesAreHeads s') := by
  cases h with
  | appended parents revision _ happended =>
    exact ⟨happended.dag hdag, happended.kept hdag, happended.leaves hdag⟩
  | attached parent root childId hparent hroot =>
    refine ⟨⟨hdag.parents, ?_, ?_, hdag.below, hdag.bounded⟩, ⟨rfl, le_rfl, fun _ _ _ h => h⟩, ?_⟩
    · intro id hid
      rcases mem_insert.mp hid with hsame | hold
      · exact LawfulEqOrd.compare_eq_iff_eq.mp hsame ▸ hparent
      · exact hdag.heads id hold
    · exact all_insert hdag.children hroot
    · intro hleaves id hid hleaf
      exact mem_insert.mpr (.inr (hleaves id hid hleaf))
  | marked childId =>
    refine ⟨⟨hdag.parents, hdag.heads, ?_, hdag.below, hdag.bounded⟩, ⟨rfl, le_rfl, fun _ _ _ h => h⟩, fun hleaves => hleaves⟩
    intro id child hchild
    rw [ExtTreeMap.getElem?_modify] at hchild
    split at hchild
    · obtain ⟨record, hrecord, rfl⟩ := map_eq_some_iff.mp hchild
      exact hdag.children childId record hrecord
    · exact hdag.children id child hchild

theorem Grown.keeps (h : Grown s s') (hdag : Dag s) : Dag s' ∧ Kept s s' ∧ (LeavesAreHeads s → LeavesAreHeads s') := by
  induction h with
  | refl => exact ⟨hdag, .refl s, fun hleaves => hleaves⟩
  | tail _ hlast ih =>
    obtain ⟨hmid, hkept, hleaves⟩ := ih
    obtain ⟨hend, hkept', hleaves'⟩ := hlast.keeps hmid
    exact ⟨hend, hkept.trans hkept', fun h => hleaves' (hleaves h)⟩

end Invariant

section Search
variable {s : ContextStore}

/-- The stack search decides reachability. -/
theorem isDescendantOf_iff (s : ContextStore) (candidate ancestor : Nat) :
    s.isDescendantOf candidate ancestor = true ↔ s.Reaches candidate ancestor := by
  have hpush : ∀ (first rest : List Nat) (id : Nat), id ∈ first.reverse ++ rest ↔ id ∈ first ∨ id ∈ rest := by simp
  have hstops := @Worklist.explore_stops_iff _ _ _ _ _ s.revisions parents _
    (fun id => id == ancestor) [candidate] hpush
  have hfound : s.isDescendantOf candidate ancestor = true ↔ ∃ id, Worklist.explore s.revisions
      parents (fun parents rest => parents.reverse ++ rest) (fun id => id == ancestor) ∅ [candidate] =
        .error id := by
    unfold isDescendantOf
    split
    · next id hid => simp [hid]
    · next found hok => simp [hok]
  rw [hfound, hstops]
  simp [Reaches]

section Reachable
variable {committed : List Nat} {kept : ExtTreeSet Nat} (h : s.reachable committed = .ok kept)
include h

theorem mem_reachable (id : Nat) : id ∈ kept ↔ ∃ root ∈ committed, s.Reaches root id := by
  have hall := Worklist.explore_ok (fun first rest id => by simp [or_comm]) h (by simp [Worklist.Closed]) id
  simpa [Reaches] using hall

theorem reachable_stored (hid : id ∈ kept) : s.Stored id := by
  have hpassed := Worklist.explore_passed h (by simp) id hid
  rw [Bool.not_eq_false', ExtTreeMap.contains_eq_isSome_getElem?] at hpassed
  exact isSome_iff_exists.mp hpassed

private theorem reachable_parent {parent : Nat} (hid : id ∈ kept)
    (hfound : s.revisions[id]? = some revision) (hparent : parent ∈ revision.parents) : parent ∈ kept := by
  obtain ⟨root, hroot, hreaches⟩ := (mem_reachable h id).mp hid
  exact (mem_reachable h parent).mpr ⟨root, hroot, hreaches.tail ⟨revision, hfound, hparent⟩⟩

end Reachable

/-- The search for what to keep succeeds, or ends at a committed id not stored. -/
theorem reachable_ok_iff (hdag : Dag s) (committed : List Nat) :
    (∃ kept, s.reachable committed = .ok kept) ↔ ∀ id ∈ committed, s.Stored id := by
  constructor
  · rintro ⟨kept, hkept⟩ id hid
    exact reachable_stored hkept ((mem_reachable hkept id).mpr ⟨id, hid, .refl⟩)
  · intro hstored
    cases hresult : s.reachable committed with
    | ok kept => exact ⟨kept, rfl⟩
    | error id =>
      obtain ⟨hstop, root, hroot, hreaches⟩ := Worklist.explore_error (by simp [or_comm]) hresult
      have hreached : s.Stored id := by
        cases hreaches with
        | refl => exact hstored id hroot
        | tail _ hlink =>
          obtain ⟨revision, hfound, hparent⟩ := hlink
          exact (hdag.parents _ revision hfound id hparent).1
      rw [Bool.not_eq_true', ExtTreeMap.contains_eq_isSome_getElem?] at hstop
      obtain ⟨revision, hrevision⟩ := hreached
      rw [hrevision] at hstop
      cases hstop

/-- Every committed revision is a head or a parent of what is kept. -/
def Covers (s : ContextStore) (committed : List Nat) : Prop :=
  ∀ id ∈ committed, id ∈ s.heads ∨ ∃ (root child : Nat) (revision : ContextRevision),
    root ∈ committed ∧ s.Reaches root child ∧ s.revisions[child]? = some revision ∧ id ∈ revision.parents

section Retain
variable {committed : List Nat} {kept : ExtTreeSet Nat}

theorem retain_lookup :
    (s.retain kept).revisions[id]? = some revision ↔ s.revisions[id]? = some revision ∧ id ∈ kept := by
  rw [retain, ExtTreeMap.getElem?_filter', filter_eq_some_iff, ExtTreeSet.contains_iff_mem]

theorem retain_stored : (s.retain kept).Stored id ↔ s.Stored id ∧ id ∈ kept := by
  simp [Stored, retain_lookup]

theorem mem_retain_heads : id ∈ (s.retain kept).heads ↔ id ∈ s.heads ∧ id ∈ kept := by
  rw [retain, mem_filter_set, ExtTreeSet.contains_iff_mem]

theorem retain_dag (h : s.reachable committed = .ok kept) (hdag : Dag s) : Dag (s.retain kept) where
  parents := by
    intro id revision hfound parent hparent
    obtain ⟨hold, hid⟩ := retain_lookup.mp hfound
    obtain ⟨hstored, hlt⟩ := hdag.parents id revision hold parent hparent
    exact ⟨retain_stored.mpr ⟨hstored, reachable_parent h hid hold hparent⟩, hlt⟩
  heads := by
    intro id hid
    obtain ⟨hold, hkept⟩ := mem_retain_heads.mp hid
    exact retain_stored.mpr ⟨hdag.heads id hold, hkept⟩
  children := by
    intro childId child hchild
    rw [retain, ExtTreeMap.getElem?_filter', filter_eq_some_iff, ExtTreeSet.contains_iff_mem] at hchild
    exact retain_stored.mpr ⟨hdag.children childId child hchild.1, hchild.2⟩
  below := by
    intro id hid
    exact hdag.below id (retain_stored.mp hid).1
  bounded := ExtTreeMap.size_filter_le_size.trans hdag.bounded

theorem retain_kept (s : ContextStore) (kept : ExtTreeSet Nat) : Kept s (s.retain kept) where
  limit := rfl
  next := le_rfl
  same _ _ _ hfound := (retain_lookup.mp hfound).1

/-- Pruning leaves every leaf a head exactly when it covers the committed revisions. -/
theorem retain_leaves_iff (h : s.reachable committed = .ok kept) :
    LeavesAreHeads (s.retain kept) ↔ Covers s committed := by
  constructor
  · intro hleaves id hid
    have hkept : id ∈ kept := (mem_reachable h id).mpr ⟨id, hid, .refl⟩
    by_cases hleaf : ∀ (child : Nat) revision, (s.retain kept).revisions[child]? = some revision →
        id ∉ revision.parents
    · exact .inl (mem_retain_heads.mp (hleaves id (retain_stored.mpr ⟨reachable_stored h hkept, hkept⟩) hleaf)).1
    · push Not at hleaf
      obtain ⟨child, revision, hfound, hparent⟩ := hleaf
      obtain ⟨hold, hchild⟩ := retain_lookup.mp hfound
      obtain ⟨root, hroot, hreaches⟩ := (mem_reachable h child).mp hchild
      exact .inr ⟨root, child, revision, hroot, hreaches, hold, hparent⟩
  · intro hcovers id hid hleaf
    obtain ⟨_, hkept⟩ := retain_stored.mp hid
    -- a kept child would contradict that the revision is a leaf
    have hnochild : ∀ (root child : Nat) revision, root ∈ committed → s.Reaches root child →
        s.revisions[child]? = some revision → id ∉ revision.parents := by
      intro root child revision hroot hreaches hfound
      exact hleaf child revision (retain_lookup.mpr ⟨hfound, (mem_reachable h child).mpr ⟨root, hroot, hreaches⟩⟩)
    obtain ⟨root, hroot, hreaches⟩ := (mem_reachable h id).mp hkept
    cases hreaches with
    | refl =>
      rcases hcovers id hroot with hhead | ⟨other, child, revision, hother, hreached, hfound, hparent⟩
      · exact mem_retain_heads.mpr ⟨hhead, hkept⟩
      · exact absurd hparent (hnochild other child revision hother hreached hfound)
    | tail hmid hlink =>
      obtain ⟨revision, hfound, hparent⟩ := hlink
      exact absurd hparent (hnochild root _ revision hroot hmid hfound)

end Retain

theorem pruneUnreachable_state (s : ContextStore) (committed : List Nat) :
    (pruneUnreachable committed s).2 = match s.reachable committed with
      | .ok kept => s.retain kept
      | .error _ => s := by
  show ((Prog.lift ((s.reachable committed).mapError .unknownRevision) >>= fun kept => do
    Prog.update fun s => s.retain kept
    pure (s.revisions.size - (s.retain kept).revisions.size) : ContextProg Nat) s).2 = _
  cases s.reachable committed with
  | ok kept => rfl
  | error id => rfl

end Search

section Runs
variable {s : ContextStore} {enc : ContextEncoding}

/-- The public operations of the store. -/
inductive Call where
  | append (parent : Nat) (value : Value)
  | appendWithProvenance (parents : List Nat) (value : Value) (provenance : ContextProvenance)
      (lineageSuffix : Option String)
  | patchObject (parent : Nat) (operationId : String) (patch : List (String × Value))
  | fork (parent copies : Nat)
  | project (parent : Nat) (keys : List String)
  | forEach (parent : Nat)
  | forEachWindow (parent start limit : Nat)
  | join (heads : List Nat) (strategy : JoinStrategy)
  | joinDeclared (contract : JoinContract)
  | spawnChild (spec : ChildContextSpec)
  | integrateChild (childId : String) (childHead parentHead : Nat) (result : Value) (integration : ChildIntegration)
  | pruneUnreachable (committed : List Nat)

/-- The store after a call, whether it answered or failed. -/
def perform (enc : ContextEncoding) (s : ContextStore) : Call → ContextStore
  | .append parent value => (appendReplacement enc parent value s).2
  | .appendWithProvenance parents value provenance lineageSuffix =>
    (appendWithProvenance enc parents value provenance lineageSuffix s).2
  | .patchObject parent operationId patch => (patchObject enc parent operationId patch s).2
  | .fork parent copies => (fork enc parent copies s).2
  | .project parent keys => (project enc parent keys s).2
  | .forEach parent => (forEach enc parent s).2
  | .forEachWindow parent start limit => (forEachWindow enc parent start limit s).2
  | .join heads strategy => (join enc heads strategy s).2
  | .joinDeclared contract => (joinDeclared enc contract s).2
  | .spawnChild spec => (spawnChild enc spec s).2
  | .integrateChild childId childHead parentHead result integration =>
    (integrateChild enc childId childHead parentHead result integration s).2
  | .pruneUnreachable committed => (pruneUnreachable committed s).2

def run (enc : ContextEncoding) (s : ContextStore) (calls : List Call) : ContextStore := calls.foldl (perform enc) s

theorem Growing.state (h : Growing m) (s : ContextStore) : Grown s (m s).2 := (h s).state

/-- A successful pruning covers what it keeps; other calls are free. -/
def CallCovers (s : ContextStore) : Call → Prop
  | .pruneUnreachable committed => (∀ id ∈ committed, s.Stored id) → Covers s committed
  | _ => True

/-- A call keeps the links and, exactly if it covers what it keeps, the heads. -/
theorem perform_keeps (hdag : Dag s) (call : Call) : Dag (s.perform enc call) ∧ Kept s (s.perform enc call) ∧
    (LeavesAreHeads s → (LeavesAreHeads (s.perform enc call) ↔ CallCovers s call)) := by
  have hgrown : ∀ {α : Type} {m : ContextProg α}, Growing m → Dag (m s).2 ∧ Kept s (m s).2 ∧
      (LeavesAreHeads s → (LeavesAreHeads (m s).2 ↔ True)) := by
    intro α m hm
    obtain ⟨hnext, hkept, hleaves⟩ := (hm.state s).keeps hdag
    exact ⟨hnext, hkept, fun h => iff_of_true (hleaves h) trivial⟩
  cases call with
  | append parent value | appendWithProvenance parents value provenance lineageSuffix =>
    exact hgrown (append_atomic _ _ _ _).growing
  | patchObject parent operationId patch => exact hgrown (patchObject_atomic parent operationId patch).growing
  | fork parent copies => exact hgrown (fork_growing parent copies)
  | project parent keys => exact hgrown (project_atomic parent keys).growing
  | forEach parent => exact hgrown (forEach_growing parent)
  | forEachWindow parent start limit => exact hgrown (forEachWindow_growing parent start limit)
  | join heads strategy => exact hgrown (join_atomic heads strategy).growing
  | joinDeclared contract => exact hgrown (joinDeclared_atomic contract).growing
  | spawnChild spec => exact hgrown (spawnChild_atomic spec).growing
  | integrateChild childId childHead parentHead result integration =>
    exact hgrown (integrateChild_atomic childId childHead parentHead result integration).growing
  | pruneUnreachable committed =>
    have hstored := reachable_ok_iff hdag committed
    simp only [perform, pruneUnreachable_state, CallCovers]
    cases hkept : s.reachable committed with
    | ok kept =>
      refine ⟨retain_dag hkept hdag, retain_kept s kept, fun _ => ?_⟩
      rw [retain_leaves_iff hkept, imp_iff_right (hstored.mp ⟨kept, hkept⟩)]
    | error id =>
      refine ⟨hdag, .refl s, fun hleaves => iff_of_true hleaves fun hall => ?_⟩
      obtain ⟨kept, hok⟩ := hstored.mpr hall
      cases hkept.symm.trans hok

theorem withLimits_ok {root : Value} {maxRevisions maxInlineBytes : Nat}
    (h : withLimits enc root maxRevisions maxInlineBytes = .ok s) :
    Dag s ∧ LeavesAreHeads s ∧ s.maxRevisions = maxRevisions := by
  simp only [withLimits, passes, unmet, Except.ok.injEq] at h
  obtain ⟨_, ⟨hmax, _⟩, rfl⟩ := h
  refine ⟨⟨?_, ?_, by simp, ?_, ?_⟩, ?_, rfl⟩
  · intro id revision hfound parent hparent
    rcases found_insert hfound with ⟨_, rfl⟩ | ⟨_, hold⟩
    · cases hparent
    · cases ExtTreeMap.getElem?_empty.symm.trans hold
  · intro id hid
    simp only [mem_insert, LawfulEqOrd.compare_eq_iff_eq, not_mem_empty, or_false] at hid
    subst hid
    exact ⟨_, ExtTreeMap.getElem?_insert_self⟩
  · rintro id ⟨revision, hfound⟩
    rcases found_insert hfound with ⟨rfl, _⟩ | ⟨_, hold⟩
    · exact Nat.one_lt_two
    · cases ExtTreeMap.getElem?_empty.symm.trans hold
  · simp only [ExtTreeMap.size_insert, ExtTreeMap.contains_empty, Bool.false_eq_true, if_false,
      ExtTreeMap.size_empty]
    omega
  · rintro id ⟨revision, hfound⟩ _
    rcases found_insert hfound with ⟨rfl, _⟩ | ⟨_, hold⟩
    · exact mem_insert_self
    · cases ExtTreeMap.getElem?_empty.symm.trans hold

def RunCovers (enc : ContextEncoding) (s : ContextStore) : List Call → Prop
  | [] => True
  | call :: rest => CallCovers s call ∧ RunCovers enc (s.perform enc call) rest

theorem run_keeps (hdag : Dag s) (calls : List Call) : Dag (s.run enc calls) ∧ Kept s (s.run enc calls) := by
  induction calls generalizing s with
  | nil => exact ⟨hdag, .refl s⟩
  | cons call rest ih =>
    obtain ⟨hnext, hkept, _⟩ := @perform_keeps s enc hdag call
    obtain ⟨hlast, hrest⟩ := ih hnext
    exact ⟨hlast, hkept.trans hrest⟩

/-- Every leaf is a head in every state exactly when each pruning covers. -/
theorem run_leaves_iff (hdag : Dag s) (hleaves : LeavesAreHeads s) (calls : List Call) :
    (∀ before after, calls = before ++ after → LeavesAreHeads (s.run enc before)) ↔ RunCovers enc s calls := by
  induction calls generalizing s with
  | nil =>
    refine iff_of_true ?_ trivial
    intro before after hsplit
    rw [(nil_eq_append_iff.mp hsplit).1]
    exact hleaves
  | cons call rest ih =>
    obtain ⟨hnext, _, hcovers⟩ := @perform_keeps s enc hdag call
    constructor
    · intro hall
      have hlater : LeavesAreHeads (s.perform enc call) := hall [call] rest rfl
      refine ⟨(hcovers hleaves).mp hlater, (ih hnext hlater).mp ?_⟩
      rintro before after rfl
      exact hall (call :: before) after rfl
    · rintro ⟨hcall, hrest⟩ before after hsplit
      have hlater := (hcovers hleaves).mpr hcall
      cases before with
      | nil => exact hleaves
      | cons first before =>
        obtain ⟨rfl, hrests⟩ := cons_eq_cons.mp hsplit
        exact (ih hnext hlater).mpr hrest before after hrests

/-- In every run the parent links form a graph with falling ids, stored revisions never change, and the search decides
reachability. Every leaf is a head in all states exactly when each pruning covers the revisions it is told to keep. -/
theorem context_dag_iff (enc : ContextEncoding) (root : Value) (maxRevisions maxInlineBytes : Nat) (s : ContextStore)
    (h : withLimits enc root maxRevisions maxInlineBytes = .ok s) (calls : List Call) :
    Dag (s.run enc calls) ∧ (s.run enc calls).maxRevisions = maxRevisions ∧
      (∀ before after, calls = before ++ after → ∀ (id : Nat) (revision revision' : ContextRevision),
        (s.run enc before).revisions[id]? = some revision → (s.run enc calls).revisions[id]? = some revision' →
          revision' = revision) ∧
      (∀ candidate ancestor, (s.run enc calls).isDescendantOf candidate ancestor = true ↔
        (s.run enc calls).Reaches candidate ancestor) ∧
      ((∀ before after, calls = before ++ after → LeavesAreHeads (s.run enc before)) ↔ RunCovers enc s calls) := by
  obtain ⟨hdag, hleaves, hlimit⟩ := withLimits_ok h
  obtain ⟨hlast, hkept⟩ := @run_keeps s enc hdag calls
  refine ⟨hlast, hkept.limit.trans hlimit, ?_, isDescendantOf_iff _, run_leaves_iff hdag hleaves calls⟩
  rintro before after rfl id revision revision' hbefore hafter
  obtain ⟨hmid, _⟩ := @run_keeps s enc hdag before
  obtain ⟨_, hrest⟩ := @run_keeps (s.run enc before) enc hmid after
  have happend : s.run enc (before ++ after) = (s.run enc before).run enc after := foldl_append
  rw [happend] at hafter
  exact some.inj ((hrest.same id revision' (hmid.below id ⟨revision, hbefore⟩) hafter).symm.trans hbefore)

variable (hash : List Nat → Value → ContextProvenance → Sha256Digest)

/-- For a store that holds `null` alone, four bytes long; the hash may be any. -/
def sampleEncoding : ContextEncoding := ⟨fun _ => 4, hash⟩

def sampleStore : ContextStore :=
  ⟨(∅ : ExtTreeMap Nat ContextRevision).insert 1
      ⟨1, [], .null, (hash [] .null (.simple .root "root")).text, ["root"], .simple .root "root"⟩,
    (∅ : ExtTreeSet Nat).insert 1, ∅, 2, 2, 4⟩

private theorem withLimits_sampleStore : withLimits (sampleEncoding hash) .null 2 4 = .ok (sampleStore hash) := rfl

/-- The pruning to the head of a chain of two revisions covers. -/
theorem sample_context_dag :
    (∀ hash, withLimits (sampleEncoding hash) .null 2 4 = .ok (sampleStore hash)) ∧
      ∀ hash, LeavesAreHeads
        ((sampleStore hash).run (sampleEncoding hash) [.append 1 .null, .pruneUnreachable [2]]) := by
  refine ⟨withLimits_sampleStore, fun hash => ?_⟩
  have hdag := context_dag_iff (sampleEncoding hash) .null 2 4 (sampleStore hash) (withLimits_sampleStore hash)
    [.append 1 .null, .pruneUnreachable [2]]
  apply hdag.2.2.2.2.mpr _ _ [] (append_nil _).symm
  refine ⟨trivial, fun _ id hid => .inl ?_, trivial⟩
  rw [mem_singleton.mp hid]
  exact contains_iff_mem.mp rfl

/-- Pruning to a revision whose child is the only head leaves it neither a parent nor a head. -/
theorem pruned_leaf_not_head :
    (∀ hash, withLimits (sampleEncoding hash) .null 2 4 = .ok (sampleStore hash)) ∧ ∀ hash,
      ¬LeavesAreHeads ((sampleStore hash).run (sampleEncoding hash) [.append 1 .null, .pruneUnreachable [1]]) := by
  refine ⟨withLimits_sampleStore, fun hash hleaves => ?_⟩
  obtain ⟨hdag, hinitial, _⟩ := withLimits_ok (withLimits_sampleStore hash)
  obtain ⟨hnext, _, happended⟩ := @perform_keeps _ (sampleEncoding hash) hdag (.append 1 .null)
  obtain ⟨_, _, hcovers⟩ := @perform_keeps _ (sampleEncoding hash) hnext (.pruneUnreachable [1])
  -- revision 1 has no parents, so it reaches itself alone
  have hroot : ∀ (id : Nat) (revision : ContextRevision), ((sampleStore hash).perform (sampleEncoding hash)
      (.append 1 .null)).revisions[id]? = some revision → id = 1 → revision.parents = [] := by
    rintro id revision hfound rfl
    rw [← some.inj hfound]
  have hstored : ((sampleStore hash).perform (sampleEncoding hash) (.append 1 .null)).Stored 1 := ⟨_, rfl⟩
  rcases (hcovers ((happended hinitial).mpr trivial)).mp hleaves (fun id hid => mem_singleton.mp hid ▸ hstored) 1
    mem_cons_self with hhead | ⟨root, child, revision, hmem, hreaches, hfound, hparent⟩
  · cases contains_iff_mem.mpr hhead
  · obtain rfl := mem_singleton.mp hmem
    have hchild : child = 1 := by
      rcases Relation.ReflTransGen.cases_head hreaches with rfl | ⟨mid, ⟨first, hfirst, hlink⟩, _⟩
      · rfl
      · rw [hroot 1 first hfirst rfl] at hlink
        cases hlink
    rw [hroot child revision hfound hchild] at hparent
    cases hparent

end Runs

end ContextStore
end Aworkit.Worker
