import Aworkit.Worker.ContextDag

/-! What a refused call leaves, and what a spawned child adds. -/
namespace Aworkit.Worker
open Protocol Fallible Hoare Std ContextStore ContextRevision List Option

namespace ContextStore

variable {begins : Prop} {α : Type}

section Failure
variable {s : ContextStore} {enc : ContextEncoding} {parent : Nat} {value : Value}

def Fails {α : Type} (m : ContextProg α) (s : ContextStore) : Prop := ∃ e, (m s).1 = .error e

/-- One more revision with this value finds room. -/
def Admits (enc : ContextEncoding) (s : ContextStore) (value : Value) : Prop :=
  s.revisions.size < s.maxRevisions ∧ enc.encodedSize value ≤ s.maxInlineBytes ∧ s.nextId < u64Max

theorem Fails.run {m : ContextProg α} (h : Fails m s) : ∃ e, m s = (.error e, (m s).2) := by
  obtain ⟨e, he⟩ := h
  exact ⟨e, Prod.ext he rfl⟩

private theorem append_fails_iff (hstored : s.Stored parent) (provenance : ContextProvenance) (lineageSuffix : Option String) :
    Fails (appendWithProvenance enc [parent] value provenance lineageSuffix) s ↔ ¬Admits enc s value := by
  constructor
  · rintro hfails ⟨hroom, hfits, hnext⟩
    obtain ⟨revision, hfound⟩ := hstored
    have hok : Outcome (appendWithProvenance enc [parent] value provenance lineageSuffix) s
        (fun _ _ => True) fun _ _ => False := by
      apply read_bind
      apply pass_bind rfl
      apply pass_bind (a := ()) (by simpa [refuseIf_eq_ok] using hroom)
      apply pass_bind (a := ()) (by simpa [refuseIf_eq_ok] using hfits)
      apply pass_bind (x := s.checkParents [parent]) (a := (∅ : ExtTreeSet Nat).insert parent)
      · rw [checkParents, foldlM_cons, get_eq_ok.mpr hfound]
        rfl
      apply pass_bind (a := s.nextId + 1) (by simp [require_eq_ok, checkedSucc, hnext])
      apply update_bind
      exact pass_bind (x := s.get parent) (get_eq_ok.mpr hfound) trivial
    obtain ⟨e, hrun⟩ := hfails.run
    exact hok.of_error hrun
  · intro hrefused
    cases hrun : appendWithProvenance enc [parent] value provenance lineageSuffix s with
    | mk answer s' =>
      cases answer with
      | error e => exact ⟨e, by rw [hrun]⟩
      | ok id =>
        obtain ⟨_, hfits, revision, _, happended⟩ := (append_outcome _ _ _ _ s).of_ok hrun
        exact absurd ⟨happended.room, hfits, happended.next⟩ hrefused

/-- A loop of appends changes nothing exactly if its first finds no room. -/
theorem appends_same_iff (hstored : s.Stored parent) {value : α → Value} {provenance : α → ContextProvenance}
    {lineageSuffix : α → Option String} (items : List α) :
    (Prog.collect (fun item => appendWithProvenance enc [parent] (value item) (provenance item)
      (lineageSuffix item)) items s).2 = s ↔ ¬∃ first ∈ items.head?, Admits enc s (value first) := by
  cases items with
  | nil => exact iff_of_true rfl nofun
  | cons first rest =>
    have hround : ∀ item s, Outcome (appendWithProvenance enc [parent] (value item) (provenance item)
        (lineageSuffix item)) s (fun _ s' => s.nextId < s'.nextId) fun _ s' => s' = s := by
      intro item s
      apply (append_outcome [parent] (value item) (provenance item) (lineageSuffix item) s).conseq
      · rintro id s' ⟨_, _, revision, _, happended⟩
        exact happended.nextId ▸ Nat.lt_succ_self _
      · exact fun _ _ hsame => hsame
    refine (Outcome.collect_same_iff hround first rest s).trans ((append_fails_iff hstored _ _).trans ?_)
    simp

theorem check_same_iff {β : Type} {x : Except ContextError α} {k : α → ContextProg β}
    (hfailed : begins → ∃ a, x = .ok a) (hok : ∀ a, x = .ok a → ((k a s).2 = s ↔ ¬begins)) :
    ((Prog.lift x >>= k) s).2 = s ↔ ¬begins := by
  cases x with
  | error e => exact iff_of_true rfl fun h => nomatch hfailed h
  | ok a => exact hok a rfl

theorem items_same_iff {k : List Value → ContextProg α}
    (hbegins : begins → ∃ (revision : ContextRevision) (items : List Value), s.revisions[parent]? = some revision ∧
      revision.value.asArray = some items)
    (hk : ∀ (revision : ContextRevision) (items : List Value), s.revisions[parent]? = some revision →
      revision.value.asArray = some items → ((k items s).2 = s ↔ ¬begins)) :
    ((Prog.lift (s.get parent) >>= fun revision => Prog.lift (require revision.value.asArray .notArray) >>= k) s).2 = s ↔
      ¬begins := by
  refine check_same_iff ?_ fun revision hfound => check_same_iff ?_ fun items hitems => ?_
  · intro h
    obtain ⟨revision, _, hfound, _⟩ := hbegins h
    exact ⟨revision, get_eq_ok.mpr hfound⟩
  · intro h
    obtain ⟨_, items, hsame, hitems⟩ := hbegins h
    obtain rfl := some.inj ((get_eq_ok.mp hfound).symm.trans hsame)
    exact ⟨items, (require_eq_ok _ _ _).mpr hitems⟩
  · exact hk revision items (get_eq_ok.mp hfound) ((require_eq_ok _ _ _).mp hitems)

def Refused (enc : ContextEncoding) (s : ContextStore) : Call → Prop
  | .append parent value => Fails (appendReplacement enc parent value) s
  | .appendWithProvenance parents value provenance lineageSuffix =>
    Fails (appendWithProvenance enc parents value provenance lineageSuffix) s
  | .patchObject parent operationId patch => Fails (patchObject enc parent operationId patch) s
  | .fork parent copies => Fails (fork enc parent copies) s
  | .project parent keys => Fails (project enc parent keys) s
  | .forEach parent => Fails (forEach enc parent) s
  | .forEachWindow parent start limit => Fails (forEachWindow enc parent start limit) s
  | .join heads strategy => Fails (join enc heads strategy) s
  | .joinDeclared contract => Fails (joinDeclared enc contract) s
  | .spawnChild spec => Fails (spawnChild enc spec) s
  | .integrateChild childId childHead parentHead result integration =>
    Fails (integrateChild enc childId childHead parentHead result integration) s
  | .pruneUnreachable committed => Fails (pruneUnreachable committed) s

/-- A call that appends several revisions finds room for the first. -/
def Begins (enc : ContextEncoding) (s : ContextStore) : Call → Prop
  | .fork parent copies => 0 < copies ∧ ∃ revision : ContextRevision, s.revisions[parent]? = some revision ∧
    Admits enc s revision.value
  | .forEach parent => ∃ (revision : ContextRevision) (items : List Value), s.revisions[parent]? = some revision ∧
    revision.value.asArray = some items ∧ ∃ first ∈ items.head?, Admits enc s first
  | .forEachWindow parent start limit => ∃ (revision : ContextRevision) (items : List Value),
    s.revisions[parent]? = some revision ∧ revision.value.asArray = some items ∧
      ∃ first ∈ ((items.drop start).take limit).head?, Admits enc s first
  | _ => False

private theorem fork_same_iff (parent copies : Nat) :
    (fork enc parent copies s).2 = s ↔ ¬Begins enc s (.fork parent copies) := by
  apply check_same_iff
  · exact fun hbegins => ⟨(), by simpa using hbegins.1.ne'⟩
  intro _ hcopies
  have hpos : 0 < copies := by simpa [Nat.pos_iff_ne_zero] using hcopies
  refine check_same_iff (fun ⟨_, revision, hfound, _⟩ => ⟨revision, get_eq_ok.mpr hfound⟩) fun revision hfound => ?_
  rw [get_eq_ok] at hfound
  refine (appends_same_iff ⟨revision, hfound⟩ (range copies)).trans (not_congr ?_)
  simp [Begins, hfound, hpos, hpos.ne', head?_range]

theorem forEachWindow_same_iff (parent start limit : Nat) :
    (forEachWindow enc parent start limit s).2 = s ↔ ¬Begins enc s (.forEachWindow parent start limit) := by
  refine items_same_iff (fun ⟨revision, items, hfound, hitems, _⟩ => ⟨revision, items, hfound, hitems⟩) ?_
  intro revision items hfound hitems
  refine (appends_same_iff ⟨revision, hfound⟩ _).trans (not_congr ?_)
  simp [Begins, hfound, hitems]

private theorem forEach_same_iff (parent : Nat) : (forEach enc parent s).2 = s ↔ ¬Begins enc s (.forEach parent) := by
  refine items_same_iff (fun ⟨revision, items, hfound, hitems, _⟩ => ⟨revision, items, hfound, hitems⟩) ?_
  intro revision items hfound hitems
  refine (forEachWindow_same_iff parent 0 items.length).trans (not_congr ?_)
  simp [Begins, hfound, hitems]

/-- A refused call changes nothing exactly unless it appends several revisions and finds room for the first. -/
theorem refused_unchanged_iff (enc : ContextEncoding) (s : ContextStore) (call : Call) (h : Refused enc s call) :
    s.perform enc call = s ↔ ¬Begins enc s call := by
  have hatomic : ∀ {α : Type} {m : ContextProg α} {post : α → ContextStore → Prop},
      Outcome m s post (fun _ s' => s' = s) → Fails m s → ((m s).2 = s ↔ ¬False) := by
    intro α m post hm hfails
    obtain ⟨e, hrun⟩ := hfails.run
    exact iff_of_true (hm.of_error hrun) id
  cases call with
  | append parent value | appendWithProvenance parents value provenance lineageSuffix =>
    exact hatomic (append_atomic _ _ _ _ s) h
  | patchObject parent operationId patch => exact hatomic (patchObject_atomic parent operationId patch s) h
  | fork parent copies => exact fork_same_iff parent copies
  | project parent keys => exact hatomic (project_atomic parent keys s) h
  | forEach parent => exact forEach_same_iff parent
  | forEachWindow parent start limit => exact forEachWindow_same_iff parent start limit
  | join heads strategy => exact hatomic (join_atomic heads strategy s) h
  | joinDeclared contract => exact hatomic (joinDeclared_atomic contract s) h
  | spawnChild spec => exact hatomic (spawnChild_atomic spec s) h
  | integrateChild childId childHead parentHead result integration =>
    exact hatomic (integrateChild_atomic childId childHead parentHead result integration s) h
  | pruneUnreachable committed =>
    have hprune : Outcome (pruneUnreachable committed) s (fun _ _ => True) fun _ s' => s' = s :=
      check_bind fun _ _ => trivial
    exact hatomic hprune h

/-- The second copy of a fork finds no room behind the first. -/
theorem half_forked :
    (∀ hash, Refused (sampleEncoding hash) (sampleStore hash) (.fork 1 2)) ∧
      ∀ hash, (sampleStore hash).perform (sampleEncoding hash) (.fork 1 2) ≠ sampleStore hash := by
  refine ⟨fun hash => ⟨.revisionLimit, rfl⟩, fun hash hsame => ?_⟩
  cases congrArg nextId hsame

theorem sampleFork_unchanged :
    (∀ hash, Refused (sampleEncoding hash) (sampleStore hash) (.fork 2 2)) ∧
      ∀ hash, (sampleStore hash).perform (sampleEncoding hash) (.fork 2 2) = sampleStore hash := by
  refine ⟨fun hash => ⟨.unknownRevision 2, rfl⟩, fun hash => ?_⟩
  refine (refused_unchanged_iff _ _ (.fork 2 2) ⟨.unknownRevision 2, rfl⟩).mpr ?_
  rintro ⟨_, revision, hfound, _⟩
  cases hfound

end Failure

section Selection
variable {spec : ChildContextSpec} {parent : Value} {selected : List (String × Value)}

/-- Pointers with one joined name lead to one value, the instructions to theirs. -/
def NamesApart (spec : ChildContextSpec) (parent : Value) : Prop :=
  (∀ pointer ∈ spec.selectedPointers, ∀ other ∈ spec.selectedPointers,
    ".".intercalate pointer = ".".intercalate other → descend pointer parent = descend other parent) ∧
  ∀ pointer ∈ spec.selectedPointers, ".".intercalate pointer = "instructions" →
    descend pointer parent = .ok spec.instructions

/-- Each pointer leads to a value; under a name stand the instructions, or the value of the last pointer with it. -/
theorem selectedContext_ok (h : selectedContext spec parent = .ok selected) :
    ∀ pointer ∈ spec.selectedPointers, (∃ value, descend pointer parent = .ok value) ∧
      if "instructions" = ".".intercalate pointer
      then Value.member (".".intercalate pointer) selected = some spec.instructions
      else ∃ other ∈ spec.selectedPointers, ∃ value, ".".intercalate pointer = ".".intercalate other ∧
        descend other parent = .ok value ∧ Value.member (".".intercalate pointer) selected = some value := by
  simp only [selectedContext, bind_ok_iff, Except.ok.injEq] at h
  obtain ⟨parts, hparts, rfl⟩ := h
  have hall := foldlM_keeps _ (fun done parts => ∀ pointer ∈ done, (∃ value, descend pointer parent = .ok value) ∧
    ∃ other ∈ done, ∃ value, ".".intercalate pointer = ".".intercalate other ∧
      descend other parent = .ok value ∧ Value.member (".".intercalate pointer) parts = some value)
    ?_ spec.selectedPointers [] [] parts (by simp) hparts
  · intro pointer hpointer
    obtain ⟨hvalue, hother⟩ := hall pointer hpointer
    refine ⟨hvalue, ?_⟩
    split
    · next hname => simp [Value.member_insertMember, hname]
    · next hname => simpa [Value.member_insertMember, hname] using hother
  · intro done parts next parts' hdone hstep pointer hpointer
    simp only [bind_ok_iff, Except.ok.injEq] at hstep
    obtain ⟨value, hvalue, rfl⟩ := hstep
    by_cases hname : ".".intercalate next = ".".intercalate pointer
    · refine ⟨?_, next, by simp, value, hname.symm, hvalue, by simp [Value.member_insertMember, hname]⟩
      rcases mem_append.mp hpointer with hold | hnew
      · exact (hdone pointer hold).1
      · exact ⟨value, mem_singleton.mp hnew ▸ hvalue⟩
    · have hold : pointer ∈ done := by
        rcases mem_append.mp hpointer with hold | hnew
        · exact hold
        · exact absurd (congrArg _ (mem_singleton.mp hnew).symm) hname
      obtain ⟨hfound, other, hother, rest⟩ := hdone pointer hold
      refine ⟨hfound, other, mem_append_left _ hother, ?_⟩
      simpa [Value.member_insertMember, hname] using rest

private theorem selected_named_iff (h : selectedContext spec parent = .ok selected) :
    (∀ pointer ∈ spec.selectedPointers, ∃ value, descend pointer parent = .ok value ∧
      Value.member (".".intercalate pointer) selected = some value) ↔ NamesApart spec parent := by
  have hall := selectedContext_ok h
  constructor
  · intro hnamed
    constructor
    · intro pointer hpointer other hother hname
      obtain ⟨value, hvalue, hmember⟩ := hnamed pointer hpointer
      obtain ⟨value', hvalue', hmember'⟩ := hnamed other hother
      rw [← hname, hmember] at hmember'
      rw [hvalue, hvalue', some.inj hmember']
    · intro pointer hpointer hname
      obtain ⟨value, hvalue, hmember⟩ := hnamed pointer hpointer
      have hinstructions := (hall pointer hpointer).2
      rw [if_pos hname.symm, hmember] at hinstructions
      rw [hvalue, some.inj hinstructions]
  · rintro ⟨hsame, hinstructions⟩ pointer hpointer
    obtain ⟨_, hmember⟩ := hall pointer hpointer
    split at hmember
    · next hname => exact ⟨_, hinstructions pointer hpointer hname.symm, hmember⟩
    · obtain ⟨other, hother, value, hname, hvalue, hfound⟩ := hmember
      exact ⟨value, (hsame pointer hpointer other hother hname).trans hvalue, hfound⟩

end Selection

private theorem spawned_heads_iff {spec : ChildContextSpec} {revision : ContextRevision}
    (h : Appended s [spec.parentRevision] revision s') :
    (∀ id, id ∈ s'.heads.insert spec.parentRevision ↔ id ∈ s.heads ∨ id = s.nextId) ↔
      spec.parentRevision ∈ s.heads ∨ spec.parentRevision = s.nextId := by
  simp only [ExtTreeSet.mem_insert, LawfulEqOrd.compare_eq_iff_eq, h.mem_heads, mem_singleton]
  constructor
  · intro hall
    exact (hall _).mp (.inl rfl)
  · intro hparent id
    by_cases hid : spec.parentRevision = id
    · subst hid
      simp [hparent]
    · simp [hid, Ne.symm hid, or_comm]

/-- A spawned child adds its root to the heads and nothing else exactly when its parent is a head or has the id the
root takes. A selected value stands under its joined name exactly when no other does. -/
theorem spawned_child_iff (enc : ContextEncoding) (s : ContextStore) (spec : ChildContextSpec) (root : Nat)
    (s' : ContextStore) (h : spawnChild enc spec s = (.ok root, s')) :
    ((∀ id, id ∈ s'.heads ↔ id ∈ s.heads ∨ id = root) ↔
      spec.parentRevision ∈ s.heads ∨ spec.parentRevision = s.nextId) ∧
    ∃ parent child : ContextRevision, s.revisions[spec.parentRevision]? = some parent ∧
      s'.revisions[root]? = some child ∧
      ((∀ pointer ∈ spec.selectedPointers, ∃ value, descend pointer parent.value = .ok value ∧
        child.value.get (".".intercalate pointer) = some value) ↔ NamesApart spec parent.value) := by
  obtain ⟨rfl, _, parent, revision, selected, appended, hparent, hselected, hvalue, happended, rfl⟩ :=
    (spawnChild_outcome spec s).of_ok h
  refine ⟨spawned_heads_iff happended, parent, revision, hparent, ?_, ?_⟩
  · rw [happended.result, ← happended.named]
    exact ExtTreeMap.getElem?_insert_self
  · rw [hvalue]
    exact selected_named_iff hselected

/-- Two paths of a document that have one name. -/
def sampleDocument : Value := .object [("a", .object [("b", .null)]), ("a.b", .bool true)]

def sampleSpec : ChildContextSpec := ⟨"child", 1, [["a", "b"], ["a.b"]], .null⟩

/-- The documents of the samples with their length as compact JSON. -/
def sampleSizes : List (Value × Nat) :=
  [(.null, 4), (sampleDocument, 27), (.object [("a.b", .bool true), ("instructions", .null)], 32),
   (.object [("a.b", .null), ("instructions", .null)], 32)]

def documentEncoding (hash : List Nat → Value → ContextProvenance → Sha256Digest) : ContextEncoding :=
  ⟨fun value => ((sampleSizes.find? fun entry => entry.1.beq value).map Prod.snd).getD 65, hash⟩

/-- A child of a revision that is no head makes it one, and has the value of one path only. -/
theorem replaced_parent_spawned :
    (∀ hash, ∃ s s', withLimits (documentEncoding hash) sampleDocument 3 64 = .ok s ∧
      spawnChild (documentEncoding hash) sampleSpec (s.run (documentEncoding hash) [.append 1 .null]) = (.ok 3, s') ∧
      1 ∉ (s.run (documentEncoding hash) [.append 1 .null]).heads ∧ 1 ∈ s'.heads) ∧
    ∀ hash, ∃ s s' child, withLimits (documentEncoding hash) sampleDocument 3 64 = .ok s ∧
      spawnChild (documentEncoding hash) sampleSpec s = (.ok 2, s') ∧ s'.revisions[2]? = some child ∧
      descend ["a", "b"] sampleDocument = .ok .null ∧ child.value.get "a.b" = some (.bool true) := by
  refine ⟨fun hash => ⟨_, _, rfl, rfl, ?_, ExtTreeSet.contains_iff_mem.mp rfl⟩, fun hash => ⟨_, _, _, rfl, rfl, rfl, rfl, rfl⟩⟩
  intro hhead
  cases ExtTreeSet.contains_iff_mem.mpr hhead

/-- A child of the root that is given one of the two values. -/
theorem sampleChild_spawned :
    (∀ hash, ∃ s s', withLimits (documentEncoding hash) sampleDocument 3 64 = .ok s ∧
      spawnChild (documentEncoding hash) ⟨"child", 1, [["a", "b"]], .null⟩ s = (.ok 2, s')) ∧
    ∀ hash s s', withLimits (documentEncoding hash) sampleDocument 3 64 = .ok s →
      spawnChild (documentEncoding hash) ⟨"child", 1, [["a", "b"]], .null⟩ s = (.ok 2, s') →
        (∀ id, id ∈ s'.heads ↔ id ∈ s.heads ∨ id = 2) ∧
          ∃ child, s'.revisions[2]? = some child ∧ child.value.get "a.b" = some .null := by
  refine ⟨fun hash => ⟨_, _, rfl, rfl⟩, fun hash s s' hs h => ?_⟩
  cases hs
  obtain ⟨hheads, parent, child, hparent, hchild, hvalues⟩ := spawned_child_iff _ _ _ _ s' h
  refine ⟨hheads.mpr (.inl (ExtTreeSet.contains_iff_mem.mp rfl)), child, hchild, ?_⟩
  cases hparent
  obtain ⟨value, hvalue, hget⟩ := hvalues.mpr ⟨by simp, by simp⟩ ["a", "b"] mem_cons_self
  cases hvalue
  exact hget

end ContextStore
end Aworkit.Worker
