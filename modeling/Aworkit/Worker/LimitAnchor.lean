import Aworkit.Worker.LimitConservation

/-! What every ledger keeps, also one restored from scopes that are no tree: parents and owners are live, and a scope
is new only when it is created. -/
namespace Aworkit.Worker
open Protocol Fallible Hoare OrderedMap Std Option ExtTreeMap

namespace LimitLedger
variable {l l' : LimitLedger} {old scope : BudgetScope} {id : String}

theorem parentOf_eq_none : l.parentOf id = none ↔ l.scopes[id]? = none := map_eq_none_iff

/-- The scope that a call creates. -/
def Creates (id : String) : LimitCall → Prop
  | .createChild scopeId .. => scopeId = id
  | _ => False

/-- A call leaves parents and owners live, and only a created scope is new. -/
structure Keeps (l : LimitLedger) (call : LimitCall) (l' : LimitLedger) : Prop where
  anchored : Anchored l'
  fresh : ∀ id, ¬Creates id call → l.parentOf id = none → l'.parentOf id = none

theorem Anchored.refl (h : Anchored l) (call : LimitCall) : Keeps l call l := ⟨h, fun _ _ hnone => hnone⟩

theorem Anchored.alike (h : Anchored l) (hparent : ∀ id, l'.parentOf id = l.parentOf id)
    (howner : ∀ (id : String) record, l'.reservations[id]? = some record →
      (l.parentOf record.scopeId).isSome) : Keeps l call l' where
  anchored := by
    constructor
    · intro id parentId hup
      rw [hparent] at hup ⊢
      exact h.parents id parentId hup
    · intro id record hrecord
      rw [hparent]
      exact howner id record hrecord
  fresh := by
    intro id _ hnone
    rw [hparent, hnone]

theorem parentOf_setScope (hold : l.scopes[id]? = some old)
    (hparent : scope.parent = old.parent) (other : String) : (l.setScope id scope).parentOf other = l.parentOf other := by
  show (l.scopes.insert id scope)[other]?.map BudgetScope.parent = l.scopes[other]?.map BudgetScope.parent
  by_cases hid : id = other
  · subst hid
    rw [getElem?_insert_self, hold, map_some, map_some, hparent]
  · rw [insert_ne _ _ hid]

/-- The loop over a lineage moves amounts only, wherever it stops. -/
theorem adjust_alike (change : BudgetEnvelope → Except LimitError BudgetEnvelope) (lineage : List String)
    (l : LimitLedger) : Ends (adjust change lineage) l
      fun l' => (∀ id, l'.parentOf id = l.parentOf id) ∧ l'.reservations = l.reservations := by
  induction lineage generalizing l with
  | nil => exact ⟨fun _ => rfl, rfl⟩
  | cons ancestor rest ih =>
    apply read_bind
    apply lift_bind
    · exact fun _ _ => ⟨fun _ => rfl, rfl⟩
    intro scope hscope
    apply lift_bind
    · exact fun _ _ => ⟨fun _ => rfl, rfl⟩
    intro remaining _
    apply update_bind
    rw [findScope, require_eq_ok] at hscope
    have hset : ∀ id, (l.setScope ancestor { scope with remaining }).parentOf id = l.parentOf id :=
      parentOf_setScope hscope rfl
    apply (ih (l.setScope ancestor { scope with remaining })).conseq
    · exact fun _ l' hl => ⟨fun id => (hl.1 id).trans (hset id), hl.2⟩
    · exact fun _ l' hl => ⟨fun id => (hl.1 id).trans (hset id), hl.2⟩

section Created
variable {scopeId parentId : String} {parent : BudgetScope} {configured : BudgetEnvelope}

theorem parentOf_withChild (hparent : l.scopes[parentId]? = some parent) (id : String) :
    (l.withChild scopeId parentId parent configured).parentOf id =
      if id = scopeId then some (some parentId) else l.parentOf id := by
  by_cases hid : id = scopeId
  · subst hid
    rw [if_pos rfl]
    show ((_ : ExtTreeMap String BudgetScope).insert id _)[id]?.map BudgetScope.parent = _
    rw [getElem?_insert_self]
    rfl
  · rw [if_neg hid]
    have hset : (l.setScope parentId { parent with activeChildren := parent.activeChildren + 1 }).parentOf id =
        l.parentOf id := parentOf_setScope hparent (by rfl) id
    rw [← hset]
    show ((_ : ExtTreeMap String BudgetScope).insert scopeId _)[id]?.map BudgetScope.parent = _
    rw [insert_ne _ _ (Ne.symm hid)]
    rfl

theorem withChild_keeps (h : Anchored l) (hparent : l.scopes[parentId]? = some parent) :
    Keeps l (.createChild scopeId parentId configured) (l.withChild scopeId parentId parent configured) where
  anchored := by
    have hlive : ∀ id, (l.parentOf id).isSome → ((l.withChild scopeId parentId parent configured).parentOf id).isSome := by
      intro id hid
      rw [parentOf_withChild hparent]
      split
      · rfl
      · exact hid
    constructor
    · intro id up hup
      rw [parentOf_withChild hparent] at hup
      split at hup
      · obtain rfl := some.inj (some.inj hup)
        exact hlive _ (parentOf_isSome.mpr ⟨parent, hparent⟩)
      · exact hlive up (h.parents id up hup)
    · intro id record hrecord
      exact hlive _ (h.owners id record hrecord)
  fresh := by
    intro id hother hnone
    rw [parentOf_withChild hparent, if_neg (Ne.symm hother), hnone]

/-- The count of children goes up and down again; the scope comes and goes. -/
theorem withChild_erase (hfresh : l.scopes[scopeId]? = none) (hparent : l.scopes[parentId]? = some parent)
    (hfan : parent.activeChildren < parent.remaining.maxFanOut) :
    (({ l.withChild scopeId parentId parent configured with
        scopes := (l.withChild scopeId parentId parent configured).scopes.erase scopeId } : LimitLedger).setScope parentId
      { parent with activeChildren :=
          if parent.activeChildren + 1 = 0 then 0 else parent.activeChildren + 1 - 1 }) = l := by
  have hcount : (if parent.activeChildren + 1 = 0 then 0 else parent.activeChildren + 1 - 1) = parent.activeChildren := by
    rw [if_neg (by grind), UInt32.add_sub_cancel]
  rw [hcount]
  have hscopes : ((l.withChild scopeId parentId parent configured).scopes.erase scopeId).insert parentId parent =
      l.scopes := by
    apply ext_getElem?
    intro id
    by_cases hid : parentId = id
    · subst hid
      rw [getElem?_insert_self, hparent]
    rw [insert_ne _ _ hid]
    by_cases hscope : scopeId = id
    · subst hscope
      rw [getElem?_erase_self, hfresh]
    · rw [erase_ne _ hscope]
      exact (insert_ne _ _ hscope).trans (insert_ne _ _ hid)
  exact congrArg (fun scopes => ({ l with scopes } : LimitLedger)) hscopes

/-- Closing the scope that was just created restores the ledger. -/
theorem closeChild_withChild (h : Anchored l) (hfresh : l.scopes[scopeId]? = none)
    (hparent : l.scopes[parentId]? = some parent) (hfan : parent.activeChildren < parent.remaining.maxFanOut) :
    Outcome (closeChild scopeId) (l.withChild scopeId parentId parent configured) (fun _ l' => l' = l)
      (fun _ _ => False) := by
  have hne : scopeId ≠ parentId := by
    rintro rfl
    cases hfresh.symm.trans hparent
  have hself : (l.withChild scopeId parentId parent configured).scopes[scopeId]? =
      some (childOf parentId parent configured) := getElem?_insert_self
  have hup : (l.withChild scopeId parentId parent configured).scopes[parentId]? =
      some { parent with activeChildren := parent.activeChildren + 1 } :=
    (insert_ne _ _ hne).trans getElem?_insert_self
  have hcan : (l.withChild scopeId parentId parent configured).canCloseChild scopeId = .ok () := by
    simp only [canCloseChild, findScope, passes, unmet, List.any_eq_false, beq_iff_eq, mem_values]
    refine ⟨_, hself, (), rfl, ?_, ?_⟩
    · rintro record ⟨id, hrecord⟩ rfl
      have hlive := h.owners id record hrecord
      rw [parentOf_eq_none.mpr hfresh] at hlive
      cases hlive
    · rintro child ⟨id, hchild⟩ hparentChild
      have hchildParent : (l.withChild scopeId parentId parent configured).parentOf id = some (some scopeId) := by
        rw [parentOf, hchild, map_some, hparentChild]
      rw [parentOf_withChild hparent] at hchildParent
      split at hchildParent
      · exact hne (some.inj (some.inj hchildParent)).symm
      · have hlive := h.parents id scopeId hchildParent
        rw [parentOf_eq_none.mpr hfresh] at hlive
        cases hlive
  apply (closeChild_closes (withChild_keeps h hparent).anchored hcan).weaken
  intro _ l' heffect
  cases heffect with
  | closed hscope hparentId hfound _ _ =>
    obtain rfl := some.inj (hself.symm.trans hscope)
    cases hparentId
    obtain rfl := some.inj (hup.symm.trans hfound)
    exact withChild_erase hfresh hparent hfan

end Created

section
variable (h : Anchored l)
include h

theorem closed_keeps (heffect : Effect l (.closeChild scopeId) l') :
    Keeps l (.closeChild scopeId) l' ∧ l'.parentOf scopeId = none := by
  cases heffect with
  | @closed _ parentId scope parent hscope hup hparent hidle hleaf =>
    have hne : scopeId ≠ parentId := by
      rintro rfl
      exact hleaf scopeId scope hscope hup
    have hkept : ({ l with scopes := l.scopes.erase scopeId } : LimitLedger).scopes[parentId]? = some parent :=
      (erase_ne _ hne).trans hparent
    have hsame := parentOf_setScope hkept
      (show ({ parent with activeChildren := if parent.activeChildren = 0 then 0 else parent.activeChildren - 1 } :
        BudgetScope).parent = parent.parent from rfl)
    have hother : ∀ id, id ≠ scopeId →
        ({ l with scopes := l.scopes.erase scopeId } : LimitLedger).parentOf id = l.parentOf id := by
      intro id hid
      exact congrArg _ (erase_ne l.scopes (Ne.symm hid))
    have hgone : ({ l with scopes := l.scopes.erase scopeId } : LimitLedger).parentOf scopeId = none := by
      exact congrArg _ getElem?_erase_self
    refine ⟨⟨⟨?_, ?_⟩, ?_⟩, ?_⟩
    · intro id up hid
      rw [hsame] at hid ⊢
      have hne' : id ≠ scopeId := by
        rintro rfl
        cases hgone.symm.trans hid
      rw [hother id hne'] at hid
      rw [hother up ?_]
      · exact h.parents id up hid
      · rintro rfl
        obtain ⟨child, hchild, hchildUp⟩ := map_eq_some_iff.mp hid
        exact hleaf id child hchild hchildUp
    · intro id record hrecord
      rw [hsame, hother record.scopeId (hidle id record hrecord)]
      exact h.owners id record hrecord
    · intro id _ hnone
      rw [hsame]
      by_cases hid : id = scopeId
      · exact hid ▸ hgone
      · exact (hother id hid).trans hnone
    · exact (hsame scopeId).trans hgone

theorem Anchored.taken (call : LimitCall) (reservationId : String) :
    Keeps l call { l with reservations := l.reservations.erase reservationId } :=
  h.alike (fun _ => rfl) fun id record hrecord => h.owners id record (found_erase hrecord).2

theorem refund_keeps (call : LimitCall) (reservationId : String) (usage : Usage) (lineage : List String) :
    Ends (adjust (·.checkedAddUsage usage) lineage)
      { l with reservations := l.reservations.erase reservationId } (Keeps l call) := by
  have howner := (h.taken call reservationId).anchored.owners
  apply (adjust_alike (·.checkedAddUsage usage) lineage _).conseq
  · exact fun _ l' halike => h.alike halike.1 (halike.2 ▸ howner)
  · exact fun _ l' halike => h.alike halike.1 (halike.2 ▸ howner)

private theorem charge_keeps (reservationId chargeId : String) (actual : Usage) :
    Ends (charge reservationId chargeId actual) l (Keeps l (.charge reservationId chargeId actual)) := by
  apply lift_bind (fun _ _ => h.refl _)
  intro _ _
  apply read_bind
  by_cases hknown : l.chargeIds.contains chargeId
  · rw [if_pos hknown]
    exact h.refl _
  rw [if_neg hknown]
  apply takeReservation_bind (fun _ => h.refl _)
  intro record hrecord
  by_cases hcontains : (!record.reserved.contains actual) = true
  · rw [if_pos hcontains]
    apply update_bind
    apply h.alike
    · exact fun _ => rfl
    · exact all_insert (fun id found hold => h.owners id found (found_erase hold).2) (h.owners reservationId _ hrecord)
  · rw [if_neg hcontains]
    apply lift_bind (fun _ _ => h.taken _ reservationId)
    intro unused _
    apply read_bind
    apply lift_bind (fun _ _ => h.taken _ reservationId)
    intro lineage _
    apply Outcome.bind (refund_keeps h _ reservationId unused lineage)
    intro _ l' hkeeps
    exact ⟨⟨hkeeps.anchored.parents, hkeeps.anchored.owners⟩, hkeeps.fresh⟩

private theorem release_keeps (reservationId : String) :
    Ends (release reservationId) l (Keeps l (.release reservationId)) := by
  apply takeReservation_bind (fun _ => h.refl _)
  intro record hrecord
  apply read_bind
  apply lift_bind (fun _ _ => h.taken _ reservationId)
  intro lineage _
  exact refund_keeps h _ reservationId record.reserved lineage

theorem Anchored.setScope
    (hold : l.scopes[id]? = some old) (hparent : scope.parent = old.parent) : Keeps l call (l.setScope id scope) :=
  h.alike (parentOf_setScope hold hparent) h.owners

private theorem effect_keeps (heffect : Effect l call l') : Keeps l call l' := by
  have herased : ∀ {key id : String} {record : ReservationRecord}, (l.reservations.erase key)[id]? = some record →
      (l.parentOf record.scopeId).isSome := fun hfound => h.owners _ _ (found_erase hfound).2
  cases heffect with
  | created _ _ hparent => exact withChild_keeps h hparent
  | closed hscope hup hparent hidle hleaf => exact (closed_keeps h (.closed hscope hup hparent hidle hleaf)).1
  | reserved _ _ _ _ hpath hscopes =>
    exact h.alike hscopes.parentOf (all_insert h.owners (hpath.present hpath.self_mem))
  | charged _ _ _ _ _ hscopes | released _ _ hscopes => exact h.alike hscopes.parentOf fun _ _ hfound => herased hfound
  | repeated => exact h.refl _
  | entered hscope | left hscope => exact h.setScope hscope rfl
  | iterated | advanced => exact h.alike (fun _ => rfl) h.owners

theorem perform_keeps (call : LimitCall) : Keeps l call (perform call l).2 := by
  apply Outcome.state
  cases call with
  | charge reservationId chargeId actual => exact charge_keeps h reservationId chargeId actual
  | release reservationId => exact release_keeps h reservationId
  | _ =>
    apply (perform_anchored h rfl).conseq (fun _ _ => effect_keeps h)
    intro e l' hrefused
    rw [hrefused.same]
    exact h.alike (fun _ => rfl) h.owners

end

theorem new_anchored (h : new root budget = .ok l) : Anchored l :=
  (new_balanced h).tree.anchored

/-- The checks on a saved ledger leave no parent and no owner behind. -/
theorem restore_anchored (h : restore saved newTick = .ok l) : Anchored l := by
  simp only [restore, bind_ok_iff, checkAll_eq_ok] at h
  obtain ⟨scopes, _, _, hscopes, _, _, _, _, reservations, hreservations, _, _, _, _, hl⟩ := h
  cases hl
  have hlive : ∀ {id : String}, scopes.contains id = true → (scopes[id]?.map BudgetScope.parent).isSome := by
    intro id hid
    rwa [isSome_map, ← contains_eq_isSome_getElem?]
  constructor
  · intro id parentId hup
    obtain ⟨scope, hscope, hparent⟩ := map_eq_some_iff.mp hup
    have hchecked := hscopes scope ((mem_values _ _).mpr ⟨id, hscope⟩)
    simp only [checkRestoredScope, hparent, passes, unmet] at hchecked
    obtain ⟨_, hcontains, _⟩ := hchecked
    exact hlive hcontains
  · have hkept := foldlM_keeps (restoreReservation scopes)
      (fun _ table => ∀ (id : String) record, table[id]? = some record →
        scopes.contains record.scopeId = true) ?_ saved.reservations [] ∅ reservations (by simp) hreservations
    · exact fun id record hrecord => hlive (hkept id record hrecord)
    · intro _ table record next htable hnext
      simp only [restoreReservation, passes, unmet] at hnext
      obtain ⟨_, _, _, ⟨⟨hcontains, _⟩, _⟩, hinsert⟩ := hnext
      cases hinsert
      exact all_insert htable hcontains

/-- The walk from each scope ends at the one root, no scope met twice. -/
def Rooted (l : LimitLedger) : Prop :=
  ∃ root, (∀ id, l.parentOf id = some none ↔ id = root) ∧
    ∀ id, l.parentOf id = none ∧ l.scopeLineage id = .error (.unknownScope id) ∨
      ∃ path, Forest.Lineage l.parentOf id path ∧ root ∈ path ∧ l.scopeLineage id = .ok path

section Restored
variable {saved : LimitCheckpoint} {newTick : UInt64} (h : restore saved newTick = .ok l)
include h

/-- Each restored scope was saved; a saved one is restored unless saved again. -/
theorem restore_scopes :
    (∀ id scope, l.scopes[id]? = some scope →
      ∃ old ∈ saved.scopes, old.scopeId = id ∧ old.depth = scope.depth) ∧
    ((saved.scopes.map BudgetScopeCheckpoint.scopeId).Nodup → ∀ old ∈ saved.scopes,
      ∃ scope, l.scopes[old.scopeId]? = some scope ∧ scope.depth = old.depth) := by
  simp only [restore, bind_ok_iff] at h
  obtain ⟨scopes, hfold, _, _, _, _, _, _, _, _, _, _, _, _, hl⟩ := h
  cases hl
  refine foldlM_keeps (restoreScope newTick) (fun done table =>
    (∀ id scope, table[id]? = some scope →
      ∃ old ∈ done, old.scopeId = id ∧ old.depth = scope.depth) ∧
    ((done.map BudgetScopeCheckpoint.scopeId).Nodup → ∀ old ∈ done,
      ∃ scope, table[old.scopeId]? = some scope ∧ scope.depth = old.depth)) ?_ saved.scopes [] ∅ scopes (by simp) hfold
  rintro done table last _ ⟨hback, hforth⟩ hstep
  simp only [restoreScope, bind_ok_iff] at hstep
  obtain ⟨_, _, _, _, hstep⟩ := hstep
  cases hstep
  refine ⟨all_insert (fun id scope hscope => ?_) ⟨last, by simp, rfl, rfl⟩, ?_⟩
  · obtain ⟨old, hold, hsame⟩ := hback id scope hscope
    exact ⟨old, List.mem_append_left _ hold, hsame⟩
  · intro hnodup old hold
    rw [List.map_append, List.nodup_append'] at hnodup
    rcases List.mem_append.mp hold with hold | hold
    · have hne : last.scopeId ≠ old.scopeId := fun heq => hnodup.2.2 (List.mem_map_of_mem hold) (by simp [heq])
      rw [insert_ne _ _ hne]
      exact hforth hnodup.1 old hold
    · rw [List.mem_singleton.mp hold, getElem?_insert_self]
      exact ⟨_, rfl, rfl⟩

/-- The depth is zero at a root, and else one more than the parent's, up to the largest `u32`. -/
theorem restore_depth (hscope : l.scopes[id]? = some scope) :
    (scope.parent = none → scope.depth = 0) ∧ ∀ parentId, scope.parent = some parentId →
      ∃ parent : BudgetScope, l.scopes[parentId]? = some parent ∧
        scope.depth.toNat = saturatingAdd u32Max parent.depth.toNat 1 := by
  simp only [restore, bind_ok_iff, checkAll_eq_ok] at h
  obtain ⟨scopes, _, _, _, _, _, _, htree, _, _, _, _, _, _, hl⟩ := h
  cases hl
  have hchecked := htree (id, scope) (mem_toList_iff_getElem?_eq_some.mpr hscope)
  simp only [checkRestoredTree, bind_ok_iff] at hchecked
  obtain ⟨_, _, _, _, hchecked⟩ := hchecked
  split at hchecked
  · rename_i parentId hup
    simp only [passes, unmet, not_not] at hchecked
    obtain ⟨parent, hparent, hdepth, _⟩ := hchecked
    simp only [hup, reduceCtorEq, false_implies, some.injEq, true_and]
    rintro _ rfl
    exact ⟨parent, hparent, hdepth⟩
  · rename_i hup
    simpa [hup, refuseIf_eq_ok] using hchecked

private theorem restore_one_root : ∃ root, ∀ id, l.parentOf id = some none ↔ id = root := by
  simp only [restore, passes, unmet, not_not, length_filter_values] at h
  obtain ⟨scopes, _, _, _, _, hone, _, _, _, _, _, _, _, _, hl⟩ := h
  cases hl
  have hroots : ∃ (root : String) (scope : BudgetScope), scopes[root]? = some scope ∧ scope.parent = none := by
    by_contra hnone
    push Not at hnone
    rw [sumValues_congr (fun scope hscope => ?_), sumValues_zero] at hone
    · cases hone
    · obtain ⟨id, hid⟩ := (mem_values _ _).mp hscope
      exact if_neg (by simpa using hnone id scope hid)
  obtain ⟨root, scope, hroot, hup⟩ := hroots
  refine ⟨root, fun id => ⟨fun hid => ?_, ?_⟩⟩
  · obtain ⟨other, hother, hnone⟩ := map_eq_some_iff.mp hid
    by_contra hne
    have hrest := sumValues_erase (fun scope : BudgetScope => if scope.parent.isNone then 1 else 0) hroot
    have hle := le_sumValues (fun scope : BudgetScope => if scope.parent.isNone then 1 else 0) (scopes.erase root) id other
      ((erase_ne _ (Ne.symm hne)).trans hother)
    simp only [hup, hnone, isNone_none, if_true] at hrest hle
    omega
  · rintro rfl
    exact map_eq_some_iff.mpr ⟨scope, hroot, hup⟩

end Restored

/-- A restored ledger whose scopes were saved with depths below the largest `u32` is one tree; and a tree of fewer
scopes, saved under distinct ids, has no such depth. -/
theorem restored_rooted_iff (saved : LimitCheckpoint) (newTick : UInt64) (l : LimitLedger)
    (h : restore saved newTick = .ok l) :
    ((∀ scope ∈ saved.scopes, scope.depth.toNat < u32Max) → Rooted l) ∧
    ((saved.scopes.map BudgetScopeCheckpoint.scopeId).Nodup → saved.scopes.length ≤ u32Max →
      (Rooted l ↔ ∀ scope ∈ saved.scopes, scope.depth.toNat < u32Max)) := by
  obtain ⟨hback, hforth⟩ := restore_scopes h
  have htree : (∀ scope ∈ saved.scopes, scope.depth.toNat < u32Max) → Rooted l := by
    intro hdepths
    have hranked : Forest.Ranked l.parentOf l.rankOf := by
      intro id parentId hparent
      obtain ⟨scope, hscope, hup⟩ := map_eq_some_iff.mp hparent
      obtain ⟨parent, hfound, hdepth⟩ := (restore_depth h hscope).2 parentId hup
      obtain ⟨old, hold, _, hsame⟩ := hback id scope hscope
      have hlt := hsame ▸ hdepths old hold
      refine ⟨parentOf_isSome.mpr ⟨parent, hfound⟩, ?_⟩
      simp only [rankOf, hscope, hfound, map_some, getD_some]
      unfold saturatingAdd at hdepth
      omega
    obtain ⟨root, hroot⟩ := restore_one_root h
    refine ⟨root, hroot, fun id => ?_⟩
    cases hid : l.parentOf id with
    | none => exact .inl ⟨rfl, by simp [scopeLineage, Forest.climb, hid, Except.mapError, strayError]⟩
    | some above =>
      obtain ⟨path, hpath⟩ := hranked.exists_lineage (isSome_iff_exists.mpr ⟨above, hid⟩)
      obtain ⟨top, htop, hend⟩ := hpath.root_mem
      exact .inr ⟨path, hpath, (hroot top).mp hend ▸ htop, scopeLineage_eq hpath⟩
  refine ⟨htree, fun hids hsize => ⟨?_, htree⟩⟩
  rintro ⟨root, _, hwalks⟩ old hold
  obtain ⟨scope, hscope, hdepth⟩ := hforth hids old hold
  rcases hwalks old.scopeId with ⟨hnone, _⟩ | ⟨path, hpath, _⟩
  · simp [parentOf, hscope] at hnone
  -- A walk is longer than the depth of its first scope, and no longer than the table.
  have hrank : ∀ {id : String} {path : List String}, Forest.Lineage l.parentOf id path → l.rankOf id < path.length := by
    intro id path hpath
    induction hpath with
    | root hend =>
      obtain ⟨top, htop, hup⟩ := map_eq_some_iff.mp hend
      simp [rankOf, htop, (restore_depth h htop).1 hup]
    | @child id above path hchild _ ih =>
      obtain ⟨child, hfound, hup⟩ := map_eq_some_iff.mp hchild
      obtain ⟨parent, hparent, hnext⟩ := (restore_depth h hfound).2 above hup
      simp only [rankOf, hfound, hparent, map_some, getD_some, List.length_cons] at ih ⊢
      unfold saturatingAdd at hnext
      omega
  have hkeys : l.scopes.keys ⊆ saved.scopes.map BudgetScopeCheckpoint.scopeId := by
    intro id hid
    rw [mem_keys, mem_iff_isSome_getElem?, isSome_iff_exists] at hid
    obtain ⟨found, hfound⟩ := hid
    obtain ⟨other, hother, rfl, _⟩ := hback id found hfound
    exact List.mem_map_of_mem hother
  have hcount := (nodup_keys.subperm hkeys).length_le
  rw [length_keys, List.length_map] at hcount
  have hlong := lineage_length_le hpath
  have hlast := hrank hpath
  simp only [rankOf, hscope, map_some, getD_some, hdepth] at hlast
  omega

/-- A scope that is its own parent, at the largest depth. -/
def loopedCheckpoint : LimitCheckpoint where
  currentTick := 0
  scopes := [⟨"r", none, 0, sampleBudget, 0, 0⟩, ⟨"a", some "a", 4294967295, { sampleBudget with maxDepth := 4294967295 }, 1, 0⟩]
  reservations := []
  chargeIds := []
  loopIterations := []

theorem looped_scope_restored : ((restore loopedCheckpoint 0).toOption.map fun l =>
    (l.scopeLineage "a", (reserve "a" "x" ⟨1, 0, 0, 0, 0, 0⟩ l).1)) =
      some (.error .invalidReservation, .error .invalidReservation) := by
  decide +kernel

/-- A root scope with a child and a grandchild. -/
def sampleSaved : LimitCheckpoint :=
  { loopedCheckpoint with
    scopes := [⟨"r", none, 0, sampleBudget, 1, 0⟩, ⟨"c", some "r", 1, sampleBudget, 1, 0⟩,
      ⟨"g", some "c", 2, sampleBudget, 0, 0⟩] }

theorem sampleSaved_rooted : ∃ l, restore sampleSaved 0 = .ok l ∧ l.scopeLineage "g" = .ok ["g", "c", "r"] ∧
    Rooted l := by
  have hok : (restore sampleSaved 0).toOption.map (·.scopeLineage "g") = some (.ok ["g", "c", "r"]) := by
    decide +kernel
  cases hl : restore sampleSaved 0 with
  | error e => simp [hl, Except.toOption] at hok
  | ok l =>
    rw [hl] at hok
    exact ⟨l, rfl, Option.some.inj hok, (restored_rooted_iff sampleSaved 0 l hl).1 (by decide)⟩

private theorem run_anchored {l : LimitLedger} (h : Anchored l) (calls : List LimitCall) : Anchored (l.run calls) :=
  List.foldlRecOn calls _ h fun _ hl call _ => (perform_keeps hl call).anchored

/-- A reservation that is released at once leaves any ledger as it was, and so does, in every run, a scope that is
closed right after its creation. The second call is never refused. -/
theorem calls_undone (l : LimitLedger) (calls : List LimitCall) :
    (∀ scopeId reservationId usage l', reserve scopeId reservationId usage l = (.ok (), l') →
      release reservationId l' = (.ok (), l)) ∧
    ((∃ root budget, new root budget = .ok l) ∨ (∃ saved tick, restore saved tick = .ok l) →
      ∀ scopeId parentId configured l', createChild scopeId parentId configured (l.run calls) = (.ok (), l') →
        closeChild scopeId l' = (.ok (), l.run calls)) := by
  constructor
  · intro scopeId reservationId usage l' hrun
    have hreserved := (reserve_atomic scopeId reservationId usage).of_ok hrun
    apply Outcome.certain
    exact (release_reserved hreserved).weaken fun _ _ hsame => ⟨rfl, hsame⟩
  · intro hstart scopeId parentId configured l' hrun
    have hanchored : Anchored l := by
      rcases hstart with ⟨root, budget, hnew⟩ | ⟨saved, tick, hrestored⟩
      · exact new_anchored hnew
      · exact restore_anchored hrestored
    cases (createChild_atomic scopeId parentId configured).of_ok hrun with
    | created _ hfresh hparent _ _ hfan =>
      apply Outcome.certain
      exact (closeChild_withChild (run_anchored hanchored calls) hfresh hparent hfan).weaken
        fun _ _ hsame => ⟨rfl, hsame⟩

end LimitLedger
end Aworkit.Worker
