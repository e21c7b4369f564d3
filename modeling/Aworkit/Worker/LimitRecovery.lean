import Aworkit.Worker.LimitConservation

/-! Checkpoints of the limit ledger: which rules of `restore` every run keeps, and which reachable ledgers it
accepts. -/
namespace Aworkit.Worker
open Protocol Fallible Hoare Forest Std OrderedMap Option UInt64 UInt32

namespace LimitLedger
variable {l l' : LimitLedger} {root : String} {scopes scopes' : ExtTreeMap String BudgetScope}
  {id : String} {count : UInt32}

/-- A counter below a bound counts on without overflow. -/
private theorem toNat_succ {a b : UInt32} (h : a < b) : (a + 1).toNat = a.toNat + 1 := by
  have hlt := UInt32.lt_iff_toNat_lt.mp h
  have hbound := b.toNat_lt
  rw [UInt32.toNat_add, Nat.mod_eq_of_lt (by simp; omega)]
  rfl

private theorem toNat_pred {a : UInt32} (h : a ≠ 0) : (a - 1).toNat + 1 = a.toNat := by
  have hpos : (1 : UInt32).toNat ≤ a.toNat := Nat.pos_of_ne_zero fun hzero => h (UInt32.toNat_inj.mp hzero)
  rw [UInt32.toNat_sub_of_le _ _ (UInt32.le_iff_toNat_le.mpr hpos)]
  exact Nat.sub_add_cancel hpos

/-- The rules of one scope that `restore` checks and every run keeps. -/
structure ScopeKept (scopes : ExtTreeMap String BudgetScope) (id : String) (scope : BudgetScope) : Prop where
  valid : validateLogicalId id = .ok ()
  parallel : scope.activeParallel ≤ scope.remaining.maxParallel
  children : childrenOf scopes id = scope.activeChildren.toNat
  fanOut : scope.activeChildren ≤ scope.remaining.maxFanOut
  level : ∀ (parentId : String) (parent : BudgetScope), scope.parent = some parentId →
    scopes[parentId]? = some parent → scope.depth ≤ parent.remaining.maxDepth
  rootDepth : scope.parent = none → scope.depth = 0

def ScopesKept (scopes : ExtTreeMap String BudgetScope) : Prop :=
  ∀ (id : String) (scope : BudgetScope), scopes[id]? = some scope → ScopeKept scopes id scope

structure Kept (l : LimitLedger) : Prop where
  scopes : ScopesKept l.scopes
  reservations : ∀ (id : String) (record : ReservationRecord), l.reservations[id]? = some record →
    validateLogicalId id = .ok () ∧ record.reserved.isZero = false
  charges : ∀ id ∈ l.chargeIds, validateLogicalId id = .ok ()
  loops : ∀ (key : String) (count : UInt32), l.loopIterations[key]? = some count → count ≠ 0

/-- Whether a scope is a child of another. -/
def childCount (id : String) (scope : BudgetScope) : Nat := if scope.parent == some id then 1 else 0

theorem childrenOf_eq (scopes : ExtTreeMap String BudgetScope) (id : String) :
    childrenOf scopes id = sumValues (childCount id) scopes :=
  length_filter_values _ _

variable {other parentId scopeId key : String} {old scope parent counted : BudgetScope}

theorem childrenOf_replace (hold : scopes[id]? = some old)
    (hparent : scope.parent = old.parent) : childrenOf (scopes.insert id scope) other = childrenOf scopes other := by
  have hsum := sumValues_insert (childCount other) scopes id scope
  rw [hold] at hsum
  have hsame : childCount other scope = childCount other old := by rw [childCount, hparent, childCount]
  rw [childrenOf_eq, childrenOf_eq]
  simp only [elim_some, hsame] at hsum
  omega

theorem childrenOf_fresh (hfresh : scopes[id]? = none) :
    childrenOf (scopes.insert id scope) other = childrenOf scopes other + childCount other scope := by
  have hsum := sumValues_insert (childCount other) scopes id scope
  rw [hfresh] at hsum
  rw [childrenOf_eq, childrenOf_eq]
  exact hsum

theorem childrenOf_erase (hscope : scopes[id]? = some scope) :
    childrenOf (scopes.erase id) other + childCount other scope = childrenOf scopes other := by
  rw [childrenOf_eq, childrenOf_eq]
  exact sumValues_erase _ hscope

theorem childrenOf_eq_zero (h : ∀ (key : String) scope, scopes[key]? = some scope → scope.parent ≠ some id) :
    childrenOf scopes id = 0 := by
  rw [childrenOf, List.length_eq_zero_iff, List.filter_eq_nil_iff]
  intro scope hscope
  obtain ⟨key, hkey⟩ := (mem_values _ _).mp hscope
  simpa using h key scope hkey

/-- A scope without its amounts and its deadline. -/
def frameOf (scope : BudgetScope) : BudgetScope :=
  { scope with remaining := { scope.remaining with toUsage := ⟨0, 0, 0, 0, 0, 0⟩, deadlineTick := 0 } }

/-- The rules speak of no amount and no deadline. -/
theorem ScopesKept.of_frames (h : ScopesKept scopes)
    (hsame : ∀ id : String, scopes'[id]?.map frameOf = scopes[id]?.map frameOf) : ScopesKept scopes' := by
  have hmap : scopes'.map (fun _ scope => frameOf scope) = scopes.map (fun _ scope => frameOf scope) := by
    refine ExtTreeMap.ext_getElem? fun id => ?_
    rw [ExtTreeMap.getElem?_map, ExtTreeMap.getElem?_map, hsame]
  have hchildren : ∀ id, childrenOf scopes' id = childrenOf scopes id := by
    intro id
    have hsum := congrArg (sumValues (childCount id)) hmap
    rw [sumValues_map, sumValues_map] at hsum
    rw [childrenOf_eq, childrenOf_eq]
    exact hsum
  have hback : ∀ (id : String) scope', scopes'[id]? = some scope' →
      ∃ scope, scopes[id]? = some scope ∧ frameOf scope = frameOf scope' := by
    intro id scope' hscope'
    have hframe := hsame id
    rw [hscope'] at hframe
    exact map_eq_some_iff.mp hframe.symm
  intro id scope' hscope'
  obtain ⟨scope, hscope, hframe⟩ := hback id scope' hscope'
  have hkept := h id scope hscope
  simp only [frameOf, BudgetScope.mk.injEq, BudgetEnvelope.mk.injEq] at hframe
  obtain ⟨hparent, hdepth, ⟨_, hmaxDepth, hmaxFanOut, hmaxParallel, _⟩, hactive, hrunning⟩ := hframe
  refine ⟨hkept.valid, ?_, ?_, ?_, ?_, ?_⟩
  · rw [← hrunning, ← hmaxParallel]
    exact hkept.parallel
  · rw [hchildren, ← hactive]
    exact hkept.children
  · rw [← hactive, ← hmaxFanOut]
    exact hkept.fanOut
  · intro parentId parent' hup hparent'
    obtain ⟨parent, hfound, hpframe⟩ := hback parentId parent' hparent'
    simp only [frameOf, BudgetScope.mk.injEq, BudgetEnvelope.mk.injEq] at hpframe
    rw [← hdepth, ← hpframe.2.2.1.2.1]
    exact hkept.level parentId parent (hparent.trans hup) hfound
  · intro hnone
    rw [← hdepth]
    exact hkept.rootDepth (hparent.trans hnone)

theorem Adjusted.frames {change : BudgetEnvelope → Except LimitError BudgetEnvelope}
    (h : Adjusted change lineage scopes scopes')
    (hchange : ∀ before after, change before = .ok after → ∃ amounts : Usage, after = { before with toUsage := amounts })
    (id : String) : scopes'[id]?.map frameOf = scopes[id]?.map frameOf := by
  by_cases hid : id ∈ lineage
  · obtain ⟨scope, remaining, hbefore, hok, hafter⟩ := h.inside id hid
    obtain ⟨amounts, rfl⟩ := hchange _ _ hok
    rw [hbefore, hafter]
    rfl
  · rw [h.outside id hid]

theorem Adjusted.refunded_frames (h : Adjusted (·.checkedAddUsage usage) lineage scopes scopes') :
    ∀ id : String, scopes'[id]?.map frameOf = scopes[id]?.map frameOf :=
  h.frames fun _ _ hok => ((BudgetEnvelope.checkedAddUsage_eq_ok _ _ _).mp hok).imp fun _ h => h.1

/-- A scope with another number of active children. -/
structure Recounted (scope counted : BudgetScope) : Prop where
  parent : counted.parent = scope.parent
  depth : counted.depth = scope.depth
  remaining : counted.remaining = scope.remaining
  parallel : counted.activeParallel = scope.activeParallel

/-- The rules after a scope and the tree below it changed: each scope needs only its own number of children. -/
theorem ScopesKept.recount (h : ScopesKept scopes) (hparent : scopes[parentId]? = some parent)
    (hsame : counted.parent = parent.parent ∧ counted.depth = parent.depth ∧ counted.remaining = parent.remaining)
    (hparallel : counted.activeParallel ≤ parent.remaining.maxParallel)
    (hold : ∀ (id : String) scope, scopes'[id]? = some scope →
      (id = parentId ∧ scope = counted ∨ id ≠ parentId ∧ scopes[id]? = some scope) ∨ ScopeKept scopes' id scope)
    (hlimits : ∀ (id above : String) scope upper, scopes[id]? = some scope → scope.parent = some above →
      scopes'[above]? = some upper → ∃ before, scopes[above]? = some before ∧ upper.remaining = before.remaining)
    (hfan : counted.activeChildren ≤ parent.remaining.maxFanOut)
    (hcount : childrenOf scopes' parentId = counted.activeChildren.toNat)
    (hothers : ∀ id, id ≠ parentId → ∀ scope, scopes[id]? = some scope → childrenOf scopes' id = childrenOf scopes id) :
    ScopesKept scopes' := by
  obtain ⟨hup, hdepth, hremaining⟩ := hsame
  intro id scope hscope
  rcases hold id scope hscope with (⟨rfl, rfl⟩ | ⟨hne, hbefore⟩) | hnew
  · have hkept := h id parent hparent
    rw [← hremaining] at hparallel hfan
    refine ⟨hkept.valid, hparallel, hcount, hfan, ?_, ?_⟩
    · intro above upper habove hupper
      rw [hup] at habove
      obtain ⟨before, hfound, hsame⟩ := hlimits id above parent upper hparent habove hupper
      rw [hdepth, hsame]
      exact hkept.level above before habove hfound
    · intro hnone
      rw [hdepth]
      exact hkept.rootDepth (hup.symm.trans hnone)
  · have hkept := h id scope hbefore
    refine ⟨hkept.valid, hkept.parallel, ?_, hkept.fanOut, ?_, hkept.rootDepth⟩
    · rw [hothers id hne scope hbefore, hkept.children]
    · intro above upper hup hupper
      obtain ⟨before, hfound, hsame⟩ := hlimits id above scope upper hbefore hup hupper
      rw [hsame]
      exact hkept.level above before hup hfound
  · exact hnew

theorem ScopesKept.replace (h : ScopesKept scopes)
    (hold : scopes[id]? = some old) (hparent : scope.parent = old.parent) (hdepth : scope.depth = old.depth)
    (hremaining : scope.remaining = old.remaining) (hchildren : scope.activeChildren = old.activeChildren)
    (hparallel : scope.activeParallel ≤ scope.remaining.maxParallel) : ScopesKept (scopes.insert id scope) := by
  have hkept := h id old hold
  refine h.recount hold ⟨hparent, hdepth, hremaining⟩ (hremaining ▸ hparallel) ?_ ?_ (hchildren ▸ hkept.fanOut) ?_ ?_
  · intro key found hfound
    rcases found_insert hfound with ⟨rfl, rfl⟩ | ⟨hne, hbefore⟩
    · exact .inl (.inl ⟨rfl, rfl⟩)
    · exact .inl (.inr ⟨Ne.symm hne, hbefore⟩)
  · intro _ above _ upper _ _ hupper
    rcases found_insert hupper with ⟨rfl, rfl⟩ | ⟨_, hbefore⟩
    · exact ⟨old, hold, hremaining⟩
    · exact ⟨upper, hbefore, rfl⟩
  · rw [childrenOf_replace hold hparent, hchildren, hkept.children]
  · exact fun key _ _ _ => childrenOf_replace hold hparent

theorem created_scopesKept
    (htree : Treelike root l) (h : ScopesKept l.scopes) (hid : validateLogicalId scopeId = .ok ())
    (hfresh : l.scopes[scopeId]? = none) (hparent : l.scopes[parentId]? = some parent)
    (hlevel : parent.depth + 1 ≤ parent.remaining.maxDepth) (hfan : parent.activeChildren < parent.remaining.maxFanOut)
    (hcounted : Recounted parent counted) (hchildren : counted.activeChildren = parent.activeChildren + 1) :
    ScopesKept ((l.scopes.insert parentId counted).insert scopeId (childOf parentId parent configured)) := by
  have hne : parentId ≠ scopeId := by
    rintro rfl
    rw [hparent] at hfresh
    cases hfresh
  have hcount : ∀ id, childrenOf ((l.scopes.insert parentId counted).insert scopeId (childOf parentId parent configured)) id =
      childrenOf l.scopes id + childCount id (childOf parentId parent configured) := by
    intro id
    rw [childrenOf_fresh ((insert_ne _ _ hne).trans hfresh), childrenOf_replace hparent hcounted.parent]
  have habove : ∀ (id above : String) scope, l.scopes[id]? = some scope → scope.parent = some above →
      scopeId ≠ above := by
    rintro id above scope hscope hup rfl
    obtain ⟨upper, hupper, _⟩ := htree.ranked id scope scopeId hscope hup
    rw [hupper] at hfresh
    cases hfresh
  have hlt := UInt32.lt_iff_toNat_lt.mp hfan
  have hincrement : counted.activeChildren.toNat = parent.activeChildren.toNat + 1 := by
    rw [hchildren, toNat_succ hfan]
  refine h.recount hparent ⟨hcounted.parent, hcounted.depth, hcounted.remaining⟩
    (hcounted.parallel ▸ (h parentId parent hparent).parallel) ?_ ?_ (UInt32.le_iff_toNat_le.mpr (by omega)) ?_ ?_
  · intro id scope hscope
    rcases found_insert hscope with ⟨rfl, rfl⟩ | ⟨_, hmid⟩
    · refine .inr ⟨hid, UInt32.zero_le, ?_, UInt32.zero_le, ?_, fun hnone => by cases hnone⟩
      · rw [hcount, childrenOf_eq_zero fun key scope hkey hup => habove key _ scope hkey hup rfl]
        simp [childCount, childOf, hne]
      · intro above upper hup hupper
        cases hup
        rw [insert_ne _ _ (Ne.symm hne), ExtTreeMap.getElem?_insert_self] at hupper
        cases hupper
        rw [hcounted.remaining]
        exact hlevel
    · rcases found_insert hmid with ⟨rfl, rfl⟩ | ⟨hother, hbefore⟩
      · exact .inl (.inl ⟨rfl, rfl⟩)
      · exact .inl (.inr ⟨Ne.symm hother, hbefore⟩)
  · intro id above scope upper hscope hup hupper
    rw [insert_ne _ _ (habove id above scope hscope hup)] at hupper
    rcases found_insert hupper with ⟨rfl, rfl⟩ | ⟨_, hbefore⟩
    · exact ⟨parent, hparent, hcounted.remaining⟩
    · exact ⟨upper, hbefore, rfl⟩
  · rw [hcount, (h parentId parent hparent).children, hincrement]
    simp [childCount, childOf]
  · intro id hother scope _
    rw [hcount]
    simp [childCount, childOf, Ne.symm hother]

private theorem closed_scopesKept (h : ScopesKept l.scopes) (hscope : l.scopes[scopeId]? = some scope)
    (hup : scope.parent = some parentId) (hparent : l.scopes[parentId]? = some parent)
    (hleaf : ∀ (id : String) child, l.scopes[id]? = some child → child.parent ≠ some scopeId)
    (hcounted : Recounted parent counted)
    (hchildren : counted.activeChildren = if parent.activeChildren = 0 then 0 else parent.activeChildren - 1) :
    ScopesKept ((l.scopes.erase scopeId).insert parentId counted) := by
  have hne : scopeId ≠ parentId := by
    rintro rfl
    exact hleaf scopeId scope hscope hup
  have hkeptParent : (l.scopes.erase scopeId)[parentId]? = some parent := (erase_ne _ hne).trans hparent
  have hcount : ∀ id, childrenOf ((l.scopes.erase scopeId).insert parentId counted) id + childCount id scope =
      childrenOf l.scopes id := by
    intro id
    rw [childrenOf_replace hkeptParent hcounted.parent, childrenOf_erase hscope]
  have hone : childCount parentId scope = 1 := by simp [childCount, hup]
  have hall := (h parentId parent hparent).children
  have hparentCount := hcount parentId
  have hdecrement : counted.activeChildren.toNat + 1 = parent.activeChildren.toNat := by
    have hpositive : parent.activeChildren ≠ 0 := by
      intro hzero
      rw [hzero] at hall
      have : (0 : UInt32).toNat = 0 := rfl
      omega
    rw [hchildren, if_neg hpositive, toNat_pred hpositive]
  have hfan := le_iff_toNat_le.mp (h parentId parent hparent).fanOut
  refine h.recount hparent ⟨hcounted.parent, hcounted.depth, hcounted.remaining⟩
    (hcounted.parallel ▸ (h parentId parent hparent).parallel) ?_ ?_ (le_iff_toNat_le.mpr (by omega)) (by omega) ?_
  · intro id found hfound
    rcases found_insert hfound with ⟨rfl, rfl⟩ | ⟨hother, hmid⟩
    · exact .inl (.inl ⟨rfl, rfl⟩)
    · exact .inl (.inr ⟨Ne.symm hother, (found_erase hmid).2⟩)
  · intro id above found upper hfound habove hupper
    rcases found_insert hupper with ⟨rfl, rfl⟩ | ⟨_, hmid⟩
    · exact ⟨parent, hparent, hcounted.remaining⟩
    · exact ⟨upper, (found_erase hmid).2, rfl⟩
  · intro id hother found _
    have hid := hcount id
    have hzero : childCount id scope = 0 := by simp [childCount, hup, Ne.symm hother]
    omega

/-- Each effect keeps the rules. -/
theorem effect_kept (htree : Treelike root l) (h : Kept l) (heffect : Effect l call l') : Kept l' := by
  cases heffect with
  | created hid hfresh hparent hdepth hlevel hfan =>
    exact ⟨created_scopesKept htree h.scopes hid hfresh hparent hlevel hfan ⟨rfl, rfl, rfl, rfl⟩ rfl,
      h.reservations, h.charges, h.loops⟩
  | closed hscope hup hparent hidle hleaf =>
    exact ⟨closed_scopesKept h.scopes hscope hup hparent hleaf ⟨rfl, rfl, rfl, rfl⟩ rfl,
      h.reservations, h.charges, h.loops⟩
  | reserved hid hsome hfresh huncharged hpath hscopes =>
    refine ⟨h.scopes.of_frames (hscopes.frames fun _ _ hok => ?_), ?_, h.charges, h.loops⟩
    · exact ((BudgetEnvelope.checkedSub_eq_ok _ _ _).mp hok).imp fun _ h => h.1
    · exact all_insert h.reservations ⟨hid, hsome⟩
  | charged hid hnew hrecord hunused hpath hscopes =>
    refine ⟨h.scopes.of_frames hscopes.refunded_frames, ?_, ?_, h.loops⟩
    · exact fun id record hfound => h.reservations id record (found_erase hfound).2
    · intro id hmem
      rcases ExtTreeSet.mem_insert.mp hmem with hequal | hold
      · obtain rfl := LawfulEqOrd.eq_of_compare hequal
        exact hid
      · exact h.charges id hold
  | repeated hknown => exact h
  | released hrecord hpath hscopes =>
    exact ⟨h.scopes.of_frames hscopes.refunded_frames,
      fun id record hfound => h.reservations id record (found_erase hfound).2, h.charges, h.loops⟩
  | @entered scopeId scope hscope hroom =>
    refine ⟨h.scopes.replace hscope rfl rfl rfl rfl ?_, h.reservations, h.charges, h.loops⟩
    refine le_iff_toNat_le.mpr ?_
    rw [toNat_succ hroom]
    exact lt_iff_toNat_lt.mp hroom
  | @left scopeId scope hscope =>
    refine ⟨h.scopes.replace hscope rfl rfl rfl rfl ?_, h.reservations, h.charges, h.loops⟩
    have hle := le_iff_toNat_le.mp (h.scopes scopeId scope hscope).parallel
    refine le_iff_toNat_le.mpr ?_
    split
    · exact Nat.zero_le _
    next hpositive =>
      exact (Nat.le.intro (toNat_pred hpositive)).trans hle
  | @iterated scopeId loopId maximum scope hscope hbelow =>
    refine ⟨h.scopes, h.reservations, h.charges, all_insert h.loops fun hzero => ?_⟩
    have hnat := congrArg UInt32.toNat hzero
    rw [toNat_succ hbelow] at hnat
    exact Nat.succ_ne_zero _ hnat
  | advanced hlater => exact ⟨h.scopes, h.reservations, h.charges, h.loops⟩

theorem new_kept (h : new root budget = .ok l) : Kept l := by
  obtain ⟨hvalid, rfl⟩ := new_eq_ok h
  refine ⟨?_, ?_, ?_, ?_⟩
  · intro id scope hscope
    obtain ⟨rfl, rfl⟩ := new_scopes hscope
    refine ⟨hvalid, UInt32.zero_le, ?_, UInt32.zero_le, fun _ _ hup => (by cases hup), fun _ => rfl⟩
    refine childrenOf_eq_zero fun key found hfound => ?_
    obtain ⟨_, rfl⟩ := new_scopes hfound
    exact some_ne_none _ |>.symm
  · intro id record hrecord
    simp at hrecord
  · intro id hmem
    simp at hmem
  · intro key count hcount
    simp at hcount

theorem run_kept (hbalanced : Balanced root budget l a) (h : Kept l)
    (calls : List LimitCall) : Treelike root (l.run calls) ∧ Kept (l.run calls) := by
  induction calls generalizing l a with
  | nil => exact ⟨hbalanced.tree, h⟩
  | cons call rest ih =>
    have hnext := auditedStep_balanced hbalanced call
    rw [auditedStep_ledger] at hnext
    refine ih hnext ?_
    show Kept (perform call l).2
    refine (perform_outcome hbalanced.tree hbalanced.fits call).elim (fun _ _ => effect_kept hbalanced.tree h)
      fun e l' hrefused => ?_
    have hsame : l' = { l with tick := l'.tick } := hrefused.same
    rw [hsame]
    exact ⟨h.scopes, h.reservations, h.charges, h.loops⟩

/-- A scope whose deadline is as far from the new tick as from the old one. -/
def shiftDeadline (tick newTick : UInt64) (scope : BudgetScope) : BudgetScope :=
  { scope with remaining := { scope.remaining with deadlineTick := newTick + (scope.remaining.deadlineTick - tick) } }

/-- The same ledger in a new epoch. -/
def resumedAt (l : LimitLedger) (newTick : UInt64) : LimitLedger :=
  { l with tick := newTick, scopes := l.scopes.map fun _ scope => shiftDeadline l.tick newTick scope }

/-- Every deadline is ahead and representable when counted from the new tick. -/
structure Timely (l : LimitLedger) (newTick : UInt64) : Prop where
  future : ∀ (id : String) (scope : BudgetScope), l.scopes[id]? = some scope → l.tick < scope.remaining.deadlineTick
  fits : ∀ (id : String) (scope : BudgetScope), l.scopes[id]? = some scope →
    newTick.toNat + (scope.remaining.deadlineTick.toNat - l.tick.toNat) ≤ u64Max

/-- What `restore` asks beyond the rules every run keeps: no charge id is an outstanding reservation's, and each loop
counter is filed under a live scope, read up to the first colon, and a valid loop id. -/
def Restorable (l : LimitLedger) : Prop :=
  (∀ id ∈ l.chargeIds, l.reservations[id]? = none) ∧
  ∀ (key : String) (count : UInt32), l.loopIterations[key]? = some count → ∃ scopeId loopId,
    splitOnce key = some (scopeId, loopId) ∧ (∃ scope, l.scopes[scopeId]? = some scope) ∧
      validateLogicalId loopId = .ok ()

section Restore
variable {newTick : UInt64}

theorem resumedAt_found (h : (l.resumedAt newTick).scopes[id]? = some scope') :
    ∃ scope, l.scopes[id]? = some scope ∧ scope' = shiftDeadline l.tick newTick scope := by
  rw [resumedAt, ExtTreeMap.getElem?_map] at h
  obtain ⟨scope, hscope, rfl⟩ := map_eq_some_iff.mp h
  exact ⟨scope, hscope, rfl⟩

theorem resumedAt_lookup (h : l.scopes[id]? = some scope) :
    (l.resumedAt newTick).scopes[id]? = some (shiftDeadline l.tick newTick scope) := by
  rw [resumedAt, ExtTreeMap.getElem?_map, h]
  rfl

theorem resumedAt_live (h : l.scopes[id]? = some scope) : (l.resumedAt newTick).scopes.contains id = true := by
  rw [ExtTreeMap.contains_eq_isSome_getElem?, resumedAt_lookup h]
  rfl

theorem Timely.distance (h : Timely l newTick) (hscope : l.scopes[id]? = some scope) :
    (newTick + (scope.remaining.deadlineTick - l.tick)).toNat =
      newTick.toNat + (scope.remaining.deadlineTick.toNat - l.tick.toNat) := by
  have hfuture := UInt64.lt_iff_toNat_lt.mp (h.future id scope hscope)
  have hfits := h.fits id scope hscope
  unfold u64Max at hfits
  have hle : l.tick ≤ scope.remaining.deadlineTick := UInt64.le_iff_toNat_le.mpr (Nat.le_of_lt hfuture)
  rw [UInt64.toNat_add, UInt64.toNat_sub_of_le _ _ hle, Nat.mod_eq_of_lt (by omega)]

theorem scopes_restore (h : Kept l) (htimely : Timely l newTick) :
    l.checkpoint.scopes.foldlM (restoreScope newTick) ∅ = .ok (l.resumedAt newTick).scopes := by
  refine foldlM_rebuild l.scopes (saveScope l.tick) (shiftDeadline l.tick newTick) _ ?_
  intro state id scope hscope _
  have hfuture := UInt64.lt_iff_toNat_lt.mp (htimely.future id scope hscope)
  have hle : l.tick ≤ scope.remaining.deadlineTick := UInt64.le_iff_toNat_le.mpr (Nat.le_of_lt hfuture)
  have hsaved : Worker.checkedSub scope.remaining.deadlineTick l.tick = some (scope.remaining.deadlineTick - l.tick) :=
    if_pos hle
  have hrestored : checkedAdd newTick (scope.remaining.deadlineTick - l.tick) =
      some (newTick + (scope.remaining.deadlineTick - l.tick)) := by
    rw [checkedAdd_eq_some, htimely.distance hscope, UInt64.toNat_sub_of_le _ _ hle]
  simp only [restoreScope, saveScope, (h.scopes id scope hscope).valid, hsaved, getD_some, hrestored]
  rfl

theorem resumedAt_kept (h : ScopesKept l.scopes) : ScopesKept (l.resumedAt newTick).scopes := by
  refine h.of_frames fun id => ?_
  rw [resumedAt, ExtTreeMap.getElem?_map, map_map]
  rfl

theorem resumedAt_treelike (h : Treelike root l) : Treelike root (l.resumedAt newTick) := by
  refine h.of_shape (fun id => ?_) h.filed
  rw [shapeOf, resumedAt, ExtTreeMap.getElem?_map, map_map, shapeOf]
  rfl

section
variable (htree : Treelike root l)
include htree

theorem checkRestoredScope_ok (h : Kept l) (htimely : Timely l newTick) :
    checkAll (checkRestoredScope newTick (l.resumedAt newTick).scopes) (values (l.resumedAt newTick).scopes) =
      .ok () := by
  rw [checkAll_eq_ok]
  intro scope' hvalue
  obtain ⟨id, hid⟩ := (mem_values _ _).mp hvalue
  obtain ⟨scope, hscope, rfl⟩ := resumedAt_found hid
  have hparallel : ¬scope.remaining.maxParallel < scope.activeParallel :=
    not_lt.mpr (h.scopes id scope hscope).parallel
  have hlate : ¬newTick + (scope.remaining.deadlineTick - l.tick) ≤ newTick := by
    have hfuture := lt_iff_toNat_lt.mp (htimely.future id scope hscope)
    rw [UInt64.le_iff_toNat_le, htimely.distance hscope]
    omega
  cases hup : scope.parent with
  | none =>
    simp only [checkRestoredScope, shiftDeadline, hup, hparallel, hlate, decide_false]
    rfl
  | some parentId =>
    obtain ⟨parent, hparent, _⟩ := htree.ranked id scope parentId hscope hup
    simp only [checkRestoredScope, shiftDeadline, hup, hparallel, hlate, resumedAt_live hparent, decide_false]
    rfl

theorem one_root (hroot : l.scopes[root]? = some rootScope) :
    ((values l.scopes).filter fun scope => scope.parent.isNone).length = 1 := by
  have hnone : rootScope.parent = none := (htree.rooted root rootScope hroot).mpr rfl
  have hrest : sumValues (fun scope : BudgetScope => if scope.parent.isNone then 1 else 0)
      (l.scopes.erase root) = 0 := by
    refine (sumValues_congr fun scope hscope => ?_).trans (sumValues_zero _)
    obtain ⟨id, hid⟩ := (mem_values _ _).mp hscope
    obtain ⟨hne, hfound⟩ := found_erase hid
    have hparent : scope.parent ≠ none := fun hp => hne ((htree.rooted id scope hfound).mp hp)
    rw [if_neg (by simpa using hparent)]
  have hsum := sumValues_erase (fun scope : BudgetScope => if scope.parent.isNone then 1 else 0) hroot
  rw [length_filter_values, ← hsum, hrest, hnone]
  rfl

theorem checkRestoredTree_ok (h : ScopesKept l.scopes) :
    checkAll (checkRestoredTree l.scopes) l.scopes.toList = .ok () := by
  rw [checkAll_eq_ok]
  rintro ⟨id, scope⟩ hentry
  have hscope := ExtTreeMap.mem_toList_iff_getElem?_eq_some.mp hentry
  have hkept := h id scope hscope
  have hfan : ¬scope.remaining.maxFanOut < scope.activeChildren := not_lt.mpr hkept.fanOut
  cases hup : scope.parent with
  | none =>
    simp only [checkRestoredTree, hkept.children, hfan, hup, hkept.rootDepth hup, ne_eq, not_true_eq_false, decide_false]
    rfl
  | some parentId =>
    obtain ⟨parent, hparent, hdepth⟩ := htree.ranked id scope parentId hscope hup
    have hlevel : ¬parent.remaining.maxDepth < scope.depth := not_lt.mpr (hkept.level parentId parent hup hparent)
    have hsaturated : saturatingAdd u32Max parent.depth.toNat 1 = scope.depth.toNat := by
      have hbound := scope.depth.toNat_lt
      rw [saturatingAdd_of_le (by unfold u32Max; omega), hdepth]
    simp only [checkRestoredTree, hkept.children, hfan, hup, hparent, ne_eq, not_true_eq_false, decide_false]
    show refuseIf (decide ¬scope.depth.toNat = saturatingAdd u32Max parent.depth.toNat 1 ||
      decide (parent.remaining.maxDepth < scope.depth)) LimitError.structuralLimit = .ok ()
    rw [hsaturated, refuseIf_eq_ok]
    simp [hlevel]

theorem reservations_restore (h : Kept l) :
    l.checkpoint.reservations.foldlM (restoreReservation (l.resumedAt newTick).scopes) ∅ = .ok l.reservations := by
  have hsame : l.reservations.map (fun _ record => record) = l.reservations := by
    refine ExtTreeMap.ext_getElem? fun id => ?_
    rw [ExtTreeMap.getElem?_map, map_id']
  rw [← congrArg Except.ok hsame]
  refine foldlM_rebuild l.reservations Prod.snd (fun record => record) _ ?_
  intro state id record hrecord hfresh
  obtain ⟨hkey, scope, hscope⟩ := htree.filed id record hrecord
  obtain ⟨hvalid, hsome⟩ := h.reservations id record hrecord
  have hnew : state.contains id = false := by
    rw [ExtTreeMap.contains_eq_isSome_getElem?, hfresh]
    rfl
  simp only [restoreReservation, hkey, hvalid, resumedAt_live hscope, hsome, hnew]
  rfl

end

private theorem charges_restore (l : LimitLedger) :
    (ExtTreeSet.ofList l.checkpoint.chargeIds : ExtTreeSet String) = l.chargeIds := ofList_toList _

private theorem loops_restore (l : LimitLedger) :
    (ExtTreeMap.ofList l.checkpoint.loopIterations : ExtTreeMap String UInt32) = l.loopIterations := by
  refine ExtTreeMap.ext_getElem? fun key => ?_
  cases hfound : l.loopIterations[key]? with
  | none =>
    refine ExtTreeMap.getElem?_ofList_of_contains_eq_false ?_
    rw [checkpoint, ExtTreeMap.map_fst_toList_eq_keys, ← Bool.not_eq_true, List.contains_iff_mem,
      ExtTreeMap.mem_keys, ExtTreeMap.mem_iff_isSome_getElem?, hfound]
    exact Bool.false_ne_true
  | some count =>
    refine ExtTreeMap.getElem?_ofList_of_mem ReflCmp.compare_self ?_
      (ExtTreeMap.mem_toList_iff_getElem?_eq_some.mpr hfound)
    exact ExtTreeMap.distinct_keys_toList

theorem charge_free (h : ¬(!(validateLogicalId id).isOk || l.reservations.contains id) = true) :
    l.reservations[id]? = none := by
  rw [Bool.or_eq_true, not_or] at h
  exact contains_eq_false (Bool.not_eq_true _ ▸ h.2)

private theorem loop_filed (h : ¬(!restorableLoop (l.resumedAt newTick).scopes (key, count)) = true) : ∃ scopeId loopId,
      splitOnce key = some (scopeId, loopId) ∧ (∃ scope, l.scopes[scopeId]? = some scope) ∧
        validateLogicalId loopId = .ok () := by
  cases hsplit : splitOnce key with
  | none => simp [restorableLoop, hsplit] at h
  | some parts =>
    obtain ⟨scopeId, loopId⟩ := parts
    simp only [restorableLoop, hsplit, met, Bool.not_eq_false] at h
    obtain ⟨_, hlive, hvalid⟩ := h
    rw [ExtTreeMap.contains_eq_isSome_getElem?, isSome_iff_exists] at hlive
    obtain ⟨scope', hscope'⟩ := hlive
    obtain ⟨scope, hscope, _⟩ := resumedAt_found hscope'
    exact ⟨scopeId, loopId, rfl, ⟨scope, hscope⟩, eq_ok_of_isOk _ () hvalid⟩

private theorem loop_restorable (hcount : count ≠ 0)
    (h : ∃ scopeId loopId, splitOnce key = some (scopeId, loopId) ∧ (∃ scope, l.scopes[scopeId]? = some scope) ∧
      validateLogicalId loopId = .ok ()) : ¬(!restorableLoop (l.resumedAt newTick).scopes (key, count)) = true := by
  obtain ⟨scopeId, loopId, hsplit, ⟨scope, hscope⟩, hvalid⟩ := h
  simp only [restorableLoop, hsplit, resumedAt_live hscope, hvalid, bne_iff_ne.mpr hcount]
  exact Bool.false_ne_true

/-- On a ledger that keeps the rules, `restore` comes down to two checks. -/
theorem restore_checkpoint_eq (htree : Treelike root l) (hroot : ∃ scope, l.scopes[root]? = some scope) (h : Kept l)
    (htimely : Timely l newTick) :
    restore l.checkpoint newTick = (do
      refuseIf (l.chargeIds.toList.any fun id => !(validateLogicalId id).isOk || l.reservations.contains id)
        .invalidReservation
      refuseIf (l.loopIterations.toList.any fun entry => !restorableLoop (l.resumedAt newTick).scopes entry)
        .invalidReservation
      return l.resumedAt newTick) := by
  obtain ⟨rootScope, hrootScope⟩ := hroot
  have hresumed : Treelike root (l.resumedAt newTick) := resumedAt_treelike htree
  have hone := one_root hresumed (resumedAt_lookup hrootScope)
  have htreeOk := checkRestoredTree_ok hresumed (resumedAt_kept h.scopes)
  have hchargeSize : l.chargeIds.size = l.checkpoint.chargeIds.length := ExtTreeSet.length_toList.symm
  have hloopSize : l.loopIterations.size = l.checkpoint.loopIterations.length := ExtTreeMap.length_toList.symm
  simp only [restore, scopes_restore h htimely, ok_bind, checkRestoredScope_ok htree h htimely, hone, htreeOk,
    reservations_restore htree h, charges_restore, loops_restore, hchargeSize, hloopSize, ne_eq, not_true_eq_false,
    decide_false, Bool.false_or]
  rfl

/-- From any reachable ledger whose deadlines are ahead and representable, `restore` gives the same ledger in the new
epoch exactly when charge ids and loop counters meet its checks. -/
theorem checkpoint_restores_iff (budget : BudgetEnvelope) (hnew : new root budget = .ok l) (calls : List LimitCall)
    (newTick : UInt64) (htimely : Timely (l.run calls) newTick) :
    (restore (l.run calls).checkpoint newTick = .ok ((l.run calls).resumedAt newTick) ↔ Restorable (l.run calls)) ∧
    ∀ (id : String) (before : BudgetEnvelope), (l.run calls).remaining id = some before →
      ∃ after, ((l.run calls).resumedAt newTick).remaining id = some after ∧ after = { before with
        deadlineTick := after.deadlineTick } ∧ newTick < after.deadlineTick ∧
        after.deadlineTick.toNat - newTick.toNat = before.deadlineTick.toNat - (l.run calls).tick.toNat := by
  have hbalanced := auditedRun_balanced (new_balanced hnew) calls
  rw [auditedRun_ledger] at hbalanced
  obtain ⟨htree, hkept⟩ := run_kept (new_balanced hnew) (new_kept hnew) calls
  generalize l.run calls = reached at *
  refine ⟨?_, ?_⟩
  · rw [restore_checkpoint_eq htree hbalanced.rootLive hkept htimely]
    simp only [passes, List.any_eq_false, ExtTreeSet.mem_toList, Prod.forall,
      ExtTreeMap.mem_toList_iff_getElem?_eq_some]
    constructor
    · rintro ⟨_, hcharges, _, hloops, _⟩
      exact ⟨fun id hid => charge_free (hcharges id hid), fun key count hcount => loop_filed (hloops key count hcount)⟩
    · rintro ⟨hcharges, hloops⟩
      refine ⟨(), fun id hid => ?_, (), fun key count hcount => ?_, rfl⟩
      · rw [hkept.charges id hid, ExtTreeMap.contains_eq_isSome_getElem?, hcharges id hid]
        decide
      · exact loop_restorable (hkept.loops key count hcount) (hloops key count hcount)
  · intro id before hbefore
    obtain ⟨scope, hscope, rfl⟩ := map_eq_some_iff.mp hbefore
    have hdistance := htimely.distance hscope
    have hfuture := lt_iff_toNat_lt.mp (htimely.future id scope hscope)
    refine ⟨(shiftDeadline reached.tick newTick scope).remaining, ?_, rfl, ?_, ?_⟩
    · rw [remaining, resumedAt_lookup hscope]
      rfl
    · rw [UInt64.lt_iff_toNat_lt]
      show newTick.toNat < (newTick + (scope.remaining.deadlineTick - reached.tick)).toNat
      omega
    · show (newTick + (scope.remaining.deadlineTick - reached.tick)).toNat - newTick.toNat = _
      omega

instance (l : LimitLedger) (newTick : UInt64) : Decidable (Timely l newTick) :=
  decidable_of_iff (∀ entry ∈ l.scopes.toList, l.tick < entry.2.remaining.deadlineTick ∧
      newTick.toNat + (entry.2.remaining.deadlineTick.toNat - l.tick.toNat) ≤ u64Max) (by
    simp only [Prod.forall, ExtTreeMap.mem_toList_iff_getElem?_eq_some]
    exact ⟨fun h => ⟨fun id scope hscope => (h id scope hscope).1, fun id scope hscope => (h id scope hscope).2⟩,
      fun h id scope hscope => ⟨h.future id scope hscope, h.fits id scope hscope⟩⟩)

/-- Two reservations, one of them settled under the other's id. -/
def crossedCalls : List LimitCall :=
  [.reserve "r" "a" ⟨1, 0, 0, 0, 0, 0⟩, .reserve "r" "b" ⟨1, 0, 0, 0, 0, 0⟩, .charge "a" "b" ⟨1, 0, 0, 0, 0, 0⟩]

/-- A charge id may be an outstanding reservation's; this is refused. -/
theorem crossed_charge_not_restored : new "r" sampleBudget = .ok sampleLedger ∧ Timely (sampleLedger.run crossedCalls) 0 ∧
    (restore (sampleLedger.run crossedCalls).checkpoint 0).isOk = false :=
  ⟨new_sampleLedger, by decide +kernel, by decide +kernel⟩

def loopedCalls : List LimitCall := sampleCalls ++ [.nextLoopIteration "r" "b" 2]

private theorem loopedCalls_restorable : Restorable (sampleLedger.run loopedCalls) := by
  have hcharges : ∀ id ∈ (sampleLedger.run loopedCalls).chargeIds.toList,
      (sampleLedger.run loopedCalls).reservations[id]? = none := by decide +kernel
  have hloops : ∀ entry ∈ (sampleLedger.run loopedCalls).loopIterations.toList, entry.1 = "r:b" := by decide +kernel
  have hsplit : splitOnce "r:b" = some ("r", "b") := by decide +kernel
  have hlive : ((sampleLedger.run loopedCalls).scopes[("r" : String)]?).isSome = true := by decide +kernel
  have hvalid : validateLogicalId "b" = .ok () := by decide +kernel
  refine ⟨fun id hid => hcharges id (ExtTreeSet.mem_toList.mpr hid), fun key count hcount => ?_⟩
  obtain rfl : key = "r:b" := hloops (key, count) (ExtTreeMap.mem_toList_iff_getElem?_eq_some.mpr hcount)
  exact ⟨"r", "b", hsplit, isSome_iff_exists.mp hlive, hvalid⟩

theorem sample_checkpoint_restored : Timely (sampleLedger.run loopedCalls) 20 ∧
    restore (sampleLedger.run loopedCalls).checkpoint 20 = .ok ((sampleLedger.run loopedCalls).resumedAt 20) := by
  have htimely : Timely (sampleLedger.run loopedCalls) 20 := by decide +kernel
  exact ⟨htimely, (checkpoint_restores_iff sampleBudget new_sampleLedger loopedCalls 20 htimely).1.mpr
    loopedCalls_restorable⟩

/-- The structural limits hold in every run: the live scopes are one tree, whose parallel work, children and depths stay
within the envelopes, each scope counting exactly its live children. -/
theorem limits_kept (budget : BudgetEnvelope) (hnew : new root budget = .ok l) (calls : List LimitCall) :
    Treelike root (l.run calls) ∧ Kept (l.run calls) :=
  run_kept (new_balanced hnew) (new_kept hnew) calls

theorem sample_limits_kept : Kept (sampleLedger.run loopedCalls) :=
  (limits_kept sampleBudget new_sampleLedger loopedCalls).2

end Restore

end LimitLedger

end Aworkit.Worker
