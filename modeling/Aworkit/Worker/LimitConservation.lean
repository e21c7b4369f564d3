import Aworkit.Worker.LimitEffect

/-! Budget conservation: what a scope has left, what is reserved in its subtree and what was spent there add up to its
envelope. -/
namespace Aworkit.Worker
open Protocol Fallible Hoare Forest OrderedMap Std List ExtTreeMap

variable {change : BudgetEnvelope → Except LimitError BudgetEnvelope} {scopes : ExtTreeMap String BudgetScope}
  {id : String}

/-- A settling charge: the scopes it was charged to and the committed usage. -/
structure Settlement where
  lineage : List String
  actual : Usage
deriving DecidableEq, Repr

/-- The envelope of a live scope at its creation, and how many settlements preceded it. -/
structure Grant where
  envelope : BudgetEnvelope
  since : Nat
deriving DecidableEq, Repr

/-- A record kept beside the ledger, which the ledger never reads. -/
structure Audit where
  grants : ExtTreeMap String Grant
  settlements : List Settlement

namespace LimitLedger
variable {l l' : LimitLedger} {root : String}

def lineageOf (l : LimitLedger) (id : String) : List String :=
  match l.scopeLineage id with
  | .ok lineage => lineage
  | .error _ => []

/-- What is reserved in the subtree of a scope. -/
def outstandingIn (l : LimitLedger) (id : String) (d : Dimension) : Nat :=
  sumValues (fun record => if id ∈ l.lineageOf record.scopeId then (record.reserved.amount d).toNat else 0)
    l.reservations

def outstanding (l : LimitLedger) (d : Dimension) : Nat :=
  sumValues (fun record => (record.reserved.amount d).toNat) l.reservations

end LimitLedger

/-- What was spent in the subtree of a scope. -/
def spentIn (settlements : List Settlement) (id : String) (d : Dimension) : Nat :=
  ((settlements.filter fun settlement => id ∈ settlement.lineage).map fun settlement =>
    (settlement.actual.amount d).toNat).sum

def spent (settlements : List Settlement) (d : Dimension) : Nat :=
  (settlements.map fun settlement => (settlement.actual.amount d).toNat).sum

namespace Audit

def initial (root : String) (budget : BudgetEnvelope) : Audit :=
  { grants := (∅ : ExtTreeMap String Grant).insert root { envelope := budget, since := 0 }, settlements := [] }

/-- The record after a call that answered. A known charge id settles nothing. -/
def observe (a : Audit) (call : LimitCall) (l l' : LimitLedger) : Audit :=
  match call with
  | .createChild scopeId _ _ =>
    match l'.scopes[scopeId]? with
    | none => a
    | some scope => { a with grants := a.grants.insert scopeId ⟨scope.remaining, a.settlements.length⟩ }
  | .closeChild scopeId => { a with grants := a.grants.erase scopeId }
  | .charge reservationId chargeId actual =>
    if l.chargeIds.contains chargeId then a
    else
      match l.reservations[reservationId]? with
      | none => a
      | some record => { a with settlements := a.settlements ++ [⟨l.lineageOf record.scopeId, actual⟩] }
  | _ => a

end Audit

variable (s : LimitLedger × Audit)

def auditedStep (call : LimitCall) : LimitLedger × Audit :=
  match LimitLedger.perform call s.1 with
  | (.ok _, l') => (l', s.2.observe call s.1 l')
  | (.error _, l') => (l', s.2)

def auditedRun (calls : List LimitCall) : LimitLedger × Audit := calls.foldl auditedStep s

theorem spentIn_append (first second : List Settlement) (id : String) (d : Dimension) :
    spentIn (first ++ second) id d = spentIn first id d + spentIn second id d := by
  simp [spentIn]

theorem spentIn_eq_spent (h : ∀ s ∈ settlements, id ∈ s.lineage)
    (d : Dimension) : spentIn settlements id d = spent settlements d := by
  rw [spentIn, filter_eq_self.mpr fun s hs => decide_eq_true (h s hs), spent]

theorem auditedStep_ledger (call : LimitCall) : (auditedStep s call).1 = (LimitLedger.perform call s.1).2 := by
  unfold auditedStep
  split <;> simp_all

theorem auditedRun_ledger (calls : List LimitCall) : (auditedRun s calls).1 = s.1.run calls := by
  induction calls generalizing s with
  | nil => rfl
  | cons call rest ih =>
    show (auditedRun (auditedStep s call) rest).1 = LimitLedger.run _ rest
    rw [ih, auditedStep_ledger]

namespace LimitLedger
variable {l l' : LimitLedger} {root : String}

variable {lineage : List String} {old scope parent : BudgetScope} {record : ReservationRecord}
  {budget : BudgetEnvelope} {a a' : Audit} {extra : List Settlement} {key scopeId parentId reservationId : String}

theorem lineageOf_eq (hpath : Lineage l.parentOf id lineage) : l.lineageOf id = lineage := by
  rw [lineageOf, scopeLineage_eq hpath]

/-- Parent and depth of a scope, which only its creation writes. -/
def shapeOf (l : LimitLedger) (id : String) : Option (Option String × UInt32) :=
  l.scopes[id]?.map fun scope => (scope.parent, scope.depth)

theorem shapeOf_eq_some :
    l.shapeOf id = some shape ↔ ∃ scope, l.scopes[id]? = some scope ∧ (scope.parent, scope.depth) = shape :=
  Option.map_eq_some_iff

theorem parentOf_of_shape (h : l'.shapeOf id = l.shapeOf id) : l'.parentOf id = l.parentOf id := by
  have hfst := congrArg (Option.map Prod.fst) h
  simpa [shapeOf, parentOf, Function.comp_def] using hfst

theorem live_of_shape (hshape : l'.shapeOf id = l.shapeOf id) (h : ∃ scope, l.scopes[id]? = some scope) :
    ∃ scope, l'.scopes[id]? = some scope := by
  obtain ⟨scope, hscope⟩ := h
  obtain ⟨new, hnew, _⟩ := shapeOf_eq_some.mp (hshape.trans (shapeOf_eq_some.mpr ⟨scope, hscope, rfl⟩))
  exact ⟨new, hnew⟩

theorem Treelike.of_shape (h : Treelike root l) (hshape : ∀ id, l'.shapeOf id = l.shapeOf id)
    (hfiled : ∀ (id : String) record, l'.reservations[id]? = some record →
      record.reservationId = id ∧ ∃ scope, l.scopes[record.scopeId]? = some scope) : Treelike root l' := by
  have hback : ∀ (id : String) scope, l'.scopes[id]? = some scope →
      ∃ old, l.scopes[id]? = some old ∧ old.parent = scope.parent ∧ old.depth = scope.depth := by
    intro id scope hscope
    obtain ⟨old, hold, hsame⟩ := shapeOf_eq_some.mp ((hshape id).symm.trans (shapeOf_eq_some.mpr ⟨scope, hscope, rfl⟩))
    exact ⟨old, hold, congrArg Prod.fst hsame, congrArg Prod.snd hsame⟩
  have hforth : ∀ (id : String) scope, l.scopes[id]? = some scope →
      ∃ new, l'.scopes[id]? = some new ∧ new.depth = scope.depth := by
    intro id scope hscope
    obtain ⟨new, hnew, hsame⟩ := shapeOf_eq_some.mp ((hshape id).trans (shapeOf_eq_some.mpr ⟨scope, hscope, rfl⟩))
    exact ⟨new, hnew, congrArg Prod.snd hsame⟩
  refine ⟨?_, ?_, ?_⟩
  · intro id scope hscope
    obtain ⟨old, hold, hparent, _⟩ := hback id scope hscope
    rw [← hparent]
    exact h.rooted id old hold
  · intro id scope parentId hscope hup
    obtain ⟨old, hold, hparent, hdepth⟩ := hback id scope hscope
    obtain ⟨parent, hfound, hlater⟩ := h.ranked id old parentId hold (hparent.trans hup)
    obtain ⟨new, hnew, hsame⟩ := hforth parentId parent hfound
    exact ⟨new, hnew, by rw [← hdepth, hsame, hlater]⟩
  · intro id record hrecord
    obtain ⟨hkey, scope, hscope⟩ := hfiled id record hrecord
    obtain ⟨new, hnew, _⟩ := hforth record.scopeId scope hscope
    exact ⟨hkey, new, hnew⟩

theorem shapeOf_setScope (hold : l.scopes[id]? = some old) (hparent : scope.parent = old.parent)
    (hdepth : scope.depth = old.depth) (other : String) : (l.setScope id scope).shapeOf other = l.shapeOf other := by
  by_cases hne : id = other
  · subst hne
    simp [shapeOf, setScope, hold, hparent, hdepth]
  · rw [shapeOf, setScope, insert_ne _ _ hne, shapeOf]

theorem Adjusted.shape
    (h : Adjusted change lineage l.scopes l'.scopes) (id : String) : l'.shapeOf id = l.shapeOf id := by
  by_cases hid : id ∈ lineage
  · obtain ⟨scope, remaining, hbefore, _, hafter⟩ := h.inside id hid
    simp [shapeOf, hbefore, hafter]
  · rw [shapeOf, h.outside id hid, shapeOf]

/-- The amount still unspent by a scope, or reserved in its subtree. -/
def heldBy (l : LimitLedger) (id : String) (scope : BudgetScope) (d : Dimension) : Nat :=
  (scope.remaining.amount d).toNat + l.outstandingIn id d

/-- What holds of a ledger and its record in every run. -/
structure Balanced (root : String) (budget : BudgetEnvelope) (l : LimitLedger) (a : Audit) : Prop where
  tree : Treelike root l
  rootLive : ∃ scope, l.scopes[root]? = some scope
  rootGrant : a.grants[root]? = some ⟨budget, 0⟩
  rootCharged : ∀ settlement ∈ a.settlements, root ∈ settlement.lineage
  balance : ∀ (id : String) (scope : BudgetScope), l.scopes[id]? = some scope → ∃ grant, a.grants[id]? = some grant ∧
    grant.since ≤ a.settlements.length ∧
    ∀ d, l.heldBy id scope d + spentIn (a.settlements.drop grant.since) id d = (grant.envelope.amount d).toNat

theorem record_lineage (h : Treelike root l) (hrecord : l.reservations[id]? = some record) :
    ∃ lineage, Lineage l.parentOf record.scopeId lineage ∧ l.lineageOf record.scopeId = lineage := by
  obtain ⟨_, scope, hscope⟩ := h.filed id record hrecord
  obtain ⟨lineage, hpath, _⟩ := exists_scopeLineage h hscope
  exact ⟨lineage, hpath, lineageOf_eq hpath⟩

theorem root_mem_lineage (h : Treelike root l) (hpath : Lineage l.parentOf id lineage) : root ∈ lineage := by
  obtain ⟨top, htop, hparent⟩ := hpath.root_mem
  obtain ⟨scope, hscope, hnone⟩ := Option.map_eq_some_iff.mp hparent
  rwa [← (h.rooted top scope hscope).mp hnone]

theorem outstandingIn_root (h : Treelike root l) (d : Dimension) : l.outstandingIn root d = l.outstanding d := by
  refine sumValues_congr fun record hrecord => ?_
  obtain ⟨id, hid⟩ := (mem_values _ _).mp hrecord
  obtain ⟨lineage, hpath, hlineage⟩ := record_lineage h hid
  rw [hlineage, if_pos (root_mem_lineage h hpath)]

/-- The refunds of a balanced ledger fit, since each is part of an envelope. -/
theorem Balanced.fits (h : Balanced root budget l a) : Fits l := by
  intro id record lineage hrecord hpath k hk scope hscope d
  obtain ⟨grant, _, _, hsum⟩ := h.balance k scope hscope
  have hpart := le_sumValues
    (fun record => if k ∈ l.lineageOf record.scopeId then (record.reserved.amount d).toNat else 0) _ _ _ hrecord
  rw [lineageOf_eq hpath, if_pos hk] at hpart
  have hbound := (grant.envelope.amount d).toNat_lt
  have htotal := hsum d
  unfold heldBy outstandingIn at htotal
  unfold u64Max
  omega

theorem outstandingIn_congr (hkept : ∀ (id : String) record,
      l.reservations[id]? = some record → l'.lineageOf record.scopeId = l.lineageOf record.scopeId)
    (hsame : l'.reservations = l.reservations) (id : String) (d : Dimension) :
    l'.outstandingIn id d = l.outstandingIn id d := by
  rw [outstandingIn, hsame]
  refine sumValues_congr fun record hrecord => ?_
  obtain ⟨key, hkey⟩ := (mem_values _ _).mp hrecord
  rw [hkept key record hkey]

theorem lineageOf_congr (hpath : Lineage l.parentOf id lineage) (hsame : ∀ k ∈ lineage, l'.parentOf k = l.parentOf k) :
    l'.lineageOf id = l.lineageOf id := by
  rw [lineageOf_eq hpath, lineageOf_eq (hpath.congr hsame)]

/-- A ledger whose live scopes hold what they held, less what was spent, stays balanced; a new scope holds its
envelope. -/
theorem Balanced.transfer
    (h : Balanced root budget l a) (htree : Treelike root l') (hroot : ∃ scope, l'.scopes[root]? = some scope)
    (hgrant : a'.grants[root]? = a.grants[root]?) (hsettlements : a'.settlements = a.settlements ++ extra)
    (hcharged : ∀ settlement ∈ extra, root ∈ settlement.lineage)
    (hscopes : ∀ id scope', l'.scopes[id]? = some scope' →
      (∃ scope, l.scopes[id]? = some scope ∧ a'.grants[id]? = a.grants[id]? ∧
        ∀ d, l'.heldBy id scope' d + spentIn extra id d = l.heldBy id scope d) ∨
      (a'.grants[id]? = some ⟨scope'.remaining, a'.settlements.length⟩ ∧ ∀ d, l'.outstandingIn id d = 0)) :
    Balanced root budget l' a' := by
  refine ⟨htree, hroot, hgrant.trans h.rootGrant, ?_, ?_⟩
  · intro settlement hmem
    rw [hsettlements, mem_append] at hmem
    exact hmem.elim (h.rootCharged settlement) (hcharged settlement)
  · intro id scope' hscope'
    rcases hscopes id scope' hscope' with ⟨scope, hscope, hsame, hheld⟩ | ⟨hnew, hnone⟩
    · obtain ⟨grant, hgranted, hsince, hsum⟩ := h.balance id scope hscope
      refine ⟨grant, hsame.trans hgranted, ?_, ?_⟩
      · rw [hsettlements, length_append]
        omega
      · intro d
        rw [hsettlements, drop_append_of_le_length hsince, spentIn_append]
        have hd := hheld d
        have htotal := hsum d
        omega
    · refine ⟨_, hnew, Nat.le_refl _, ?_⟩
      intro d
      rw [drop_length, heldBy, hnone d]
      rfl

theorem lineageOf_of_shape (hshape : ∀ id, l'.shapeOf id = l.shapeOf id)
    (hpath : Lineage l.parentOf id lineage) : l'.lineageOf id = lineage :=
  lineageOf_eq (hpath.congr fun k _ => parentOf_of_shape (hshape k))

theorem outstandingIn_of_shape (h : Treelike root l) (hshape : ∀ id, l'.shapeOf id = l.shapeOf id) (id : String)
    (d : Dimension) : sumValues (fun record => if id ∈ l'.lineageOf record.scopeId then
      (record.reserved.amount d).toNat else 0) l.reservations = l.outstandingIn id d := by
  refine sumValues_congr fun record hrecord => ?_
  obtain ⟨key, hkey⟩ := (mem_values _ _).mp hrecord
  obtain ⟨lineage, hpath, hlineage⟩ := record_lineage h hkey
  rw [hlineage, lineageOf_of_shape hshape hpath]

/-- What a record adds to the reserved amount of a scope. -/
def share (lineage : List String) (usage : Usage) (id : String) (d : Dimension) : Nat :=
  if id ∈ lineage then (usage.amount d).toNat else 0

theorem outstandingIn_insert (h : Treelike root l) (hshape : ∀ id, l'.shapeOf id = l.shapeOf id)
    (hfresh : l.reservations[key]? = none) (hinsert : l'.reservations = l.reservations.insert key record)
    (hpath : Lineage l.parentOf record.scopeId lineage) (id : String) (d : Dimension) :
    l'.outstandingIn id d = l.outstandingIn id d + share lineage record.reserved id d := by
  have hsum := sumValues_insert (fun record => if id ∈ l'.lineageOf record.scopeId then
    (record.reserved.amount d).toNat else 0) l.reservations key record
  rw [hfresh, lineageOf_of_shape hshape hpath, outstandingIn_of_shape h hshape] at hsum
  rw [outstandingIn, hinsert]
  exact hsum

theorem outstandingIn_erase (h : Treelike root l) (hshape : ∀ id, l'.shapeOf id = l.shapeOf id)
    (hrecord : l.reservations[key]? = some record) (herase : l'.reservations = l.reservations.erase key)
    (hpath : Lineage l.parentOf record.scopeId lineage) (id : String) (d : Dimension) :
    l'.outstandingIn id d + share lineage record.reserved id d = l.outstandingIn id d := by
  have hsum := sumValues_erase (fun record => if id ∈ l'.lineageOf record.scopeId then
    (record.reserved.amount d).toNat else 0) hrecord
  rw [lineageOf_of_shape hshape hpath, outstandingIn_of_shape h hshape] at hsum
  rw [outstandingIn, herase]
  exact hsum

theorem Balanced.adjusted (h : Balanced root budget l a) (htree : Treelike root l')
    (hscopes : Adjusted change lineage l.scopes l'.scopes) (hgrants : a'.grants = a.grants)
    (hsettlements : a'.settlements = a.settlements ++ extra) (hcharged : ∀ settlement ∈ extra, root ∈ settlement.lineage)
    (hinside : ∀ id ∈ lineage, ∀ before after : BudgetEnvelope, change before = .ok after → ∀ d,
      (after.amount d).toNat + l'.outstandingIn id d + spentIn extra id d = (before.amount d).toNat + l.outstandingIn id d)
    (houtside : ∀ id, id ∉ lineage → ∀ d, l'.outstandingIn id d + spentIn extra id d = l.outstandingIn id d) :
    Balanced root budget l' a' := by
  refine h.transfer htree (live_of_shape (hscopes.shape root) h.rootLive) (by rw [hgrants]) hsettlements hcharged ?_
  intro id scope' hscope'
  left
  by_cases hid : id ∈ lineage
  · obtain ⟨scope, remaining, hbefore, hchange, hafter⟩ := hscopes.inside id hid
    rw [hafter] at hscope'
    obtain rfl := Option.some.inj hscope'
    exact ⟨scope, hbefore, by rw [hgrants], hinside id hid scope.remaining remaining hchange⟩
  · rw [hscopes.outside id hid] at hscope'
    refine ⟨scope', hscope', by rw [hgrants], ?_⟩
    intro d
    have hsame := houtside id hid d
    unfold heldBy
    omega

theorem Balanced.quiet (h : Balanced root budget l a)
    (hshape : ∀ id, l'.shapeOf id = l.shapeOf id) (hsame : l'.reservations = l.reservations)
    (hremaining : ∀ (id : String) scope', l'.scopes[id]? = some scope' →
      ∃ scope, l.scopes[id]? = some scope ∧ scope'.remaining = scope.remaining) : Balanced root budget l' a := by
  have htree : Treelike root l' := h.tree.of_shape hshape (by rw [hsame]; exact h.tree.filed)
  refine h.transfer htree (live_of_shape (hshape root) h.rootLive) rfl (append_nil _).symm (by simp) ?_
  intro id scope' hscope'
  obtain ⟨scope, hscope, hequal⟩ := hremaining id scope' hscope'
  refine .inl ⟨scope, hscope, rfl, fun d => ?_⟩
  rw [heldBy, heldBy, hequal, outstandingIn, hsame, outstandingIn_of_shape h.tree hshape]
  rfl

theorem setScope_remaining (hold : l.scopes[id]? = some old) (hsame : scope.remaining = old.remaining) (other : String)
    (found : BudgetScope) (hfound : (l.setScope id scope).scopes[other]? = some found) :
    ∃ before, l.scopes[other]? = some before ∧ found.remaining = before.remaining := by
  rcases found_insert hfound with ⟨rfl, rfl⟩ | ⟨_, hfound⟩
  · exact ⟨old, hold, hsame⟩
  · exact ⟨found, hfound, rfl⟩

theorem withChild_self : (l.withChild scopeId parentId parent configured).scopes[scopeId]? =
    some (childOf parentId parent configured) := getElem?_insert_self

section
variable (h : Balanced root budget l a)
include h

private theorem added_balanced {child : BudgetScope} (hfresh : l.scopes[scopeId]? = none) (hup : child.parent = some parentId)
    (hparent : l.scopes[parentId]? = some parent) (hdepth : child.depth.toNat = parent.depth.toNat + 1) :
    Balanced root budget (l.setScope scopeId child)
      { a with grants := a.grants.insert scopeId ⟨child.remaining, a.settlements.length⟩ } := by
  have hkept : ∀ (id : String) scope, l.scopes[id]? = some scope → (l.setScope scopeId child).scopes[id]? = some scope :=
    fun id scope hscope => insert_fresh _ hfresh hscope
  obtain ⟨rootScope, hrootScope⟩ := h.rootLive
  have hroot : scopeId ≠ root := by
    rintro rfl
    cases hfresh.symm.trans hrootScope
  have htree : Treelike root (l.setScope scopeId child) := by
    refine ⟨all_insert h.tree.rooted (by simp [hup, hroot]), ?_, ?_⟩
    · intro id scope above hscope habove
      rcases found_insert hscope with ⟨rfl, rfl⟩ | ⟨_, hold⟩
      · cases hup.symm.trans habove
        exact ⟨_, hkept _ _ hparent, hdepth⟩
      · obtain ⟨found, hfound, hrank⟩ := h.tree.ranked id scope above hold habove
        exact ⟨found, hkept _ _ hfound, hrank⟩
    · intro id record hrecord
      obtain ⟨hkey, scope, hscope⟩ := h.tree.filed id record hrecord
      exact ⟨hkey, scope, hkept _ _ hscope⟩
  have hlive : ∀ {id : String} {lineage : List String}, Lineage l.parentOf id lineage → scopeId ∉ lineage := by
    intro id lineage hpath hmem
    obtain ⟨scope, hscope⟩ := parentOf_isSome.mp (hpath.present hmem)
    cases hfresh.symm.trans hscope
  have hlineage : ∀ (id : String) record, l.reservations[id]? = some record →
      (l.setScope scopeId child).lineageOf record.scopeId = l.lineageOf record.scopeId := by
    intro id record hrecord
    obtain ⟨lineage, hpath, _⟩ := record_lineage h.tree hrecord
    refine lineageOf_congr hpath fun k hk => ?_
    have hne : scopeId ≠ k := by
      rintro rfl
      exact hlive hpath hk
    rw [parentOf, setScope, insert_ne _ _ hne, parentOf]
  refine h.transfer htree ⟨rootScope, hkept _ _ hrootScope⟩ (insert_ne _ _ hroot) (append_nil _).symm (by simp) ?_
  intro id scope hscope
  rcases found_insert hscope with ⟨rfl, rfl⟩ | ⟨hne, hold⟩
  · refine .inr ⟨getElem?_insert_self, fun d => ?_⟩
    rw [outstandingIn_congr hlineage rfl]
    refine (sumValues_congr fun record hrecord => ?_).trans (sumValues_zero l.reservations)
    obtain ⟨key, hkey⟩ := (mem_values _ _).mp hrecord
    obtain ⟨lineage, hpath, hequal⟩ := record_lineage h.tree hkey
    rw [hequal, if_neg (hlive hpath)]
  · refine .inl ⟨scope, hold, insert_ne _ _ hne, fun d => ?_⟩
    rw [heldBy, heldBy, outstandingIn_congr hlineage rfl]
    rfl

theorem created_balanced (hfresh : l.scopes[scopeId]? = none) (hparent : l.scopes[parentId]? = some parent)
    (hdepth : parent.depth.toNat ≠ u32Max) : Balanced root budget (l.withChild scopeId parentId parent configured)
      { a with grants := a.grants.insert scopeId ⟨(childOf parentId parent configured).remaining, a.settlements.length⟩ } := by
  have hlater : (childOf parentId parent configured).depth.toNat = parent.depth.toNat + 1 := by
    have hbound := parent.depth.toNat_lt
    unfold u32Max at hdepth
    rw [childOf, UInt32.toNat_add, Nat.mod_eq_of_lt (by simp; omega)]
    rfl
  have hmid : Balanced root budget (l.setScope parentId { parent with activeChildren := parent.activeChildren + 1 }) a :=
    h.quiet (shapeOf_setScope hparent rfl rfl) rfl (setScope_remaining hparent rfl)
  refine added_balanced hmid ?_ rfl getElem?_insert_self hlater
  refine (insert_ne _ _ ?_).trans hfresh
  rintro rfl
  cases hfresh.symm.trans hparent

/-- A closed scope was nobody's parent and held no reservation. -/
theorem closed_balanced (hscope : l.scopes[scopeId]? = some scope) (hup : scope.parent = some parentId)
    (hparent : l.scopes[parentId]? = some parent)
    (hidle : ∀ (id : String) record, l.reservations[id]? = some record → record.scopeId ≠ scopeId)
    (hleaf : ∀ (id : String) child, l.scopes[id]? = some child → child.parent ≠ some scopeId) :
    Balanced root budget (({ l with scopes := l.scopes.erase scopeId } : LimitLedger).setScope parentId
        { parent with activeChildren := children }) { a with grants := a.grants.erase scopeId } := by
  have hroot : scopeId ≠ root := by
    intro heq
    rw [(h.tree.rooted scopeId scope hscope).mpr heq] at hup
    cases hup
  have hkept : ∀ (id : String) found, l.scopes[id]? = some found → id ≠ scopeId →
      (l.scopes.erase scopeId)[id]? = some found :=
    fun id found hfound hne => (erase_ne _ (Ne.symm hne)).trans hfound
  have hmidTree : Treelike root { l with scopes := l.scopes.erase scopeId } := by
    refine ⟨?_, ?_, ?_⟩
    · intro id found hfound
      exact h.tree.rooted id found (found_erase hfound).2
    · intro id found above hfound habove
      have hold := (found_erase hfound).2
      obtain ⟨upper, hupper, hrank⟩ := h.tree.ranked id found above hold habove
      refine ⟨upper, hkept above upper hupper ?_, hrank⟩
      rintro rfl
      exact hleaf id found hold habove
    · intro id record hrecord
      obtain ⟨hkey, found, hfound⟩ := h.tree.filed id record hrecord
      exact ⟨hkey, found, hkept _ _ hfound (hidle id record hrecord)⟩
  have hlineage : ∀ (id : String) record, l.reservations[id]? = some record →
      ({ l with scopes := l.scopes.erase scopeId } : LimitLedger).lineageOf record.scopeId =
        l.lineageOf record.scopeId := by
    intro id record hrecord
    obtain ⟨lineage, hpath, _⟩ := record_lineage h.tree hrecord
    refine lineageOf_congr hpath fun k hk => ?_
    have hne : scopeId ≠ k := by
      rintro rfl
      obtain ⟨below, hbelow⟩ := hpath.parent_of_mem hk (Ne.symm (hidle id record hrecord))
      obtain ⟨child, hchild, habove⟩ := Option.map_eq_some_iff.mp hbelow
      exact hleaf below child hchild habove
    rw [parentOf, erase_ne _ hne, parentOf]
  obtain ⟨rootScope, hrootScope⟩ := h.rootLive
  have hmid : Balanced root budget { l with scopes := l.scopes.erase scopeId }
      { a with grants := a.grants.erase scopeId } := by
    refine h.transfer hmidTree ⟨rootScope, hkept _ _ hrootScope (Ne.symm hroot)⟩ (erase_ne _ hroot)
      (append_nil _).symm (by simp) ?_
    intro id found hfound
    obtain ⟨hne, hold⟩ := found_erase hfound
    refine .inl ⟨found, hold, erase_ne _ (Ne.symm hne), fun d => ?_⟩
    rw [heldBy, heldBy, outstandingIn_congr hlineage rfl]
    rfl
  have hparentMid : (l.scopes.erase scopeId)[parentId]? = some parent := by
    refine hkept parentId parent hparent ?_
    rintro rfl
    exact hleaf parentId scope hscope hup
  exact hmid.quiet (shapeOf_setScope hparentMid rfl rfl) rfl (setScope_remaining hparentMid rfl)

private theorem reserved_balanced {usage : Usage}
    (hfresh : l.reservations[reservationId]? = none) (hpath : Lineage l.parentOf scopeId lineage)
    (hscopes : Adjusted (·.checkedSub usage) lineage l.scopes scopes) : Balanced root budget
      { l with scopes, reservations := l.reservations.insert reservationId { reservationId, scopeId, reserved := usage } }
      a := by
  have hfiled : ∀ (id : String) record,
      (l.reservations.insert reservationId { reservationId, scopeId, reserved := usage })[id]? = some record →
      record.reservationId = id ∧ ∃ scope, l.scopes[record.scopeId]? = some scope := by
    exact all_insert h.tree.filed ⟨rfl, parentOf_isSome.mp (hpath.present hpath.self_mem)⟩
  generalize hreservations : l.reservations.insert reservationId { reservationId, scopeId, reserved := usage } =
    reservations at hfiled ⊢
  have hshape : ∀ id, shapeOf { l with scopes, reservations } id = l.shapeOf id := fun id => Adjusted.shape hscopes id
  have htree := h.tree.of_shape hshape hfiled
  have hsum : ∀ id d, outstandingIn { l with scopes, reservations } id d = l.outstandingIn id d + share lineage usage id d :=
    outstandingIn_insert h.tree hshape hfresh hreservations.symm hpath
  refine h.adjusted htree hscopes rfl (append_nil _).symm (by simp) ?_ ?_
  · intro id hid before after hchange d
    obtain ⟨amounts, rfl, hamounts⟩ := (BudgetEnvelope.checkedSub_eq_ok _ _ _).mp hchange
    rw [hsum, share, if_pos hid]
    have hd := hamounts d
    show (amounts.amount d).toNat + _ + 0 = _
    omega
  · intro id hid d
    rw [hsum, share, if_neg hid]
    rfl

/-- A settlement returns the unused part up the lineage, records the rest. -/
theorem settled_balanced {unused : Usage} {chargeIds : ExtTreeSet String}
    (hrecord : l.reservations[reservationId]? = some record) (hpath : Lineage l.parentOf record.scopeId lineage)
    (hscopes : Adjusted (·.checkedAddUsage unused) lineage l.scopes scopes) (hgrants : a'.grants = a.grants)
    (hsettlements : a'.settlements = a.settlements ++ extra) (hcharged : ∀ settlement ∈ extra, root ∈ settlement.lineage)
    (hspent : ∀ id d, share lineage unused id d + spentIn extra id d = share lineage record.reserved id d) :
    Balanced root budget { l with scopes, reservations := l.reservations.erase reservationId, chargeIds } a' := by
  have hshape : ∀ id, shapeOf { l with scopes, reservations := l.reservations.erase reservationId, chargeIds } id =
      l.shapeOf id := fun id => Adjusted.shape hscopes id
  have htree := h.tree.of_shape hshape fun id record hfound => h.tree.filed id record (found_erase hfound).2
  have hsum := outstandingIn_erase h.tree hshape hrecord rfl hpath
  refine h.adjusted htree hscopes hgrants hsettlements hcharged ?_ ?_
  · intro id hid before after hchange d
    obtain ⟨amounts, rfl, hamounts⟩ := (BudgetEnvelope.checkedAddUsage_eq_ok _ _ _).mp hchange
    have hd := hamounts d
    have hall := hsum id d
    have hpart := hspent id d
    rw [share, if_pos hid] at hall hpart
    rw [share, if_pos hid] at hpart
    show (amounts.amount d).toNat + _ + _ = _
    omega
  · intro id hid d
    have hall := hsum id d
    have hpart := hspent id d
    rw [share, if_neg hid] at hall hpart
    rw [share, if_neg hid] at hpart
    omega

/-- Each effect keeps the balance. -/
theorem effect_balanced {call : LimitCall}
    (heffect : Effect l call l') : Balanced root budget l' (a.observe call l l') := by
  cases heffect with
  | created hid hfresh hparent hdepth hlevel hfan =>
    simp only [Audit.observe, withChild_self]
    exact created_balanced h hfresh hparent hdepth
  | closed hscope hup hparent hidle hleaf => exact closed_balanced h hscope hup hparent hidle hleaf
  | reserved hid hsome hfresh huncharged hpath hscopes => exact reserved_balanced h hfresh hpath hscopes
  | @charged reservationId chargeId actual unused record lineage scopes hid hnew hrecord hunused hpath hscopes =>
    have hpart := (Usage.checkedSub_eq_ok _ _ _).mp hunused
    rw [Audit.observe, if_neg (by rwa [ExtTreeSet.contains_iff_mem]), hrecord]
    simp only [lineageOf_eq hpath]
    refine settled_balanced h hrecord hpath hscopes rfl rfl ?_ fun id d => ?_
    · intro settlement hmem
      rw [mem_singleton.mp hmem]
      exact root_mem_lineage h.tree hpath
    · by_cases hid : id ∈ lineage
      · simp [share, spentIn, hid, hpart d]
      · simp [share, spentIn, hid]
  | repeated hknown =>
    rw [Audit.observe, if_pos (by rwa [ExtTreeSet.contains_iff_mem])]
    exact h
  | released hrecord hpath hscopes =>
    refine settled_balanced h hrecord hpath hscopes rfl (append_nil _).symm (by simp) fun id d => ?_
    rfl
  | entered hscope hroom | left hscope =>
    exact h.quiet (shapeOf_setScope hscope rfl rfl) rfl (setScope_remaining hscope rfl)
  | iterated hscope hbelow | advanced hlater =>
    exact h.quiet (fun _ => rfl) rfl fun id scope hfound => ⟨scope, hfound, rfl⟩

end

theorem new_eq_ok (h : new root budget = .ok l) :
    validateLogicalId root = .ok () ∧ l = ⟨0, (∅ : ExtTreeMap String BudgetScope).insert root ⟨none, 0, budget, 0, 0⟩,
      ∅, ∅, ∅⟩ := by
  simp only [new, bind_ok_iff] at h
  obtain ⟨_, hvalid, hl⟩ := h
  exact ⟨hvalid, (Except.ok.inj hl).symm⟩

theorem new_scopes (h : ((∅ : ExtTreeMap String BudgetScope).insert root ⟨none, 0, budget, 0, 0⟩)[id]? = some scope) :
    id = root ∧ scope = ⟨none, 0, budget, 0, 0⟩ := by
  rcases found_insert h with ⟨rfl, rfl⟩ | ⟨_, hempty⟩
  · exact ⟨rfl, rfl⟩
  · simp at hempty

theorem new_balanced (h : new root budget = .ok l) : Balanced root budget l (Audit.initial root budget) := by
  obtain ⟨_, rfl⟩ := new_eq_ok h
  refine ⟨⟨?_, ?_, ?_⟩, ⟨_, getElem?_insert_self⟩, getElem?_insert_self, ?_, ?_⟩
  · intro id scope hscope
    obtain ⟨rfl, rfl⟩ := new_scopes hscope
    simp
  · intro id scope parentId hscope hup
    obtain ⟨rfl, rfl⟩ := new_scopes hscope
    cases hup
  · intro id record hrecord
    simp at hrecord
  · intro settlement hmem
    cases hmem
  · intro id scope hscope
    obtain ⟨rfl, rfl⟩ := new_scopes hscope
    refine ⟨_, getElem?_insert_self, Nat.le_refl _, fun d => ?_⟩
    rw [heldBy, outstandingIn, sumValues_empty]
    rfl

theorem auditedStep_balanced (h : Balanced root budget l a) (call : LimitCall) :
    Balanced root budget (auditedStep (l, a) call).1 (auditedStep (l, a) call).2 := by
  unfold auditedStep
  refine (perform_outcome h.tree h.fits call).elim (fun _ _ => effect_balanced h) fun e l' hrefused => ?_
  have hsame : l' = { l with tick := l'.tick } := hrefused.same
  rw [hsame]
  exact h.quiet (fun _ => rfl) rfl fun id scope hscope => ⟨scope, hscope, rfl⟩

theorem auditedRun_balanced (h : Balanced root budget l a) (calls : List LimitCall) :
    Balanced root budget (auditedRun (l, a) calls).1 (auditedRun (l, a) calls).2 := by
  induction calls generalizing l a with
  | nil => exact h
  | cons call rest ih => exact ih (auditedStep_balanced h call)

/-- In every run, what the root has left, all reservations and all settled usage make up the budget, and so for each
live scope; a refused call changes none of them, and no settlement is refused for an overflow. -/
theorem budget_conserved (budget : BudgetEnvelope) (hnew : new root budget = .ok l) (calls : List LimitCall) :
    (∃ left, (l.run calls).remaining root = some left ∧ ∀ d, (left.amount d).toNat + (l.run calls).outstanding d +
      spent (auditedRun (l, .initial root budget) calls).2.settlements d = (budget.amount d).toNat) ∧
    (∀ id left, (l.run calls).remaining id = some left →
      ∃ grant, (auditedRun (l, .initial root budget) calls).2.grants[id]? = some grant ∧ ∀ d,
        (left.amount d).toNat + (l.run calls).outstandingIn id d +
          spentIn ((auditedRun (l, .initial root budget) calls).2.settlements.drop grant.since) id d =
            (grant.envelope.amount d).toNat) ∧
    ∀ call e l', perform call (l.run calls) = (.error e, l') →
      l'.scopes = (l.run calls).scopes ∧ l'.reservations = (l.run calls).reservations ∧
        l'.chargeIds = (l.run calls).chargeIds ∧ (settles call = true → e ≠ .overflow) := by
  have hbalanced := auditedRun_balanced (new_balanced hnew) calls
  rw [auditedRun_ledger] at hbalanced
  refine ⟨?_, ?_, ?_⟩
  · obtain ⟨scope, hscope⟩ := hbalanced.rootLive
    obtain ⟨grant, hgrant, _, hsum⟩ := hbalanced.balance root scope hscope
    obtain rfl := Option.some.inj (hgrant.symm.trans hbalanced.rootGrant)
    refine ⟨scope.remaining, by rw [remaining, hscope]; rfl, fun d => ?_⟩
    have htotal := hsum d
    rwa [heldBy, outstandingIn_root hbalanced.tree, drop_zero, spentIn_eq_spent hbalanced.rootCharged] at htotal
  · intro id left hleft
    obtain ⟨scope, hscope, rfl⟩ := Option.map_eq_some_iff.mp hleft
    obtain ⟨grant, hgrant, _, hsum⟩ := hbalanced.balance id scope hscope
    exact ⟨grant, hgrant, hsum⟩
  · intro call e l' hperform
    have houtcome := (perform_outcome hbalanced.tree hbalanced.fits call).of_error hperform
    have hsame : l' = { l.run calls with tick := l'.tick } := houtcome.same
    rw [hsame]
    exact ⟨rfl, rfl, rfl, houtcome.noOverflow⟩

def sampleBudget : BudgetEnvelope :=
  { turns := 10, attempts := 10, toolCalls := 10, tokens := 1000, costMicros := 1000, actions := 10,
    maxDepth := 2, maxFanOut := 2, maxParallel := 2, deadlineTick := 100 }

def sampleLedger : LimitLedger := ⟨0, (∅ : ExtTreeMap String BudgetScope).insert "r" ⟨none, 0, sampleBudget, 0, 0⟩, ∅, ∅, ∅⟩

theorem new_sampleLedger : new "r" sampleBudget = .ok sampleLedger := by
  have hvalid : validateLogicalId "r" = .ok () := by decide +kernel
  rw [new, hvalid]
  rfl

/-- A child reserves two turns and commits one of them. -/
def sampleCalls : List LimitCall :=
  [.createChild "c" "r" { sampleBudget with turns := 5 }, .reserve "c" "a" ⟨2, 1, 0, 0, 0, 0⟩, .charge "a" "k" ⟨1, 1, 0, 0, 0, 0⟩]

example : ((sampleLedger.run sampleCalls).remaining "r").map (·.turns) = some 9 ∧
    ((sampleLedger.run sampleCalls).remaining "c").map (·.turns) = some 4 := by decide +kernel

theorem sample_budget_conserved : new "r" sampleBudget = .ok sampleLedger ∧
    ∃ left, (sampleLedger.run sampleCalls).remaining "r" = some left ∧
      ∀ d, (left.amount d).toNat + (sampleLedger.run sampleCalls).outstanding d +
        spent (auditedRun (sampleLedger, .initial "r" sampleBudget) sampleCalls).2.settlements d =
          (sampleBudget.amount d).toNat :=
  ⟨new_sampleLedger, (budget_conserved sampleBudget new_sampleLedger sampleCalls).1⟩

end LimitLedger

end Aworkit.Worker
