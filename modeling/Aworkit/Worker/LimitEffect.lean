import Aworkit.Worker.Limits

/-! What each call of the limit ledger does: the amounts of its checked arithmetic, the lineage it walks, and the
state it leaves. -/
namespace Aworkit.Worker
open Protocol Fallible Hoare Forest Std Usage OrderedMap Option Except ExtTreeMap

namespace Usage

variable {change : BudgetEnvelope → Except LimitError BudgetEnvelope} {record : ReservationRecord} {β : Type}
  {u usage : Usage}

theorem combine_eq_ok (op : UInt64 → UInt64 → Option UInt64) (e : LimitError) (a b c : Usage) :
    combine op e a b = .ok c ↔ ∀ d, op (a.amount d) (b.amount d) = some (c.amount d) := by
  simp only [combine, passes]
  constructor
  · rintro ⟨turns, h1, attempts, h2, toolCalls, h3, tokens, h4, costMicros, h5, actions, h6, hc⟩ d
    cases hc
    cases d <;> assumption
  · intro h
    exact ⟨_, h .turns, _, h .attempts, _, h .toolCalls, _, h .tokens, _, h .costMicros, _, h .actions, rfl⟩

private theorem contains_iff (u actual : Usage) : u.contains actual = true ↔ ∀ d, (actual.amount d).toNat ≤ (u.amount d).toNat := by
  simp only [contains, met, UInt64.le_iff_toNat_le]
  constructor
  · rintro ⟨⟨⟨⟨⟨h1, h2⟩, h3⟩, h4⟩, h5⟩, h6⟩ d
    cases d <;> assumption
  · intro h
    exact ⟨⟨⟨⟨⟨h .turns, h .attempts⟩, h .toolCalls⟩, h .tokens⟩, h .costMicros⟩, h .actions⟩

theorem ext_amount {v : Usage} (h : ∀ d, (u.amount d).toNat = (v.amount d).toNat) : u = v := by
  have hamount : ∀ d, u.amount d = v.amount d := fun d => UInt64.toNat_inj.mp (h d)
  cases u
  cases v
  simp only [mk.injEq]
  exact ⟨hamount .turns, hamount .attempts, hamount .toolCalls, hamount .tokens, hamount .costMicros, hamount .actions⟩

/-- Amounts given in every dimension are a usage. -/
def ofAmounts (f : Dimension → UInt64) : Usage :=
  ⟨f .turns, f .attempts, f .toolCalls, f .tokens, f .costMicros, f .actions⟩

@[simp] theorem amount_ofAmounts (f : Dimension → UInt64) (d : Dimension) : (ofAmounts f).amount d = f d := by
  cases d <;> rfl

theorem checkedSub_eq_ok (u actual unused : Usage) :
    u.checkedSub actual = .ok unused ↔
      ∀ d, (unused.amount d).toNat + (actual.amount d).toNat = (u.amount d).toNat := by
  simp [checkedSub, combine_eq_ok, checkedSub_eq_some]

theorem exists_unused {actual : Usage} (h : u.contains actual = true) : ∃ unused, u.checkedSub actual = .ok unused := by
  rw [contains_iff] at h
  refine ⟨ofAmounts fun d => u.amount d - actual.amount d, (checkedSub_eq_ok _ _ _).mpr ?_⟩
  intro d
  have hle := h d
  rw [amount_ofAmounts, UInt64.toNat_sub_of_le _ _ (UInt64.le_iff_toNat_le.mpr hle)]
  omega

end Usage

namespace BudgetEnvelope

theorem changed_eq_ok (e e' : BudgetEnvelope) (x : Except LimitError Usage) :
    (do let amounts ← x; return { e with toUsage := amounts }) = .ok e' ↔
      ∃ amounts : Usage, e' = { e with toUsage := amounts } ∧ x = .ok amounts := by
  simp only [bind_ok_iff]
  exact exists_congr fun _ => and_comm.trans (and_congr_left' ⟨fun h => (ok.inj h).symm, congrArg ok ∘ Eq.symm⟩)

theorem checkedSub_eq_ok (e e' : BudgetEnvelope) (usage : Usage) :
    e.checkedSub usage = .ok e' ↔ ∃ amounts : Usage, e' = { e with toUsage := amounts } ∧
      ∀ d, (amounts.amount d).toNat + (usage.amount d).toNat = (e.amount d).toNat := by
  simp only [checkedSub, changed_eq_ok, combine_eq_ok, checkedSub_eq_some]

theorem checkedAddUsage_eq_ok (e e' : BudgetEnvelope) (usage : Usage) :
    e.checkedAddUsage usage = .ok e' ↔ ∃ amounts : Usage, e' = { e with toUsage := amounts } ∧
      ∀ d, (amounts.amount d).toNat = (e.amount d).toNat + (usage.amount d).toNat := by
  simp only [checkedAddUsage, changed_eq_ok, combine_eq_ok, checkedAdd_eq_some]

theorem exists_refund {e : BudgetEnvelope}
    (h : ∀ d, (e.amount d).toNat + (usage.amount d).toNat ≤ u64Max) : ∃ e', e.checkedAddUsage usage = .ok e' := by
  refine ⟨_, (checkedAddUsage_eq_ok _ _ _).mpr ⟨ofAmounts fun d => e.amount d + usage.amount d, rfl, ?_⟩⟩
  intro d
  have hd := h d
  unfold u64Max at hd
  rw [amount_ofAmounts, UInt64.toNat_add, Nat.mod_eq_of_lt (by omega)]

end BudgetEnvelope

namespace LimitLedger
variable {l : LimitLedger}

/-- The scopes form one tree under `root`, and every reservation is filed under its id in a live scope. -/
structure Treelike (root : String) (l : LimitLedger) : Prop where
  rooted : ∀ (id : String) (scope : BudgetScope), l.scopes[id]? = some scope → (scope.parent = none ↔ id = root)
  ranked : ∀ (id : String) (scope : BudgetScope) (parentId : String),
    l.scopes[id]? = some scope → scope.parent = some parentId →
    ∃ parent : BudgetScope, l.scopes[parentId]? = some parent ∧ scope.depth.toNat = parent.depth.toNat + 1
  filed : ∀ (id : String) (record : ReservationRecord), l.reservations[id]? = some record →
    record.reservationId = id ∧ ∃ scope, l.scopes[record.scopeId]? = some scope

def rankOf (l : LimitLedger) (id : String) : Nat := (l.scopes[id]?.map fun scope => scope.depth.toNat).getD 0

theorem parentOf_isSome {id : String} : (l.parentOf id).isSome ↔ ∃ scope, l.scopes[id]? = some scope := by
  rw [parentOf, isSome_map, isSome_iff_exists]

variable {root : String} {lineage : List String}

theorem Treelike.forest (h : Treelike root l) : Ranked l.parentOf l.rankOf := by
  intro id parentId hparent
  obtain ⟨scope, hscope, hup⟩ := map_eq_some_iff.mp hparent
  obtain ⟨parent, hfound, hdepth⟩ := h.ranked id scope parentId hscope hup
  refine ⟨parentOf_isSome.mpr ⟨parent, hfound⟩, ?_⟩
  simp [rankOf, hscope, hfound, hdepth]

theorem lineage_length_le {id : String} (hpath : Lineage l.parentOf id lineage) : lineage.length ≤ l.scopes.size := by
  have hkeys : lineage ⊆ l.scopes.keys := by
    intro k hk
    obtain ⟨scope, hscope⟩ := parentOf_isSome.mp (hpath.present hk)
    rw [mem_keys, mem_iff_isSome_getElem?, hscope]
    rfl
  have hlength := (hpath.nodup.subperm hkeys).length_le
  rwa [length_keys] at hlength

/-- The source's walk finds the lineage: there is a round per scope. -/
theorem scopeLineage_eq {id : String} (hpath : Lineage l.parentOf id lineage) : l.scopeLineage id = .ok lineage := by
  have hclimb : climb l.parentOf (l.scopes.size + 1) [] id = .ok lineage :=
    climb_eq hpath (Nat.le_succ_of_le (lineage_length_le hpath)) (by simp)
  rw [scopeLineage, hclimb]
  rfl

theorem scopeLineage_ok {id : String} (h : l.scopeLineage id = .ok lineage) :
    Lineage l.parentOf id lineage := climb_ok ((mapError_eq_ok _ _ _).mp h)

theorem exists_scopeLineage {id : String} (h : Treelike root l)
    (hscope : l.scopes[id]? = some scope) : ∃ lineage, Lineage l.parentOf id lineage ∧ l.scopeLineage id = .ok lineage := by
  obtain ⟨lineage, hpath⟩ := h.forest.exists_lineage (parentOf_isSome.mpr ⟨scope, hscope⟩)
  exact ⟨lineage, hpath, scopeLineage_eq hpath⟩

/-- Every scope of a lineage had its envelope changed, and nothing else. -/
structure Adjusted (change : BudgetEnvelope → Except LimitError BudgetEnvelope) (lineage : List String)
    (before after : ExtTreeMap String BudgetScope) : Prop where
  inside : ∀ id ∈ lineage, ∃ scope remaining, before[id]? = some scope ∧ change scope.remaining = .ok remaining ∧
    after[id]? = some { scope with remaining }
  outside : ∀ id, id ∉ lineage → after[id]? = before[id]?

theorem adjust_outcome (hnodup : lineage.Nodup)
    (hpossible : ∀ id ∈ lineage, ∃ scope remaining, l.scopes[id]? = some scope ∧ change scope.remaining = .ok remaining) :
    Outcome (adjust change lineage) l
      (fun _ l' => ∃ scopes, l' = { l with scopes } ∧ Adjusted change lineage l.scopes scopes) (fun _ _ => False) := by
  induction lineage generalizing l with
  | nil => exact ⟨l.scopes, rfl, fun _ h => absurd h List.not_mem_nil, fun _ _ => rfl⟩
  | cons ancestor rest ih =>
    rw [List.nodup_cons] at hnodup
    rw [List.forall_mem_cons] at hpossible
    obtain ⟨⟨scope, remaining, hscope, hchange⟩, hrest⟩ := hpossible
    have hother : ∀ id ∈ rest, (l.setScope ancestor { scope with remaining }).scopes[id]? = l.scopes[id]? := by
      intro id hid
      refine insert_ne _ _ ?_
      rintro rfl
      exact hnodup.1 hid
    have htail := @ih (l.setScope ancestor { scope with remaining }) hnodup.2 fun id hid => by
      rw [hother id hid]
      exact hrest id hid
    have hstep : adjust change (ancestor :: rest) l = adjust change rest (l.setScope ancestor { scope with remaining }) := by
      show (Prog.lift (l.findScope ancestor) >>= fun scope => _) l = _
      rw [findScope, hscope]
      show (Prog.lift (change scope.remaining) >>= fun remaining => _) l = _
      rw [hchange]
      rfl
    unfold Outcome
    rw [hstep]
    refine htail.elim ?_ fun _ _ hfailed => hfailed
    rintro _ _ ⟨scopes, rfl, hadjusted⟩
    refine ⟨scopes, rfl, ?_, ?_⟩
    · intro id hid
      rcases List.mem_cons.mp hid with rfl | hid
      · refine ⟨scope, remaining, hscope, hchange, ?_⟩
        rw [hadjusted.outside id hnodup.1]
        exact getElem?_insert_self
      · obtain ⟨found, changed, hfound, hchanged, hafter⟩ := hadjusted.inside id hid
        exact ⟨found, changed, (hother id hid).symm.trans hfound, hchanged, hafter⟩
    · intro id hid
      rw [List.mem_cons, not_or] at hid
      rw [hadjusted.outside id hid.2]
      exact insert_ne _ _ (Ne.symm hid.1)

/-- The scope that `createChild` inserts. -/
def childOf (parentId : String) (parent : BudgetScope) (configured : BudgetEnvelope) : BudgetScope where
  parent := some parentId
  depth := parent.depth + 1
  remaining := configured.componentMin parent.remaining
  activeChildren := 0
  activeParallel := 0

def loopKey (scopeId loopId : String) : String := scopeId ++ ":" ++ loopId

def countLoop (l : LimitLedger) (key : String) : LimitLedger :=
  { l with loopIterations := l.loopIterations.insert key (l.loopIterations[key]?.getD 0 + 1) }

/-- A new scope under a live parent, and one more child in its count. -/
def withChild (l : LimitLedger) (scopeId parentId : String) (parent : BudgetScope) (configured : BudgetEnvelope) :
    LimitLedger :=
  (l.setScope parentId { parent with activeChildren := parent.activeChildren + 1 }).setScope scopeId
    (childOf parentId parent configured)

/-- What a call that answers does to the ledger. -/
inductive Effect (l : LimitLedger) : LimitCall → LimitLedger → Prop
  | created {scopeId parentId : String} {configured : BudgetEnvelope} {parent : BudgetScope}
      (hid : validateLogicalId scopeId = .ok ()) (hfresh : l.scopes[scopeId]? = none)
      (hparent : l.scopes[parentId]? = some parent) (hdepth : parent.depth.toNat ≠ u32Max)
      (hlevel : parent.depth + 1 ≤ parent.remaining.maxDepth)
      (hfan : parent.activeChildren < parent.remaining.maxFanOut) :
      Effect l (.createChild scopeId parentId configured) (l.withChild scopeId parentId parent configured)
  | closed {scopeId parentId : String} {scope parent : BudgetScope} (hscope : l.scopes[scopeId]? = some scope)
      (hup : scope.parent = some parentId) (hparent : l.scopes[parentId]? = some parent)
      (hidle : ∀ (id : String) (record : ReservationRecord), l.reservations[id]? = some record → record.scopeId ≠ scopeId)
      (hleaf : ∀ (id : String) (child : BudgetScope), l.scopes[id]? = some child → child.parent ≠ some scopeId) :
      Effect l (.closeChild scopeId)
        (({ l with scopes := l.scopes.erase scopeId } : LimitLedger).setScope parentId
          { parent with activeChildren := if parent.activeChildren = 0 then 0 else parent.activeChildren - 1 })
  | reserved {scopeId reservationId : String} {usage : Usage} {lineage : List String}
      {scopes : ExtTreeMap String BudgetScope} (hid : validateLogicalId reservationId = .ok ())
      (hsome : usage.isZero = false) (hfresh : l.reservations[reservationId]? = none)
      (huncharged : reservationId ∉ l.chargeIds) (hpath : Lineage l.parentOf scopeId lineage)
      (hscopes : Adjusted (·.checkedSub usage) lineage l.scopes scopes) :
      Effect l (.reserve scopeId reservationId usage)
        { l with scopes, reservations := l.reservations.insert reservationId { reservationId, scopeId, reserved := usage } }
  | charged {reservationId chargeId : String} {actual unused : Usage} {record : ReservationRecord}
      {lineage : List String} {scopes : ExtTreeMap String BudgetScope} (hid : validateLogicalId chargeId = .ok ())
      (hnew : chargeId ∉ l.chargeIds) (hrecord : l.reservations[reservationId]? = some record)
      (hunused : record.reserved.checkedSub actual = .ok unused) (hpath : Lineage l.parentOf record.scopeId lineage)
      (hscopes : Adjusted (·.checkedAddUsage unused) lineage l.scopes scopes) :
      Effect l (.charge reservationId chargeId actual)
        { l with scopes, reservations := l.reservations.erase reservationId, chargeIds := l.chargeIds.insert chargeId }
  | repeated {reservationId chargeId : String} {actual : Usage} (hknown : chargeId ∈ l.chargeIds) :
      Effect l (.charge reservationId chargeId actual) l
  | released {reservationId : String} {record : ReservationRecord} {lineage : List String}
      {scopes : ExtTreeMap String BudgetScope} (hrecord : l.reservations[reservationId]? = some record)
      (hpath : Lineage l.parentOf record.scopeId lineage)
      (hscopes : Adjusted (·.checkedAddUsage record.reserved) lineage l.scopes scopes) :
      Effect l (.release reservationId) { l with scopes, reservations := l.reservations.erase reservationId }
  | entered {scopeId : String} {scope : BudgetScope} (hscope : l.scopes[scopeId]? = some scope)
      (hroom : scope.activeParallel < scope.remaining.maxParallel) :
      Effect l (.enterParallel scopeId) (l.setScope scopeId { scope with activeParallel := scope.activeParallel + 1 })
  | left {scopeId : String} {scope : BudgetScope} (hscope : l.scopes[scopeId]? = some scope) :
      Effect l (.leaveParallel scopeId) (l.setScope scopeId
        { scope with activeParallel := if scope.activeParallel = 0 then 0 else scope.activeParallel - 1 })
  | iterated {scopeId loopId : String} {maximum : UInt32} {scope : BudgetScope}
      (hscope : l.scopes[scopeId]? = some scope)
      (hbelow : l.loopIterations[loopKey scopeId loopId]?.getD 0 < maximum) :
      Effect l (.nextLoopIteration scopeId loopId maximum)
        (l.countLoop (loopKey scopeId loopId))
  | advanced {tick : UInt64} (hlater : l.tick ≤ tick) : Effect l (.advanceTo tick) { l with tick }

/-- The calls that settle a reservation. -/
def settles : LimitCall → Bool
  | .charge .. => true
  | .release .. => true
  | _ => false

/-- A refused call moves at most the tick; no settlement fails by an overflow. -/
structure Refused (l : LimitLedger) (call : LimitCall) (e : LimitError) (l' : LimitLedger) : Prop where
  same : l' = { l with tick := l'.tick }
  noOverflow : settles call = true → e ≠ .overflow

/-- A refund along its lineage fits in a `u64`. -/
def Fits (l : LimitLedger) : Prop :=
  ∀ (id : String) (record : ReservationRecord) (lineage : List String), l.reservations[id]? = some record →
    Lineage l.parentOf record.scopeId lineage → ∀ k ∈ lineage, ∀ scope : BudgetScope, l.scopes[k]? = some scope →
      ∀ d, (scope.remaining.amount d).toNat + (record.reserved.amount d).toNat ≤ u64Max

theorem Refused.quiet (h : settles call = false) : Refused l call e l :=
  ⟨rfl, fun hsettles => absurd (h.symm.trans hsettles) Bool.false_ne_true⟩

theorem refused_of_same {m : LimitM Unit} (hcall : settles call = false)
    (h : Outcome m l (fun _ => Effect l call) fun _ l' => l' = l) :
    Outcome m l (fun _ => Effect l call) (Refused l call) :=
  h.refail fun _ _ hsame => hsame ▸ .quiet hcall

theorem contains_eq_false {m : ExtTreeMap String β} {id : String} (h : m.contains id = false) : m[id]? = none := by
  rw [contains_eq_isSome_getElem?] at h
  cases hfound : m[id]? with
  | none => rfl
  | some v =>
    rw [hfound] at h
    cases h

theorem scopeBeforeDeadline_ok {scope : BudgetScope} (h : l.scopeBeforeDeadline scopeId = .ok scope) :
    l.scopes[scopeId]? = some scope ∧ l.tick < scope.remaining.deadlineTick := by
  simp only [scopeBeforeDeadline, findScope, passes] at h
  obtain ⟨found, hfound, _, hearly, hsame⟩ := h
  cases hsame
  exact ⟨hfound, UInt64.not_le.mp (of_decide_eq_false hearly)⟩

theorem createChild_atomic (scopeId parentId : String) (configured : BudgetEnvelope) :
    Outcome (createChild scopeId parentId configured) l (fun _ => Effect l (.createChild scopeId parentId configured))
      (fun _ l' => l' = l) := by
  apply check_bind
  intro _ hid
  apply read_bind
  apply check_bind
  intro _ hfresh
  apply check_bind
  intro parent hparent
  apply check_bind
  intro _ hdepth
  apply check_bind
  intro _ hlimits
  rw [refuseIf_eq_ok] at hfresh hdepth hlimits
  rw [findScope, require_eq_ok] at hparent
  rw [Bool.or_eq_false_iff, decide_eq_false_iff_not, decide_eq_false_iff_not] at hlimits
  exact .created hid (contains_eq_false hfresh) hparent (of_decide_eq_false hdepth) (UInt32.not_lt.mp hlimits.1)
    (UInt32.not_le.mp hlimits.2)

private theorem canCloseChild_ok (h : l.canCloseChild scopeId = .ok u) :
    ∃ scope, l.scopes[scopeId]? = some scope ∧ scope.parent ≠ none ∧
      (∀ (id : String) record, l.reservations[id]? = some record → record.scopeId ≠ scopeId) ∧
      ∀ (id : String) child, l.scopes[id]? = some child → child.parent ≠ some scopeId := by
  simp only [canCloseChild, findScope, passes, unmet, List.any_eq_false, beq_iff_eq, mem_values] at h
  obtain ⟨scope, hscope, _, hparent, hidle, hleaf⟩ := h
  refine ⟨scope, hscope, ?_, fun id record hrecord => hidle record ⟨id, hrecord⟩, fun id child hchild =>
    hleaf child ⟨id, hchild⟩⟩
  intro hnone
  rw [hnone] at hparent
  cases hparent

/-- Parents and owners of reservations are live scopes. This holds of restored ledgers too, whose scopes need not be a
tree. -/
structure Anchored (l : LimitLedger) : Prop where
  parents : ∀ id parentId, l.parentOf id = some (some parentId) → (l.parentOf parentId).isSome
  owners : ∀ (id : String) (record : ReservationRecord), l.reservations[id]? = some record →
    (l.parentOf record.scopeId).isSome

theorem Treelike.anchored (h : Treelike root l) : Anchored l where
  parents := fun id parentId hparent => (h.forest id parentId hparent).1
  owners := fun id record hrecord => parentOf_isSome.mpr (h.filed id record hrecord).2

/-- A scope that may be closed is closed: its parent is another live scope. -/
theorem closeChild_closes (h : Anchored l) (hcan : l.canCloseChild scopeId = .ok ()) :
    Outcome (closeChild scopeId) l (fun _ => Effect l (.closeChild scopeId)) (fun _ _ => False) := by
  obtain ⟨scope, hscope, hparent, hidle, hleaf⟩ := canCloseChild_ok hcan
  obtain ⟨parentId, hup⟩ := ne_none_iff_exists'.mp hparent
  have hlive : l.parentOf scopeId = some (some parentId) := by
    rw [parentOf, hscope, map_some, hup]
  obtain ⟨parent, hparentFound⟩ := parentOf_isSome.mp (h.parents scopeId parentId hlive)
  have hne : scopeId ≠ parentId := by
    rintro rfl
    exact hleaf scopeId scope hscope hup
  have hkept : (l.scopes.erase scopeId)[parentId]? = some parent := by
    rw [erase_ne _ hne, hparentFound]
  apply read_bind
  refine pass_bind hcan ?_
  refine pass_bind ((require_eq_ok _ _ _).mpr hscope) ?_
  apply update_bind
  rw [hup]
  apply read_bind
  refine pass_bind ((require_eq_ok _ _ _).mpr hkept) ?_
  exact .closed hscope hup hparentFound hidle hleaf

theorem closeChild_atomic (h : Anchored l) (scopeId : String) :
    Outcome (closeChild scopeId) l (fun _ => Effect l (.closeChild scopeId)) (fun _ l' => l' = l) := by
  cases hcan : l.canCloseChild scopeId with
  | error e =>
    apply read_bind
    apply check_bind
    intro _ hok
    cases hcan.symm.trans hok
  | ok _ => exact (closeChild_closes h hcan).never

theorem reserve_atomic (scopeId reservationId : String) (usage : Usage) :
    Outcome (reserve scopeId reservationId usage) l (fun _ => Effect l (.reserve scopeId reservationId usage))
      (fun _ l' => l' = l) := by
  apply check_bind
  intro _ hid
  apply check_bind
  intro _ hsome
  apply read_bind
  apply check_bind
  intro _ hfresh
  apply check_bind
  intro lineage hlineage
  apply check_bind
  intro _ hadmitted
  rw [refuseIf_eq_ok] at hsome hfresh
  rw [Bool.or_eq_false_iff] at hfresh
  rw [checkAll_eq_ok] at hadmitted
  have hpossible : ∀ id ∈ lineage, ∃ scope remaining, l.scopes[id]? = some scope ∧
      scope.remaining.checkedSub usage = .ok remaining := by
    intro id hid
    have hadmit := hadmitted id hid
    simp only [admitUsage, bind_ok_iff] at hadmit
    obtain ⟨scope, hscope, remaining, hremaining, _⟩ := hadmit
    exact ⟨scope, remaining, (scopeBeforeDeadline_ok hscope).1, hremaining⟩
  have hpath := scopeLineage_ok hlineage
  have hloop : Outcome (adjust (·.checkedSub usage) lineage) l _ _ := adjust_outcome hpath.nodup hpossible
  apply Outcome.bind hloop.never
  rintro _ _ ⟨scopes, rfl, hscopes⟩
  refine .reserved hid hsome (contains_eq_false hfresh.1) ?_ hpath hscopes
  rw [← ExtTreeSet.contains_iff_mem, hfresh.2]
  exact Bool.false_ne_true

/-- The reservation's scopes are found and take it back without overflow. -/
def Refundable (l : LimitLedger) (record : ReservationRecord) : Prop :=
  ∃ lineage, Lineage l.parentOf record.scopeId lineage ∧
    ∀ id ∈ lineage, ∀ scope : BudgetScope, l.scopes[id]? = some scope →
      ∀ d, (scope.remaining.amount d).toNat + (record.reserved.amount d).toNat ≤ u64Max

theorem Treelike.refundable {reservationId : String} (h : Treelike root l)
    (hfits : Fits l) (hrecord : l.reservations[reservationId]? = some record) : Refundable l record := by
  obtain ⟨_, scope, hscope⟩ := h.filed reservationId record hrecord
  obtain ⟨lineage, hpath, _⟩ := exists_scopeLineage h hscope
  exact ⟨lineage, hpath, hfits reservationId record lineage hrecord hpath⟩

/-- The refund of `charge` and `release`, behind the reservation, is made in full. -/
theorem refund_outcome (h : Refundable l record)
    (hwithin : ∀ d, (usage.amount d).toNat ≤ (record.reserved.amount d).toNat) :
    ∃ lineage, Lineage l.parentOf record.scopeId lineage ∧ l.scopeLineage record.scopeId = .ok lineage ∧
      Outcome (adjust (·.checkedAddUsage usage) lineage) { l with reservations := l.reservations.erase reservationId }
        (fun _ l' => ∃ scopes, l' = { l with scopes, reservations := l.reservations.erase reservationId } ∧
          Adjusted (·.checkedAddUsage usage) lineage l.scopes scopes) (fun _ _ => False) := by
  obtain ⟨lineage, hpath, hfits⟩ := h
  refine ⟨lineage, hpath, scopeLineage_eq hpath, ?_⟩
  have hpossible : ∀ id ∈ lineage, ∃ scope remaining, l.scopes[id]? = some scope ∧
      scope.remaining.checkedAddUsage usage = .ok remaining := by
    intro id hid
    obtain ⟨ancestor, hancestor⟩ := parentOf_isSome.mp (hpath.present hid)
    have hroom : ∀ d, (ancestor.remaining.amount d).toNat + (usage.amount d).toNat ≤ u64Max := by
      intro d
      have hfit := hfits id hid ancestor hancestor d
      have hle := hwithin d
      omega
    obtain ⟨remaining, hremaining⟩ := BudgetEnvelope.exists_refund hroom
    exact ⟨ancestor, remaining, hancestor, hremaining⟩
  exact adjust_outcome hpath.nodup hpossible

theorem takeReservation_bind {k : ReservationRecord → LimitM β}
    {last : β → LimitLedger → Prop} {failed : LimitError → LimitLedger → Prop}
    (hmissing : l.reservations[reservationId]? = none → failed (.unknownReservation reservationId) l)
    (hfound : ∀ record, l.reservations[reservationId]? = some record →
      Outcome (k record) { l with reservations := l.reservations.erase reservationId } last failed) :
    Outcome (takeReservation reservationId >>= k) l last failed := by
  have htake : Outcome (takeReservation reservationId) l
      (fun record l' => l.reservations[reservationId]? = some record ∧
        l' = { l with reservations := l.reservations.erase reservationId }) failed := by
    refine read_bind (lift_bind (fun e he => ?_) fun record hrecord => ?_)
    · cases hlookup : l.reservations[reservationId]? with
      | none =>
        rw [hlookup] at he
        cases he
        exact hmissing hlookup
      | some record =>
        rw [hlookup] at he
        cases he
    · exact ⟨(require_eq_ok _ _ _).mp hrecord, rfl⟩
  refine .bind htake ?_
  rintro record _ ⟨hrecord, rfl⟩
  exact hfound record hrecord

private theorem validateLogicalId_error (h : validateLogicalId value = .error e) : e = .invalidReservation := by
  unfold validateLogicalId refuseIf at h
  split at h
  · exact (error.inj h).symm
  · cases h

/-- A reservation filed under its id, which its scopes take back. -/
def Settleable (l : LimitLedger) (reservationId : String) : Prop :=
  ∀ record : ReservationRecord, l.reservations[reservationId]? = some record →
    record.reservationId = reservationId ∧ Refundable l record

theorem Settleable.of_found (hrecord : l.reservations[reservationId]? = some record)
    (hkey : record.reservationId = reservationId) (h : Refundable l record) : Settleable l reservationId := by
  intro found hfound
  obtain rfl := some.inj (hrecord.symm.trans hfound)
  exact ⟨hkey, h⟩

theorem Treelike.settleable (h : Treelike root l) (hfits : Fits l) (reservationId : String) :
    Settleable l reservationId :=
  fun record hrecord => ⟨(h.filed reservationId record hrecord).1, h.refundable hfits hrecord⟩

theorem charge_atomic (h : Settleable l reservationId) (chargeId : String) (actual : Usage) :
    Outcome (charge reservationId chargeId actual) l (fun _ => Effect l (.charge reservationId chargeId actual))
      (fun e l' => l' = l ∧ e ≠ .overflow) := by
  refine lift_bind (fun e he => ⟨rfl, ?_⟩) fun _ hid => read_bind ?_
  · rw [validateLogicalId_error he]
    simp
  by_cases hknown : l.chargeIds.contains chargeId
  · rw [if_pos hknown]
    exact .repeated (by simpa using hknown)
  rw [if_neg hknown]
  refine takeReservation_bind (fun _ => ⟨rfl, by simp⟩) fun record hrecord => ?_
  obtain ⟨hkey, hrefundable⟩ := h record hrecord
  by_cases hcontains : record.reserved.contains actual = true
  · rw [if_neg (by simp [hcontains])]
    obtain ⟨unused, hunused⟩ := exists_unused hcontains
    have hwithin : ∀ d, (unused.amount d).toNat ≤ (record.reserved.amount d).toNat := by
      intro d
      have hsum := (checkedSub_eq_ok _ _ _).mp hunused d
      omega
    obtain ⟨lineage, hpath, hlineage, hloop⟩ := refund_outcome hrefundable hwithin
    refine pass_bind hunused (read_bind ?_)
    refine pass_bind hlineage ?_
    refine .bind hloop.never ?_
    rintro _ _ ⟨scopes, rfl, hscopes⟩
    exact .charged hid (by simpa using hknown) hrecord hunused hpath hscopes
  · rw [if_pos (by simp [hcontains])]
    refine update_bind ⟨?_, by simp⟩
    rw [hkey, insert_erase hrecord]

theorem release_atomic (h : Settleable l reservationId) :
    Outcome (release reservationId) l (fun _ => Effect l (.release reservationId))
      (fun e l' => l' = l ∧ e ≠ .overflow ∧ l.reservations[reservationId]? = none) := by
  refine takeReservation_bind (fun hnone => ⟨rfl, by simp, hnone⟩) fun record hrecord => read_bind ?_
  obtain ⟨lineage, hpath, hlineage, hloop⟩ := refund_outcome (h record hrecord).2 fun d => Nat.le_refl _
  refine pass_bind hlineage ?_
  refine hloop.never.weaken ?_
  rintro _ _ ⟨scopes, rfl, hscopes⟩
  exact .released hrecord hpath hscopes

/-- A call that settles nothing has its effect or is refused. -/
theorem perform_anchored (h : Anchored l) (hcall : settles call = false) :
    Outcome (perform call) l (fun _ => Effect l call) (Refused l call) := by
  cases call with
  | createChild scopeId parentId configured => exact refused_of_same rfl (createChild_atomic scopeId parentId configured)
  | closeChild scopeId => exact refused_of_same rfl (closeChild_atomic h scopeId)
  | reserve scopeId reservationId usage => exact refused_of_same rfl (reserve_atomic scopeId reservationId usage)
  | charge reservationId chargeId actual => cases hcall
  | release reservationId => cases hcall
  | enterParallel scopeId =>
    refine read_bind (lift_bind (fun e _ => .quiet rfl) fun scope hscope => ?_)
    refine lift_bind (fun e _ => .quiet rfl) fun _ hroom => ?_
    rw [refuseIf_eq_ok, decide_eq_false_iff_not] at hroom
    exact .entered (scopeBeforeDeadline_ok hscope).1 (UInt32.not_le.mp hroom)
  | leaveParallel scopeId =>
    refine read_bind (lift_bind (fun e _ => .quiet rfl) fun scope hscope => ?_)
    rw [findScope, require_eq_ok] at hscope
    exact .left hscope
  | nextLoopIteration scopeId loopId maximum =>
    have hnext : Outcome (nextLoopIteration scopeId loopId maximum) l
        (fun _ => Effect l (.nextLoopIteration scopeId loopId maximum))
        (Refused l (.nextLoopIteration scopeId loopId maximum)) := by
      refine read_bind (lift_bind (fun e _ => .quiet rfl) fun scope hscope => ?_)
      refine lift_bind (fun e _ => .quiet rfl) fun _ _ => ?_
      refine lift_bind (fun e _ => .quiet rfl) fun _ hbelow => ?_
      refine lift_bind (fun e _ => .quiet rfl) fun _ _ => ?_
      rw [refuseIf_eq_ok, decide_eq_false_iff_not] at hbelow
      exact .iterated (scopeBeforeDeadline_ok hscope).1 (UInt32.not_le.mp hbelow)
    exact .bind hnext fun _ _ heffect => heffect
  | advanceTo tick =>
    refine read_bind (lift_bind (fun e _ => .quiet rfl) fun _ hlater => update_bind ?_)
    rw [refuseIf_eq_ok, decide_eq_false_iff_not] at hlater
    refine .lift (fun e _ => ⟨rfl, fun hsettles => absurd hsettles Bool.false_ne_true⟩) fun _ _ => ?_
    exact .advanced (UInt64.not_lt.mp hlater)

/-- What one call does, from a tree of scopes whose refunds fit. -/
theorem perform_outcome (h : Treelike root l) (hfits : Fits l) (call : LimitCall) :
    Outcome (perform call) l (fun _ => Effect l call) (Refused l call) := by
  cases call with
  | charge reservationId chargeId actual =>
    apply (charge_atomic (h.settleable hfits reservationId) chargeId actual).refail
    rintro e _ ⟨rfl, he⟩
    exact ⟨rfl, fun _ => he⟩
  | release reservationId =>
    apply (release_atomic (h.settleable hfits reservationId)).refail
    rintro e _ ⟨rfl, he, _⟩
    exact ⟨rfl, fun _ => he⟩
  | _ => exact perform_anchored h.anchored rfl

theorem Adjusted.parentOf {scopes : ExtTreeMap String BudgetScope} (h : Adjusted change lineage l.scopes scopes)
    (id : String) : scopes[id]?.map BudgetScope.parent = l.parentOf id := by
  by_cases hid : id ∈ lineage
  · obtain ⟨scope, remaining, hbefore, _, hafter⟩ := h.inside id hid
    rw [hafter, LimitLedger.parentOf, hbefore]
    rfl
  · rw [h.outside id hid, LimitLedger.parentOf]

section Reserved
variable {l' l'' : LimitLedger} {scopeId reservationId : String} {usage : Usage}

theorem reserved_refundable (h : Effect l (.reserve scopeId reservationId usage) l') :
    ∃ record, l'.reservations[reservationId]? = some record ∧ record.reservationId = reservationId ∧
      Refundable l' record := by
  cases h with
  | @reserved _ _ _ lineage scopes _ _ _ _ hpath hscopes =>
    refine ⟨_, getElem?_insert_self, rfl, lineage, hpath.congr fun k _ => hscopes.parentOf k, ?_⟩
    intro id hid scope hscope d
    obtain ⟨before, remaining, _, hchange, hafter⟩ := hscopes.inside id hid
    obtain rfl := some.inj (hafter.symm.trans hscope)
    obtain ⟨amounts, rfl, hamounts⟩ := (BudgetEnvelope.checkedSub_eq_ok _ _ _).mp hchange
    have hlt := (before.remaining.amount d).toNat_lt
    have hsum := hamounts d
    show (amounts.amount d).toNat + (usage.amount d).toNat ≤ u64Max
    unfold u64Max
    omega

private theorem checkedAddUsage_checkedSub {e e' e'' : BudgetEnvelope} (hsub : e.checkedSub usage = .ok e')
    (hadd : e'.checkedAddUsage usage = .ok e'') : e'' = e := by
  obtain ⟨amounts, rfl, hamounts⟩ := (BudgetEnvelope.checkedSub_eq_ok _ _ _).mp hsub
  obtain ⟨restored, rfl, hrestored⟩ := (BudgetEnvelope.checkedAddUsage_eq_ok _ _ _).mp hadd
  have hsame : restored = e.toUsage := by
    apply ext_amount
    intro d
    rw [hrestored d]
    exact hamounts d
  rw [hsame]

private theorem released_reserved (h : Effect l (.reserve scopeId reservationId usage) l')
    (h' : Effect l' (.release reservationId) l'') : l'' = l := by
  cases h with
  | @reserved _ _ _ lineage scopes _ _ hfresh _ hpath hscopes =>
    cases h' with
    | @released _ record lineage' scopes' hrecord hpath' hscopes' =>
      obtain rfl := some.inj (getElem?_insert_self.symm.trans hrecord)
      obtain rfl := hpath'.unique (hpath.congr fun k _ => hscopes.parentOf k)
      have hback : scopes' = l.scopes := by
        apply ext_getElem?
        intro id
        by_cases hid : id ∈ lineage'
        · obtain ⟨scope, remaining, hbefore, hsub, hmid⟩ := hscopes.inside id hid
          obtain ⟨scope', remaining', hmid', hadd, hafter⟩ := hscopes'.inside id hid
          obtain rfl := some.inj (hmid.symm.trans hmid')
          rw [hafter, hbefore, checkedAddUsage_checkedSub hsub hadd]
        · rw [hscopes'.outside id hid]
          exact hscopes.outside id hid
      have hgone : (l.reservations.insert reservationId ⟨reservationId, scopeId, usage⟩).erase reservationId =
          l.reservations := erase_insert hfresh
      rw [hback, hgone]

/-- A reservation that is released at once leaves no trace. -/
theorem release_reserved (h : Effect l (.reserve scopeId reservationId usage) l') :
    Outcome (release reservationId) l' (fun _ l'' => l'' = l) fun _ _ => False := by
  obtain ⟨record, hrecord, hkey, hrefundable⟩ := reserved_refundable h
  apply (release_atomic (.of_found hrecord hkey hrefundable)).conseq
  · exact fun _ _ => released_reserved h
  · rintro e _ ⟨_, _, hnone⟩
    cases hrecord.symm.trans hnone

end Reserved

end LimitLedger

end Aworkit.Worker
