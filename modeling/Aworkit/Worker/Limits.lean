import Aworkit.Collections.OrderedMap
import Aworkit.Graph.Lineage
import Aworkit.Logic.Hoare
import Aworkit.Protocol.Identity

/-! The execution-limit ledger of the workflow worker (`limits.rs`): scopes of a run, prepared and settled
reservations, and the checkpoint. -/
namespace Aworkit.Worker
open Protocol Fallible Hoare Std OrderedMap Prog

inductive LimitError where
  | exhausted
  | deadlineExceeded
  | invalidReservation
  | unknownScope (id : String)
  | duplicateId (id : String)
  | unknownReservation (id : String)
  | reservationExceeded
  | structuralLimit
  | overflow
  | deadlineExtension
deriving DecidableEq, Repr

/-- `u64::checked_sub`. -/
def checkedSub (a b : UInt64) : Option UInt64 := if b ≤ a then some (a - b) else none

/-- `u64::checked_add`. -/
def checkedAdd (a b : UInt64) : Option UInt64 := if a.toNat + b.toNat ≤ u64Max then some (a + b) else none

theorem checkedSub_eq_some (a b c : UInt64) : checkedSub a b = some c ↔ c.toNat + b.toNat = a.toNat := by
  unfold checkedSub
  constructor
  · intro h
    split at h
    next hle =>
      cases h
      rw [UInt64.toNat_sub_of_le _ _ hle]
      have hnat := UInt64.le_iff_toNat_le.mp hle
      omega
    next => cases h
  · intro h
    have hle : b ≤ a := UInt64.le_iff_toNat_le.mpr (by omega)
    rw [if_pos hle]
    refine congrArg some (UInt64.toNat_inj.mp ?_)
    rw [UInt64.toNat_sub_of_le _ _ hle]
    omega

theorem checkedAdd_eq_some (a b c : UInt64) : checkedAdd a b = some c ↔ c.toNat = a.toNat + b.toNat := by
  unfold checkedAdd u64Max
  have hc := c.toNat_lt
  constructor
  · intro h
    split at h
    next hle =>
      cases h
      rw [UInt64.toNat_add, Nat.mod_eq_of_lt (by omega)]
    next => cases h
  · intro h
    rw [if_pos (by omega)]
    refine congrArg some (UInt64.toNat_inj.mp ?_)
    rw [UInt64.toNat_add, Nat.mod_eq_of_lt (by omega), h]

/-- What a reservation takes and a charge commits. -/
structure Usage where
  (turns attempts toolCalls tokens costMicros actions : UInt64)
deriving DecidableEq, Repr

/-- The consumable dimensions. -/
inductive Dimension where
  | turns | attempts | toolCalls | tokens | costMicros | actions
deriving DecidableEq, Repr

namespace Usage

def amount (u : Usage) : Dimension → UInt64
  | .turns => u.turns
  | .attempts => u.attempts
  | .toolCalls => u.toolCalls
  | .tokens => u.tokens
  | .costMicros => u.costMicros
  | .actions => u.actions

/-- One checked operation in every dimension; the first refusal stops it. -/
def combine (op : UInt64 → UInt64 → Option UInt64) (e : LimitError) (a b : Usage) : Except LimitError Usage := do
  let turns ← require (op a.turns b.turns) e
  let attempts ← require (op a.attempts b.attempts) e
  let toolCalls ← require (op a.toolCalls b.toolCalls) e
  let tokens ← require (op a.tokens b.tokens) e
  let costMicros ← require (op a.costMicros b.costMicros) e
  let actions ← require (op a.actions b.actions) e
  return { turns, attempts, toolCalls, tokens, costMicros, actions }

def isZero (u : Usage) : Bool :=
  u.turns == 0 && u.attempts == 0 && u.toolCalls == 0 && u.tokens == 0 && u.costMicros == 0 && u.actions == 0

def contains (u actual : Usage) : Bool :=
  decide (actual.turns ≤ u.turns) && decide (actual.attempts ≤ u.attempts) &&
    decide (actual.toolCalls ≤ u.toolCalls) && decide (actual.tokens ≤ u.tokens) &&
    decide (actual.costMicros ≤ u.costMicros) && decide (actual.actions ≤ u.actions)

def checkedSub (u actual : Usage) : Except LimitError Usage := combine Worker.checkedSub .overflow u actual

end Usage

structure BudgetEnvelope extends Usage where
  (maxDepth maxFanOut maxParallel : UInt32)
  deadlineTick : UInt64
deriving DecidableEq, Repr

namespace BudgetEnvelope

def componentMin (e other : BudgetEnvelope) : BudgetEnvelope where
  turns := min e.turns other.turns
  attempts := min e.attempts other.attempts
  toolCalls := min e.toolCalls other.toolCalls
  tokens := min e.tokens other.tokens
  costMicros := min e.costMicros other.costMicros
  actions := min e.actions other.actions
  maxDepth := min e.maxDepth other.maxDepth
  maxFanOut := min e.maxFanOut other.maxFanOut
  maxParallel := min e.maxParallel other.maxParallel
  deadlineTick := min e.deadlineTick other.deadlineTick

def checkedSub (e : BudgetEnvelope) (usage : Usage) : Except LimitError BudgetEnvelope := do
  let amounts ← Usage.combine Worker.checkedSub .exhausted e.toUsage usage
  return { e with toUsage := amounts }

def checkedAddUsage (e : BudgetEnvelope) (usage : Usage) : Except LimitError BudgetEnvelope := do
  let amounts ← Usage.combine checkedAdd .overflow e.toUsage usage
  return { e with toUsage := amounts }

end BudgetEnvelope

structure ReservationRecord where
  (reservationId scopeId : String)
  reserved : Usage
deriving DecidableEq, Repr

structure BudgetScope where
  parent : Option String
  depth : UInt32
  remaining : BudgetEnvelope
  (activeChildren activeParallel : UInt32)
deriving DecidableEq, Repr

structure LimitLedger where
  tick : UInt64
  scopes : ExtTreeMap String BudgetScope
  reservations : ExtTreeMap String ReservationRecord
  chargeIds : ExtTreeSet String
  loopIterations : ExtTreeMap String UInt32

def logicalIdChar (c : Char) : Bool := c.isAlphanum || c == '.' || c == '_' || c == '-' || c == ':'

def validateLogicalId (value : String) : Except LimitError Unit :=
  refuseIf (value.isEmpty || decide (128 < value.utf8ByteSize) || !value.toList.all logicalIdChar) .invalidReservation

abbrev LimitM := Prog LimitError LimitLedger

namespace LimitLedger

def new (rootScopeId : String) (budget : BudgetEnvelope) : Except LimitError LimitLedger := do
  validateLogicalId rootScopeId
  let root : BudgetScope := { parent := none, depth := 0, remaining := budget, activeChildren := 0, activeParallel := 0 }
  return { tick := 0, scopes := (∅ : ExtTreeMap String BudgetScope).insert rootScopeId root,
           reservations := ∅, chargeIds := ∅, loopIterations := ∅ }

variable (l : LimitLedger)

def setScope (id : String) (scope : BudgetScope) : LimitLedger :=
  { l with scopes := l.scopes.insert id scope }

/-- The parent of a scope, for the walk to the root. -/
def parentOf (id : String) : Option (Option String) := l.scopes[id]?.map BudgetScope.parent

def strayError : Forest.Stray String → LimitError
  | .cycle => .invalidReservation
  | .missing id => .unknownScope id

variable (scopeId : String)

/-- No scope is met twice, so one round more than there are scopes is enough. -/
def scopeLineage : Except LimitError (List String) :=
  (Forest.climb l.parentOf (l.scopes.size + 1) [] scopeId).mapError strayError

def findScope : Except LimitError BudgetScope :=
  require l.scopes[scopeId]? (.unknownScope scopeId)

def scopeBeforeDeadline : Except LimitError BudgetScope := do
  let scope ← l.findScope scopeId
  refuseIf (decide (scope.remaining.deadlineTick ≤ l.tick)) .deadlineExceeded
  return scope

def createChild (scopeId parentScopeId : String) (configured : BudgetEnvelope) : LimitM Unit := do
  lift (validateLogicalId scopeId)
  let l ← read
  lift (refuseIf (l.scopes.contains scopeId) (.duplicateId scopeId))
  let parent ← lift (l.findScope parentScopeId)
  lift (refuseIf (decide (parent.depth.toNat = u32Max)) .overflow)
  let depth := parent.depth + 1
  lift (refuseIf (decide (parent.remaining.maxDepth < depth) ||
    decide (parent.remaining.maxFanOut ≤ parent.activeChildren)) .structuralLimit)
  update (·.setScope parentScopeId { parent with activeChildren := parent.activeChildren + 1 })
  update (·.setScope scopeId
    { parent := some parentScopeId, depth, remaining := configured.componentMin parent.remaining,
      activeChildren := 0, activeParallel := 0 })

def canCloseChild : Except LimitError Unit := do
  let scope ← l.findScope scopeId
  refuseIf scope.parent.isNone .invalidReservation
  refuseIf ((values l.reservations).any (fun record => record.scopeId == scopeId) ||
    (values l.scopes).any (fun candidate => candidate.parent == some scopeId)) .invalidReservation

def closeChild : LimitM Unit := do
  let l ← read
  lift (l.canCloseChild scopeId)
  let scope ← lift (l.findScope scopeId)
  update fun l => { l with scopes := l.scopes.erase scopeId }
  match scope.parent with
  | none => pure ()
  | some parentId =>
    let rest ← read
    let parent ← lift (rest.findScope parentId)
    -- `saturating_sub(1)`
    update (·.setScope parentId
      { parent with activeChildren := if parent.activeChildren = 0 then 0 else parent.activeChildren - 1 })

/-- The loop of `reserve`, `charge` and `release` over a lineage. What it wrote before a refusal stays. -/
def adjust (change : BudgetEnvelope → Except LimitError BudgetEnvelope) : List String → LimitM Unit
  | [] => pure ()
  | ancestor :: rest => do
    let l ← read
    let scope ← lift (l.findScope ancestor)
    let remaining ← lift (change scope.remaining)
    update (·.setScope ancestor { scope with remaining })
    adjust change rest

/-- The admission of a reservation by one ancestor. -/
def admitUsage (usage : Usage) (ancestor : String) : Except LimitError Unit := do
  let scope ← l.scopeBeforeDeadline ancestor
  let _ ← scope.remaining.checkedSub usage
  return ()

def reserve (scopeId reservationId : String) (usage : Usage) : LimitM Unit := do
  lift (validateLogicalId reservationId)
  lift (refuseIf usage.isZero .invalidReservation)
  let l ← read
  lift (refuseIf (l.reservations.contains reservationId || l.chargeIds.contains reservationId)
    (.duplicateId reservationId))
  let lineage ← lift (l.scopeLineage scopeId)
  lift (checkAll (l.admitUsage usage) lineage)
  adjust (·.checkedSub usage) lineage
  update fun l =>
    { l with reservations := l.reservations.insert reservationId { reservationId, scopeId, reserved := usage } }

def takeReservation (reservationId : String) : LimitM ReservationRecord := do
  let l ← read
  let record ← lift (require l.reservations[reservationId]? (.unknownReservation reservationId))
  update fun l => { l with reservations := l.reservations.erase reservationId }
  return record

def charge (reservationId chargeId : String) (actual : Usage) : LimitM Unit := do
  lift (validateLogicalId chargeId)
  let l ← read
  if l.chargeIds.contains chargeId then pure ()
  else
    let record ← takeReservation reservationId
    if !record.reserved.contains actual then
      update fun l => { l with reservations := l.reservations.insert record.reservationId record }
      fail .reservationExceeded
    else
      let unused ← lift (record.reserved.checkedSub actual)
      let settled ← read
      let lineage ← lift (settled.scopeLineage record.scopeId)
      adjust (·.checkedAddUsage unused) lineage
      update fun l => { l with chargeIds := l.chargeIds.insert chargeId }

def release (reservationId : String) : LimitM Unit := do
  let record ← takeReservation reservationId
  let l ← read
  let lineage ← lift (l.scopeLineage record.scopeId)
  adjust (·.checkedAddUsage record.reserved) lineage

def enterParallel : LimitM Unit := do
  let l ← read
  let scope ← lift (l.scopeBeforeDeadline scopeId)
  lift (refuseIf (decide (scope.remaining.maxParallel ≤ scope.activeParallel)) .structuralLimit)
  update (·.setScope scopeId { scope with activeParallel := scope.activeParallel + 1 })

def leaveParallel : LimitM Unit := do
  let l ← read
  let scope ← lift (l.findScope scopeId)
  update (·.setScope scopeId
    { scope with activeParallel := if scope.activeParallel = 0 then 0 else scope.activeParallel - 1 })

def nextLoopIteration (scopeId loopId : String) (maximum : UInt32) : LimitM UInt32 := do
  let l ← read
  let _ ← lift (l.scopeBeforeDeadline scopeId)
  lift (refuseIf (maximum == 0) .structuralLimit)
  let key := scopeId ++ ":" ++ loopId
  let current := l.loopIterations[key]?.getD 0
  lift (refuseIf (decide (maximum ≤ current)) .exhausted)
  lift (refuseIf (decide (current.toNat = u32Max)) .overflow)
  update fun l => { l with loopIterations := l.loopIterations.insert key (current + 1) }
  return current + 1

/-- The tick is written before the deadlines are read: a late call still moves it. -/
def advanceTo (tick : UInt64) : LimitM Unit := do
  let l ← read
  lift (refuseIf (decide (tick < l.tick)) .deadlineExtension)
  update fun l => { l with tick }
  lift (refuseIf ((values l.scopes).any fun scope => decide (scope.remaining.deadlineTick ≤ tick))
    .deadlineExceeded)

def remaining : Option BudgetEnvelope := l.scopes[scopeId]?.map BudgetScope.remaining

structure BudgetScopeCheckpoint where
  scopeId : String
  parentScopeId : Option String
  depth : UInt32
  remaining : BudgetEnvelope
  (activeChildren activeParallel : UInt32)

structure LimitCheckpoint where
  currentTick : UInt64
  scopes : List BudgetScopeCheckpoint
  reservations : List ReservationRecord
  chargeIds : List String
  loopIterations : List (String × UInt32)

/-- A scope with its deadline as a remaining duration (`saturating_sub`). -/
def saveScope (tick : UInt64) (entry : String × BudgetScope) : BudgetScopeCheckpoint where
  scopeId := entry.1
  parentScopeId := entry.2.parent
  depth := entry.2.depth
  remaining := { entry.2.remaining with
    deadlineTick := (Worker.checkedSub entry.2.remaining.deadlineTick tick).getD 0 }
  activeChildren := entry.2.activeChildren
  activeParallel := entry.2.activeParallel

def checkpoint : LimitCheckpoint where
  currentTick := l.tick
  scopes := l.scopes.toList.map (saveScope l.tick)
  reservations := values l.reservations
  chargeIds := l.chargeIds.toList
  loopIterations := l.loopIterations.toList

/-- `str::split_once(':')`: the texts before and after the first colon. -/
def splitOnce (key : String) : Option (String × String) :=
  match key.toList.dropWhile (· != ':') with
  | [] => none
  | _ :: rest => some (String.ofList (key.toList.takeWhile (· != ':')), String.ofList rest)

def restoreScope (newTick : UInt64) (scopes : ExtTreeMap String BudgetScope) (saved : BudgetScopeCheckpoint) :
    Except LimitError (ExtTreeMap String BudgetScope) := do
  validateLogicalId saved.scopeId
  let deadlineTick ← require (checkedAdd newTick saved.remaining.deadlineTick) .overflow
  return scopes.insert saved.scopeId
    { parent := saved.parentScopeId, depth := saved.depth, remaining := { saved.remaining with deadlineTick },
      activeChildren := saved.activeChildren, activeParallel := saved.activeParallel }

def checkRestoredScope (newTick : UInt64) (scopes : ExtTreeMap String BudgetScope) (scope : BudgetScope) :
    Except LimitError Unit := do
  match scope.parent with
  | none => pure ()
  | some parent => refuseIf (!scopes.contains parent) (.unknownScope parent)
  refuseIf (decide (scope.remaining.maxParallel < scope.activeParallel)) .structuralLimit
  refuseIf (decide (scope.remaining.deadlineTick ≤ newTick)) .deadlineExceeded

variable (scopes : ExtTreeMap String BudgetScope)

def childrenOf (scopeId : String) : Nat :=
  ((values scopes).filter (fun candidate => candidate.parent == some scopeId)).length

def checkRestoredTree (entry : String × BudgetScope) : Except LimitError Unit := do
  let scope := entry.2
  refuseIf (decide (childrenOf scopes entry.1 ≠ scope.activeChildren.toNat)) .structuralLimit
  refuseIf (decide (scope.remaining.maxFanOut < scope.activeChildren)) .structuralLimit
  match scope.parent with
  | some parentId => do
    let parent ← require scopes[parentId]? (.unknownScope parentId)
    refuseIf (decide (scope.depth.toNat ≠ saturatingAdd u32Max parent.depth.toNat 1) ||
      decide (parent.remaining.maxDepth < scope.depth)) .structuralLimit
  | none => refuseIf (decide (scope.depth ≠ 0)) .structuralLimit

def restoreReservation (reservations : ExtTreeMap String ReservationRecord) (record : ReservationRecord) :
    Except LimitError (ExtTreeMap String ReservationRecord) := do
  validateLogicalId record.reservationId
  refuseIf (!scopes.contains record.scopeId || record.reserved.isZero ||
    reservations.contains record.reservationId) .invalidReservation
  return reservations.insert record.reservationId record

def restorableLoop (entry : String × UInt32) : Bool :=
  entry.2 != 0 &&
    match splitOnce entry.1 with
    | none => false
    | some (scopeId, loopId) => scopes.contains scopeId && (validateLogicalId loopId).isOk

def restore (saved : LimitCheckpoint) (newTick : UInt64) : Except LimitError LimitLedger := do
  let scopes ← saved.scopes.foldlM (restoreScope newTick) ∅
  checkAll (checkRestoredScope newTick scopes) (values scopes)
  refuseIf (decide (((values scopes).filter fun scope => scope.parent.isNone).length ≠ 1)) .structuralLimit
  checkAll (checkRestoredTree scopes) scopes.toList
  let reservations ← saved.reservations.foldlM (restoreReservation scopes) ∅
  let chargeIds : ExtTreeSet String := ExtTreeSet.ofList saved.chargeIds
  refuseIf (decide (chargeIds.size ≠ saved.chargeIds.length) ||
    chargeIds.toList.any (fun id => !(validateLogicalId id).isOk || reservations.contains id)) .invalidReservation
  let loopIterations : ExtTreeMap String UInt32 := ExtTreeMap.ofList saved.loopIterations
  refuseIf (decide (loopIterations.size ≠ saved.loopIterations.length) ||
    loopIterations.toList.any (fun entry => !restorableLoop scopes entry)) .invalidReservation
  return { tick := newTick, scopes, reservations, chargeIds, loopIterations }

end LimitLedger

/-- A call of a mutating operation of the ledger. -/
inductive LimitCall where
  | createChild (scopeId parentScopeId : String) (configured : BudgetEnvelope)
  | closeChild (scopeId : String)
  | reserve (scopeId reservationId : String) (usage : Usage)
  | charge (reservationId chargeId : String) (actual : Usage)
  | release (reservationId : String)
  | enterParallel (scopeId : String)
  | leaveParallel (scopeId : String)
  | nextLoopIteration (scopeId loopId : String) (maximum : UInt32)
  | advanceTo (tick : UInt64)
deriving DecidableEq, Repr

namespace LimitLedger

def perform : LimitCall → LimitM Unit
  | .createChild scopeId parentScopeId configured => createChild scopeId parentScopeId configured
  | .closeChild scopeId => closeChild scopeId
  | .reserve scopeId reservationId usage => reserve scopeId reservationId usage
  | .charge reservationId chargeId actual => charge reservationId chargeId actual
  | .release reservationId => release reservationId
  | .enterParallel scopeId => enterParallel scopeId
  | .leaveParallel scopeId => leaveParallel scopeId
  | .nextLoopIteration scopeId loopId maximum => do
    let _ ← nextLoopIteration scopeId loopId maximum
  | .advanceTo tick => advanceTo tick

/-- The ledger after a sequence of calls, failed ones included. -/
def run (l : LimitLedger) (calls : List LimitCall) : LimitLedger :=
  calls.foldl (fun l call => (perform call l).2) l

end LimitLedger

end Aworkit.Worker
