import Aworkit.Worker.ContextDag
import Aworkit.Worker.Limits

/-! Subagents of a run (`agent.rs`): the frames of the children over a context store and a limit ledger, and their
checkpoint. -/
namespace Aworkit.Worker
open Protocol Fallible Hoare Prog LimitLedger

inductive ChildStateV1 where
  | running | completed | integrated | cancelled
  deriving DecidableEq

structure ChildFrameV1 where
  childId : String
  (parentRevision childRootRevision childHeadRevision : Nat)
  scopeId : String
  state : ChildStateV1
  result : Option Value

/-- The source keeps the texts of these errors; here the errors. -/
inductive SubagentErrorV1 where
  | duplicateChild (id : String)
  | unknownChild (id : String)
  | invalidState
  | context (error : ContextError)
  | budget (error : LimitError)
  deriving DecidableEq

structure SubagentManagerV1 where
  children : Std.ExtTreeMap String ChildFrameV1

/-- The manager and the two stores that its operations are handed. -/
structure SubagentStores where
  manager : SubagentManagerV1
  context : ContextStore
  limits : LimitLedger

abbrev SubagentProg := Prog SubagentErrorV1 SubagentStores

/-- The budget scope of a child. -/
def childScope (childId : String) : String := "child." ++ childId

namespace SubagentStores

def onContext {α : Type} (m : ContextProg α) : SubagentProg α :=
  zoom SubagentStores.context (fun s context => { s with context }) .context m

def onLimits {α : Type} (m : LimitM α) : SubagentProg α :=
  zoom SubagentStores.limits (fun s limits => { s with limits }) .budget m

def findFrame (s : SubagentStores) (childId : String) : Except SubagentErrorV1 ChildFrameV1 :=
  require s.manager.children[childId]? (.unknownChild childId)

def setFrame (s : SubagentStores) (childId : String) (frame : ChildFrameV1) : SubagentStores :=
  { s with manager := ⟨s.manager.children.insert childId frame⟩ }

/-- The scope is created first, and closed again if the context refuses. -/
def spawn (enc : ContextEncoding) (childId parentScopeId : String) (childBudget : BudgetEnvelope)
    (spec : ChildContextSpec) : SubagentProg ChildFrameV1 := do
  let s ← read
  lift (refuseIf (s.manager.children.contains childId || spec.childId != childId) (.duplicateChild childId))
  onLimits (createChild (childScope childId) parentScopeId childBudget)
  let root ← handle (onContext (ContextStore.spawnChild enc spec)) fun error => do
    onLimits (closeChild (childScope childId))
    fail error
  let frame : ChildFrameV1 := ⟨childId, spec.parentRevision, root, root, childScope childId, .running, none⟩
  update (·.setFrame childId frame)
  pure frame

def complete (childId : String) (childHeadRevision : Nat) (result : Value) : SubagentProg Unit := do
  let s ← read
  let frame ← lift (s.findFrame childId)
  lift (refuseIf (frame.state != .running) .invalidState)
  update (·.setFrame childId { frame with childHeadRevision, result := some result, state := .completed })

/-- The scope is known to be closable before the context takes the result. -/
def integrate (enc : ContextEncoding) (childId : String) (parentHead : Nat) (integration : ChildIntegration) :
    SubagentProg Nat := do
  let s ← read
  let frame ← lift (s.findFrame childId)
  lift (refuseIf (frame.state != .completed) .invalidState)
  lift ((s.limits.canCloseChild frame.scopeId).mapError .budget)
  let result ← lift (require frame.result .invalidState)
  let revision ← onContext
    (ContextStore.integrateChild enc childId frame.childHeadRevision parentHead result integration)
  onLimits (closeChild frame.scopeId)
  update (·.setFrame childId { frame with state := .integrated })
  pure revision

def cancel (childId : String) : SubagentProg Bool := do
  let s ← read
  let frame ← lift (s.findFrame childId)
  if frame.state = .integrated ∨ frame.state = .cancelled then pure false
  else
    onLimits (closeChild frame.scopeId)
    update (·.setFrame childId { frame with state := .cancelled })
    pure true

end SubagentStores

namespace SubagentManagerV1

def new : SubagentManagerV1 := ⟨∅⟩

def checkpoint (m : SubagentManagerV1) : List ChildFrameV1 := OrderedMap.values m.children

def validResult (child : ChildFrameV1) : Bool :=
  match child.state with
  | .running => child.result.isNone
  | .completed | .integrated => child.result.isSome
  | .cancelled => true

/-- Admits one saved frame, beside the scopes of the frames before it. -/
def restoreChild (read : Std.ExtTreeMap String ChildFrameV1 × Std.ExtTreeSet String) (child : ChildFrameV1) :
    Except SubagentErrorV1 (Std.ExtTreeMap String ChildFrameV1 × Std.ExtTreeSet String) := do
  refuseIf (child.parentRevision == 0 || child.childRootRevision == 0 ||
    decide (child.childHeadRevision < child.childRootRevision) || child.scopeId != childScope child.childId ||
    !validResult child || read.2.contains child.scopeId) .invalidState
  refuseIf (read.1.contains child.childId) .invalidState
  .ok (read.1.insert child.childId child, read.2.insert child.scopeId)

def restore (saved : List ChildFrameV1) : Except SubagentErrorV1 SubagentManagerV1 := do
  let (children, _) ← saved.foldlM restoreChild (∅, ∅)
  .ok ⟨children⟩

end SubagentManagerV1

/-- A call of the manager, or of one of the stores beside it. -/
inductive SubagentCall where
  | spawn (childId parentScopeId : String) (childBudget : BudgetEnvelope) (spec : ChildContextSpec)
  | complete (childId : String) (childHeadRevision : Nat) (result : Value)
  | integrate (childId : String) (parentHead : Nat) (integration : ChildIntegration)
  | cancel (childId : String)
  | context (call : ContextStore.Call)
  | limits (call : LimitCall)

namespace SubagentStores

/-- The stores after a call, whether it answered or failed. -/
def perform (enc : ContextEncoding) (s : SubagentStores) : SubagentCall → SubagentStores
  | .spawn childId parentScopeId childBudget spec => (spawn enc childId parentScopeId childBudget spec s).2
  | .complete childId childHeadRevision result => (complete childId childHeadRevision result s).2
  | .integrate childId parentHead integration => (integrate enc childId parentHead integration s).2
  | .cancel childId => (cancel childId s).2
  | .context call => { s with context := s.context.perform enc call }
  | .limits call => { s with limits := (LimitLedger.perform call s.limits).2 }

def run (enc : ContextEncoding) (s : SubagentStores) (calls : List SubagentCall) : SubagentStores :=
  calls.foldl (perform enc) s

end SubagentStores
end Aworkit.Worker
