import Aworkit.Collections.Rebuild
import Aworkit.Protocol.Identity

/-! Suspended tokens (`SuspensionControllerV1` of `suspension.rs`): their answers, the controls that pause, cancel and
resume them, and the checkpoint. -/
namespace Aworkit.Worker
open Protocol Fallible OrderedMap Std

inductive SuspensionKindV1 where
  | input (inputId : StableId)
  | approval (approvalId : StableId)
  | paused (scope : String)
  | cancelling (scope : String)
  deriving DecidableEq

structure SuspensionFrameV1 where
  (suspensionId tokenId : StableId)
  kind : SuspensionKindV1
  resolved : Bool
  deriving DecidableEq

def SuspensionFrameV1.key (frame : SuspensionFrameV1) : String := frame.suspensionId.val

structure SuspensionCheckpointV1 where
  frames : List SuspensionFrameV1
  (consumedInputs consumedApprovals appliedControls : List StableId)

inductive SuspensionErrorV1 where
  | duplicateSuspension (suspensionId : String)
  | unknownSuspension (suspensionId : String)
  | alreadyResolved
  | controlMismatch
  | invalidCheckpoint
  deriving DecidableEq

structure SuspensionControllerV1 where
  frames : ExtTreeMap String SuspensionFrameV1
  (consumedInputs consumedApprovals appliedControls : ExtTreeSet String)

/-- The two answers a frame can wait for. -/
inductive Answer where
  | input
  | approval
  deriving DecidableEq

def Answer.awaited : Answer → StableId → SuspensionKindV1
  | .input => .input
  | .approval => .approval

namespace SuspensionControllerV1

def new : SuspensionControllerV1 := ⟨∅, ∅, ∅, ∅⟩

variable (c : SuspensionControllerV1)

def suspend (frame : SuspensionFrameV1) : Except SuspensionErrorV1 SuspensionControllerV1 := do
  refuseIf (frame.resolved ||
    (values c.frames).any (fun existing => !existing.resolved && decide (existing.tokenId = frame.tokenId)) ||
    c.frames.contains frame.key) (.duplicateSuspension frame.key)
  .ok { c with frames := c.frames.insert frame.key frame }

def frameUnresolved (suspensionId : StableId) : Except SuspensionErrorV1 SuspensionFrameV1 := do
  let frame ← require c.frames[suspensionId.val]? (.unknownSuspension suspensionId.val)
  refuseIf frame.resolved .alreadyResolved
  .ok frame

def consumed : Answer → ExtTreeSet String
  | .input => c.consumedInputs
  | .approval => c.consumedApprovals

/-- The controller after one answer has been consumed. -/
def consume (id : StableId) : Answer → SuspensionControllerV1
  | .input => { c with consumedInputs := c.consumedInputs.insert id.val }
  | .approval => { c with consumedApprovals := c.consumedApprovals.insert id.val }

/-- The common body of the two resolutions. -/
def resolve (answer : Answer) (suspensionId id : StableId) : Except SuspensionErrorV1 (Bool × SuspensionControllerV1) :=
  if (c.consumed answer).contains id.val then .ok (false, c)
  else do
    let frame ← c.frameUnresolved suspensionId
    refuseIf (decide (frame.kind ≠ answer.awaited id)) .controlMismatch
    let frames := c.frames.insert suspensionId.val { frame with resolved := true }
    .ok (true, { c with frames }.consume id answer)

def resolveInput (suspensionId inputId : StableId) :
    Except SuspensionErrorV1 (Bool × SuspensionControllerV1) := c.resolve .input suspensionId inputId

/-- The source takes the approval's outcome as well and ignores it. -/
def resolveApproval (suspensionId approvalId : StableId) :
    Except SuspensionErrorV1 (Bool × SuspensionControllerV1) := c.resolve .approval suspensionId approvalId

variable (scope : String)

/-- The scope rule of both controls. -/
def invalidScope : Bool := scope.isEmpty || decide (512 < scope.utf8ByteSize)

/-- An unresolved frame takes the control's kind, whatever it waited for. -/
def controlled (cancelling : Bool) (frame : SuspensionFrameV1) : SuspensionFrameV1 :=
  if frame.resolved then frame
  else { frame with kind := if cancelling then .cancelling scope else .paused scope }

def applyControl (controlId : StableId) (scope : String) (cancelling : Bool) :
    Except SuspensionErrorV1 (Bool × SuspensionControllerV1) := do
  refuseIf (invalidScope scope) .controlMismatch
  if c.appliedControls.contains controlId.val then .ok (false, c)
  else
    .ok (true, { c with
      frames := c.frames.map fun _ frame => controlled scope cancelling frame
      appliedControls := c.appliedControls.insert controlId.val })

/-- An unresolved frame that is paused in the scope. -/
def resumable (frame : SuspensionFrameV1) : Bool :=
  decide (frame.kind = .paused scope) && !frame.resolved

def resumed (frame : SuspensionFrameV1) : SuspensionFrameV1 :=
  if resumable scope frame then { frame with resolved := true } else frame

def resumePause (controlId : StableId) (scope : String) :
    Except SuspensionErrorV1 (List StableId × SuspensionControllerV1) := do
  refuseIf (invalidScope scope) .controlMismatch
  if c.appliedControls.contains controlId.val then .ok ([], c)
  else
    .ok (((values c.frames).filter (resumable scope)).map SuspensionFrameV1.tokenId, { c with
      frames := c.frames.map fun _ frame => resumed scope frame
      appliedControls := c.appliedControls.insert controlId.val })

def savedIds (ids : ExtTreeSet String) : List StableId := ids.toList.filterMap StableId.parse

def checkpoint : SuspensionCheckpointV1 where
  frames := values c.frames
  consumedInputs := savedIds c.consumedInputs
  consumedApprovals := savedIds c.consumedApprovals
  appliedControls := savedIds c.appliedControls

/-- Admits one frame; the set holds the tokens of unresolved frames so far. -/
def restoreFrame (read : ExtTreeMap String SuspensionFrameV1 × ExtTreeSet String) (frame : SuspensionFrameV1) :
    Except SuspensionErrorV1 (ExtTreeMap String SuspensionFrameV1 × ExtTreeSet String) := do
  refuseIf ((!frame.resolved && read.2.contains frame.tokenId.val) || read.1.contains frame.key) .invalidCheckpoint
  .ok (read.1.insert frame.key frame, if frame.resolved then read.2 else read.2.insert frame.tokenId.val)

def uniqueIds (ids : List StableId) : Except SuspensionErrorV1 (ExtTreeSet String) := do
  let unique := ExtTreeSet.ofList (ids.map StableId.val)
  refuseIf (unique.size != ids.length) .invalidCheckpoint
  .ok unique

/-- The id a resolved frame was waiting for. -/
def answeredBy (answer : Answer) (frame : SuspensionFrameV1) : Option String :=
  match answer, frame.kind with
  | .input, .input inputId => if frame.resolved then some inputId.val else none
  | .approval, .approval approvalId => if frame.resolved then some approvalId.val else none
  | _, _ => none

/-- The ids of the resolved frames that waited for such an answer. -/
def resolvedIds (frames : ExtTreeMap String SuspensionFrameV1) (answer : Answer) : ExtTreeSet String :=
  ExtTreeSet.ofList ((values frames).filterMap (answeredBy answer))

def restore (saved : SuspensionCheckpointV1) : Except SuspensionErrorV1 SuspensionControllerV1 := do
  refuseIf (decide (10000 < saved.frames.length)) .invalidCheckpoint
  let (frames, _) ← saved.frames.foldlM restoreFrame (∅, ∅)
  let inputs ← uniqueIds saved.consumedInputs
  let approvals ← uniqueIds saved.consumedApprovals
  let controls ← uniqueIds saved.appliedControls
  refuseIf (decide (resolvedIds frames .input ≠ inputs) || decide (resolvedIds frames .approval ≠ approvals))
    .invalidCheckpoint
  .ok ⟨frames, inputs, approvals, controls⟩

end SuspensionControllerV1
end Aworkit.Worker
