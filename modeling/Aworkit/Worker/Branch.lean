import Aworkit.Collections.Rebuild
import Aworkit.Protocol.Json

/-! Parallel and for-each branch frames and their joins (`branch.rs`). A frame keeps its branches in a vector; each
carries its ordinal. -/
namespace Aworkit.Worker
open Protocol Fallible OrderedMap

inductive BranchStateV1 where
  | ready | running | completed | cancelled | failed
  deriving DecidableEq

def BranchStateV1.terminal : BranchStateV1 → Bool
  | .completed | .cancelled | .failed => true
  | .ready | .running => false

structure BranchRecordV1 where
  branchId : StableId
  ordinal : Nat
  state : BranchStateV1
  result : Option Value

structure BranchFrameV1 where
  (frameId parentTokenId joinNodeId : StableId)
  branches : List BranchRecordV1
  mergePolicy : String
  integrated : Bool

structure BranchCheckpointV1 where
  frames : List BranchFrameV1

inductive BranchError where
  | duplicateFrame (frameId : String)
  | unknownFrame (frameId : String)
  | unknownBranch (branchId : String)
  | branchTerminal (branchId : String)
  | joinNotReady
  | alreadyIntegrated
  | invalidBranchCount
  | duplicateBranch
  | unsupportedMergePolicy (policy : String)
  | objectMergeType
  deriving DecidableEq

structure BranchJoinCoordinator where
  frames : Std.ExtTreeMap String BranchFrameV1

def maxBranchesPerFrame : Nat := 1024

def BranchFrameV1.key (frame : BranchFrameV1) : String := frame.frameId.val

/-- Every branch has reached a terminal state. -/
def BranchFrameV1.settled (frame : BranchFrameV1) : Bool := frame.branches.all fun branch => branch.state.terminal

namespace BranchJoinCoordinator

def new : BranchJoinCoordinator := ⟨∅⟩

def supportedPolicy (policy : String) : Bool := policy == "ordered_array" || policy == "object_overlay"

def invalidCount (count : Nat) : Bool := decide (count = 0) || decide (maxBranchesPerFrame < count)

/-- The branches of a new frame, numbered in the declared order. -/
def declared (ids : List StableId) : List BranchRecordV1 :=
  ids.mapIdx fun ordinal id => ⟨id, ordinal, .ready, none⟩

variable (c : BranchJoinCoordinator)

def openParallel (frameId parentTokenId joinNodeId : StableId) (ids : List StableId)
    (mergePolicy : String) : Except BranchError (List BranchRecordV1 × BranchJoinCoordinator) := do
  refuseIf (invalidCount ids.length) .invalidBranchCount
  refuseIf (!supportedPolicy mergePolicy) (.unsupportedMergePolicy mergePolicy)
  refuseIf (c.frames.contains frameId.val) (.duplicateFrame frameId.val)
  refuseIf ((Std.ExtTreeSet.ofList (ids.map StableId.val)).size != ids.length) .duplicateBranch
  let frame : BranchFrameV1 := ⟨frameId, parentTokenId, joinNodeId, declared ids, mergePolicy, false⟩
  .ok (declared ids, ⟨c.frames.insert frameId.val frame⟩)

/-- The id of a for-each branch: 64 characters of its ordinal and a digest. -/
def stableBranchId (sha256 : String → Sha256Digest) (frameId : StableId) (ordinal : Nat) : Option StableId :=
  let digest := (sha256 (frameId.val ++ ":" ++ toString ordinal)).text
  StableId.parse (String.ofList (("branch." ++ toString ordinal ++ "." ++ digest).toList.take 64))

def openForEach (sha256 : String → Sha256Digest) (c : BranchJoinCoordinator)
    (frameId parentTokenId joinNodeId : StableId) (items : List Value) (maximumItems : Nat) (mergePolicy : String) :
    Except BranchError (List (BranchRecordV1 × Value) × BranchJoinCoordinator) := do
  refuseIf (decide (items.length = 0) || decide (maximumItems < items.length) ||
    decide (maxBranchesPerFrame < items.length)) .invalidBranchCount
  let ids ← require ((List.range items.length).mapM (stableBranchId sha256 frameId)) .invalidBranchCount
  let (branches, next) ← c.openParallel frameId parentTokenId joinNodeId ids mergePolicy
  .ok (branches.zip items, next)

/-- Changes the first branch with the id in place. -/
def updateBranch (branchId : StableId) (change : BranchRecordV1 → Except BranchError BranchRecordV1) :
    List BranchRecordV1 → Except BranchError (List BranchRecordV1)
  | [] => .error (.unknownBranch branchId.val)
  | branch :: rest =>
    if branch.branchId = branchId then do
      let updated ← change branch
      .ok (updated :: rest)
    else do
      let updated ← updateBranch branchId change rest
      .ok (branch :: updated)

def withBranch (frameId branchId : StableId)
    (change : BranchRecordV1 → Except BranchError BranchRecordV1) : Except BranchError BranchJoinCoordinator := do
  let frame ← require c.frames[frameId.val]? (.unknownFrame frameId.val)
  let branches ← updateBranch branchId change frame.branches
  .ok ⟨c.frames.insert frameId.val { frame with branches }⟩

def markRunning (frameId branchId : StableId) : Except BranchError BranchJoinCoordinator :=
  c.withBranch frameId branchId fun branch => do
    refuseIf (decide (branch.state ≠ .ready)) (.branchTerminal branchId.val)
    .ok { branch with state := .running }

def complete (frameId branchId : StableId) (result : Value) : Except BranchError BranchJoinCoordinator :=
  c.withBranch frameId branchId fun branch => do
    refuseIf branch.state.terminal (.branchTerminal branchId.val)
    .ok { branch with state := .completed, result := some result }

def cancelled (branch : BranchRecordV1) : BranchRecordV1 :=
  if branch.state.terminal then branch else { branch with state := .cancelled }

variable (frameId : StableId)

def cancelFrame : Except BranchError BranchJoinCoordinator := do
  let frame ← require c.frames[frameId.val]? (.unknownFrame frameId.val)
  .ok ⟨c.frames.insert frameId.val { frame with branches := frame.branches.map cancelled }⟩

/-- One round of the object merge; a branch without result is skipped. -/
def mergeObject (merged : List (String × Value)) : Option Value → Except BranchError (List (String × Value))
  | none => .ok merged
  | some value => do
    let object ← require value.asObject .objectMergeType
    .ok (Value.overlay merged object)

/-- The joined value of some results, in the order given. -/
def merge (mergePolicy : String) (results : List (Option Value)) : Except BranchError Value :=
  if mergePolicy = "ordered_array" then .ok (.array (results.map fun result => result.getD .null))
  else if mergePolicy = "object_overlay" then do
    let merged ← results.foldlM mergeObject []
    .ok (.object merged)
  else .error (.unsupportedMergePolicy mergePolicy)

def integrate : Except BranchError (Value × BranchJoinCoordinator) := do
  let frame ← require c.frames[frameId.val]? (.unknownFrame frameId.val)
  refuseIf frame.integrated .alreadyIntegrated
  refuseIf (!frame.settled) .joinNotReady
  let value ← merge frame.mergePolicy (frame.branches.map BranchRecordV1.result)
  .ok (value, ⟨c.frames.insert frameId.val { frame with integrated := true }⟩)

def checkpoint : BranchCheckpointV1 := ⟨values c.frames⟩

/-- A completed branch has a result, any other has none. -/
def contradictory (branch : BranchRecordV1) : Bool :=
  match branch.state with
  | .completed => branch.result.isNone
  | _ => branch.result.isSome

/-- The checks on one saved frame. The ordinals are compared as a set. -/
def validateFrame (frame : BranchFrameV1) : Except BranchError Unit := do
  refuseIf (invalidCount frame.branches.length) .invalidBranchCount
  refuseIf (!supportedPolicy frame.mergePolicy) (.unsupportedMergePolicy frame.mergePolicy)
  let ids := Std.ExtTreeSet.ofList (frame.branches.map fun branch => branch.branchId.val)
  let ordinals := Std.ExtTreeSet.ofList (frame.branches.map BranchRecordV1.ordinal)
  refuseIf (ids.size != frame.branches.length ||
    decide (ordinals ≠ Std.ExtTreeSet.ofList (List.range frame.branches.length)) ||
    frame.branches.any contradictory || (frame.integrated && !frame.settled)) .duplicateBranch

def restoreFrame (frames : Std.ExtTreeMap String BranchFrameV1) (frame : BranchFrameV1) :
    Except BranchError (Std.ExtTreeMap String BranchFrameV1) := do
  validateFrame frame
  refuseIf (frames.contains frame.key) .duplicateBranch
  .ok (frames.insert frame.key frame)

def restore (saved : BranchCheckpointV1) : Except BranchError BranchJoinCoordinator := do
  let frames ← saved.frames.foldlM restoreFrame ∅
  .ok ⟨frames⟩

end BranchJoinCoordinator
end Aworkit.Worker
