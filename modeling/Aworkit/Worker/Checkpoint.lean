import Aworkit.Worker.Scheduler

/-! Checkpoints of a scheduler: what is written, and what a restored one passes. -/
namespace Aworkit.Worker
open Protocol Fallible OrderedMap

/-- A node completes without transition at a terminal or a wait with input. -/
def validCompletion : WorkerExecutorKindV1 → Option ExternalCompletionV1 → Bool
  | .terminal, none => true
  | .wait, some .waitInputReceived => true
  | _, _ => false

/-- The selections of a token that waits on a proposal, or completed by one. -/
def validateSelection (plan : ExecutionPlanV1) (node : WorkerNodeV1) (token : TokenV1) :
    Except SchedulerErrorV1 Unit := do
  refuseIf token.awaitingProposalId.isNone .invalidCheckpoint
  match token.selectedTransitionId with
  | some transitionId =>
    let transition ← require (plan.transition transitionId) .invalidCheckpoint
    refuseIf (transition.fromNode != token.nodeId || transition.declaredLoopId != token.selectedLoopId ||
      token.externalCompletion.isSome) .invalidCheckpoint
  | none =>
    refuseIf (token.selectedLoopId.isSome || !validCompletion node.executor token.externalCompletion)
      .invalidCheckpoint

def validateRestoredToken (plan : ExecutionPlanV1) (token : TokenV1) : Except SchedulerErrorV1 Unit := do
  let node ← require (plan.node token.nodeId) .invalidCheckpoint
  refuseIf (!validLineage token.branchLineage) .invalidCheckpoint
  match token.state with
  | .ready | .inFlight | .suspended | .cancelled =>
    refuseIf (token.awaitingProposalId.isSome || token.selectedTransitionId.isSome || token.selectedLoopId.isSome ||
      token.externalCompletion.isSome) .invalidCheckpoint
  | .awaitingCommit | .completed => validateSelection plan node token

namespace SchedulerV1

variable (s : SchedulerV1)

def checkpoint : SchedulerCheckpointV1 where
  logicalTick := s.logicalTick
  nextTokenOrdinal := s.nextTokenOrdinal
  committedCursor := s.committedCursor
  tokens := values s.tokens
  ready := s.ready.toList.map fun key => (key.logicalTick, key.nodeOrdinal, key.branchLineage, key.tokenId)
  loopCounts := s.loopCounts
  acknowledgedProposals := s.acknowledgedProposals

def restoreLoopCount (plan : ExecutionPlanV1) (entry : String × Nat) : Except SchedulerErrorV1 Unit := do
  let loopId ← require (StableId.parse entry.1) .invalidCheckpoint
  let descriptor ← require (plan.loopDescriptor loopId) .invalidCheckpoint
  refuseIf (decide (descriptor.maximumIterations.toNat < entry.2)) .invalidCheckpoint

/-- Admits one token: valid, not from the future, its proposal and id its own. -/
def restoreToken (restored : List StableId × Std.ExtTreeMap String TokenV1) (token : TokenV1) :
    Except SchedulerErrorV1 (List StableId × Std.ExtTreeMap String TokenV1) := do
  refuseIf (decide (s.logicalTick < token.logicalTick)) .invalidCheckpoint
  validateRestoredToken s.plan token
  refuseIf (token.awaitingProposalId.any restored.1.contains) .invalidCheckpoint
  refuseIf (restored.2.contains token.tokenId.val) .invalidCheckpoint
  .ok (token.awaitingProposalId.toList ++ restored.1, restored.2.insert token.tokenId.val token)

/-- Admits one ready key: it names a ready token and repeats its fields. -/
def restoreReady (ready : Std.ExtTreeSet ReadyKeyV1) (entry : Nat × Nat × String × String) :
    Except SchedulerErrorV1 (Std.ExtTreeSet ReadyKeyV1) := do
  let key : ReadyKeyV1 := ⟨entry.1, entry.2.1, entry.2.2.1, entry.2.2.2⟩
  let token ← require s.tokens[key.tokenId]? .invalidCheckpoint
  refuseIf (token.state != .ready || token.logicalTick != key.logicalTick ||
    token.branchLineage != key.branchLineage || s.nodeOrdinals[token.nodeId.val]? != some key.nodeOrdinal)
    .invalidCheckpoint
  refuseIf (ready.contains key) .invalidCheckpoint
  .ok (ready.insert key)

/-- An acknowledged proposal has a completed source and the child or completion it recorded. -/
def restoreAcknowledged (entry : String × Option String) : Except SchedulerErrorV1 Unit := do
  let proposalId ← require (StableId.parse entry.1) .invalidCheckpoint
  let source ← require (s.sourceOf proposalId) .invalidCheckpoint
  refuseIf (source.state != .completed) .invalidCheckpoint
  match entry.2 with
  | some childId =>
    let child ← require s.tokens[childId]? .invalidCheckpoint
    let transition ← require (source.selectedTransitionId.bind s.plan.transition) .invalidCheckpoint
    refuseIf (transition.toNode != child.nodeId || source.branchLineage != child.branchLineage ||
      source.externalCompletion.isSome) .invalidCheckpoint
  | none =>
    refuseIf (source.selectedTransitionId.isSome ||
      !((s.plan.node source.nodeId).any fun node => validCompletion node.executor source.externalCompletion))
      .invalidCheckpoint

/-- Exactly the completed tokens have an acknowledged proposal. -/
def restoreCompletion (token : TokenV1) : Except SchedulerErrorV1 Unit :=
  let acknowledged := token.awaitingProposalId.any fun proposal => s.acknowledgedProposals.contains proposal.val
  refuseIf ((token.state == .completed) != acknowledged || token.state == .awaitingCommit && acknowledged)
    .invalidCheckpoint

def restoreLoopCapacity (descriptor : WorkerLoopDescriptorV1) : Except SchedulerErrorV1 Unit := do
  let committed := s.loopCounts[descriptor.loopId.val]?.getD 0
  let pending := countTokens (TokenV1.pendingIn descriptor.loopId) s.tokens
  refuseIf (decide (u32Max < pending)) .invalidCheckpoint
  refuseIf (decide (descriptor.maximumIterations.toNat < saturatingAdd u32Max committed pending)) .invalidCheckpoint

/-- The checks that read the rebuilt scheduler as a whole. -/
def validateRestored : Except SchedulerErrorV1 Unit := do
  refuseIf ((values s.tokens).any fun token => token.state == .ready &&
    !(s.ready.toList.any fun key => key.tokenId == token.tokenId.val)) .invalidCheckpoint
  checkAll s.restoreAcknowledged s.acknowledgedProposals.toList
  checkAll s.restoreCompletion (values s.tokens)
  checkAll s.restoreLoopCapacity s.plan.snapshot.loopDescriptors

def restore (plan : ExecutionPlanV1) (checkpoint : SchedulerCheckpointV1) : Except SchedulerErrorV1 SchedulerV1 := do
  refuseIf (checkpoint.nextTokenOrdinal == 0 ||
    decide (checkpoint.committedCursor < checkpoint.acknowledgedProposals.size)) .invalidCheckpoint
  checkAll (restoreLoopCount plan) checkpoint.loopCounts.toList
  let fresh := { new plan with
    logicalTick := checkpoint.logicalTick
    nextTokenOrdinal := checkpoint.nextTokenOrdinal
    committedCursor := checkpoint.committedCursor
    loopCounts := checkpoint.loopCounts
    acknowledgedProposals := checkpoint.acknowledgedProposals }
  let (_, tokens) ← checkpoint.tokens.foldlM fresh.restoreToken ([], ∅)
  let withTokens := { fresh with tokens }
  let expectedNext ← require (checkedSucc tokens.size) .invalidCheckpoint
  refuseIf (withTokens.nextTokenOrdinal != expectedNext) .invalidCheckpoint
  let ready ← checkpoint.ready.foldlM withTokens.restoreReady ∅
  let restored := { withTokens with ready }
  restored.validateRestored
  .ok restored

end SchedulerV1
end Aworkit.Worker
