import Aworkit.Core.Authority
import Aworkit.Core.Lifecycle
import Aworkit.Worker.Rehydrator

/-! Recovery of a run from its committed facts (`recovery.rs`): the aggregate is folded again and handed to a
replacement worker. -/
namespace Aworkit.Core
open Protocol Fallible
open Worker (MessageEncoding deltaCursor)

structure RecoveryReport where
  headSequence : Nat
  terminal : Bool
  lastCheckpointHash : Option String
  pendingDeliveryCount : Nat
  effectReplayRequired : Bool

structure RecoveryEventV1 where
  sequence : Nat
  kind : String
  payload : Value

structure RecoveryFactsV1 where
  snapshot : WorkerFrozenRunSnapshotV1
  checkpoint : Option WorkerCheckpointV1
  lifecycleEvents : List CommittedRunEventV1
  events : List RecoveryEventV1
  committedDeltas : List Value
  reconciledOutcomes : List CapabilityOutcomeV1
  uncertainInvocationIds : List StableId
  (pendingDeliveryCount priorGeneration : Nat)

inductive RecoveryError where
  | port (code message : String) (retryable inspectableReadOnly : Bool)
  | invalidId
  | identityMismatch
  | corruptAggregate
  | historyGap
  | historyTooLong
  | missingCheckpoint
  | checkpointMismatch
  | conflictingOutcome
  | generationExhausted
  | encoding
  deriving DecidableEq

structure RecoveryPortErrorV1 where
  (code message : String)
  (retryable inspectableReadOnly : Bool)

/-- The read-only history: what it answers for a chat and a branch. -/
abbrev RecoveryHistoryPort := StableId → StableId → Except RecoveryPortErrorV1 RecoveryFactsV1

inductive RecoveryDecisionV1 where
  | terminal (aggregate : RunAggregateV1) (report : RecoveryReport)
  | blocked (aggregate : RunAggregateV1) (uncertainInvocationIds : List StableId) (pendingDeliveryCount : Nat)
  | spawnReplacement (aggregate : RunAggregateV1) (envelope : RehydrationEnvelopeV1) (pendingDeliveryCount : Nat)

def RecoveryPortErrorV1.toError (error : RecoveryPortErrorV1) : RecoveryError :=
  .port error.code error.message error.retryable error.inspectableReadOnly

def validateEventHistory (events : List RecoveryEventV1) : Except RecoveryError Unit := do
  refuseIf (decide (10000000 < events.length)) .historyTooLong
  checkAll (fun (event, index) => refuseIf (event.sequence != saturatingAdd u64Max index 1 || trimIsEmpty event.kind ||
    decide (256 < event.kind.utf8ByteSize)) .historyGap) events.zipIdx

def validateCheckpoint (enc : MessageEncoding) (snapshot : WorkerFrozenRunSnapshotV1) (checkpoint : WorkerCheckpointV1)
    (priorGeneration : Nat) : Except RecoveryError Unit := do
  let calculatedSnapshot ← (snapshotHashV1 enc.toEncoding snapshot).mapError fun _ => .encoding
  refuseIf (snapshot.snapshotHash != calculatedSnapshot || checkpoint.snapshotHash != snapshot.snapshotHash ||
    checkpoint.priorGeneration != priorGeneration || !isSha256 checkpoint.planHash ||
    !isSha256 checkpoint.checkpointHash) .checkpointMismatch
  let digest ← require (enc.checkpointDigest { checkpoint with checkpointHash := "" }) .encoding
  refuseIf (digest.text != checkpoint.checkpointHash) .checkpointMismatch

/-- Each delta carries the cursor after the one before it. -/
def chainDelta (expected : Nat) (delta : Value) : Except RecoveryError Nat := do
  refuseIf (deltaCursor delta != some expected) .historyGap
  return saturatingAdd u64Max expected 1

def validateDeltas (start : Nat) (deltas : List Value) : Except RecoveryError Unit := do
  refuseIf (decide (100000 < deltas.length)) .historyTooLong
  let _ ← deltas.foldlM chainDelta (saturatingAdd u64Max start 1)

/-- One round of the outcome loop: invocations and outcomes seen so far. -/
def admitOutcome (seen : Std.ExtTreeSet String × Std.ExtTreeSet String) (outcome : CapabilityOutcomeV1) :
    Except RecoveryError (Std.ExtTreeSet String × Std.ExtTreeSet String) := do
  refuseIf (seen.1.contains outcome.invocationId.val || seen.2.contains outcome.outcomeId.val) .conflictingOutcome
  return (seen.1.insert outcome.invocationId.val, seen.2.insert outcome.outcomeId.val)

def headSequence (events : List RecoveryEventV1) : Nat := events.getLast?.elim 0 RecoveryEventV1.sequence

def report (facts : RecoveryFactsV1) (aggregate : RunAggregateV1) : RecoveryReport where
  headSequence := headSequence facts.events
  terminal := aggregate.state.isTerminal
  lastCheckpointHash := facts.checkpoint.map WorkerCheckpointV1.checkpointHash
  pendingDeliveryCount := facts.pendingDeliveryCount
  effectReplayRequired := false

namespace LocalRecovery
variable (enc : MessageEncoding) (port : RecoveryHistoryPort)

def foldFacts (facts : RecoveryFactsV1) : Except RecoveryError RunAggregateV1 :=
  (RunAggregateV1.fold facts.snapshot.chatId facts.snapshot.runId facts.lifecycleEvents).mapError
    fun _ => .corruptAggregate

/-- The part of a recovery for a run that is neither over nor in doubt. -/
def replace (facts : RecoveryFactsV1) (aggregate : RunAggregateV1) : Except RecoveryError RecoveryDecisionV1 := do
  let checkpoint ← require facts.checkpoint .missingCheckpoint
  validateCheckpoint enc facts.snapshot checkpoint facts.priorGeneration
  validateDeltas checkpoint.committedCursor facts.committedDeltas
  let _ ← facts.reconciledOutcomes.foldlM admitOutcome (∅, ∅)
  let replacementGeneration ← require (checkedSucc facts.priorGeneration) .generationExhausted
  return .spawnReplacement aggregate
    ⟨facts.snapshot, checkpoint, replacementGeneration, facts.committedDeltas, facts.reconciledOutcomes⟩
    facts.pendingDeliveryCount

def recoverV1 (chatId branchId : StableId) : Except RecoveryError RecoveryDecisionV1 := do
  let facts ← (port chatId branchId).mapError RecoveryPortErrorV1.toError
  refuseIf (facts.snapshot.chatId != chatId) .identityMismatch
  validateEventHistory facts.events
  let aggregate ← foldFacts facts
  refuseIf (aggregate.snapshotHash != some facts.snapshot.snapshotHash) .identityMismatch
  if aggregate.state.isTerminal then return .terminal aggregate (report facts aggregate)
  else
    let uncertain := Std.ExtTreeSet.ofList (facts.uncertainInvocationIds.map StableId.val)
    refuseIf (uncertain.size != facts.uncertainInvocationIds.length) .conflictingOutcome
    refuseIf (uncertain.toList != aggregate.uncertainInvocations.toList) .conflictingOutcome
    if !facts.uncertainInvocationIds.isEmpty then
      return .blocked aggregate facts.uncertainInvocationIds facts.pendingDeliveryCount
    else replace enc facts aggregate

end LocalRecovery
end Aworkit.Core
