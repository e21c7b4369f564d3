import Aworkit.Protocol.Runtime

/-! The messages between the core and a workflow worker. -/
namespace Aworkit.Protocol

inductive ApprovalOutcomeV1 where
  | approved | denied | expired | cancelled
  deriving DecidableEq

inductive CapabilityOutcomeClassV1 where
  | success | definiteNotStarted | failedKnownStarted | cancelledEvidence | uncertain | denied
  deriving DecidableEq

structure CapabilityOutcomeV1 where
  (outcomeId invocationId : StableId)
  outcomeClass : CapabilityOutcomeClassV1
  retrySafeProof : Bool
  payload : Value
  usage : Option Value

structure WorkerCheckpointV1 where
  checkpointId : StableId
  (snapshotHash planHash checkpointHash : String)
  (priorGeneration committedCursor proposalSequence : Nat)
  (tokenFrontier contextHeads contextRevisionDag branchFrames loopFrames budgetState : Value)
  (attemptState noResendState suspensionState childFrames : Value)

structure RehydrationEnvelopeV1 where
  snapshot : WorkerFrozenRunSnapshotV1
  checkpoint : WorkerCheckpointV1
  replacementGeneration : Nat
  committedDeltas : List Value
  reconciledOutcomes : List CapabilityOutcomeV1

inductive WorkerControlKindV1 where
  | start (snapshot : WorkerFrozenRunSnapshotV1)
  | restore (rehydration : RehydrationEnvelopeV1)
  | input (inputId : StableId) (payload : Value)
  | approval (approvalId : StableId) (outcome : ApprovalOutcomeV1)
  | pause (controlId : StableId) (scope : String)
  | resume (controlId : StableId) (scope : String)
  | cancel (controlId : StableId) (scope : String)
  | capabilityOutcome (outcome : CapabilityOutcomeV1)
  | committedAck (proposalId : StableId) (committedCursor : Nat)
  | shutdown (controlId : StableId)

structure WorkerControlEnvelopeV1 where
  (messageId chatId runId : StableId)
  generation : Nat
  snapshotHash : String
  committedCursor : Nat
  control : WorkerControlKindV1

structure WorkerInvocationProposalV1 where
  (invocationId nodeId attemptId capabilityRef authorityManifestRef budgetRef : StableId)
  payload : Value

inductive WorkerProposalKindV1 where
  | ready (planFingerprint : String)
  | transition (transitionId : StableId) (facts : Value)
  | invocation (proposal : WorkerInvocationProposalV1)
  | suspension (suspensionId : StableId) (state : Value)
  | checkpoint (checkpoint : WorkerCheckpointV1)
  | terminal (outcome : String) (facts : Value)
  | health (facts : Value)
  | rehydrationReady (checkpointHash : String)
  | rehydrationBlocked (code message : String)

structure WorkerProposalEnvelopeV1 where
  (proposalId chatId runId : StableId)
  generation : Nat
  snapshotHash : String
  (workerSequence baseCommittedCursor : Nat)
  proposal : WorkerProposalKindV1

/-- The wire name of an outcome class (`snake_case`). -/
def CapabilityOutcomeClassV1.wireName : CapabilityOutcomeClassV1 → String
  | .success => "success"
  | .definiteNotStarted => "definite_not_started"
  | .failedKnownStarted => "failed_known_started"
  | .cancelledEvidence => "cancelled_evidence"
  | .uncertain => "uncertain"
  | .denied => "denied"

def ApprovalOutcomeV1.wireName : ApprovalOutcomeV1 → String
  | .approved => "approved"
  | .denied => "denied"
  | .expired => "expired"
  | .cancelled => "cancelled"

/-- The JSON document of an outcome, its members in key order. -/
def CapabilityOutcomeV1.toValue (outcome : CapabilityOutcomeV1) : Value :=
  .object [("class", .string outcome.outcomeClass.wireName), ("invocationId", .string outcome.invocationId.val),
    ("outcomeId", .string outcome.outcomeId.val), ("payload", outcome.payload),
    ("retrySafeProof", .bool outcome.retrySafeProof), ("usage", outcome.usage.getD .null)]

end Aworkit.Protocol
