import Aworkit.Protocol.Runtime

/-! The process-neutral contract of the local history (`history.rs`). -/
namespace Aworkit.Protocol

deriving instance DecidableEq for HistoryBackendV1

structure EventV1 where
  eventId : StableId
  schemaVersion : Nat
  kind : String
  payload : Value

structure AttemptV1 where
  (attemptId operationId : StableId)
  ordinal : Nat
  outcomeClass : String

structure CheckpointV1 where
  (reducerVersion stateHash : String)
  frozenSnapshotRef : Option StableId

/-- The identity of a command; the request's digest is the adapter's. -/
structure DedupV1 where
  keyType : String
  key : StableId
  deriving DecidableEq

structure OutboxV1 where
  outboxId : StableId
  destination : String
  schemaVersion : Nat
  payload : Value

/-- A content object that was prepared before the commit that admits it. -/
structure PreparedArtifactRefV1 where
  (tokenId artifactId : StableId)
  contentHash : String
  (byteSize stagingGeneration : Nat)
  originEventId : StableId

/-- The state that advances in one transaction. -/
structure CommitBatchV1 where
  backend : HistoryBackendV1
  (chatId runId branchId : StableId)
  (expectedHead expectedAggregateVersion : Nat)
  events : List EventV1
  attempts : List AttemptV1
  checkpoint : Option CheckpointV1
  deduplication : Option DedupV1
  outbox : List OutboxV1
  preparedArtifacts : List PreparedArtifactRefV1

structure CommitReceiptV1 where
  (headSequence aggregateVersion : Nat)
  eventIds : List StableId
  checkpointHash : Option String
  outboxIds : List StableId
  requestHash : String
  deriving DecidableEq

/-- A new commit, or the receipt of the commit that this one repeats. -/
inductive CommitOutcomeV1 where
  | committed (receipt : CommitReceiptV1)
  | existing (receipt : CommitReceiptV1)

end Aworkit.Protocol
