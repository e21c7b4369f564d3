import Aworkit.Collections.Table
import Aworkit.Protocol.History

/-! The local semantic history over its SQLite tables (`aworkit-local-store/src/ledger.rs`). A call is one
transaction; what a failing COMMIT leaves is given with it. -/
namespace Aworkit.LocalStore
open Protocol Fallible

def supportedSemanticSchema : Nat := 1

/-- The largest value of an INTEGER column. -/
def i64Max : Nat := 2 ^ 63 - 1

inductive StoreError where
  | sql
  | json
  | headConflict (expected actual : Nat)
  | aggregateVersionConflict (expected actual : Nat)
  | deduplicationKeyReused
  | invalidEventBatch
  | invalidId
  | invalidText
  | forbiddenSecretMaterial
  | duplicateEventInBatch
  | duplicateAttemptInBatch
  | duplicateOutboxInBatch
  | duplicateArtifactTokenInBatch
  | invalidStoredData
  | unsupportedSchemaVersion (version : Nat)
  | wrongHistoryBackend
  | backendBindingMismatch
  | unknownOutbox
  | outboxCursorConflict (expected actual : Nat)
  | corruptOutbox
  | unknownArtifactToken
  | artifactTokenMismatch
  | artifactTokenAlreadyFinalized
  | artifactOriginOutsideCommit
  | artifactIdentityConflict
  | corruptArtifact
  | invalidContentHash
  | storeQuarantined (reason : String)
  | ambiguousCommitQuarantined (reason : String)
  deriving DecidableEq

/-- `serde_json` on payloads, and SHA-256 over a payload's text and a batch's canonical bytes. -/
structure LedgerCodec where
  toText : Value → String
  fromText : String → Option Value
  payloadHash : String → Sha256Digest
  requestHash : CommitBatchV1 → Sha256Digest

section Legacy

structure Event where
  (eventId kind : String)
  payload : Value

structure Attempt where
  (attemptId operationId : String)
  ordinal : Nat
  outcomeClass : String

structure Checkpoint where
  (reducerVersion stateHash : String)
  frozenSnapshotRef : Option String

/-- The digest is accepted and never trusted. -/
structure Deduplication where
  (keyType key requestHash : String)

structure OutboxEntry where
  (outboxId destination : String)
  payload : Value

structure CommitBatch where
  (chatId branchId : String)
  expectedHead : Nat
  events : List Event
  attempt : Option Attempt
  checkpoint : Option Checkpoint
  deduplication : Option Deduplication
  outbox : List OutboxEntry

end Legacy

section Tables

structure StreamRow where
  (chatId branchId runId : StableId)
  (headSequence aggregateVersion : Nat)
  deriving DecidableEq

structure EventRow where
  (eventId chatId branchId : StableId)
  (sequence schemaVersion : Nat)
  (kind payload : String)
  deriving DecidableEq

structure AttemptRow where
  (attemptId chatId branchId operationId : StableId)
  ordinal : Nat
  outcomeClass : String
  deriving DecidableEq

structure CheckpointRow where
  (chatId branchId : StableId)
  committedSequence : Nat
  (reducerVersion stateHash : String)
  frozenSnapshotRef : Option StableId
  deriving DecidableEq

structure DeduplicationRow where
  keyType : String
  key : StableId
  requestHash : String
  (chatId branchId : StableId)
  receipt : CommitReceiptV1
  deriving DecidableEq

structure OutboxRow where
  (outboxId chatId branchId : StableId)
  (commitSequence deliveryCursor : Nat)
  destination : String
  schemaVersion : Nat
  (payload payloadHash : String)
  delivered : Bool
  deriving DecidableEq

structure PreparedArtifactRow where
  (tokenId artifactId : StableId)
  contentHash : String
  byteSize : Nat
  (mediaType logicalName : String)
  stagingGeneration : Nat
  finalizedEventId : Option StableId
  deriving DecidableEq

structure ArtifactRow where
  artifactId : StableId
  contentHash : String
  byteSize : Nat
  (mediaType logicalName : String)
  createdGeneration : Nat
  deriving DecidableEq

/-- The tables of the store; the last field is the reason in `store_state`. -/
structure Tables where
  streams : List StreamRow
  events : List EventRow
  attempts : List AttemptRow
  checkpoints : List CheckpointRow
  deduplication : List DeduplicationRow
  outbox : List OutboxRow
  preparedArtifacts : List PreparedArtifactRow
  artifacts : List ArtifactRow
  artifactReferences : List (StableId × StableId)
  quarantine : Option String

def Tables.empty : Tables := ⟨[], [], [], [], [], [], [], [], [], none⟩

/-- The primary key and the stream position of an event. -/
def EventRow.clashes (a b : EventRow) : Bool :=
  a.eventId == b.eventId || (a.chatId == b.chatId && a.branchId == b.branchId && a.sequence == b.sequence)

def AttemptRow.clashes (a b : AttemptRow) : Bool :=
  a.attemptId == b.attemptId ||
    (a.chatId == b.chatId && a.branchId == b.branchId && a.operationId == b.operationId && a.ordinal == b.ordinal)

def CheckpointRow.clashes (a b : CheckpointRow) : Bool :=
  a.chatId == b.chatId && a.branchId == b.branchId && a.committedSequence == b.committedSequence

def DeduplicationRow.clashes (a b : DeduplicationRow) : Bool := a.keyType == b.keyType && a.key == b.key

/-- The primary key of an outbox entry and the unique index of its cursor. -/
def OutboxRow.clashes (a b : OutboxRow) : Bool :=
  a.outboxId == b.outboxId || a.deliveryCursor == b.deliveryCursor

def StreamRow.on (chatId branchId : StableId) (row : StreamRow) :
    Bool := row.chatId == chatId && row.branchId == branchId

end Tables

section Checks

def toI64 (value : Nat) : Except StoreError Nat := do
  refuseIf (decide (i64Max < value)) .invalidStoredData
  return value

def checkedAdd (a b : Nat) : Except StoreError Nat := do
  refuseIf (decide (u64Max < a + b)) .invalidStoredData
  return a + b

def validateText (value : String) : Except StoreError Unit :=
  refuseIf (value.isEmpty || decide (256 < value.utf8ByteSize) || value.toList.contains '\x00') .invalidText

def validateHashOrId : String → Except StoreError Unit := validateText

def validateSha256 (value : String) : Except StoreError Unit := refuseIf (!isSha256 value) .invalidContentHash

def forbiddenKeys : List String :=
  ["secret", "secrets", "token", "accesstoken", "refreshtoken", "leasetoken", "credential", "credentials", "password",
    "authorization", "apikey", "privatekey"]

/-- A member's key without its punctuation, in lower case. -/
def normalizedKey (key : String) : String := String.ofList ((key.toList.filter Char.isAlphanum).map Char.toLower)

mutual

def validatePayload : Value → Except StoreError Unit
  | .object members => validateMembers members
  | .array items => validateItems items
  | _ => .ok ()

def validateMembers : List (String × Value) → Except StoreError Unit
  | [] => .ok ()
  | (key, value) :: rest => do
    refuseIf (forbiddenKeys.contains (normalizedKey key)) .forbiddenSecretMaterial
    validatePayload value
    validateMembers rest

def validateItems : List Value → Except StoreError Unit
  | [] => .ok ()
  | value :: rest => do
    validatePayload value
    validateItems rest

end

/-- Checks the items in turn; an identity seen before is refused. -/
def validateDistinct {α : Type} (check : α → Except StoreError Unit) (id : α → StableId) (duplicate : StoreError)
    (seen : List StableId) : List α → Except StoreError Unit
  | [] => .ok ()
  | item :: rest => do
    check item
    refuseIf (seen.contains (id item)) duplicate
    validateDistinct check id duplicate (id item :: seen) rest

def validateEvent (event : EventV1) : Except StoreError Unit := do
  refuseIf (event.schemaVersion != supportedSemanticSchema) (.unsupportedSchemaVersion event.schemaVersion)
  validateText event.kind
  validatePayload event.payload

def validateAttempt (attempt : AttemptV1) : Except StoreError Unit := validateText attempt.outcomeClass

def validateCheckpoint (checkpoint : CheckpointV1) : Except StoreError Unit := do
  validateText checkpoint.reducerVersion
  validateHashOrId checkpoint.stateHash

def validateDeduplication (deduplication : DedupV1) : Except StoreError Unit := validateText deduplication.keyType

def validateOutbox (entry : OutboxV1) : Except StoreError Unit := do
  refuseIf (entry.schemaVersion != supportedSemanticSchema) (.unsupportedSchemaVersion entry.schemaVersion)
  validateText entry.destination
  validatePayload entry.payload

def validateReference (reference : PreparedArtifactRefV1) : Except StoreError Unit := do
  validateSha256 reference.contentHash
  let _ ← toI64 reference.byteSize
  let _ ← toI64 reference.stagingGeneration

def validateBatch (batch : CommitBatchV1) : Except StoreError Unit := do
  refuseIf (batch.backend != .localSqlite) .wrongHistoryBackend
  let _ ← toI64 batch.expectedHead
  let _ ← toI64 batch.expectedAggregateVersion
  refuseIf batch.events.isEmpty .invalidEventBatch
  validateDistinct validateEvent EventV1.eventId .duplicateEventInBatch [] batch.events
  validateDistinct validateAttempt AttemptV1.attemptId .duplicateAttemptInBatch [] batch.attempts
  checkAll validateCheckpoint batch.checkpoint.toList
  checkAll validateDeduplication batch.deduplication.toList
  validateDistinct validateOutbox OutboxV1.outboxId .duplicateOutboxInBatch [] batch.outbox
  validateDistinct validateReference PreparedArtifactRefV1.tokenId .duplicateArtifactTokenInBatch []
    batch.preparedArtifacts

def stable (value : String) : Except StoreError StableId := require (StableId.parse value) .invalidId

/-- The schema a payload names, or else the supported one. -/
def payloadSchema (payload : Value) : Except StoreError Nat :=
  match payload.get "schemaVersion" with
  | none => .ok supportedSemanticSchema
  | some (.number (.posInt n)) => if n < 2 ^ 16 then .ok n else .error (.unsupportedSchemaVersion 0)
  | some _ => .error (.unsupportedSchemaVersion 0)

/-- A legacy batch: its run is its chat, its version the expected head. -/
def legacyBatch (batch : CommitBatch) : Except StoreError CommitBatchV1 := do
  let chatId ← stable batch.chatId
  let branchId ← stable batch.branchId
  let events ← batch.events.mapM fun event => do
    let eventId ← stable event.eventId
    let schemaVersion ← payloadSchema event.payload
    return { eventId, schemaVersion, kind := event.kind,
             payload := event.payload : EventV1 }
  let attempts ← batch.attempt.toList.mapM fun attempt => do
    let attemptId ← stable attempt.attemptId
    let operationId ← stable attempt.operationId
    return { attemptId, operationId, ordinal := attempt.ordinal,
             outcomeClass := attempt.outcomeClass : AttemptV1 }
  let checkpoint ← batch.checkpoint.mapM fun checkpoint => do
    let frozenSnapshotRef ← checkpoint.frozenSnapshotRef.mapM stable
    return { reducerVersion := checkpoint.reducerVersion, stateHash := checkpoint.stateHash,
             frozenSnapshotRef := frozenSnapshotRef : CheckpointV1 }
  let deduplication ← batch.deduplication.mapM fun deduplication => do
    let key ← stable deduplication.key
    return { keyType := deduplication.keyType, key := key : DedupV1 }
  let outbox ← batch.outbox.mapM fun entry => do
    let outboxId ← stable entry.outboxId
    let schemaVersion ← payloadSchema entry.payload
    return { outboxId, destination := entry.destination, schemaVersion,
             payload := entry.payload : OutboxV1 }
  return { backend := .localSqlite, chatId, runId := chatId, branchId,
           expectedHead := batch.expectedHead, expectedAggregateVersion := batch.expectedHead, events,
           attempts, checkpoint, deduplication, outbox,
           preparedArtifacts := [] }

end Checks

section Commit
variable (c : LedgerCodec) (objects : String → Nat → Bool)

def streamState (s : Tables) (chatId branchId : StableId) : Option StreamRow := s.streams.find? (·.on chatId branchId)

variable (batch : CommitBatchV1)

/-- A new row for the stream, or the new head and version in its row. -/
def upsertStream (newHead newAggregate : Nat) (streams : List StreamRow) : Except StoreError (List StreamRow) := do
  let _ ← toI64 newHead
  let _ ← toI64 newAggregate
  let row : StreamRow :=
    { chatId := batch.chatId, branchId := batch.branchId, runId := batch.runId, headSequence := newHead,
      aggregateVersion := newAggregate }
  return if streams.any (·.on batch.chatId batch.branchId) then
    streams.map fun old =>
      if old.on batch.chatId batch.branchId then { old with headSequence := newHead, aggregateVersion := newAggregate }
      else old
  else streams ++ [row]

def eventRow (oldHead : Nat) (event : EventV1 × Nat) : EventRow where
  eventId := event.1.eventId
  chatId := batch.chatId
  branchId := batch.branchId
  sequence := oldHead + event.2 + 1
  schemaVersion := event.1.schemaVersion
  kind := event.1.kind
  payload := c.toText event.1.payload

/-- The number of a row behind those that are there. -/
def checkedNumber (old offset : Nat) : Except StoreError Unit := do
  let number ← checkedAdd old offset
  let number ← checkedAdd number 1
  let _ ← toI64 number

def insertEvents (oldHead : Nat) : List EventRow → Except StoreError (List EventRow) :=
  Table.extend (fun event => checkedNumber oldHead event.2) EventRow.clashes .sql (eventRow c batch oldHead)
    batch.events.zipIdx

def attemptRow (attempt : AttemptV1) : AttemptRow where
  attemptId := attempt.attemptId
  chatId := batch.chatId
  branchId := batch.branchId
  operationId := attempt.operationId
  ordinal := attempt.ordinal
  outcomeClass := attempt.outcomeClass

def insertAttempts : List AttemptRow → Except StoreError (List AttemptRow) :=
  Table.extend (fun _ => .ok ()) AttemptRow.clashes .sql (attemptRow batch) batch.attempts

def checkpointRow (head : Nat) (checkpoint : CheckpointV1) : CheckpointRow where
  chatId := batch.chatId
  branchId := batch.branchId
  committedSequence := head
  reducerVersion := checkpoint.reducerVersion
  stateHash := checkpoint.stateHash
  frozenSnapshotRef := checkpoint.frozenSnapshotRef

def insertCheckpoint (head : Nat) : List CheckpointRow → Except StoreError (List CheckpointRow) :=
  Table.extend (fun _ => do let _ ← toI64 head) CheckpointRow.clashes .sql (checkpointRow batch head)
    batch.checkpoint.toList

/-- `COALESCE(MAX(delivery_cursor), 0)`. -/
def maxCursor (outbox : List OutboxRow) : Nat := (outbox.map OutboxRow.deliveryCursor).foldl max 0

def outboxRow (head cursor : Nat) (entry : OutboxV1 × Nat) : OutboxRow where
  outboxId := entry.1.outboxId
  chatId := batch.chatId
  branchId := batch.branchId
  commitSequence := head
  deliveryCursor := cursor + entry.2 + 1
  destination := entry.1.destination
  schemaVersion := entry.1.schemaVersion
  payload := c.toText entry.1.payload
  payloadHash := (c.payloadHash (c.toText entry.1.payload)).text
  delivered := false

/-- The cursors count on from the greatest one that is stored. -/
def insertOutbox (head : Nat) (outbox : List OutboxRow) : Except StoreError (List Nat × List OutboxRow) := do
  let cursor := maxCursor outbox
  let rows ← Table.extend (fun entry => do checkedNumber cursor entry.2; let _ ← toI64 head) OutboxRow.clashes .sql
    (outboxRow c batch head cursor) batch.outbox.zipIdx outbox
  return (batch.outbox.zipIdx.map fun entry => cursor + entry.2 + 1, rows)

/-- The object of a hash is there with its bytes. -/
def verifyObject (expectedHash : String) (expectedSize : Nat) : Except StoreError Unit := do
  validateSha256 expectedHash
  refuseIf (!objects expectedHash expectedSize) .corruptArtifact

/-- An artifact keeps its metadata. -/
def admitArtifact (reference : PreparedArtifactRefV1) (prepared : PreparedArtifactRow) (artifacts : List ArtifactRow) :
    Except StoreError (List ArtifactRow) :=
  match artifacts.find? (·.artifactId == prepared.artifactId) with
  | some existing => do
    refuseIf (existing.contentHash != prepared.contentHash || existing.byteSize != reference.byteSize ||
      existing.mediaType != prepared.mediaType || existing.logicalName != prepared.logicalName)
      .artifactIdentityConflict
    return artifacts
  | none =>
    .ok (artifacts ++ [⟨prepared.artifactId, prepared.contentHash, reference.byteSize, prepared.mediaType,
      prepared.logicalName, reference.stagingGeneration⟩])

def finalizeArtifact (s : Tables) (reference : PreparedArtifactRefV1) : Except StoreError Tables := do
  refuseIf (!(batch.events.map EventV1.eventId).contains reference.originEventId) .artifactOriginOutsideCommit
  let prepared ← require (s.preparedArtifacts.find? (·.tokenId == reference.tokenId)) .unknownArtifactToken
  refuseIf (prepared.artifactId != reference.artifactId || prepared.contentHash != reference.contentHash ||
    prepared.byteSize != reference.byteSize || prepared.stagingGeneration != reference.stagingGeneration)
    .artifactTokenMismatch
  refuseIf (prepared.finalizedEventId.any (· != reference.originEventId)) .artifactTokenAlreadyFinalized
  verifyObject objects prepared.contentHash reference.byteSize
  let artifacts ← admitArtifact reference prepared s.artifacts
  return { s with
    artifacts
    artifactReferences := s.artifactReferences.insert (reference.artifactId, reference.originEventId)
    preparedArtifacts := s.preparedArtifacts.map fun row =>
      if row.tokenId = reference.tokenId then { row with finalizedEventId := some reference.originEventId } else row }

def finalizeArtifacts (s : Tables) : Except StoreError Tables :=
  batch.preparedArtifacts.foldlM (finalizeArtifact objects batch) s

variable (requestHash : String)

def deduplicationRow (receipt : CommitReceiptV1) (deduplication : DedupV1) : DeduplicationRow where
  keyType := deduplication.keyType
  key := deduplication.key
  requestHash := requestHash
  chatId := batch.chatId
  branchId := batch.branchId
  receipt := receipt

def insertDeduplication (receipt : CommitReceiptV1) :
    List DeduplicationRow → Except StoreError (List DeduplicationRow) :=
  Table.extend (fun _ => .ok ()) DeduplicationRow.clashes .sql (deduplicationRow batch requestHash receipt)
    batch.deduplication.toList

def loadDeduplication (deduplication : DedupV1) (rows : List DeduplicationRow) : Option DeduplicationRow :=
  rows.find? fun row => row.keyType == deduplication.keyType && row.key == deduplication.key

def commitReceipt (newHead newAggregate : Nat) (requestHash : String) : CommitReceiptV1 where
  headSequence := newHead
  aggregateVersion := newAggregate
  eventIds := batch.events.map EventV1.eventId
  checkpointHash := batch.checkpoint.map CheckpointV1.stateHash
  outboxIds := batch.outbox.map OutboxV1.outboxId
  requestHash := requestHash

/-- A transaction before its COMMIT: nothing to write, or all written. -/
inductive Staged where
  | existing (receipt : CommitReceiptV1)
  | fresh (receipt : CommitReceiptV1) (outboxCursors : List Nat) (next : Tables)

/-- The receipt of the batch that holds the key. -/
def existingReceipt (s : Tables) : Except StoreError (Option CommitReceiptV1) :=
  match batch.deduplication.bind (loadDeduplication · s.deduplication) with
  | none => .ok none
  | some existing => do
    refuseIf (existing.requestHash != requestHash || existing.chatId != batch.chatId ||
      existing.branchId != batch.branchId) .deduplicationKeyReused
    return some existing.receipt

/-- The head and version of the batch's stream, which belongs to its run. -/
def currentHead (s : Tables) : Except StoreError (Nat × Nat) :=
  match streamState s batch.chatId batch.branchId with
  | some state => do
    refuseIf (state.runId != batch.runId) .backendBindingMismatch
    return (state.headSequence, state.aggregateVersion)
  | none => .ok (0, 0)

/-- The head and the version that the batch builds on. -/
def fencedHead (enforceAggregateVersion : Bool) (batch : CommitBatchV1) (s : Tables) :
    Except StoreError (Nat × Nat) := do
  let current ← currentHead batch s
  refuseIf (current.1 != batch.expectedHead) (.headConflict batch.expectedHead current.1)
  refuseIf (enforceAggregateVersion && current.2 != batch.expectedAggregateVersion)
    (.aggregateVersionConflict batch.expectedAggregateVersion current.2)
  return current

/-- The statements of a new batch. -/
def writeBatch (currentHead currentAggregate : Nat) (s : Tables) : Except StoreError Staged := do
  let newHead ← checkedAdd currentHead batch.events.length
  let newAggregate ← checkedAdd currentAggregate 1
  let streams ← upsertStream batch newHead newAggregate s.streams
  let events ← insertEvents c batch currentHead s.events
  let attempts ← insertAttempts batch s.attempts
  let checkpoints ← insertCheckpoint batch newHead s.checkpoints
  let outbox ← insertOutbox c batch newHead s.outbox
  let written := { s with
    streams
    events
    attempts
    checkpoints
    outbox := outbox.2 }
  let finalized ← finalizeArtifacts objects batch written
  let receipt := commitReceipt batch newHead newAggregate requestHash
  let deduplication ← insertDeduplication batch requestHash receipt s.deduplication
  return .fresh receipt outbox.1 { finalized with deduplication }

/-- The part of `commit_inner` before its COMMIT. -/
def stageCommit (enforceAggregateVersion : Bool) (batch : CommitBatchV1) (s : Tables) : Except StoreError Staged := do
  validateBatch batch
  let requestHash := (c.requestHash batch).text
  match s.quarantine with
  | some reason => .error (.storeQuarantined reason)
  | none => do
    match ← existingReceipt batch requestHash s with
    | some receipt => return .existing receipt
    | none => do
      let current ← fencedHead enforceAggregateVersion batch s
      writeBatch c objects batch requestHash current.1 current.2 s

end Commit

section Verification
variable (c : LedgerCodec) (objects : String → Nat → Bool)

inductive Verification where
  | exact
  | absent
  | torn (reason : String)
  deriving DecidableEq

def countPresentIds (stored ids : List StableId) : Nat := (ids.filter stored.contains).length

/-- The cursors of the entries, or none when one of them is missing. -/
def loadOutboxCursors (outbox : List OutboxRow) (ids : List StableId) : List Nat :=
  (ids.mapM fun id => (outbox.find? (·.outboxId == id)).map OutboxRow.deliveryCursor).getD []

def eventsMatch (batch : CommitBatchV1) (s : Tables) : Bool :=
  batch.events.zipIdx.all fun event => s.events.contains (eventRow c batch batch.expectedHead event)

def attemptsMatch (batch : CommitBatchV1) (s : Tables) : Bool :=
  batch.attempts.all fun attempt => s.attempts.contains (attemptRow batch attempt)

def checkpointMatches (batch : CommitBatchV1) (committedHead : Nat) (s : Tables) : Bool :=
  let stored := s.checkpoints.find? fun row =>
    row.chatId == batch.chatId && row.branchId == batch.branchId && row.committedSequence == committedHead
  match batch.checkpoint, stored with
  | none, none => true
  | some expected, some row => row == checkpointRow batch committedHead expected
  | _, _ => false

/-- An entry may have been delivered since. -/
def outboxRowsMatch (batch : CommitBatchV1) (cursors : List Nat) (s : Tables) : Bool :=
  batch.outbox.length == cursors.length && (batch.outbox.zip cursors).all fun entry =>
    s.outbox.any fun row => { row with delivered := false } ==
      { outboxRow c batch (batch.expectedHead + batch.events.length) 0 (entry.1, 0) with deliveryCursor := entry.2 }

def artifactsMatch (batch : CommitBatchV1) (s : Tables) : Bool :=
  batch.preparedArtifacts.all fun reference =>
    (s.preparedArtifacts.any fun row => row.tokenId == reference.tokenId && row.artifactId == reference.artifactId &&
      row.contentHash == reference.contentHash && row.byteSize == reference.byteSize &&
      row.stagingGeneration == reference.stagingGeneration && row.finalizedEventId == some reference.originEventId) &&
    (s.artifacts.any fun row => row.artifactId == reference.artifactId && row.contentHash == reference.contentHash &&
      row.byteSize == reference.byteSize) &&
    s.artifactReferences.contains (reference.artifactId, reference.originEventId)

def artifactObjectsMatch (batch : CommitBatchV1) : Bool :=
  batch.preparedArtifacts.all fun reference => (verifyObject objects reference.contentHash reference.byteSize).isOk

/-- The stored row of the batch's key, compared with the receipt; whether the key is stored. -/
def verifyDeduplication (batch : CommitBatchV1) (requestHash : String) (expectedReceipt : CommitReceiptV1)
    (s : Tables) : Except Verification Bool :=
  match batch.deduplication.bind (loadDeduplication · s.deduplication) with
  | none => .ok false
  | some stored => do
    refuseIf (!(stored.requestHash == requestHash && stored.chatId == batch.chatId &&
      stored.branchId == batch.branchId && stored.receipt == expectedReceipt))
      (.torn "deduplication receipt differs after uncertain commit")
    return true

/-- What the rows of a batch say whose COMMIT failed. -/
def durableRows (batch : CommitBatchV1) (requestHash : String) (expectedReceipt : CommitReceiptV1)
    (expectedOutboxCursors : List Nat) (s : Tables) : Verification :=
  match verifyDeduplication batch requestHash expectedReceipt s with
  | .error verification => verification
  | .ok dedupPresent =>
    let dedupExact := batch.deduplication.isNone || dedupPresent
    let stream := streamState s batch.chatId batch.branchId
    let presentEvents := countPresentIds (s.events.map EventRow.eventId) expectedReceipt.eventIds
    let presentOutbox := countPresentIds (s.outbox.map OutboxRow.outboxId) expectedReceipt.outboxIds
    let noEvidence := stream.all (fun row => row.headSequence == batch.expectedHead &&
        row.aggregateVersion == batch.expectedAggregateVersion) &&
      presentEvents == 0 && presentOutbox == 0 && !dedupPresent
    let exactStream := stream.any fun row => row.runId == batch.runId &&
      row.headSequence == expectedReceipt.headSequence && row.aggregateVersion == expectedReceipt.aggregateVersion
    let cursorsMatch := loadOutboxCursors s.outbox expectedReceipt.outboxIds == expectedOutboxCursors
    if noEvidence then .absent
    else if dedupExact && exactStream && presentEvents == expectedReceipt.eventIds.length &&
        presentOutbox == expectedReceipt.outboxIds.length && cursorsMatch && eventsMatch c batch s &&
        attemptsMatch batch s && checkpointMatches batch expectedReceipt.headSequence s &&
        outboxRowsMatch c batch expectedOutboxCursors s && artifactsMatch batch s && artifactObjectsMatch objects batch
    then .exact
    else .torn "partial or conflicting rows found after uncertain commit"

/-- The accesses of the database after a failed COMMIT: all work, one of the verification fails (its connection, a
PRAGMA or a query), or one of the quarantine fails, with its row written or not. -/
inductive Aftermath where
  | works
  | unreadable
  | unwritable (written : Bool)
  deriving DecidableEq

/-- What a fresh connection finds of a batch whose COMMIT failed. -/
def verifyDurableCommit (batch : CommitBatchV1) (requestHash : String) (expectedReceipt : CommitReceiptV1)
    (expectedOutboxCursors : List Nat) (aftermath : Aftermath) (s : Tables) : Except StoreError Verification :=
  if aftermath = .unreadable then .error .sql
  else .ok (durableRows c objects batch requestHash expectedReceipt expectedOutboxCursors s)

/-- Writes the reason on a connection of its own. -/
def quarantine (reason : String) (aftermath : Aftermath) (s : Tables) : Except StoreError Unit × Tables :=
  match aftermath with
  | .unwritable written => (.error .sql, if written then { s with quarantine := some reason } else s)
  | _ => (.ok (), { s with quarantine := some reason })

/-- How the COMMIT of a call ends: confirmed, a statement before it fails, or it fails and leaves nothing, all of it,
or these tables. -/
inductive CommitEnding where
  | confirmed
  | aborted
  | lost (aftermath : Aftermath)
  | unconfirmed (aftermath : Aftermath)
  | torn (durable : Tables) (aftermath : Aftermath)

/-- The outcome of an uncertain COMMIT, from what is durable. -/
def settleUncertain (batch : CommitBatchV1) (requestHash : String) (receipt : CommitReceiptV1)
    (outboxCursors : List Nat) (aftermath : Aftermath) (durable : Tables) :
    Except StoreError CommitOutcomeV1 × Tables :=
  match verifyDurableCommit c objects batch requestHash receipt outboxCursors aftermath durable with
  | .error e => (.error e, durable)
  | .ok .exact => (.ok (.committed receipt), durable)
  | .ok .absent => (.error .sql, durable)
  | .ok (.torn reason) =>
    match quarantine reason aftermath durable with
    | (.error e, durable) => (.error e, durable)
    | (.ok (), durable) => (.error (.ambiguousCommitQuarantined reason), durable)

def commitInner (enforceAggregateVersion : Bool) (batch : CommitBatchV1) (ending : CommitEnding) (s : Tables) :
    Except StoreError CommitOutcomeV1 × Tables :=
  match stageCommit c objects enforceAggregateVersion batch s, ending with
  | .error e, _ => (.error e, s)
  | .ok _, .aborted => (.error .sql, s)
  | .ok (.existing receipt), .confirmed => (.ok (.existing receipt), s)
  | .ok (.existing _), .lost _ | .ok (.existing _), .unconfirmed _ => (.error .sql, s)
  | .ok (.existing _), .torn durable _ => (.error .sql, durable)
  | .ok (.fresh receipt _ next), .confirmed => (.ok (.committed receipt), next)
  | .ok (.fresh receipt cursors _), .lost aftermath =>
    settleUncertain c objects batch (c.requestHash batch).text receipt cursors aftermath s
  | .ok (.fresh receipt cursors next), .unconfirmed aftermath =>
    settleUncertain c objects batch (c.requestHash batch).text receipt cursors aftermath next
  | .ok (.fresh receipt cursors _), .torn durable aftermath =>
    settleUncertain c objects batch (c.requestHash batch).text receipt cursors aftermath durable

/-- A call of one of the two entry points. -/
inductive CommitRequest where
  | legacy (batch : CommitBatch)
  | v1 (batch : CommitBatchV1)

def CommitRequest.batch : CommitRequest → Except StoreError CommitBatchV1
  | .legacy batch => legacyBatch batch
  | .v1 batch => .ok batch

def CommitRequest.enforces : CommitRequest → Bool
  | .legacy _ => false
  | .v1 _ => true

/-- `commit` and `commit_v1`; the legacy receipt is part of this one. -/
def commit (request : CommitRequest) (ending : CommitEnding) (s : Tables) :
    Except StoreError CommitOutcomeV1 × Tables :=
  match request.batch with
  | .error e => (.error e, s)
  | .ok batch => commitInner c objects request.enforces batch ending s

end Verification

section Maintenance
variable (c : LedgerCodec)

def deliver (selected : OutboxRow → Bool) (s : Tables) : Tables :=
  { s with outbox := s.outbox.map fun row => if selected row then { row with delivered := true } else row }

def markOutboxDelivered (outboxId : String) (s : Tables) : Except StoreError Tables := do
  let outboxId ← stable outboxId
  refuseIf s.quarantine.isSome (.storeQuarantined "history store is quarantined")
  refuseIf (!s.outbox.any (·.outboxId == outboxId)) .unknownOutbox
  return deliver (·.outboxId == outboxId) s

def markOutboxDeliveredV1 (outboxId : StableId) (expectedCursor : Nat) (s : Tables) : Except StoreError Tables := do
  match s.quarantine with
  | some reason => .error (.storeQuarantined reason)
  | none => do
    let cursor ← toI64 expectedCursor
    match s.outbox.find? (·.outboxId == outboxId) with
    | none => .error .unknownOutbox
    | some row => do
      refuseIf (row.deliveryCursor != cursor) (.outboxCursorConflict expectedCursor row.deliveryCursor)
      return deliver (fun row => row.outboxId == outboxId && row.deliveryCursor == cursor) s

def prunePayload (events : List EventRow) (update : String × Value) : List EventRow :=
  events.map fun row => if row.eventId.val = update.1 then { row with payload := c.toText update.2 } else row

def prunePayloads (updates : List (String × Value)) (s : Tables) : Tables :=
  { s with events := updates.foldl (prunePayload c) s.events }

/-- Removes what was delivered, except among the newest cursors. -/
def purgeDeliveredOutbox (keepNewest : Nat) (s : Tables) : Tables :=
  let maximum := maxCursor s.outbox
  if maximum ≤ keepNewest then s
  else
    { s with outbox := s.outbox.filter fun row =>
        !(row.delivered && decide (row.deliveryCursor ≤ maximum - keepNewest)) }

def deleteStream (chatId : String) (s : Tables) : Except StoreError Tables := do
  let chatId ← stable chatId
  return { s with
    streams := s.streams.filter (·.chatId != chatId)
    events := s.events.filter (·.chatId != chatId)
    attempts := s.attempts.filter (·.chatId != chatId)
    checkpoints := s.checkpoints.filter (·.chatId != chatId)
    outbox := s.outbox.filter (·.chatId != chatId) }

end Maintenance

end Aworkit.LocalStore
