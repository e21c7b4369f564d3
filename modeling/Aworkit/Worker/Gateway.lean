import Aworkit.Logic.Hoare
import Aworkit.Worker.Rehydrator

/-! The worker's gateway to the core (`gateway.rs`): the identity fence, the admission of control messages, and the
bounded buffer of unacknowledged proposals. -/
namespace Aworkit.Worker
open Protocol Fallible Hoare Prog

def defaultMaxPendingProposals : Nat := 1024
def defaultMaxPendingBytes : Nat := 8 * 1024 * 1024
def maxReservedControlProposals : Nat := 64
def reservedControlBytes : Nat := 256 * 1024

inductive AdmissionV1 where
  | new | duplicate
  deriving DecidableEq

inductive GatewayError where
  | notInitialized
  | alreadyInitialized
  | messageIdentityConflict
  | identityMismatch
  | generationMismatch
  | snapshotMismatch
  | cursorMismatch
  | backpressure
  | unknownAcknowledgement
  | sequenceExhausted
  | encoding
  | invalidIdentifier
  deriving DecidableEq

structure ActiveIdentity where
  (chatId runId : StableId)
  generation : Nat
  snapshotHash : String
  deriving DecidableEq

structure CoreGatewayV1 where
  identity : Option ActiveIdentity
  (workerSequence committedCursor : Nat)
  seenMessages : Std.ExtTreeMap String String
  pending : Std.ExtTreeMap String WorkerProposalEnvelopeV1
  (pendingBytes maxPendingProposals maxPendingBytes : Nat)
  acknowledged : Std.ExtTreeSet String

abbrev GatewayM := Prog GatewayError CoreGatewayV1

def gatewayStableId (enc : MessageEncoding) (material : String) : Except GatewayError StableId :=
  require (StableId.parse ("gateway." ++ String.ofList ((enc.sha256 material).text.toList.take 48))) .invalidIdentifier

/-- The text a proposal id is derived from. -/
def proposalMaterial (identity : ActiveIdentity) (sequence : Nat) : String :=
  "proposal:" ++ identity.chatId.val ++ ":" ++ identity.runId.val ++ ":" ++ toString identity.generation ++ ":" ++
    toString sequence

namespace CoreGatewayV1

def withBounds (maxPendingProposals maxPendingBytes : Nat) : CoreGatewayV1 where
  identity := none
  workerSequence := 0
  committedCursor := 0
  seenMessages := ∅
  pending := ∅
  pendingBytes := 0
  maxPendingProposals := maxPendingProposals
  maxPendingBytes := maxPendingBytes
  acknowledged := ∅

def new : CoreGatewayV1 := withBounds defaultMaxPendingProposals defaultMaxPendingBytes

def validateIdentity (g : CoreGatewayV1) (envelope : WorkerControlEnvelopeV1) : Except GatewayError Unit := do
  let identity ← require g.identity .notInitialized
  refuseIf (decide (identity.chatId ≠ envelope.chatId) || decide (identity.runId ≠ envelope.runId)) .identityMismatch
  refuseIf (identity.generation != envelope.generation) .generationMismatch
  refuseIf (identity.snapshotHash != envelope.snapshotHash) .snapshotMismatch

/-- The identity an accepted start or restore fixes. -/
def identityOf (envelope : WorkerControlEnvelopeV1) : ActiveIdentity where
  chatId := envelope.chatId
  runId := envelope.runId
  generation := envelope.generation
  snapshotHash := envelope.snapshotHash

def snapshotMatches (snapshot : WorkerFrozenRunSnapshotV1) (envelope : WorkerControlEnvelopeV1) : Bool :=
  decide (snapshot.chatId = envelope.chatId) && decide (snapshot.runId = envelope.runId) &&
    snapshot.snapshotHash == envelope.snapshotHash

/-- The first match of `admit_control`: a start or restore fixes the identity, others must carry it. -/
def establish (envelope : WorkerControlEnvelopeV1) : GatewayM Unit := do
  let g ← read
  match envelope.control with
  | .start snapshot =>
    lift (refuseIf g.identity.isSome .alreadyInitialized)
    lift (refuseIf (!snapshotMatches snapshot envelope) .identityMismatch)
    update fun g => { g with identity := some (identityOf envelope), committedCursor := envelope.committedCursor }
  | .restore rehydration =>
    lift (refuseIf g.identity.isSome .alreadyInitialized)
    lift (refuseIf (!snapshotMatches rehydration.snapshot envelope ||
      rehydration.replacementGeneration != envelope.generation) .identityMismatch)
    update fun g => { g with identity := some (identityOf envelope), committedCursor := envelope.committedCursor }
  | _ => lift (g.validateIdentity envelope)

section Encoded
variable (enc : MessageEncoding)

def acknowledge (proposalId : StableId) (committedCursor : Nat) : GatewayM Unit := do
  let g ← read
  if g.acknowledged.contains proposalId.val then
    lift (refuseIf (decide (committedCursor < g.committedCursor)) .cursorMismatch)
    update fun g => { g with committedCursor }
  else
    lift (refuseIf (decide (committedCursor ≤ g.committedCursor)) .cursorMismatch)
    let removed ← lift (require g.pending[proposalId.val]? .unknownAcknowledgement)
    update fun g => { g with pending := g.pending.erase proposalId.val }
    let bytes ← lift (require (enc.proposalLength removed) .encoding)
    update fun g =>
      { g with pendingBytes := g.pendingBytes - bytes, acknowledged := g.acknowledged.insert proposalId.val, committedCursor }

/-- The second match of `admit_control`. -/
def advanceCursor (envelope : WorkerControlEnvelopeV1) : GatewayM Unit := do
  match envelope.control with
  | .committedAck proposalId committedCursor => acknowledge enc proposalId committedCursor
  | _ =>
    let g ← read
    lift (refuseIf (envelope.committedCursor != g.committedCursor) .cursorMismatch)

def admitControl (envelope : WorkerControlEnvelopeV1) : GatewayM AdmissionV1 := do
  let digest ← lift (require (enc.controlDigest envelope) .encoding)
  let g ← read
  match g.seenMessages[envelope.messageId.val]? with
  | some existing =>
    lift (refuseIf (existing != digest.text) .messageIdentityConflict)
    lift (g.validateIdentity envelope)
    pure .duplicate
  | none =>
    establish envelope
    advanceCursor enc envelope
    update fun g => { g with seenMessages := g.seenMessages.insert envelope.messageId.val digest.text }
    pure .new

/-- Whether the buffer takes no further proposal. -/
def crowded (g : CoreGatewayV1) (reserved : Bool) : Bool :=
  (!reserved && decide (g.maxPendingProposals ≤ g.pending.size)) ||
    decide (saturatingAdd u64Max g.maxPendingProposals maxReservedControlProposals ≤ g.pending.size)

/-- Whether a byte count is beyond the bound of its lane. -/
def oversized (g : CoreGatewayV1) (reserved : Bool) (bytes : Nat) : Bool :=
  (!reserved && decide (g.maxPendingBytes < bytes)) ||
    decide (saturatingAdd u64Max g.maxPendingBytes reservedControlBytes < bytes)

variable (proposal : WorkerProposalKindV1)

def emitInner (reserved : Bool) : GatewayM WorkerProposalEnvelopeV1 := do
  let g ← read
  let identity ← lift (require g.identity .notInitialized)
  lift (refuseIf (g.crowded reserved) .backpressure)
  let sequence ← lift (require (checkedSucc g.workerSequence) .sequenceExhausted)
  let proposalId ← lift (gatewayStableId enc (proposalMaterial identity sequence))
  let envelope : WorkerProposalEnvelopeV1 :=
    { proposalId, chatId := identity.chatId, runId := identity.runId, generation := identity.generation,
      snapshotHash := identity.snapshotHash, workerSequence := sequence, baseCommittedCursor := g.committedCursor, proposal }
  let length ← lift (require (enc.proposalLength envelope) .encoding)
  let bytes := g.pendingBytes + length
  lift (refuseIf (decide (u64Max < bytes)) .backpressure)
  lift (refuseIf (g.oversized reserved bytes) .backpressure)
  update fun g =>
    { g with pendingBytes := bytes, workerSequence := sequence, pending := g.pending.insert proposalId.val envelope }
  return envelope

def emit : GatewayM WorkerProposalEnvelopeV1 := emitInner enc proposal false

def emitReserved : GatewayM WorkerProposalEnvelopeV1 := emitInner enc proposal true

end Encoded

def retransmitPending (g : CoreGatewayV1) : List WorkerProposalEnvelopeV1 :=
  (OrderedMap.values g.pending).insertionSort fun left right => left.workerSequence ≤ right.workerSequence

end CoreGatewayV1

end Aworkit.Worker
