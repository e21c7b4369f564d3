import Aworkit.Logic.Fallible
import Aworkit.Logic.Hoare
import Aworkit.Protocol.Bootstrap

/-! The activation journal of the bootstrap helper (`journal/`): a hash chain of records on a failing storage, the two
phase machines and the terminal receipt. -/
namespace Aworkit.Helper
open Protocol Fallible Hoare Prog

inductive ReasonCodeV1 where
  | unsupportedPlatform | unsupportedVolume | unsupportedSelector | unsupportedProcessCleanup
  | dataMigrationRequired | originUnverifiable | enrollmentMismatch | capabilityDrift | candidateFailure
  | rollbackFailure | tornJournal | chainBroken | generationProofMissing | ambiguousSelectorState
  | diskFull | syncFailure | ownershipLost
  deriving DecidableEq

structure ManualRecoveryNoticeV1 where
  (noticeId activationId : StableId)
  reason : ReasonCodeV1
  observedSlotStateHash : String
  diagnosticId : StableId
  instructions : List String
  deriving DecidableEq

def journalSchemaVersionV1 : Nat := 1
def journalHelperVersionV1 : Nat := 1
def maxJournalRecords : Nat := 512
def maxRecoveryInstructions : Nat := 32

inductive JournalTransactionKindV1 where
  | enrollment | activation
  deriving DecidableEq

inductive EnrollmentPhaseV1 where
  | intent | published | prepared
  deriving DecidableEq

inductive BootstrapPhaseV1 where
  | idle | admittingBaton | unsupported | batonDurable | slotsVerified | quiescingCurrent | abortedBeforeSwitch
  | candidateSelected | candidateLaunching | awaitingCandidateIdentity | candidateVerifying | verified
  | resultAvailable | rollingBack | previousSelected | previousRelaunching | rolledBack
  | manualRecoveryRequired | recovering
  deriving DecidableEq

/-- The name the `Debug` formatter writes. -/
def EnrollmentPhaseV1.debug : EnrollmentPhaseV1 → String
  | .intent => "Intent"
  | .published => "Published"
  | .prepared => "Prepared"

/-- The name the `Debug` formatter writes. -/
def BootstrapPhaseV1.debug : BootstrapPhaseV1 → String
  | .idle => "Idle"
  | .admittingBaton => "AdmittingBaton"
  | .unsupported => "Unsupported"
  | .batonDurable => "BatonDurable"
  | .slotsVerified => "SlotsVerified"
  | .quiescingCurrent => "QuiescingCurrent"
  | .abortedBeforeSwitch => "AbortedBeforeSwitch"
  | .candidateSelected => "CandidateSelected"
  | .candidateLaunching => "CandidateLaunching"
  | .awaitingCandidateIdentity => "AwaitingCandidateIdentity"
  | .candidateVerifying => "CandidateVerifying"
  | .verified => "Verified"
  | .resultAvailable => "ResultAvailable"
  | .rollingBack => "RollingBack"
  | .previousSelected => "PreviousSelected"
  | .previousRelaunching => "PreviousRelaunching"
  | .rolledBack => "RolledBack"
  | .manualRecoveryRequired => "ManualRecoveryRequired"
  | .recovering => "Recovering"

def enrollmentCanAdvance : EnrollmentPhaseV1 → EnrollmentPhaseV1 → Bool
  | .intent, .published | .published, .prepared => true
  | _, _ => false

def enrollmentIsTerminal : EnrollmentPhaseV1 → Bool
  | .prepared => true
  | _ => false

/-- The edges of the activation machine; none leads back to its phase. -/
def bootstrapCanAdvance : BootstrapPhaseV1 → BootstrapPhaseV1 → Bool
  | .idle, .admittingBaton => true
  | .admittingBaton, .unsupported | .admittingBaton, .batonDurable => true
  | .batonDurable, .slotsVerified | .batonDurable, .unsupported => true
  | .slotsVerified, .quiescingCurrent | .slotsVerified, .unsupported => true
  | .quiescingCurrent, .abortedBeforeSwitch | .quiescingCurrent, .candidateSelected => true
  | .candidateSelected, .candidateLaunching | .candidateSelected, .rollingBack => true
  | .candidateLaunching, .awaitingCandidateIdentity | .candidateLaunching, .rollingBack => true
  | .awaitingCandidateIdentity, .candidateVerifying | .awaitingCandidateIdentity, .rollingBack => true
  | .candidateVerifying, .verified | .candidateVerifying, .rollingBack => true
  | .verified, .resultAvailable => true
  | .rollingBack, .previousSelected | .rollingBack, .manualRecoveryRequired => true
  | .previousSelected, .previousRelaunching => true
  | .previousRelaunching, .rolledBack | .previousRelaunching, .manualRecoveryRequired => true
  | .rolledBack, .resultAvailable | .unsupported, .resultAvailable => true
  | .abortedBeforeSwitch, .resultAvailable | .manualRecoveryRequired, .resultAvailable => true
  | .recovering, .batonDurable | .recovering, .rollingBack | .recovering, .resultAvailable => true
  | .recovering, .manualRecoveryRequired | .recovering, .abortedBeforeSwitch => true
  | .verified, .recovering => true
  | .batonDurable, .recovering | .slotsVerified, .recovering | .quiescingCurrent, .recovering => true
  | .candidateSelected, .recovering | .candidateLaunching, .recovering => true
  | .awaitingCandidateIdentity, .recovering | .candidateVerifying, .recovering => true
  | .rollingBack, .recovering | .previousSelected, .recovering | .previousRelaunching, .recovering => true
  | _, _ => false

def bootstrapIsTerminal : BootstrapPhaseV1 → Bool
  | .verified | .rolledBack | .unsupported | .abortedBeforeSwitch | .manualRecoveryRequired | .resultAvailable => true
  | _ => false

/-- The phases from which a result may be sealed. -/
def resultCanSeal (phase : BootstrapPhaseV1) : BootstrapResultKindV1 → Bool
  | .activatedVerified _ => phase == .verified
  | .rolledBack _ _ => phase == .rolledBack
  | .unsupported _ => phase == .unsupported || phase == .abortedBeforeSwitch
  | .manualRecoveryRequired _ _ _ => phase == .manualRecoveryRequired

inductive BootstrapJournalError where
  | encoding
  | busy
  | notLocked
  | kindConflict
  | identityConflict
  | staleOrdinal (expected actual : Nat)
  | stalePhase (expected actual : String)
  | illegalPhaseTransition (source target : String)
  | terminalImmutable
  | terminalSealed
  | terminalMissing
  | chainBroken (ordinal : Nat)
  | headerCorrupt
  | recordCapExceeded
  | invalid (reason : String)
  | io
  deriving DecidableEq

structure CommandAdmittedV1 where
  (activationId commandId : StableId)
  (commandKind commandHash : String)
  processGeneration : Nat
  durablePhase : BootstrapPhaseV1

structure EnrollmentIdentitiesV1 where
  (managedRootIdentityHash launcherIdentityHash journalIdentityHash selectorIdentityHash : String)

structure EnrollmentIntentV1 where
  request : ManagedLocalEnrollmentRequestV1
  identities : EnrollmentIdentitiesV1

structure EnrollmentObservationV1 where
  initialActiveBundleHash : String
  publishedSlotVerified : Bool

structure BatonAcceptedV1 where
  (activationId batonId : StableId)
  (batonHash commandHash : String)
  challengeId : StableId
  (challengeHash peerExecutableHash peerOsIdentityHash : String)
  admissionId : StableId
  admissionHash : String
  managementCheckpointId : StableId
  profileVersion : Nat
  (provenanceDigest enrollmentDigest : String)
  capabilityGeneration : Nat
  (capabilityDigest candidateSlotHash previousSlotHash verificationPlanHash : String)
  (currentProcessGeneration candidateProcessGeneration rollbackProcessGeneration : Nat)
  deadlines : BootstrapDeadlinesV1

/-- A selector or process effect; the observation hash of an intent is empty. -/
structure BootstrapEffectV1 where
  (currentSlotHash targetSlotHash : String)
  (capabilityGeneration processGeneration : Nat)
  observationHash : String

inductive JournalRecordPayloadV1 where
  | enrollmentIntent (intent : EnrollmentIntentV1)
  | enrollmentObservation (observation : EnrollmentObservationV1)
  | batonAccepted (baton : BatonAcceptedV1)
  | effectIntent (effect : BootstrapEffectV1)
  | observedEffect (effect : BootstrapEffectV1)
  | phaseAdvance (phase : BootstrapPhaseV1)
  | commandAdmitted (command : CommandAdmittedV1)

structure JournalRecordV1 where
  ordinal : Nat
  previousRecordHash : Option String
  payload : JournalRecordPayloadV1
  recordHash : String

structure EnrollmentJournalMutationV1 where
  enrollmentId : StableId
  expectedOrdinal : Nat
  expectedPhase : EnrollmentPhaseV1
  observation : EnrollmentObservationV1

structure BootstrapJournalMutationV1 where
  activationId : StableId
  expectedOrdinal : Nat
  expectedPhase : BootstrapPhaseV1
  effect : BootstrapEffectV1

structure BootstrapPhaseAdvanceV1 where
  activationId : StableId
  expectedOrdinal : Nat
  (expectedPhase nextPhase : BootstrapPhaseV1)

structure JournalDurableAckV1 where
  transactionKind : JournalTransactionKindV1
  transactionId : StableId
  ordinal : Nat
  recordHash : String

inductive JournalPhaseV1 where
  | enrollment (phase : EnrollmentPhaseV1)
  | bootstrap (phase : BootstrapPhaseV1)

structure JournalSnapshotV1 where
  transactionKind : JournalTransactionKindV1
  transactionId : StableId
  headOrdinal : Nat
  headRecordHash : String
  phase : JournalPhaseV1

structure EnrollmentTerminalSealV1 where
  receipt : EnrollmentPreparedV1
  headOrdinal : Nat
  (headRecordHash sealHash : String)

structure BootstrapTerminalSealV1 where
  receipt : BootstrapResultV1
  headOrdinal : Nat
  headRecordHash : String
  manualRecoveryNoticeHash : Option String
  sealHash : String

inductive TerminalReceiptV1 where
  | enrollmentPrepared (terminal : EnrollmentTerminalSealV1)
  | bootstrapResult (terminal : BootstrapTerminalSealV1)

structure EnrollmentJournalHeaderV1 where
  schemaVersion : Nat
  enrollmentId : StableId
  (helperVersion protocolVersion : Nat)
  headerHash : String
  deriving DecidableEq

structure ActivationJournalHeaderV1 where
  schemaVersion : Nat
  activationId : StableId
  batonHash : String
  (profileVersion helperVersion protocolVersion : Nat)
  headerHash : String
  deriving DecidableEq

inductive JournalHeaderV1 where
  | enrollment (header : EnrollmentJournalHeaderV1)
  | activation (header : ActivationJournalHeaderV1)
  deriving DecidableEq

structure EnrollmentRecoveryStateV1 where
  enrollmentId : StableId
  phase : EnrollmentPhaseV1
  headOrdinal : Nat
  headRecordHash : String
  terminal : Option EnrollmentPreparedV1

structure BootstrapRecoveryStateV1 where
  activationId : StableId
  phase : BootstrapPhaseV1
  headOrdinal : Nat
  headRecordHash : String
  terminal : Option BootstrapResultV1
  manualRecovery : Option ManualRecoveryNoticeV1
  openEffect : Option BootstrapEffectV1
  baton : Option BatonAcceptedV1
  admittedCommands : List CommandAdmittedV1

/-- SHA-256 over the canonical JSON of what the journal hashes, its own hash apart. -/
structure JournalDigests where
  record : Nat → Option String → JournalRecordPayloadV1 → Sha256Digest
  enrollmentHeader : EnrollmentJournalHeaderV1 → Sha256Digest
  activationHeader : ActivationJournalHeaderV1 → Sha256Digest
  enrollmentSeal : EnrollmentPreparedV1 → Nat → String → Sha256Digest
  bootstrapSeal : BootstrapResultV1 → Nat → String → Option String → Sha256Digest
  notice : ManualRecoveryNoticeV1 → Sha256Digest
  result : BootstrapResultV1 → Sha256Digest

/-- `canonical_hash`; a process generation beyond the exact wire range has no encoding. -/
def canonicalHash (generations : List Nat) (digest : Sha256Digest) : Except BootstrapJournalError String :=
  if generations.all (· ≤ maxSafeWireInteger) then .ok ("sha256:" ++ digest.text) else .error .encoding

def JournalRecordPayloadV1.generations : JournalRecordPayloadV1 → List Nat
  | .batonAccepted baton =>
    [baton.currentProcessGeneration, baton.candidateProcessGeneration, baton.rollbackProcessGeneration]
  | .effectIntent effect | .observedEffect effect => [effect.processGeneration]
  | .commandAdmitted command => [command.processGeneration]
  | .enrollmentIntent _ | .enrollmentObservation _ | .phaseAdvance _ => []

namespace JournalDigests
variable (d : JournalDigests)

def recordHash (record : JournalRecordV1) : Except BootstrapJournalError String :=
  canonicalHash record.payload.generations (d.record record.ordinal record.previousRecordHash record.payload)

def headerHash : JournalHeaderV1 → Except BootstrapJournalError String
  | .enrollment header => canonicalHash [] (d.enrollmentHeader { header with headerHash := "" })
  | .activation header => canonicalHash [] (d.activationHeader { header with headerHash := "" })

def noticeHash (notice : ManualRecoveryNoticeV1) : Except BootstrapJournalError String :=
  canonicalHash [] (d.notice notice)

def bootstrapResultHashV1 (result : BootstrapResultV1) : Except BootstrapJournalError String :=
  canonicalHash [result.recipientProcessGeneration] (d.result { result with receiptHash := "" })

def bootstrapSealHash (terminal : BootstrapTerminalSealV1) : Except BootstrapJournalError String :=
  canonicalHash [terminal.receipt.recipientProcessGeneration]
    (d.bootstrapSeal terminal.receipt terminal.headOrdinal terminal.headRecordHash terminal.manualRecoveryNoticeHash)

def enrollmentSealHash (terminal : EnrollmentTerminalSealV1) : Except BootstrapJournalError String :=
  canonicalHash [] (d.enrollmentSeal terminal.receipt terminal.headOrdinal terminal.headRecordHash)

end JournalDigests

/-- What a journal root holds on disk. -/
structure JournalStorage where
  locked : Bool
  header : Option JournalHeaderV1
  records : List JournalRecordV1
  snapshot : Option JournalSnapshotV1
  receipt : Option TerminalReceiptV1
  notice : Option ManualRecoveryNoticeV1

/-- How a write ends: one reported as failed may have become durable. -/
inductive WriteOutcome where
  | done | lost | unconfirmed
  deriving DecidableEq

/-- A journal over its storage, with the outcomes of the writes to come. -/
structure ActivationJournal where
  held : Bool
  storage : JournalStorage
  writes : List WriteOutcome

abbrev JournalProg := Prog BootstrapJournalError ActivationJournal

namespace JournalStorage

def empty : JournalStorage :=
  { locked := false, header := none, records := [], snapshot := none, receipt := none, notice := none }

def write (change : JournalStorage → JournalStorage) : JournalProg Unit := fun j =>
  match j.writes.head? with
  | some .lost => (.error .io, { j with writes := j.writes.tail })
  | some .unconfirmed => (.error .io, { j with storage := change j.storage, writes := j.writes.tail })
  | _ => (.ok (), { j with storage := change j.storage, writes := j.writes.tail })

/-- A lock that could not be taken in full is given back. -/
def tryAcquireLock : JournalProg Unit := do
  let j ← read
  lift (refuseIf j.storage.locked .busy)
  match j.writes.head? with
  | some .lost | some .unconfirmed => do
    update fun j => { j with writes := j.writes.tail }
    fail .io
  | _ => write fun s => { s with locked := true }

def releaseLock : JournalProg Unit := update fun j => { j with storage := { j.storage with locked := false } }

def writeHeader (header : JournalHeaderV1) : JournalProg Unit := do
  let j ← read
  lift (refuseIf j.storage.header.isSome .identityConflict)
  write fun s => { s with header := some header }

def appendRecord (record : JournalRecordV1) : JournalProg Unit := do
  let j ← read
  lift (refuseIf (decide (record.ordinal < j.storage.records.length))
    (.invalid "record ordinal is already durable"))
  write fun s => { s with records := s.records ++ [record] }

def writeSnapshot (snapshot : JournalSnapshotV1) : JournalProg Unit :=
  write fun s => { s with snapshot := some snapshot }

def sealReceipt (receipt : TerminalReceiptV1) : JournalProg Unit := do
  let j ← read
  lift (refuseIf j.storage.receipt.isSome .terminalSealed)
  write fun s => { s with receipt := some receipt }

/-- The same notice may be written again. -/
def writeNotice (notice : ManualRecoveryNoticeV1) : JournalProg Unit := do
  let j ← read
  match j.storage.notice with
  | some existing => lift (refuseIf (existing != notice) (.invalid "a manual-recovery notice is already durable"))
  | none => write fun s => { s with notice := some notice }

end JournalStorage

variable (records : List JournalRecordV1)

/-- Replays the activation chain to recover the current bootstrap phase. -/
def deriveBootstrapPhase : BootstrapPhaseV1 :=
  records.foldl (fun phase record => match record.payload with
    | .batonAccepted _ => .admittingBaton
    | .phaseAdvance next => next
    | _ => phase) .idle

/-- Replays the enrollment chain to recover the current enrollment phase. -/
def deriveEnrollmentPhase : EnrollmentPhaseV1 :=
  records.foldl (fun phase record => match record.payload with
    | .enrollmentObservation _ => .published
    | _ => phase) .intent

/-- The last intent without an observation. -/
def openEffect : Option BootstrapEffectV1 :=
  records.foldl (fun pending record => match record.payload with
    | .effectIntent effect => some effect
    | .observedEffect _ => none
    | _ => pending) none

def effectsMatch (intent observation : BootstrapEffectV1) : Bool :=
  intent.currentSlotHash == observation.currentSlotHash && intent.targetSlotHash == observation.targetSlotHash &&
    intent.capabilityGeneration == observation.capabilityGeneration &&
    intent.processGeneration == observation.processGeneration

/-- The payloads a journal of either kind may hold. -/
def kindMatches : JournalHeaderV1 → JournalRecordPayloadV1 → Bool
  | .enrollment _, .enrollmentIntent _ | .enrollment _, .enrollmentObservation _ => true
  | .activation _, .batonAccepted _ | .activation _, .effectIntent _ | .activation _, .observedEffect _ => true
  | .activation _, .phaseAdvance _ | .activation _, .commandAdmitted _ => true
  | _, _ => false

def headerVersions : JournalHeaderV1 → Nat × Nat × Nat × String
  | .enrollment header => (header.schemaVersion, header.helperVersion, header.protocolVersion, header.headerHash)
  | .activation header => (header.schemaVersion, header.helperVersion, header.protocolVersion, header.headerHash)

def admittedBaton : List JournalRecordV1 → Option BatonAcceptedV1 :=
  List.findSome? fun record => match record.payload with
    | .batonAccepted baton => some baton
    | _ => none

def admittedCommands : List JournalRecordV1 → List CommandAdmittedV1 :=
  List.filterMap fun record => match record.payload with
    | .commandAdmitted command => some command
    | _ => none

section Chain
variable (d : JournalDigests)

variable (header : JournalHeaderV1)

/-- A header with its hash filled in. -/
def sealHeader : Except BootstrapJournalError JournalHeaderV1 := do
  let hash ← d.headerHash header
  return match header with
    | .enrollment header => .enrollment { header with headerHash := hash }
    | .activation header => .activation { header with headerHash := hash }

def verifyHeader : Except BootstrapJournalError Unit := do
  let expected ← d.headerHash header
  let (schema, helper, protocol, stored) := headerVersions header
  refuseIf (schema != journalSchemaVersionV1 || helper != journalHelperVersionV1 ||
    protocol != journalHelperVersionV1 || stored != expected) .headerCorrupt

/-- The hash that the record at an index must name. -/
def expectedPrevious (index : Nat) (previous : Option String) (ordinal : Nat) :
    Except BootstrapJournalError (Option String) :=
  if index = 0 then .ok none else some <$> require previous (.chainBroken ordinal)

/-- The records from an index on, behind the hash of the record before it. -/
def verifyRecords (header : JournalHeaderV1) :
    Nat → Option String → List JournalRecordV1 → Except BootstrapJournalError Unit
  | _, _, [] => .ok ()
  | index, previous, record :: rest => do
    refuseIf (record.ordinal != index) (.chainBroken index)
    let expected ← expectedPrevious index previous record.ordinal
    refuseIf (record.previousRecordHash != expected) (.chainBroken record.ordinal)
    let hash ← d.recordHash record
    refuseIf (hash != record.recordHash) (.chainBroken record.ordinal)
    refuseIf (!kindMatches header record.payload) .kindConflict
    verifyRecords header (index + 1) (some record.recordHash) rest

def verifyChain (records : List JournalRecordV1) : Except BootstrapJournalError Unit := do
  verifyHeader d header
  refuseIf (decide (maxJournalRecords < records.length)) .recordCapExceeded
  verifyRecords d header 0 none records

/-- The record of a payload behind a chain. -/
def nextRecord (records : List JournalRecordV1) (payload : JournalRecordPayloadV1) :
    Except BootstrapJournalError JournalRecordV1 := do
  let record : JournalRecordV1 :=
    { ordinal := records.length, previousRecordHash := records.getLast?.map JournalRecordV1.recordHash,
      payload, recordHash := "" }
  let hash ← d.recordHash record
  return { record with recordHash := hash }

end Chain

def requireCapacity (records : List JournalRecordV1) : Except BootstrapJournalError Unit :=
  refuseIf (decide (maxJournalRecords ≤ records.length)) .recordCapExceeded

def fenceOrdinal (expected : Nat) (records : List JournalRecordV1) : Except BootstrapJournalError Unit :=
  refuseIf (expected != records.length) (.staleOrdinal expected records.length)

def fencePhase (expected current : BootstrapPhaseV1) : Except BootstrapJournalError Unit :=
  refuseIf (expected != current) (.stalePhase expected.debug current.debug)

namespace JournalStorage
variable (d : JournalDigests) (s : JournalStorage)

def activationId : Except BootstrapJournalError StableId :=
  match s.header with
  | some (.activation header) => do
    verifyHeader d (.activation header)
    return header.activationId
  | _ => .error .kindConflict

def enrollmentId : Except BootstrapJournalError StableId :=
  match s.header with
  | some (.enrollment header) => do
    verifyHeader d (.enrollment header)
    return header.enrollmentId
  | _ => .error .kindConflict

/-- The chain, once it has been verified behind its header. -/
def verifiedRecords : Except BootstrapJournalError (List JournalRecordV1) := do
  let header ← require s.header .headerCorrupt
  verifyChain d header s.records
  return s.records

/-- The records of an activation that a call names. -/
def activationRecords (activationId : StableId) : Except BootstrapJournalError (List JournalRecordV1) := do
  let id ← s.activationId d
  refuseIf (activationId != id) .identityConflict
  s.verifiedRecords d

def checkEffect (isIntent : Bool) (records : List JournalRecordV1) (effect : BootstrapEffectV1) :
    Except BootstrapJournalError Unit := do
  refuseIf (isIntent == !effect.observationHash.isEmpty)
    (.invalid "effect intent and observed effect must differ by their observation hash")
  match isIntent, openEffect records with
  | true, some _ => .error (.invalid "an earlier effect intent has no durable observation")
  | false, some intent =>
    refuseIf (!effectsMatch intent effect) (.invalid "observed effect does not close the durable intent")
  | false, none => .error (.invalid "observed effect has no durable intent")
  | true, none => .ok ()

/-- The checks of `append_effect`. -/
def guardEffect (mutation : BootstrapJournalMutationV1) (isIntent : Bool) : Except BootstrapJournalError Unit := do
  let records ← s.activationRecords d mutation.activationId
  requireCapacity records
  fenceOrdinal mutation.expectedOrdinal records
  fencePhase mutation.expectedPhase (deriveBootstrapPhase records)
  checkEffect isIntent records mutation.effect

/-- The checks of `advance_phase`. -/
def guardAdvance (mutation : BootstrapPhaseAdvanceV1) : Except BootstrapJournalError Unit := do
  let records ← s.activationRecords d mutation.activationId
  requireCapacity records
  fenceOrdinal mutation.expectedOrdinal records
  let current := deriveBootstrapPhase records
  fencePhase mutation.expectedPhase current
  refuseIf (bootstrapIsTerminal current && !(current == .verified && mutation.nextPhase == .recovering))
    .terminalImmutable
  refuseIf (openEffect records).isSome (.invalid "phase cannot advance before the intended effect is observed")
  refuseIf (!bootstrapCanAdvance current mutation.nextPhase)
    (.illegalPhaseTransition current.debug mutation.nextPhase.debug)

/-- The checks of `append_command_admitted`. -/
def guardCommand (command : CommandAdmittedV1) : Except BootstrapJournalError Unit := do
  let records ← s.activationRecords d command.activationId
  requireCapacity records
  let current := deriveBootstrapPhase records
  refuseIf (bootstrapIsTerminal current) .terminalImmutable
  fencePhase command.durablePhase current
  match (admittedCommands records).find? fun existing => existing.commandId == command.commandId with
  | none => .ok ()
  | some existing =>
    if existing.commandHash = command.commandHash then .error (.invalid "command id is already durably admitted")
    else .error (.chainBroken records.length)

/-- The checks of `append_enrollment_observation`. -/
def guardObservation (mutation : EnrollmentJournalMutationV1) : Except BootstrapJournalError Unit := do
  let id ← s.enrollmentId d
  refuseIf (mutation.enrollmentId != id) .identityConflict
  let records ← s.verifiedRecords d
  requireCapacity records
  fenceOrdinal mutation.expectedOrdinal records
  let current := deriveEnrollmentPhase records
  refuseIf (mutation.expectedPhase != current) (.stalePhase mutation.expectedPhase.debug current.debug)
  refuseIf (!enrollmentCanAdvance current .published)
    (.illegalPhaseTransition current.debug EnrollmentPhaseV1.published.debug)

/-- The checks of `store_manual_recovery_notice`. -/
def guardNotice (notice : ManualRecoveryNoticeV1) : Except BootstrapJournalError (List JournalRecordV1) := do
  let id ← s.activationId d
  refuseIf (notice.activationId != id) .identityConflict
  refuseIf (notice.instructions.isEmpty || decide (maxRecoveryInstructions < notice.instructions.length) ||
    notice.instructions.any fun instruction => instruction.isEmpty || decide (512 < instruction.utf8ByteSize))
    (.invalid "manual-recovery instructions exceed their bound")
  let records ← s.verifiedRecords d
  fencePhase .manualRecoveryRequired (deriveBootstrapPhase records)
  return records

def storedNoticeHash : Except BootstrapJournalError (Option String) := s.notice.mapM d.noticeHash

def sealEnrollment (receipt : EnrollmentPreparedV1) :
    Except BootstrapJournalError (EnrollmentTerminalSealV1 × JournalRecordV1) := do
  let id ← s.enrollmentId d
  refuseIf (receipt.requestId != id) .identityConflict
  refuseIf s.receipt.isSome .terminalSealed
  let records ← s.verifiedRecords d
  let current := deriveEnrollmentPhase records
  refuseIf (enrollmentIsTerminal current) .terminalImmutable
  refuseIf (!enrollmentCanAdvance current .prepared) (.stalePhase "published" current.debug)
  let last ← require records.getLast? (.invalid "enrollment has no durable observation")
  let terminal : EnrollmentTerminalSealV1 :=
    { receipt, headOrdinal := last.ordinal, headRecordHash := last.recordHash, sealHash := "" }
  let hash ← d.enrollmentSealHash terminal
  return ({ terminal with sealHash := hash }, last)

/-- The checks of `store_bootstrap_result`, and the seal it builds. -/
def sealResult (result : BootstrapResultV1) :
    Except BootstrapJournalError (BootstrapTerminalSealV1 × JournalRecordV1) := do
  let id ← s.activationId d
  refuseIf (result.activationId != id) .identityConflict
  refuseIf (d.bootstrapResultHashV1 result != .ok result.receiptHash) (.invalid "bootstrap receipt hash is invalid")
  refuseIf s.receipt.isSome .terminalSealed
  let records ← s.verifiedRecords d
  refuseIf (openEffect records).isSome (.invalid "terminal result cannot be sealed with an unobserved effect")
  let current := deriveBootstrapPhase records
  refuseIf (!resultCanSeal current result.result)
    (.stalePhase "phase compatible with result disposition" current.debug)
  let last ← require records.getLast? (.invalid "activation has no durable record")
  let noticeHash ← s.storedNoticeHash d
  refuseIf ((match result.result with
    | .manualRecoveryRequired _ _ _ => true
    | _ => false) && noticeHash.isNone) (.invalid "manual-recovery result requires a durable notice")
  let terminal : BootstrapTerminalSealV1 :=
    { receipt := result, headOrdinal := last.ordinal, headRecordHash := last.recordHash,
      manualRecoveryNoticeHash := noticeHash, sealHash := "" }
  let hash ← d.bootstrapSealHash terminal
  return ({ terminal with sealHash := hash }, last)

variable (id : StableId)

def enrollmentTerminal : Except BootstrapJournalError (Option EnrollmentPreparedV1) :=
  match s.receipt with
  | some (.enrollmentPrepared terminal) => do
    let expected ← d.enrollmentSealHash terminal
    let head ← require s.records.getLast? (.chainBroken 0)
    refuseIf (terminal.sealHash != expected || terminal.headOrdinal != head.ordinal ||
      terminal.headRecordHash != head.recordHash || terminal.receipt.requestId != id) (.chainBroken head.ordinal)
    return some terminal.receipt
  | some (.bootstrapResult _) => .error .kindConflict
  | none => .ok none

def activationTerminal : Except BootstrapJournalError (Option BootstrapResultV1) :=
  match s.receipt with
  | some (.bootstrapResult terminal) => do
    let expected ← d.bootstrapSealHash terminal
    let head ← require s.records.getLast? (.chainBroken 0)
    let noticeHash ← s.storedNoticeHash d
    refuseIf (terminal.sealHash != expected || terminal.headOrdinal != head.ordinal ||
      terminal.headRecordHash != head.recordHash || terminal.receipt.activationId != id ||
      terminal.manualRecoveryNoticeHash != noticeHash) (.chainBroken head.ordinal)
    return some terminal.receipt
  | some (.enrollmentPrepared _) => .error .kindConflict
  | none => .ok none

def headOrdinal : Nat := (s.records.getLast?.map JournalRecordV1.ordinal).getD 0

def headRecordHash : String := (s.records.getLast?.map JournalRecordV1.recordHash).getD ""

def loadEnrollmentRecovery : Except BootstrapJournalError (Option EnrollmentRecoveryStateV1) :=
  match s.header with
  | some (.enrollment header) =>
    if header.enrollmentId = id then do
      verifyChain d (.enrollment header) s.records
      let terminal ← s.enrollmentTerminal d id
      return some
        { enrollmentId := id
          phase := if terminal.isSome then .prepared else deriveEnrollmentPhase s.records
          headOrdinal := s.headOrdinal
          headRecordHash := s.headRecordHash
          terminal }
    else .ok none
  | _ => .ok none

def loadActivationRecovery : Except BootstrapJournalError (Option BootstrapRecoveryStateV1) :=
  match s.header with
  | some (.activation header) =>
    if header.activationId = id then do
      verifyChain d (.activation header) s.records
      let terminal ← s.activationTerminal d id
      return some
        { activationId := id
          phase := if terminal.isSome then .resultAvailable else deriveBootstrapPhase s.records
          headOrdinal := s.headOrdinal
          headRecordHash := s.headRecordHash
          terminal
          manualRecovery := s.notice
          openEffect := openEffect s.records
          baton := admittedBaton s.records
          admittedCommands := Helper.admittedCommands s.records }
    else .ok none
  | _ => .ok none

def readBootstrapResult : Except BootstrapJournalError BootstrapResultV1 := do
  match ← require s.receipt .terminalMissing with
  | .bootstrapResult terminal =>
    refuseIf (terminal.receipt.activationId != id) .identityConflict
    let state ← s.loadActivationRecovery d id
    require (state.bind BootstrapRecoveryStateV1.terminal) .terminalMissing
  | .enrollmentPrepared _ => .error .kindConflict

/-- The checks of `seal_terminal`. -/
def guardTerminal : Except BootstrapJournalError Unit :=
  match s.header with
  | some (.enrollment header) => do
    let state ← require (← s.loadEnrollmentRecovery d header.enrollmentId) .terminalMissing
    refuseIf state.terminal.isNone .terminalMissing
  | some (.activation header) => do
    let state ← require (← s.loadActivationRecovery d header.activationId) .terminalMissing
    refuseIf state.terminal.isNone .terminalMissing
  | none => .error .terminalMissing

def snapshotPhase : JournalPhaseV1 :=
  match s.header with
  | some (.enrollment _) => .enrollment (deriveEnrollmentPhase s.records)
  | some (.activation _) => .bootstrap (deriveBootstrapPhase s.records)
  | none => .bootstrap .idle

def transaction : Option (JournalTransactionKindV1 × StableId) :=
  s.header.map fun
    | .enrollment header => (.enrollment, header.enrollmentId)
    | .activation header => (.activation, header.activationId)

def snapshotOf (kind : JournalTransactionKindV1) (id : StableId) : JournalSnapshotV1 :=
  { transactionKind := kind, transactionId := id, headOrdinal := s.headOrdinal,
    headRecordHash := s.headRecordHash, phase := s.snapshotPhase }

end JournalStorage

def journalAck (kind : JournalTransactionKindV1) (id : StableId) (record : JournalRecordV1) : JournalDurableAckV1 :=
  { transactionKind := kind, transactionId := id, ordinal := record.ordinal, recordHash := record.recordHash }

namespace ActivationJournal
open JournalStorage
variable (d : JournalDigests)

/-- A journal that was just opened over its storage. -/
def opened (s : JournalStorage) : ActivationJournal := { held := false, storage := s, writes := [] }

/-- The helper stops, which gives the lock back, and opens the journal again. -/
def restart (j : ActivationJournal) : ActivationJournal := opened { j.storage with locked := false }

def requireHeld : JournalProg Unit := do
  let j ← read
  lift (refuseIf (!j.held) .notLocked)

/-- The snapshot of the chain that was just extended. -/
def writeSnapshot : JournalProg Unit := do
  let j ← read
  match j.storage.transaction with
  | none => pure ()
  | some (kind, id) => JournalStorage.writeSnapshot (j.storage.snapshotOf kind id)

def append (payload : JournalRecordPayloadV1) : JournalProg JournalRecordV1 := do
  let j ← read
  lift (requireCapacity j.storage.records)
  let record ← lift (nextRecord d j.storage.records payload)
  appendRecord record
  return record

/-- Appends a payload that has passed its checks, and writes the snapshot. -/
def commit (kind : JournalTransactionKindV1) (id : StableId) (payload : JournalRecordPayloadV1) :
    JournalProg JournalDurableAckV1 := do
  let record ← append d payload
  writeSnapshot
  return journalAck kind id record

/-- Stores the header of a transaction; one that is there must be the same. -/
def establishHeader (header : JournalHeaderV1) : JournalProg Unit := do
  let j ← read
  match j.storage.header with
  | none => writeHeader header
  | some existing => do
    lift (refuseIf (existing != header) .kindConflict)
    lift (verifyHeader d existing)

/-- The first record of a transaction, behind its header. -/
def openTransaction (kind : JournalTransactionKindV1) (id : StableId) (unsealed : JournalHeaderV1)
    (payload : JournalRecordPayloadV1) : JournalProg JournalDurableAckV1 := do
  requireHeld
  let j ← read
  lift (refuseIf (!j.storage.records.isEmpty) (.staleOrdinal 0 j.storage.records.length))
  let header ← lift (sealHeader d unsealed)
  establishHeader d header
  commit d kind id payload

def acquireSingleFlight : JournalProg Unit := do
  let j ← read
  lift (refuseIf j.held .busy)
  tryAcquireLock
  update fun j => { j with held := true }

def enrollmentHeader (id : StableId) : EnrollmentJournalHeaderV1 :=
  { schemaVersion := journalSchemaVersionV1, enrollmentId := id, helperVersion := journalHelperVersionV1,
    protocolVersion := journalHelperVersionV1, headerHash := "" }

def activationHeader (baton : BatonAcceptedV1) : ActivationJournalHeaderV1 :=
  { schemaVersion := journalSchemaVersionV1, activationId := baton.activationId, batonHash := baton.batonHash,
    profileVersion := baton.profileVersion, helperVersion := journalHelperVersionV1,
    protocolVersion := journalHelperVersionV1, headerHash := "" }

def appendEnrollmentIntent (request : ManagedLocalEnrollmentRequestV1) (identities : EnrollmentIdentitiesV1) :
    JournalProg JournalDurableAckV1 :=
  openTransaction d .enrollment request.requestId (.enrollment (enrollmentHeader request.requestId))
    (.enrollmentIntent { request, identities })

def appendEnrollmentObservation (mutation : EnrollmentJournalMutationV1) : JournalProg JournalDurableAckV1 := do
  requireHeld
  let j ← read
  lift (j.storage.guardObservation d mutation)
  commit d .enrollment mutation.enrollmentId (.enrollmentObservation mutation.observation)

def storeEnrollmentPrepared (receipt : EnrollmentPreparedV1) : JournalProg JournalDurableAckV1 := do
  requireHeld
  let j ← read
  let (terminal, last) ← lift (j.storage.sealEnrollment d receipt)
  sealReceipt (.enrollmentPrepared terminal)
  return journalAck .enrollment receipt.requestId last

def appendBatonAccepted (baton : BatonAcceptedV1) : JournalProg JournalDurableAckV1 :=
  openTransaction d .activation baton.activationId (.activation (activationHeader baton)) (.batonAccepted baton)

variable (mutation : BootstrapJournalMutationV1)

def appendEffect (isIntent : Bool) : JournalProg JournalDurableAckV1 := do
  requireHeld
  let j ← read
  lift (j.storage.guardEffect d mutation isIntent)
  commit d .activation mutation.activationId
    (if isIntent then .effectIntent mutation.effect else .observedEffect mutation.effect)

def appendEffectIntent : JournalProg JournalDurableAckV1 :=
  appendEffect d mutation true

def appendObservedEffect : JournalProg JournalDurableAckV1 :=
  appendEffect d mutation false

def advancePhase (mutation : BootstrapPhaseAdvanceV1) : JournalProg JournalDurableAckV1 := do
  requireHeld
  let j ← read
  lift (j.storage.guardAdvance d mutation)
  commit d .activation mutation.activationId (.phaseAdvance mutation.nextPhase)

def appendCommandAdmitted (command : CommandAdmittedV1) : JournalProg JournalDurableAckV1 := do
  requireHeld
  let j ← read
  lift (j.storage.guardCommand d command)
  commit d .activation command.activationId (.commandAdmitted command)

def storeManualRecoveryNotice (notice : ManualRecoveryNoticeV1) : JournalProg JournalDurableAckV1 := do
  requireHeld
  let j ← read
  let records ← lift (j.storage.guardNotice d notice)
  writeNotice notice
  let last ← lift (require records.getLast? (.invalid "activation has no durable record to anchor the notice"))
  return journalAck .activation notice.activationId last

def storeBootstrapResult (result : BootstrapResultV1) : JournalProg JournalDurableAckV1 := do
  requireHeld
  let j ← read
  let (terminal, last) ← lift (j.storage.sealResult d result)
  sealReceipt (.bootstrapResult terminal)
  return journalAck .activation result.activationId last

def sealTerminal : JournalProg Unit := do
  requireHeld
  let j ← read
  lift (j.storage.guardTerminal d)
  releaseLock
  update fun j => { j with held := false }

end ActivationJournal

/-- The calls of the journal's port that may write. -/
inductive JournalCall where
  | acquireSingleFlight
  | appendEnrollmentIntent (request : ManagedLocalEnrollmentRequestV1) (identities : EnrollmentIdentitiesV1)
  | appendEnrollmentObservation (mutation : EnrollmentJournalMutationV1)
  | storeEnrollmentPrepared (receipt : EnrollmentPreparedV1)
  | appendBatonAccepted (baton : BatonAcceptedV1)
  | appendEffectIntent (mutation : BootstrapJournalMutationV1)
  | appendObservedEffect (mutation : BootstrapJournalMutationV1)
  | advancePhase (mutation : BootstrapPhaseAdvanceV1)
  | appendCommandAdmitted (command : CommandAdmittedV1)
  | storeManualRecoveryNotice (notice : ManualRecoveryNoticeV1)
  | storeBootstrapResult (result : BootstrapResultV1)
  | sealTerminal

/-- One step of a journal's life: a call whose writes end as given, or a restart of the helper. Reads are left out. -/
inductive JournalStep where
  | call (writes : List WriteOutcome) (call : JournalCall)
  | restart

namespace ActivationJournal
variable (d : JournalDigests)

def perform : JournalCall → JournalProg Unit
  | .acquireSingleFlight => acquireSingleFlight
  | .appendEnrollmentIntent request identities => discard (appendEnrollmentIntent d request identities)
  | .appendEnrollmentObservation mutation => discard (appendEnrollmentObservation d mutation)
  | .storeEnrollmentPrepared receipt => discard (storeEnrollmentPrepared d receipt)
  | .appendBatonAccepted baton => discard (appendBatonAccepted d baton)
  | .appendEffectIntent mutation => discard (appendEffectIntent d mutation)
  | .appendObservedEffect mutation => discard (appendObservedEffect d mutation)
  | .advancePhase mutation => discard (advancePhase d mutation)
  | .appendCommandAdmitted command => discard (appendCommandAdmitted d command)
  | .storeManualRecoveryNotice notice => discard (storeManualRecoveryNotice d notice)
  | .storeBootstrapResult result => discard (storeBootstrapResult d result)
  | .sealTerminal => sealTerminal d

def step (j : ActivationJournal) : JournalStep → ActivationJournal
  | .call writes call => (perform d call { j with writes }).2
  | .restart => j.restart

def run (steps : List JournalStep) (j : ActivationJournal) : ActivationJournal := steps.foldl (step d) j

end ActivationJournal

end Aworkit.Helper
