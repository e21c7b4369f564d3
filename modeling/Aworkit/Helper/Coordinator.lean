import Aworkit.Helper.Journal

/-! The activation and rollback coordinator of the bootstrap helper (`coordinator/`), over the managed-local selector
adapter (`profile/selector.rs`). A silent port stops the helper. -/
namespace Aworkit.Helper
open Protocol Fallible Hoare ActivationJournal

inductive SlotDataCompatibilityV1 where
  | rollbackCompatible | deferredUntilVerified | forwardOnlyMigrationRequired
  deriving DecidableEq

structure OpenBuildSlotHandleV1 where
  handleId : StableId
  (buildContentHash rootIdentityHash manifestHash : String)
  verificationGeneration : Nat
  deriving DecidableEq

/-- A verified slot, built only from a handle of the same build and root. -/
structure VerifiedBuildSlotV1 where
  (buildContentHash manifestHash rootIdentityHash ownerIdentityHash volumeIdentityHash : String)
  expectedCoreEntry : String
  dataCompatibility : SlotDataCompatibilityV1
  handle : OpenBuildSlotHandleV1
  handle_build : handle.buildContentHash = buildContentHash
  handle_root : handle.rootIdentityHash = rootIdentityHash
  deriving DecidableEq

/-- A slot error, by the text it displays. -/
structure BuildSlotError where
  text : String

structure ActiveSelectorObservationV1 where
  (selectorIdentityHash selectedBuildContentHash selectedRootIdentityHash : String)
  capabilityGeneration : Nat
  observationHash : String
  deriving DecidableEq

structure ActivationPlanV1 where
  activationId : StableId
  capabilityGeneration : Nat
  (capabilityDigest selectorIdentityHash : String)
  (current candidate previous : VerifiedBuildSlotV1)
  (currentProcessGeneration candidateProcessGeneration rollbackProcessGeneration : Nat)
  deadlines : BootstrapDeadlinesV1

inductive SelectorMutationKindV1 where
  | selectCandidate | restorePrevious
  deriving DecidableEq

structure SelectorMutationV1 where
  (mutationId activationId : StableId)
  kind : SelectorMutationKindV1
  expectedPhase : BootstrapPhaseV1
  (capabilityGeneration processGeneration : Nat)
  (selectorIdentityHash expectedSourceHash expectedSourceRootIdentityHash destinationHash : String)
  (destinationRootIdentityHash mutationHash : String)

structure SelectorMutationReceiptV1 where
  (mutationId activationId : StableId)
  kind : SelectorMutationKindV1
  (before after : ActiveSelectorObservationV1)
  (mutationHash receiptHash : String)

inductive NativeSelectorMutationOutcomeV1 where
  | applied (after : ActiveSelectorObservationV1)
  | definitelyNotApplied (reason : PlatformReasonV1)
  | ambiguous

inductive ProfileError where
  | invalid (reason : String)
  | unsupported (reason : String)
  | capabilityDrift
  | selectorDrift
  | ambiguousSelector
  | mutationReplay
  | observation (reason : String)
  | selector (reason : String)
  | slot (reason : String)

def ProfileError.display : ProfileError → String
  | .invalid reason => "managed-local profile input is invalid: " ++ reason
  | .unsupported reason => "managed-local profile is unsupported: " ++ reason
  | .capabilityDrift => "capability generation or digest is stale"
  | .selectorDrift => "selector source, destination, or identity is stale"
  | .ambiguousSelector => "selector mutation outcome is ambiguous"
  | .mutationReplay => "selector mutation replay changed bytes"
  | .observation reason => "profile observation failed: " ++ reason
  | .selector reason => "native selector port failed: " ++ reason
  | .slot reason => "build-slot verification failed: " ++ reason

inductive GenerationRoleV1 where
  | candidate | previous
  deriving DecidableEq

structure ProcessTreeCleanupV1 where
  processGeneration : Nat
  (cooperativeRequested forcedTerminationUsed : Bool)
  descendantsObserved : Nat
  (treeEmpty orphanRisk : Bool)
  proofHash : String

structure GenerationLaunchSpecV1 where
  (activationId attemptId : StableId)
  role : GenerationRoleV1
  installationId : StableId
  enrollmentDigest : String
  capabilityGeneration : Nat
  (capabilityDigest verificationPlanHash : String)
  verificationPlan : FocusedVerificationPlanV1
  (processGeneration expectedPriorProcessGeneration : Nat)
  slot : VerifiedBuildSlotV1
  selector : ActiveSelectorObservationV1
  priorCleanup : ProcessTreeCleanupV1
  helperDetachedAndSurviving : Bool
  deadlines : BootstrapDeadlinesV1

inductive GenerationWatchdogSuccessV1 where
  | candidateVerified (focusedVerification : FocusedVerificationEvidenceV1)
  | previousHealthy

structure WatchdogFailureV1 where
  reasonCode : String

structure ActivationExecutionV1 where
  plan : ActivationPlanV1
  (installationId managementCheckpointId : StableId)
  verificationPlan : FocusedVerificationPlanV1
  helperDetachedAndSurviving : Bool
  sealedAtEpochMs : Nat

inductive CoordinatorError where
  | fence (reason : String)
  | missingBaton
  | missingJournal
  | journal (error : BootstrapJournalError)
  | slot (error : BuildSlotError)
  | selector (error : ProfileError)
  | missingRecoveryContext

/-- How a run ends without a result: by an error, or the helper stops. -/
inductive Halt where
  | failed (error : CoordinatorError)
  | stopped

/-- The values that are hashed into observed effects and notices. -/
inductive Observation where
  | pair (ok : Bool) (text : String)
  | launch (ok : Bool) (reason : Option String)
  | text (text : String)
  | selector (answer : Except String ActiveSelectorObservationV1)

/-- SHA-256 over the canonical JSON of what coordinator, adapter and journal hash; mutations and receipts are hashed
without their own hash. -/
structure CoordinatorDigests extends JournalDigests where
  plan : FocusedVerificationPlanV1 → Sha256Digest
  derivedId : StableId → String → Sha256Digest
  observation : Observation → Sha256Digest
  rollbackEvidence : StableId → String → String → Nat → Sha256Digest
  mutationSeed : StableId → SelectorMutationKindV1 → BootstrapPhaseV1 → Nat → String → String → Nat → Sha256Digest
  mutation : SelectorMutationV1 → Sha256Digest
  selectorReceipt : SelectorMutationReceiptV1 → Sha256Digest

/-- What was asked of the host, with its answer if it gave one. -/
inductive HostEvent where
  | cleanedUp (generation : Nat) (answer : Option (Except WatchdogFailureV1 ProcessTreeCleanupV1))
  | observed (answer : Option (Except ProfileError ActiveSelectorObservationV1))
  | replaced (mutation : SelectorMutationV1) (answer : Option (Except ProfileError NativeSelectorMutationOutcomeV1))
  | launched (spec : GenerationLaunchSpecV1) (answer : Option (Except WatchdogFailureV1 GenerationWatchdogSuccessV1))

/-- An event, with the journal's records at that time. -/
structure HostEntry where
  records : List JournalRecordV1
  event : HostEvent

/-- Slots, native selector and watchdog, as functions of the state of the host. -/
structure Ports (Ω : Type) where
  reverifyOpenedSlot : OpenBuildSlotHandleV1 → Ω → Option (Except BuildSlotError VerifiedBuildSlotV1) × Ω
  markCandidateActivatedVerified : Ω → Option (Except BuildSlotError Unit) × Ω
  observe : Ω → Option (Except ProfileError ActiveSelectorObservationV1) × Ω
  atomicReplace : SelectorMutationV1 → Ω → Option (Except ProfileError NativeSelectorMutationOutcomeV1) × Ω
  cleanupGeneration : StableId → StableId → Nat → BootstrapDeadlinesV1 → Bool → Ω →
    Option (Except WatchdogFailureV1 ProcessTreeCleanupV1) × Ω
  launchAndWatch : GenerationLaunchSpecV1 → Ω → Option (Except WatchdogFailureV1 GenerationWatchdogSuccessV1) × Ω
  stableLauncherNotice : ManualRecoveryNoticeV1 → Ω → Option Unit × Ω

/-- The journal, the receipts the selector adapter remembers (newest first), the host and what was asked of it. -/
structure World (Ω : Type) where
  journal : ActivationJournal
  receipts : List (StableId × String × SelectorMutationReceiptV1)
  host : Ω
  trace : List HostEntry

abbrev CoordinatorProg (Ω : Type) := Prog Halt (World Ω)

/-- A call of the adapter, which may answer with an error. -/
abbrev SelectorProg (Ω : Type) := ExceptT ProfileError (CoordinatorProg Ω)

variable {Ω α : Type}

def World.storage (w : World Ω) : JournalStorage := w.journal.storage

/-- Asks the host; what changes it or tells of the selector is traced. -/
def ask (call : Ω → Option α × Ω) (event : Option α → List HostEvent) : CoordinatorProg Ω α := fun w =>
  let (answer, host) := call w.host
  let asked := { w with
    host
    trace := w.trace ++ (event answer).map fun event => ⟨w.storage.records, event⟩ }
  match answer with
  | some a => (.ok a, asked)
  | none => (.error .stopped, asked)

def onJournal (call : JournalProg α) : CoordinatorProg Ω α :=
  Prog.zoom World.journal (fun w journal => { w with journal }) (fun error => .failed (.journal error)) call

def orFail (answer : Except CoordinatorError α) : CoordinatorProg Ω α := Prog.lift (answer.mapError Halt.failed)

namespace Ports
variable (ports : Ports Ω)

def reverify (handle : OpenBuildSlotHandleV1) : CoordinatorProg Ω (Except BuildSlotError VerifiedBuildSlotV1) :=
  ask (ports.reverifyOpenedSlot handle) fun _ => []

def observeNative : SelectorProg Ω ActiveSelectorObservationV1 :=
  .mk (ask ports.observe fun answer => [.observed answer])

def replaceNative (mutation : SelectorMutationV1) : SelectorProg Ω NativeSelectorMutationOutcomeV1 :=
  .mk (ask (ports.atomicReplace mutation) fun answer => [.replaced mutation answer])

def cleanup (activationId attemptId : StableId) (generation : Nat) (deadlines : BootstrapDeadlinesV1)
    (rollbackRequired : Bool) : CoordinatorProg Ω (Except WatchdogFailureV1 ProcessTreeCleanupV1) :=
  ask (ports.cleanupGeneration activationId attemptId generation deadlines rollbackRequired)
    fun answer => [.cleanedUp generation answer]

def launch (spec : GenerationLaunchSpecV1) : CoordinatorProg Ω (Except WatchdogFailureV1 GenerationWatchdogSuccessV1) :=
  ask (ports.launchAndWatch spec) fun answer => [.launched spec answer]

end Ports

section Adapter
variable (d : CoordinatorDigests) (ports : Ports Ω)

variable (plan : ActivationPlanV1)

/-- The slot a mutation leaves, the one it selects and its generation. -/
def ActivationPlanV1.route :
    SelectorMutationKindV1 → VerifiedBuildSlotV1 × VerifiedBuildSlotV1 × Nat
  | .selectCandidate => (plan.current, plan.candidate, plan.candidateProcessGeneration)
  | .restorePrevious => (plan.candidate, plan.previous, plan.rollbackProcessGeneration)

/-- `ManagedLocalSelectorAdapter::mutation`. -/
def selectorMutation (kind : SelectorMutationKindV1) (expectedPhase : BootstrapPhaseV1) :
    Except ProfileError SelectorMutationV1 := do
  let (source, destination, generation) := plan.route kind
  let seed := d.mutationSeed plan.activationId kind expectedPhase plan.capabilityGeneration source.buildContentHash
    destination.buildContentHash generation
  let _ ← (canonicalHash [generation] seed).mapError fun _ => .invalid "selector mutation id"
  let mutationId ← require (StableId.parse ("selector.mutation." ++ String.ofList (seed.text.toList.take 32)))
    (.invalid "selector mutation id")
  let mutation : SelectorMutationV1 :=
    { mutationId, activationId := plan.activationId, kind, expectedPhase,
      capabilityGeneration := plan.capabilityGeneration, processGeneration := generation,
      selectorIdentityHash := plan.selectorIdentityHash, expectedSourceHash := source.buildContentHash,
      expectedSourceRootIdentityHash := source.rootIdentityHash, destinationHash := destination.buildContentHash,
      destinationRootIdentityHash := destination.rootIdentityHash, mutationHash := "" }
  let hash ← (canonicalHash [generation] (d.mutation mutation)).mapError fun _ =>
    .invalid "selector mutation hash"
  return { mutation with mutationHash := hash }

variable (observation : ActiveSelectorObservationV1)

/-- The observation is of the plan's selector, under its capability. -/
def ActiveSelectorObservationV1.belongs (plan : ActivationPlanV1) : Bool :=
  observation.selectorIdentityHash == plan.selectorIdentityHash &&
    observation.capabilityGeneration == plan.capabilityGeneration

/-- The build and the root are the selected ones. -/
def ActiveSelectorObservationV1.selects (build root : String) : Bool :=
  observation.selectedBuildContentHash == build && observation.selectedRootIdentityHash == root

def ActiveSelectorObservationV1.on (slot : VerifiedBuildSlotV1) : Bool :=
  observation.selects slot.buildContentHash slot.rootIdentityHash

def selectorMutationLegal : SelectorMutationKindV1 → BootstrapPhaseV1 → Bool
  | .selectCandidate, .quiescingCurrent | .restorePrevious, .rollingBack => true
  | _, _ => false

/-- A check of the adapter. -/
def checked (answer : Except ProfileError α) : SelectorProg Ω α := ExceptT.mk (pure answer)

def reverifySlot (handle : OpenBuildSlotHandleV1) : SelectorProg Ω VerifiedBuildSlotV1 :=
  .mk do
    let answer ← ports.reverify handle
    return answer.mapError fun error => .slot error.text

/-- What the native port's answer to a mutation means. -/
def NativeSelectorMutationOutcomeV1.after : NativeSelectorMutationOutcomeV1 →
    Except ProfileError ActiveSelectorObservationV1
  | .applied after => .ok after
  | .definitelyNotApplied reason => .error (.selector reason.code)
  | .ambiguous => .error .ambiguousSelector

def remember (mutation : SelectorMutationV1) (receipt : SelectorMutationReceiptV1) : SelectorProg Ω Unit :=
  .lift (Prog.update fun w =>
    { w with receipts := (mutation.mutationId, mutation.mutationHash, receipt) :: w.receipts })

/-- A mutation not remembered is believed once the selector was reopened behind it. -/
def applyFresh (kind : SelectorMutationKindV1) (mutation : SelectorMutationV1) :
    SelectorProg Ω SelectorMutationReceiptV1 := do
  let (source, destination, _) := plan.route kind
  let _ ← reverifySlot ports source.handle
  let _ ← reverifySlot ports destination.handle
  let before ← ports.observeNative
  checked (refuseIf (!(before.belongs plan && before.on source)) .selectorDrift)
  let outcome ← ports.replaceNative mutation
  let after ← checked outcome.after
  checked (refuseIf (!(after.belongs plan && after.on destination)) .ambiguousSelector)
  let reopened ← ports.observeNative
  checked (refuseIf (reopened != after) .ambiguousSelector)
  let unhashed : SelectorMutationReceiptV1 :=
    { mutationId := mutation.mutationId, activationId := plan.activationId, kind, before,
      after, mutationHash := mutation.mutationHash, receiptHash := "" }
  let receipt := { unhashed with receiptHash := "sha256:" ++ (d.selectorReceipt unhashed).text }
  remember mutation receipt
  return receipt

/-- `ManagedLocalSelectorAdapter::apply`: a remembered mutation is answered from memory. -/
def applySelector (kind : SelectorMutationKindV1) (expectedPhase : BootstrapPhaseV1) :
    SelectorProg Ω SelectorMutationReceiptV1 := do
  checked (refuseIf (!selectorMutationLegal kind expectedPhase) (.invalid "selector mutation phase"))
  let mutation ← checked (selectorMutation d plan kind expectedPhase)
  let w ← .lift Prog.read
  match w.receipts.lookup mutation.mutationId with
  | some (hash, receipt) => checked (if hash = mutation.mutationHash then .ok receipt else .error .mutationReplay)
  | none => applyFresh d ports plan kind mutation

def observeActiveSelector : SelectorProg Ω ActiveSelectorObservationV1 := do
  let observation ← ports.observeNative
  checked (refuseIf (!observation.belongs plan) .capabilityDrift)
  return observation

def applyCandidateSelector (expectedPhase : BootstrapPhaseV1) :
    SelectorProg Ω SelectorMutationReceiptV1 := applySelector d ports plan .selectCandidate expectedPhase

def restorePreviousSelector (expectedPhase : BootstrapPhaseV1) :
    SelectorProg Ω SelectorMutationReceiptV1 := applySelector d ports plan .restorePrevious expectedPhase

def verifySelector (expected : OpenBuildSlotHandleV1) : SelectorProg Ω ActiveSelectorObservationV1 := do
  let _ ← reverifySlot ports expected
  let observation ← observeActiveSelector ports plan
  checked (refuseIf (!observation.selects expected.buildContentHash expected.rootIdentityHash) .selectorDrift)
  return observation

end Adapter

def watchdogObservation : Except WatchdogFailureV1 GenerationWatchdogSuccessV1 → Observation
  | .ok _ => .launch true none
  | .error failure => .launch false (some failure.reasonCode)

def cleanupObservation : Except WatchdogFailureV1 ProcessTreeCleanupV1 → Observation
  | .ok proof => .pair true proof.proofHash
  | .error failure => .pair false failure.reasonCode

def selectorObservation : Except ProfileError SelectorMutationReceiptV1 → Observation
  | .ok receipt => .pair true receipt.receiptHash
  | .error error => .pair false error.display

def selectorStateObservation : Except ProfileError ActiveSelectorObservationV1 → Observation
  | .ok observation => .pair true observation.observationHash
  | .error error => .pair false error.display

def activeSelectorObservation : Except ProfileError ActiveSelectorObservationV1 → Observation :=
  selectorStateObservation

/-- The intent of an effect between two slots. -/
def bootstrapEffect (current target : VerifiedBuildSlotV1) (capabilityGeneration processGeneration : Nat) :
    BootstrapEffectV1 :=
  { currentSlotHash := current.buildContentHash, targetSlotHash := target.buildContentHash,
    capabilityGeneration, processGeneration, observationHash := "" }

/-- The generation a role launches, and the one it replaces. -/
def BatonAcceptedV1.generations (baton : BatonAcceptedV1) : GenerationRoleV1 → Nat × Nat
  | .candidate => (baton.candidateProcessGeneration, baton.currentProcessGeneration)
  | .previous => (baton.rollbackProcessGeneration, baton.candidateProcessGeneration)

def launchSpec (execution : ActivationExecutionV1) (baton : BatonAcceptedV1) (role : GenerationRoleV1)
    (slot : VerifiedBuildSlotV1) (selector : ActiveSelectorObservationV1) (cleanup : ProcessTreeCleanupV1)
    (attemptId : StableId) : GenerationLaunchSpecV1 :=
  { activationId := baton.activationId, attemptId, role,
    installationId := execution.installationId, enrollmentDigest := baton.enrollmentDigest,
    capabilityGeneration := baton.capabilityGeneration, capabilityDigest := baton.capabilityDigest,
    verificationPlanHash := baton.verificationPlanHash, verificationPlan := execution.verificationPlan,
    processGeneration := (baton.generations role).1, expectedPriorProcessGeneration := (baton.generations role).2,
    slot, selector, priorCleanup := cleanup,
    helperDetachedAndSurviving := execution.helperDetachedAndSurviving, deadlines := baton.deadlines }

section Helpers
variable (d : CoordinatorDigests)

def stableId (activationId : StableId) (label : String) : Except CoordinatorError StableId :=
  let digits := String.ofList ((d.derivedId activationId label).text.toList.take 24)
  require (StableId.parse ("bootstrap." ++ label ++ "." ++ digits)) (.fence "derived stable id")

def validateExecution (execution : ActivationExecutionV1) (baton : BatonAcceptedV1) : Except CoordinatorError Unit :=
  let plan := execution.plan
  let planHash := canonicalHash [] (d.plan { execution.verificationPlan with planHash := "" })
  refuseIf (plan.activationId != baton.activationId ||
    plan.capabilityGeneration != baton.capabilityGeneration ||
    plan.capabilityDigest != baton.capabilityDigest ||
    plan.candidate.buildContentHash != baton.candidateSlotHash ||
    plan.previous.buildContentHash != baton.previousSlotHash ||
    plan.currentProcessGeneration != baton.currentProcessGeneration ||
    plan.candidateProcessGeneration != baton.candidateProcessGeneration ||
    plan.rollbackProcessGeneration != baton.rollbackProcessGeneration ||
    plan.deadlines != baton.deadlines ||
    execution.managementCheckpointId != baton.managementCheckpointId ||
    execution.verificationPlan.planHash != baton.verificationPlanHash ||
    !(planHash == .ok baton.verificationPlanHash) ||
    !execution.helperDetachedAndSurviving) (.fence "execution differs from durable baton")

def bootstrapReceipt (execution : ActivationExecutionV1) (baton : BatonAcceptedV1) (recipient : Nat)
    (result : BootstrapResultKindV1) (label : String) : Except CoordinatorError BootstrapResultV1 := do
  let receiptId ← stableId d baton.activationId label
  let unhashed : BootstrapResultV1 :=
    { schemaVersion := 1, receiptId, activationId := baton.activationId, batonHash := baton.batonHash,
      managementCheckpointId := execution.managementCheckpointId, recipientProcessGeneration := recipient,
      sealedAtEpochMs := execution.sealedAtEpochMs, result, receiptHash := "" }
  let hash ← (d.bootstrapResultHashV1 unhashed).mapError .journal
  return { unhashed with receiptHash := hash }

def rollbackEvidence (baton : BatonAcceptedV1) : Except CoordinatorError RepairArtifactRefV1 := do
  let digest := d.rollbackEvidence baton.activationId baton.candidateSlotHash baton.previousSlotHash
    baton.rollbackProcessGeneration
  let hash ← (canonicalHash [baton.rollbackProcessGeneration] digest).mapError .journal
  let artifactId ← stableId d baton.activationId "rollback-evidence"
  let evidence : RepairArtifactRefV1 :=
    { artifactId, contentHash := hash, byteSize := 1,
      mediaType := "application/vnd.aworkit.bootstrap-rollback+json",
      logicalName := "bootstrap-rollback-evidence.json" }
  return evidence

/-- The disposition of a finished rollback. -/
def rolledBack (baton : BatonAcceptedV1) (reason : String) : Except CoordinatorError BootstrapResultKindV1 := do
  let evidence ← rollbackEvidence d baton
  return .rolledBack reason [evidence]

end Helpers

def manualInstructions : List String :=
  ["Exit all application processes.", "Start the application only through the stable launcher.",
    "Preserve the diagnostic identifier for support."]

section Coordinator
variable (d : CoordinatorDigests) (ports : Ports Ω)

variable (activationId : StableId)

/-- The recovery state of an activation. -/
def coordinatorState : CoordinatorProg Ω BootstrapRecoveryStateV1 := do
  let w ← Prog.read
  let state ← orFail
    ((w.storage.loadActivationRecovery d.toJournalDigests activationId).mapError .journal)
  orFail (require state .missingJournal)

def advance (nextPhase : BootstrapPhaseV1) : CoordinatorProg Ω Unit := do
  let state ← coordinatorState d activationId
  discard (onJournal (advancePhase d.toJournalDigests
    { activationId, expectedOrdinal := state.headOrdinal + 1, expectedPhase := state.phase,
      nextPhase }))

/-- Advances to a phase unless the activation is in it. -/
def reach (phase : BootstrapPhaseV1) : CoordinatorProg Ω Unit := do
  let state ← coordinatorState d activationId
  if state.phase = phase then pure () else advance d activationId phase

variable (effect : BootstrapEffectV1)

def intent : CoordinatorProg Ω Unit := do
  let state ← coordinatorState d activationId
  discard (onJournal (appendEffectIntent d.toJournalDigests
    { activationId, expectedOrdinal := state.headOrdinal + 1, expectedPhase := state.phase,
      effect }))

def observe (observation : Observation) : CoordinatorProg Ω Unit := do
  let state ← coordinatorState d activationId
  discard (onJournal (appendObservedEffect d.toJournalDigests
    { activationId, expectedOrdinal := state.headOrdinal + 1, expectedPhase := state.phase,
      effect := { effect with observationHash := "sha256:" ++ (d.observation observation).text } }))

/-- An effect behind its durable intent, with what was observed of it. -/
def journaled (attempt : CoordinatorProg Ω α) (observation : α → Observation) : CoordinatorProg Ω α := do
  intent d activationId effect
  let answer ← attempt
  observe d activationId effect (observation answer)
  return answer

/-- A cleanup under the attempt id of its label. -/
def cleanupUnder (baton : BatonAcceptedV1) (label : String) (generation : Nat) (rollbackRequired : Bool) :
    CoordinatorProg Ω (Except WatchdogFailureV1 ProcessTreeCleanupV1) := do
  let attempt ← orFail (stableId d baton.activationId label)
  ports.cleanup baton.activationId attempt generation baton.deadlines rollbackRequired

variable (execution : ActivationExecutionV1)

variable (baton : BatonAcceptedV1)

/-- A launch under the attempt id of its label. -/
def launchUnder (role : GenerationRoleV1)
    (slot : VerifiedBuildSlotV1) (selector : ActiveSelectorObservationV1) (cleanup : ProcessTreeCleanupV1)
    (label : String) : CoordinatorProg Ω (Except WatchdogFailureV1 GenerationWatchdogSuccessV1) := do
  let attempt ← orFail (stableId d baton.activationId label)
  ports.launch (launchSpec execution baton role slot selector cleanup attempt)

/-- A slot is still what the plan says. -/
def reverifyUnchanged (slot : VerifiedBuildSlotV1) : ExceptT CoordinatorError (CoordinatorProg Ω) Unit :=
  .mk do
    let answer ← ports.reverify slot.handle
    return do
      let observed ← answer.mapError .slot
      refuseIf (observed != slot) (.fence "slot identity drift")

def reverifySlots : List VerifiedBuildSlotV1 → ExceptT CoordinatorError (CoordinatorProg Ω) Unit
  | [] => pure ()
  | slot :: rest => do
    reverifyUnchanged ports slot
    reverifySlots rest

/-- The selector is still on the current build. -/
def verifyCurrent (plan : ActivationPlanV1) : ExceptT CoordinatorError (CoordinatorProg Ω) Unit :=
  .mk do
    let answer ← (verifySelector ports plan plan.current.handle).run
    return (discard answer).mapError .selector

def reverifyPlan (plan : ActivationPlanV1) : ExceptT CoordinatorError (CoordinatorProg Ω) Unit := do
  reverifySlots ports [plan.current, plan.candidate, plan.previous]
  verifyCurrent ports plan

def sealReceipt (receipt : BootstrapResultV1) : CoordinatorProg Ω BootstrapResultV1 := do
  let _ ← onJournal (storeBootstrapResult d.toJournalDigests receipt)
  onJournal (sealTerminal d.toJournalDigests)
  return receipt

/-- Builds the receipt of a disposition and seals it. -/
def sealDisposition (recipient : Nat)
    (result : BootstrapResultKindV1) (label : String) : CoordinatorProg Ω BootstrapResultV1 := do
  let receipt ← orFail (bootstrapReceipt d execution baton recipient result label)
  sealReceipt d receipt

def unsupported (aborted : Bool) (code : String) : CoordinatorProg Ω BootstrapResultV1 := do
  advance d baton.activationId (if aborted then .abortedBeforeSwitch else .unsupported)
  sealDisposition d execution baton baton.currentProcessGeneration
    (.unsupported
      { code, message := "Activation stopped before the selector changed.",
        nextSteps := ["Continue using the current verified build."] }) "unsupported"

def manual (reason : ReasonCodeV1) (observed : Observation) : CoordinatorProg Ω BootstrapResultV1 := do
  reach d baton.activationId .manualRecoveryRequired
  let observedSlotStateHash := "sha256:" ++ (d.observation observed).text
  let diagnosticId ← orFail (stableId d baton.activationId "diagnostic")
  let noticeId ← orFail (stableId d baton.activationId "notice")
  let notice : ManualRecoveryNoticeV1 :=
    { noticeId, activationId := baton.activationId, reason,
      observedSlotStateHash, diagnosticId,
      instructions := manualInstructions }
  let _ ← onJournal (storeManualRecoveryNotice d.toJournalDigests notice)
  ask (ports.stableLauncherNotice notice) fun _ => []
  sealDisposition d execution baton baton.rollbackProcessGeneration
    (.manualRecoveryRequired diagnosticId observedSlotStateHash manualInstructions) "manual"

/-- The selector is on the previous build, or is restored to it. -/
def restoreSelector (plan : ActivationPlanV1) : SelectorProg Ω ActiveSelectorObservationV1 := do
  let observation ← observeActiveSelector ports plan
  if observation.on plan.previous then pure observation
  else if observation.on plan.candidate then do
    let receipt ← restorePreviousSelector d ports plan .rollingBack
    pure receipt.after
  else throw .ambiguousSelector

/-- The end of `rollback`: the previous build is launched and its health decides. -/
def rollbackLaunch (reason : String) (cleanup : ProcessTreeCleanupV1) (restored : ActiveSelectorObservationV1) :
    CoordinatorProg Ω BootstrapResultV1 := do
  let plan := execution.plan
  advance d baton.activationId .previousSelected
  let launch ← journaled d baton.activationId
    (bootstrapEffect plan.previous plan.previous baton.capabilityGeneration baton.rollbackProcessGeneration)
    (launchUnder d ports execution baton .previous plan.previous restored cleanup "rollback-launch")
    watchdogObservation
  advance d baton.activationId .previousRelaunching
  match launch with
  | .ok .previousHealthy => do
    advance d baton.activationId .rolledBack
    let result ← orFail (rolledBack d baton reason)
    sealDisposition d execution baton baton.rollbackProcessGeneration result "rollback"
  | launch => manual d ports execution baton .rollbackFailure (watchdogObservation launch)

/-- The part of `rollback` behind the cleanup: the selector is put back. -/
def rollbackRestore (reason : String) (cleanup : ProcessTreeCleanupV1) : CoordinatorProg Ω BootstrapResultV1 := do
  let plan := execution.plan
  let restored ← journaled d baton.activationId
    (bootstrapEffect plan.candidate plan.previous baton.capabilityGeneration baton.rollbackProcessGeneration)
    (restoreSelector d ports plan).run selectorStateObservation
  match restored with
  | .error error => manual d ports execution baton .ambiguousSelectorState (.text error.display)
  | .ok restored =>
    match ← ports.reverify plan.previous.handle with
    | .error error => manual d ports execution baton .ownershipLost (.text error.text)
    | .ok _ =>
      match ← (verifySelector ports plan plan.previous.handle).run with
      | .error error => manual d ports execution baton .ambiguousSelectorState (.text error.display)
      | .ok _ => rollbackLaunch d ports execution baton reason cleanup restored

def rollback (reason : String) : CoordinatorProg Ω BootstrapResultV1 := do
  let plan := execution.plan
  reach d baton.activationId .rollingBack
  let cleanup ← journaled d baton.activationId
    (bootstrapEffect plan.candidate plan.previous baton.capabilityGeneration baton.candidateProcessGeneration)
    (cleanupUnder d ports baton "candidate-cleanup" baton.candidateProcessGeneration true) cleanupObservation
  match cleanup with
  | .error failure => manual d ports execution baton .generationProofMissing (.text failure.reasonCode)
  | .ok proof => rollbackRestore d ports execution baton reason proof

/-- The last part of `execute_locked`: the candidate has been verified. -/
def executeVerified (focusedVerification : FocusedVerificationEvidenceV1) : CoordinatorProg Ω BootstrapResultV1 := do
  advance d baton.activationId .awaitingCandidateIdentity
  advance d baton.activationId .candidateVerifying
  advance d baton.activationId .verified
  let receipt ← orFail (bootstrapReceipt d execution baton baton.candidateProcessGeneration
    (.activatedVerified focusedVerification) "verified")
  let _ ← onJournal (storeBootstrapResult d.toJournalDigests receipt)
  let marked ← ask ports.markCandidateActivatedVerified fun _ => []
  orFail (marked.mapError .slot)
  onJournal (sealTerminal d.toJournalDigests)
  return receipt

/-- The part of `execute_locked` behind the switch: the launch. -/
def executeLaunch (cleanup : ProcessTreeCleanupV1)
    (selected : ActiveSelectorObservationV1) : CoordinatorProg Ω BootstrapResultV1 := do
  let plan := execution.plan
  advance d baton.activationId .candidateSelected
  let launch ← journaled d baton.activationId
    (bootstrapEffect plan.candidate plan.candidate baton.capabilityGeneration baton.candidateProcessGeneration)
    (launchUnder d ports execution baton .candidate plan.candidate selected cleanup "candidate-launch")
    watchdogObservation
  advance d baton.activationId .candidateLaunching
  match launch with
  | .ok (.candidateVerified focusedVerification) => executeVerified d ports execution baton focusedVerification
  | _ => rollback d ports execution baton "candidate verification failed"

/-- A failed switch is given up if the current build is still selected. -/
def switchFailed (error : ProfileError) : CoordinatorProg Ω BootstrapResultV1 := do
  let observed ← (observeActiveSelector ports execution.plan).run
  if observed.toOption.any fun value => value.selectedBuildContentHash == execution.plan.current.buildContentHash then
    unsupported d execution baton true "candidate_selector_not_applied"
  else do
    advance d baton.activationId .candidateSelected
    rollback d ports execution baton error.display

/-- The part of `execute_locked` behind the cleanup: the switch. -/
def executeSwitch (cleanup : ProcessTreeCleanupV1) : CoordinatorProg Ω BootstrapResultV1 := do
  let plan := execution.plan
  let switched ← journaled d baton.activationId
    (bootstrapEffect plan.current plan.candidate baton.capabilityGeneration baton.candidateProcessGeneration)
    (applyCandidateSelector d ports plan .quiescingCurrent).run selectorObservation
  match switched with
  | .ok receipt => executeLaunch d ports execution baton cleanup receipt.after
  | .error error => switchFailed d ports execution baton error

/-- The part of `execute_locked` behind its checks. -/
def executePlan : CoordinatorProg Ω BootstrapResultV1 := do
  let plan := execution.plan
  match ← (reverifyPlan ports plan).run with
  | .error _ => unsupported d execution baton false "activation_precondition_changed"
  | .ok _ => do
    advance d baton.activationId .slotsVerified
    advance d baton.activationId .quiescingCurrent
    let cleanup ← journaled d baton.activationId
      (bootstrapEffect plan.current plan.candidate baton.capabilityGeneration baton.currentProcessGeneration)
      (cleanupUnder d ports baton "current-cleanup" baton.currentProcessGeneration false) cleanupObservation
    match cleanup with
    | .error _ => unsupported d execution baton true "current_cleanup_unproven"
    | .ok proof => executeSwitch d ports execution baton proof

/-- `execute_activation`; between calls the lock is free. -/
def executeActivation : CoordinatorProg Ω BootstrapResultV1 := do
  let state ← coordinatorState d execution.plan.activationId
  match state.terminal with
  | some terminal => pure terminal
  | none => do
    let baton ← orFail (require state.baton .missingBaton)
    orFail (validateExecution d execution baton)
    orFail (refuseIf (state.phase != .batonDurable) (.fence "activation is not ready to execute"))
    executePlan d ports execution baton

variable (phase : BootstrapPhaseV1)

/-- What closes an open effect: a cleanup of what it may have started, or a look at the selector. -/
def reconcileAttempt (effect : BootstrapEffectV1) : CoordinatorProg Ω Observation :=
  if phase = .quiescingCurrent ∧ effect.processGeneration = baton.currentProcessGeneration then
    cleanupObservation <$>
      cleanupUnder d ports baton "recover-current-cleanup" baton.currentProcessGeneration false
  else if phase ∈ [.candidateSelected, .candidateLaunching, .awaitingCandidateIdentity, .candidateVerifying] ∨
      phase = .rollingBack ∧ effect.processGeneration = baton.candidateProcessGeneration then
    cleanupObservation <$>
      cleanupUnder d ports baton "recover-candidate-cleanup" baton.candidateProcessGeneration true
  else if phase ∈ [.previousSelected, .previousRelaunching] then
    cleanupObservation <$>
      cleanupUnder d ports baton "recover-rollback-cleanup" baton.rollbackProcessGeneration true
  else
    activeSelectorObservation <$> (observeActiveSelector ports execution.plan).run

def reconcileOpenEffect (effect : BootstrapEffectV1) : CoordinatorProg Ω Unit := do
  let observation ← reconcileAttempt d ports execution baton phase effect
  observe d baton.activationId effect observation

/-- The effect that was open when the helper stopped is closed. -/
def reconcilePending :
    Option BootstrapEffectV1 → CoordinatorProg Ω Unit
  | some effect => reconcileOpenEffect d ports execution baton phase effect
  | none => pure ()

/-- The part of `recover_locked` for a phase that is not terminal. -/
def recoverInterrupted
    (activationId : StableId) (state : BootstrapRecoveryStateV1) : CoordinatorProg Ω BootstrapResultV1 := do
  let plan := execution.plan
  reconcilePending d ports execution baton state.phase state.openEffect
  reach d activationId .recovering
  let observed ← (observeActiveSelector ports plan).run
  match observed with
  | .ok value =>
    if value.selectedBuildContentHash = plan.current.buildContentHash then
      unsupported d execution baton true "recovered_before_switch"
    else if value.selectedBuildContentHash = plan.candidate.buildContentHash ∨
        value.selectedBuildContentHash = plan.previous.buildContentHash then
      rollback d ports execution baton "recovered incomplete activation"
    else manual d ports execution baton .ambiguousSelectorState (.selector (.ok value))
  | .error error => manual d ports execution baton .ambiguousSelectorState (.selector (.error error.display))

/-- The end of `recover_locked`: a terminal phase lacks its receipt. -/
def recoverPhase (activationId : StableId) (state : BootstrapRecoveryStateV1) : CoordinatorProg Ω BootstrapResultV1 :=
  match state.phase with
  | .rolledBack => do
    let result ← orFail (rolledBack d baton "recovered completed rollback")
    sealDisposition d execution baton baton.rollbackProcessGeneration result "rollback"
  | .unsupported | .abortedBeforeSwitch =>
    sealDisposition d execution baton baton.currentProcessGeneration
      (.unsupported
        { code := "recovered_pre_switch_terminal",
          message := "Activation previously stopped before a verified switch.",
          nextSteps := ["Continue using the current verified build."] }) "unsupported"
  | .manualRecoveryRequired => do
    let notice ← orFail (require state.manualRecovery .missingRecoveryContext)
    sealDisposition d execution baton baton.rollbackProcessGeneration
      (.manualRecoveryRequired notice.diagnosticId notice.observedSlotStateHash notice.instructions) "manual"
  | _ => recoverInterrupted d ports execution baton activationId state

/-- `recover_activation`; between calls the lock is free. -/
def recoverActivation (activationId : StableId) (execution : Option ActivationExecutionV1) :
    CoordinatorProg Ω BootstrapResultV1 := do
  let state ← coordinatorState d activationId
  match state.terminal with
  | some terminal => pure terminal
  | none => do
    let execution ← orFail (require execution .missingRecoveryContext)
    let baton ← orFail (require state.baton .missingBaton)
    orFail (validateExecution d execution baton)
    recoverPhase d ports execution baton activationId state

end Coordinator

/-- A step in the life of an activation: a call whose journal writes end as given, a restart of the helper, or its
taking of the lock. -/
inductive CoordinatorStep where
  | execute (writes : List WriteOutcome) (execution : ActivationExecutionV1)
  | recover (writes : List WriteOutcome) (activationId : StableId) (execution : Option ActivationExecutionV1)
  | restart
  | acquire (writes : List WriteOutcome)

namespace World
variable (d : CoordinatorDigests) (ports : Ports Ω)

/-- The outcomes of the writes to come. -/
def facing (w : World Ω) (writes : List WriteOutcome) : World Ω :=
  { w with journal := { w.journal with writes } }

/-- A restarted helper has lost the memory of its adapter. -/
def step (w : World Ω) : CoordinatorStep → World Ω
  | .execute writes execution => (executeActivation d ports execution (w.facing writes)).2
  | .recover writes activationId execution => (recoverActivation d ports activationId execution (w.facing writes)).2
  | .restart => { w with journal := w.journal.restart, receipts := [] }
  | .acquire writes => (onJournal acquireSingleFlight (w.facing writes)).2

def run (steps : List CoordinatorStep) (w : World Ω) : World Ω := steps.foldl (step d ports) w

end World

end Aworkit.Helper
