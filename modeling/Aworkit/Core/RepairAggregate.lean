import Aworkit.Core.Repair

/-! The fold of the durable repair events (`repair/aggregate.rs`). -/
namespace Aworkit.Core.Repair
open Protocol Fallible

inductive RepairPhaseV1 where
  | observed
  | investigating
  | candidateReady
  | enrollmentPending
  | enrollmentPrepared
  | candidateRejected
  | activationPrepared
  | awaitingBootstrapResult
  | verificationSubmitted
  | verified
  | rolledBack
  | manualRecoveryRequired
  | regression
  deriving DecidableEq

inductive RepairEventV1 where
  | failureRecorded (occurrence : ErrorOccurrenceV1)
  | investigationStarted (investigation : RepairInvestigationV1)
  | candidateRegistered (candidate : RepairCandidateV1)
    (executionReceipt : AuthenticatedInvestigationExecutionReceiptV1)
  | capabilityReported (queriedAtEpochMs : Nat) (report : PlatformCapabilityReportV1)
  | enrollmentRequested (requestedAtEpochMs : Nat) (request : ManagedLocalEnrollmentRequestV1)
  | enrollmentPrepared (prepared : EnrollmentPreparedV1)
  | candidateDecided (decision : RepairCandidateDecisionV1)
  | activationPrepared (decision : RepairActivationDecisionV1) (checkpoint : ManagementCheckpointRefV1)
      (baton : RepairActivationBatonV1)
  | bootstrapAdmissionAccepted (admission : BootstrapAcceptedAdmissionV1)
  | coreQuiesced (facts : CoreQuiescenceFactsV1)
  | focusedVerificationSubmitted (activationId : StableId) (processGeneration : Nat)
    (evidence : FocusedVerificationEvidenceV1)
  | bootstrapResultReconciled (reconciledAtEpochMs : Nat) (result : AuthenticatedBootstrapResultV1)
  | regressionRecorded (regression : RepairRegressionV1)

structure CommittedRepairEventV1 where
  groupId : StableId
  ledgerSequence : Nat
  event : RepairEventV1

inductive RepairAggregateError where
  | nonContiguousSequence
  | groupMismatch
  | invalidEvent (reason : String)
  | illegalTransition (reason : String)
  deriving DecidableEq

structure RepairAggregateV1 where
  groupId : StableId
  fingerprint : Option String
  ledgerVersion : Nat
  phase : Option RepairPhaseV1
  occurrences : List ErrorOccurrenceV1
  investigation : Option RepairInvestigationV1
  candidates : List RepairCandidateV1
  candidateExecutionReceipts : List AuthenticatedInvestigationExecutionReceiptV1
  latestCapabilityReport : Option PlatformCapabilityReportV1
  enrollmentRequest : Option ManagedLocalEnrollmentRequestV1
  enrollmentPrepared : Option EnrollmentPreparedV1
  candidateDecision : Option RepairCandidateDecisionV1
  activationDecision : Option RepairActivationDecisionV1
  managementCheckpoint : Option ManagementCheckpointRefV1
  activationBaton : Option RepairActivationBatonV1
  bootstrapAdmission : Option BootstrapAcceptedAdmissionV1
  quiescence : Option CoreQuiescenceFactsV1
  focusedVerification : Option FocusedVerificationEvidenceV1
  bootstrapResult : Option AuthenticatedBootstrapResultV1
  regressions : List RepairRegressionV1

abbrev RepairFold := Except RepairAggregateError

/-- A failed validation makes the event invalid. -/
def valid (check : Validation) : RepairFold Unit := check.mapError .invalidEvent

/-- A refused event breaks the life cycle. -/
def illegalIf (condition : Bool) (reason : String) : RepairFold Unit := refuseIf condition (.illegalTransition reason)

def BootstrapResultKindV1.isUnsupported : BootstrapResultKindV1 → Bool
  | .unsupported _ => true
  | _ => false

def BootstrapResultKindV1.isActivatedVerified : BootstrapResultKindV1 → Bool
  | .activatedVerified _ => true
  | _ => false

namespace RepairAggregateV1
variable (d : RepairDigests) (agg : RepairAggregateV1)

def empty (groupId : StableId) : RepairAggregateV1 where
  groupId := groupId
  fingerprint := none
  ledgerVersion := 0
  phase := none
  occurrences := []
  investigation := none
  candidates := []
  candidateExecutionReceipts := []
  latestCapabilityReport := none
  enrollmentRequest := none
  enrollmentPrepared := none
  candidateDecision := none
  activationDecision := none
  managementCheckpoint := none
  activationBaton := none
  bootstrapAdmission := none
  quiescence := none
  focusedVerification := none
  bootstrapResult := none
  regressions := []

def activeCandidate : Option RepairCandidateV1 := agg.candidates.getLast?

def candidateExact (candidateId : StableId) (version : Nat) : Option RepairCandidateV1 :=
  agg.candidates.find? fun candidate => candidate.candidateId == candidateId && candidate.candidateVersion == version

def verifiedBuild : Option (RepairCandidateV1 × AuthenticatedBootstrapResultV1) := do
  let result ← agg.bootstrapResult
  if !BootstrapResultKindV1.isActivatedVerified result.receipt.result then none
  else return (← agg.activeCandidate, result)

/-- An activation the helper could not start may be prepared again. -/
def priorActivationWasUnsupported : Bool :=
  agg.bootstrapResult.any fun result => BootstrapResultKindV1.isUnsupported result.receipt.result

def recordFailure (occurrence : ErrorOccurrenceV1) : RepairFold RepairAggregateV1 := do
  let preserveActivePhase := agg.phase == some .investigating || agg.phase == some .enrollmentPending ||
    agg.phase == some .activationPrepared || agg.phase == some .awaitingBootstrapResult ||
    agg.phase == some .verificationSubmitted
  valid (validateOccurrence occurrence)
  let resolvedGroup ← require (repairGroupIdForFingerprintV1 occurrence.fingerprint)
    (.invalidEvent "invalid recurring-error fingerprint")
  illegalIf (resolvedGroup != agg.groupId) "recurring-error group is not the stable fingerprint resolution"
  illegalIf (agg.occurrences.any fun seen => seen.occurrenceId == occurrence.occurrenceId) "duplicate occurrence id"
  illegalIf (agg.fingerprint.any fun fingerprint => fingerprint != occurrence.fingerprint) "fingerprint changed within group"
  return { agg with
    fingerprint := some (agg.fingerprint.getD occurrence.fingerprint)
    occurrences := agg.occurrences ++ [occurrence]
    phase := if preserveActivePhase then agg.phase else some .observed }

def startInvestigation (investigation : RepairInvestigationV1) : RepairFold RepairAggregateV1 := do
  valid (validateInvestigation investigation)
  illegalIf (agg.fingerprint.isNone || investigation.groupId != agg.groupId)
    "investigation has no matching recurring-error group"
  illegalIf (agg.phase == some .investigating || agg.phase == some .activationPrepared ||
    agg.phase == some .awaitingBootstrapResult || agg.phase == some .verificationSubmitted ||
    (agg.activationBaton.isSome && agg.bootstrapResult.isNone) ||
    (agg.enrollmentRequest.isSome && agg.enrollmentPrepared.isNone)) "another investigation or activation is active"
  return { agg with
    latestCapabilityReport := none
    enrollmentRequest := none
    enrollmentPrepared := none
    candidateDecision := none
    activationDecision := none
    managementCheckpoint := none
    activationBaton := none
    bootstrapAdmission := none
    quiescence := none
    focusedVerification := none
    bootstrapResult := none
    investigation := some investigation
    phase := some .investigating }

/-- The highest version registered under the id. -/
def previousVersion (candidateId : StableId) : Option Nat :=
  ((agg.candidates.filter fun stored => stored.candidateId == candidateId).map RepairCandidateV1.candidateVersion).max?

/-- Versions of a candidate are registered one by one. -/
def checkVersion (candidate : RepairCandidateV1) : RepairFold Unit :=
  match agg.previousVersion candidate.candidateId with
  | some previous =>
    illegalIf (candidate.candidateVersion != saturatingAdd u64Max previous 1) "candidate version is not contiguous"
  | none => illegalIf (candidate.candidateVersion != 1) "first candidate version must be one"

def registerCandidate (candidate : RepairCandidateV1)
    (executionReceipt : AuthenticatedInvestigationExecutionReceiptV1) :
    RepairFold RepairAggregateV1 := do
  valid (d.validateCandidate candidate)
  illegalIf (agg.enrollmentRequest.isSome || agg.activationBaton.isSome)
    "candidate cannot replace an active or completed handoff"
  let investigation ← require agg.investigation (.illegalTransition "candidate has no explicit investigation")
  valid (d.validateAuthenticatedInvestigationExecution executionReceipt investigation candidate)
  illegalIf (candidate.groupId != agg.groupId ||
    candidate.builtUnderAuthorityManifestHash != investigation.authority.authorityManifestHash ||
    candidate.disclosure.verificationPlan.checks.any fun check =>
      !investigation.authority.capabilityIds.contains check.capabilityId)
    "candidate is not bound to this investigation authority"
  agg.checkVersion candidate
  return { agg with
    candidates := agg.candidates ++ [candidate]
    candidateExecutionReceipts := agg.candidateExecutionReceipts ++ [executionReceipt]
    latestCapabilityReport := none
    enrollmentRequest := none
    enrollmentPrepared := none
    candidateDecision := none
    phase := some .candidateReady }

def recordCapability (queriedAtEpochMs : Nat) (report : PlatformCapabilityReportV1) : RepairFold RepairAggregateV1 := do
  valid (d.validateCapabilityReportShape report)
  valid (d.validateCapabilityReportFresh report queriedAtEpochMs)
  illegalIf (agg.activationBaton.isSome && !agg.priorActivationWasUnsupported)
    "capability report cannot replace an active or completed handoff report"
  illegalIf (agg.latestCapabilityReport.any fun previous =>
    decide (report.capabilityGeneration < previous.capabilityGeneration) ||
      (report.capabilityGeneration == previous.capabilityGeneration && report != previous))
    "capability generation regressed or changed without advancing"
  let candidate ← require agg.activeCandidate (.illegalTransition "capability report has no candidate")
  illegalIf (report.candidateId != candidate.candidateId || report.candidateVersion != candidate.candidateVersion ||
    report.candidateHash != candidate.candidateHash) "capability report is bound to another candidate"
  return { agg with latestCapabilityReport := some report }

def requestEnrollment (requestedAtEpochMs : Nat) (request : ManagedLocalEnrollmentRequestV1) :
    RepairFold RepairAggregateV1 := do
  valid (validateEnrollmentRequest request)
  let report ← require agg.latestCapabilityReport (.illegalTransition "enrollment has no capability report")
  valid (d.validateCapabilityReportFresh report requestedAtEpochMs)
  let candidate ← require agg.activeCandidate (.illegalTransition "enrollment has no candidate")
  illegalIf (report.eligibility != .enrollmentRequired || request.groupId != agg.groupId ||
    request.candidateId != report.candidateId || request.candidateVersion != report.candidateVersion ||
    request.candidateHash != report.candidateHash || request.capabilityReportId != report.reportId ||
    request.capabilityDigest != report.capabilityDigest ||
    request.projectedProvenanceHash != candidate.provenance.provenanceHash ||
    request.wholeBundle != candidate.buildBundle ||
    report.buildOrigin != .sourceCheckout request.projectedProvenanceHash)
    "enrollment request does not match an EnrollmentRequired report"
  illegalIf (agg.activationBaton.isSome || agg.enrollmentRequest.isSome) "enrollment or activation is already active"
  return { agg with enrollmentRequest := some request, phase := some .enrollmentPending }

def prepareEnrollment (prepared : EnrollmentPreparedV1) : RepairFold RepairAggregateV1 := do
  valid (validateEnrollmentPrepared prepared)
  let request ← require agg.enrollmentRequest (.illegalTransition "enrollment was not requested")
  illegalIf (prepared.requestId != request.requestId) "enrollment response request id mismatch"
  illegalIf agg.enrollmentPrepared.isSome "enrollment preparation is immutable"
  return { agg with enrollmentPrepared := some prepared, phase := some .enrollmentPrepared }

def decideCandidate (decision : RepairCandidateDecisionV1) : RepairFold RepairAggregateV1 := do
  valid (validateCandidateDecision decision)
  illegalIf (agg.candidateExact decision.candidateId decision.candidateVersion).isNone
    "candidate decision references an unknown version"
  illegalIf agg.activationBaton.isSome "candidate cannot be rejected after activation preparation"
  return { agg with candidateDecision := some decision, phase := some .candidateRejected }

/-- The enrollment a report of a managed build names. -/
def managedEnrollmentDigest : BuildOriginV1 → Option String
  | .managedLocal enrollmentDigest _ => some enrollmentDigest
  | _ => none

/-- The candidate is looked up by the decision, the report is the latest one. -/
def prepareActivation (decision : RepairActivationDecisionV1) (checkpoint : ManagementCheckpointRefV1)
    (baton : RepairActivationBatonV1) : RepairFold RepairAggregateV1 := do
  valid (validateCheckpoint checkpoint)
  valid (d.validateRepairActivationBaton baton)
  illegalIf ((agg.activationBaton.isSome && !agg.priorActivationWasUnsupported) ||
    (agg.enrollmentRequest.isSome && agg.enrollmentPrepared.isNone)) "enrollment or activation is already active"
  let candidate ← require (agg.candidateExact decision.candidateId decision.expectedCandidateVersion)
    (.illegalTransition "activation candidate version is missing")
  let report ← require agg.latestCapabilityReport (.illegalTransition "activation capability is missing")
  let investigation ← require agg.investigation (.illegalTransition "activation investigation is missing")
  let expectedExpiry :=
    (totalDeadlineMs baton.deadlines).bind fun deadline => checkedSum decision.decidedAtEpochMs deadline
  illegalIf (decision.expectedCandidateHash != candidate.candidateHash ||
    decision.expectedCapabilityReportId != report.reportId ||
    decision.expectedCapabilityDigest != report.capabilityDigest ||
    report.eligibility != .supportedManagedLocal ||
    decide (decision.decidedAtEpochMs < report.validFromEpochMs) ||
    decide (report.expiresAtEpochMs < decision.decidedAtEpochMs) ||
    checkpoint.chatId != investigation.managementChatId ||
    checkpoint.runId != investigation.managementRunId ||
    baton.activationId != decision.activationId ||
    baton.groupId != agg.groupId ||
    baton.candidateId != candidate.candidateId ||
    baton.candidateVersion != candidate.candidateVersion ||
    baton.candidateHash != candidate.candidateHash ||
    baton.candidateBundle != candidate.buildBundle ||
    baton.disclosureHash != candidate.disclosure.disclosureHash ||
    baton.provenanceHash != candidate.provenance.provenanceHash ||
    managedEnrollmentDigest report.buildOrigin != some baton.enrollmentDigest ||
    baton.capabilityReportId != report.reportId ||
    baton.capabilityGeneration != report.capabilityGeneration ||
    baton.capabilityDigest != report.capabilityDigest ||
    report.previousWorkingBuild != some baton.previousWorkingBuild ||
    baton.previousWorkingBuild != candidate.disclosure.rollbackPoint ||
    baton.managementCheckpoint != checkpoint ||
    baton.verificationPlan != candidate.disclosure.verificationPlan ||
    expectedExpiry != some baton.expiresAtEpochMs)
    "activation decision, checkpoint, candidate, report, or baton mismatch"
  return { agg with
    activationDecision := some decision
    managementCheckpoint := some checkpoint
    activationBaton := some baton
    bootstrapAdmission := none
    quiescence := none
    focusedVerification := none
    bootstrapResult := none
    phase := some .activationPrepared }

def acceptBootstrapAdmission (admission : BootstrapAcceptedAdmissionV1) : RepairFold RepairAggregateV1 := do
  valid (d.validateAdmission admission)
  let baton ← require agg.activationBaton (.illegalTransition "bootstrap admission has no baton")
  illegalIf (admission.activationId != baton.activationId || admission.batonHash != baton.batonHash ||
    admission.candidateProcessGeneration != baton.candidateProcessGeneration ||
    admission.rollbackProcessGeneration != baton.rollbackProcessGeneration || agg.bootstrapAdmission.isSome)
    "bootstrap admission does not match the baton"
  return { agg with bootstrapAdmission := some admission, phase := some .awaitingBootstrapResult }

def recordQuiescence (facts : CoreQuiescenceFactsV1) : RepairFold RepairAggregateV1 := do
  valid (d.validateQuiescenceFacts facts)
  refuseIf (facts.timedOut || facts.orphanRisk) (.invalidEvent "unsafe quiescence facts cannot be committed")
  let baton ← require agg.activationBaton (.illegalTransition "quiescence has no activation baton")
  illegalIf (agg.bootstrapAdmission.isNone || agg.quiescence.isSome || facts.activationId != baton.activationId ||
    facts.processGeneration != baton.currentProcessGeneration) "quiescence happened before matching helper admission"
  return { agg with quiescence := some facts }

def recordFocusedVerification (activationId : StableId) (processGeneration : Nat)
    (evidence : FocusedVerificationEvidenceV1) : RepairFold RepairAggregateV1 := do
  let baton ← require agg.activationBaton (.illegalTransition "verification has no activation baton")
  valid (d.validateFocusedEvidenceAgainstPlan evidence baton.verificationPlan)
  illegalIf agg.bootstrapResult.isSome "verification cannot be submitted after a terminal bootstrap result"
  illegalIf (activationId != baton.activationId || processGeneration != baton.candidateProcessGeneration ||
    evidence.planId != baton.verificationPlan.planId || evidence.planHash != baton.verificationPlan.planHash ||
    agg.bootstrapAdmission.isNone || agg.quiescence.isNone) "verification does not match the baton plan"
  illegalIf agg.focusedVerification.isSome "focused-verification evidence is immutable"
  return { agg with focusedVerification := some evidence, phase := some .verificationSubmitted }

/-- The phase a terminal result leads to. -/
def resultPhase : BootstrapResultKindV1 → RepairPhaseV1
  | .unsupported _ => .candidateReady
  | .activatedVerified _ => .verified
  | .rolledBack .. => .rolledBack
  | .manualRecoveryRequired .. => .manualRecoveryRequired

/-- A verified receipt repeats the evidence that was submitted. -/
def checkVerification : BootstrapResultKindV1 → RepairFold Unit
  | .activatedVerified focusedVerification =>
    illegalIf (agg.focusedVerification != some focusedVerification)
      "activated receipt lacks the previously submitted focused verification"
  | _ => .ok ()

def reconcileBootstrapResult (reconciledAtEpochMs : Nat) (result : AuthenticatedBootstrapResultV1) :
    RepairFold RepairAggregateV1 := do
  let baton ← require agg.activationBaton (.illegalTransition "bootstrap result has no activation baton")
  valid (d.validateAuthenticatedResult result baton agg.bootstrapAdmission)
  valid (validateResultFresh result baton reconciledAtEpochMs)
  illegalIf agg.bootstrapResult.isSome "a bootstrap result was already reconciled"
  illegalIf (!BootstrapResultKindV1.isUnsupported result.receipt.result && agg.quiescence.isNone)
    "bootstrap result has no committed safe quiescence handoff"
  agg.checkVerification result.receipt.result
  return { agg with phase := some (resultPhase result.receipt.result), bootstrapResult := some result }

def recordRegression (regression : RepairRegressionV1) : RepairFold RepairAggregateV1 := do
  let (candidate, result) ← require agg.verifiedBuild (.illegalTransition "regression has no verified repair")
  illegalIf (regression.repairedCandidateId != candidate.candidateId ||
    regression.repairedReceiptId != result.receipt.receiptId ||
    !agg.occurrences.any (fun occurrence => occurrence.occurrenceId == regression.occurrenceId) ||
    agg.regressions.any fun seen => seen.regressionId == regression.regressionId)
    "regression references do not match verified evidence"
  return { agg with regressions := agg.regressions ++ [regression], phase := some .regression }

def apply : RepairEventV1 → RepairFold RepairAggregateV1
  | .failureRecorded occurrence => agg.recordFailure occurrence
  | .investigationStarted investigation => agg.startInvestigation investigation
  | .candidateRegistered candidate executionReceipt => agg.registerCandidate d candidate executionReceipt
  | .capabilityReported queriedAtEpochMs report => agg.recordCapability d queriedAtEpochMs report
  | .enrollmentRequested requestedAtEpochMs request => agg.requestEnrollment d requestedAtEpochMs request
  | .enrollmentPrepared prepared => agg.prepareEnrollment prepared
  | .candidateDecided decision => agg.decideCandidate decision
  | .activationPrepared decision checkpoint baton => agg.prepareActivation d decision checkpoint baton
  | .bootstrapAdmissionAccepted admission => agg.acceptBootstrapAdmission d admission
  | .coreQuiesced facts => agg.recordQuiescence d facts
  | .focusedVerificationSubmitted activationId processGeneration evidence =>
    agg.recordFocusedVerification d activationId processGeneration evidence
  | .bootstrapResultReconciled reconciledAtEpochMs result => agg.reconcileBootstrapResult d reconciledAtEpochMs result
  | .regressionRecorded regression => agg.recordRegression regression

/-- One committed event: sequence and group are checked before it applies. -/
def advance (committed : CommittedRepairEventV1) : RepairFold RepairAggregateV1 := do
  refuseIf (committed.ledgerSequence != saturatingAdd u64Max agg.ledgerVersion 1) .nonContiguousSequence
  refuseIf (committed.groupId != agg.groupId) .groupMismatch
  let next ← agg.apply d committed.event
  return { next with ledgerVersion := committed.ledgerSequence }

def rehydrate (groupId : StableId) (events : List CommittedRepairEventV1) : RepairFold RepairAggregateV1 :=
  events.foldlM (advance d) (empty groupId)

end RepairAggregateV1
end Aworkit.Core.Repair
