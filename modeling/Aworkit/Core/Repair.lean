import Aworkit.Protocol.Bootstrap
import Aworkit.Worker.Plan

/-! Records of a repair and their validation (`repair/model`, `repair/validation`). A record is hashed without its own
hash field. -/
namespace Aworkit.Core.Repair
open Protocol Fallible FocusedVerificationCheckResultV1
open Worker (trimmed)

inductive RepairEvidenceDisclosureV1 where
  | evidence (summary : String) (artifacts : List RepairArtifactRefV1)
  | noneDeclared (explanation : String)
  | notPerformed (explanation : String)

structure DisclosureItemV1 where
  itemId : StableId
  (label detail : String)

/-- A list that tells "none" from an omission. -/
structure DisclosureItemsV1 where
  items : List DisclosureItemV1
  noneDeclared : Bool

inductive DataCompatibilityV1 where
  | rollbackCompatible
  | deferredUntilVerified (explanation : String)
  | forwardOnlyMigrationRequired (explanation : String)

structure RepairDisclosureV1 where
  (sourceDiff configurationDiff tests benchmarks : RepairEvidenceDisclosureV1)
  (consequences removedBehaviors disabledBehaviors broadenedBehaviors : DisclosureItemsV1)
  (replacedBehaviors uncertainties : DisclosureItemsV1)
  dataCompatibility : DataCompatibilityV1
  rollbackPoint : BuildBundleRefV1
  verificationPlan : FocusedVerificationPlanV1
  disclosureHash : String

structure RepairCandidateV1 where
  (candidateId groupId : StableId)
  candidateVersion : Nat
  summary : String
  buildBundle : BuildBundleRefV1
  provenance : BuildProvenanceV1
  builtUnderAuthorityManifestHash : String
  disclosure : RepairDisclosureV1
  candidateHash : String

structure ErrorOccurrenceV1 where
  occurrenceId : StableId
  (fingerprint summary : String)
  evidence : List RepairArtifactRefV1
  observedAtEpochMs : Nat

structure RepairInvestigationBudgetV1 where
  (maxAttempts maxToolCalls maxTokens deadlineMs : Nat)
  deriving DecidableEq

structure FrozenRepairAuthorityV1 where
  authorityManifestId : StableId
  authorityManifestHash : String
  capabilityIds : List StableId

structure RepairInvestigationV1 where
  (investigationId groupId managementChatId managementRunId : StableId)
  authority : FrozenRepairAuthorityV1
  budget : RepairInvestigationBudgetV1

structure RepairInvestigationUsageV1 where
  (attempts toolCalls tokens elapsedMs : Nat)

structure InvestigationExecutionReceiptV1 where
  schemaVersion : Nat
  (receiptId investigationId groupId managementChatId managementRunId candidateId : StableId)
  candidateVersion : Nat
  candidateHash : String
  authorityManifestId : StableId
  authorityManifestHash : String
  (frozenCapabilityIds executedCapabilityIds : List StableId)
  frozenBudget : RepairInvestigationBudgetV1
  observedUsage : RepairInvestigationUsageV1
  completedAtEpochMs : Nat
  receiptHash : String

structure InvestigationExecutionPeerProofV1 where
  sameUserAuthenticated : Bool
  (ownershipHash channelBindingHash : String)

structure AuthenticatedInvestigationExecutionReceiptV1 where
  receipt : InvestigationExecutionReceiptV1
  peer : InvestigationExecutionPeerProofV1

structure RepairRegressionV1 where
  (regressionId occurrenceId repairedCandidateId repairedReceiptId : StableId)

/-- SHA-256 of the canonical encoding of each record that is hashed. -/
structure RepairDigests where
  provenance : BuildProvenanceV1 → Sha256Digest
  plan : FocusedVerificationPlanV1 → Sha256Digest
  evidence : FocusedVerificationEvidenceV1 → Sha256Digest
  disclosure : RepairDisclosureV1 → Sha256Digest
  candidate : RepairCandidateV1 → Sha256Digest
  execution : InvestigationExecutionReceiptV1 → Sha256Digest
  report : PlatformCapabilityReportV1 → Sha256Digest
  baton : RepairActivationBatonV1 → Sha256Digest
  admission : BootstrapAcceptedAdmissionV1 → Sha256Digest
  quiescence : CoreQuiescenceFactsV1 → Sha256Digest
  result : BootstrapResultV1 → Sha256Digest

/-- `canonical_hash`; a process generation beyond the exact wire range has no encoding. -/
def canonicalHash (generations : List Nat) (digest : Sha256Digest) : Option String :=
  if generations.all (· ≤ maxSafeWireInteger) then some ("sha256:" ++ digest.text) else none

/-- Resolves the one ledger group of a fingerprint. -/
def repairGroupIdForFingerprintV1 (fingerprint : String) : Option StableId :=
  if isCanonicalSha256 fingerprint then StableId.parse
    ("repair.group." ++ String.ofList (fingerprint.toList.drop 7)) else none

namespace RepairDigests
variable (d : RepairDigests)

def buildProvenanceHashV1 (provenance : BuildProvenanceV1) : Option String :=
  canonicalHash [] (d.provenance { provenance with provenanceHash := "" })

def focusedVerificationPlanHashV1 (plan : FocusedVerificationPlanV1) : Option String :=
  canonicalHash [] (d.plan { plan with planHash := "" })

def focusedVerificationEvidenceHashV1 (evidence : FocusedVerificationEvidenceV1) : Option String :=
  canonicalHash [] (d.evidence { evidence with evidenceHash := "" })

def repairDisclosureHashV1 (disclosure : RepairDisclosureV1) : Option String :=
  canonicalHash [] (d.disclosure { disclosure with disclosureHash := "" })

def repairCandidateHashV1 (candidate : RepairCandidateV1) : Option String :=
  canonicalHash [] (d.candidate { candidate with candidateHash := "" })

def investigationExecutionReceiptHashV1 (receipt : InvestigationExecutionReceiptV1) : Option String :=
  canonicalHash [] (d.execution { receipt with receiptHash := "" })

def capabilityReportDigestV1 (report : PlatformCapabilityReportV1) : Option String :=
  canonicalHash [] (d.report { report with capabilityDigest := "" })

def repairActivationBatonHashV1 (baton : RepairActivationBatonV1) : Option String :=
  canonicalHash [baton.currentProcessGeneration, baton.candidateProcessGeneration, baton.rollbackProcessGeneration]
    (d.baton { baton with batonHash := "" })

def bootstrapAdmissionHashV1 (admission : BootstrapAcceptedAdmissionV1) : Option String :=
  canonicalHash [admission.candidateProcessGeneration, admission.rollbackProcessGeneration]
    (d.admission { admission with admissionHash := "" })

def coreQuiescenceFactsHashV1 (facts : CoreQuiescenceFactsV1) : Option String :=
  canonicalHash [facts.processGeneration] (d.quiescence { facts with factsHash := "" })

def bootstrapResultHashV1 (result : BootstrapResultV1) : Option String :=
  canonicalHash [result.recipientProcessGeneration] (d.result { result with receiptHash := "" })

end RepairDigests

def maxSummaryBytes : Nat := 8 * 1024
def maxShortTextBytes : Nat := 512
def maxDisclosureItems : Nat := 128
def maxEvidenceArtifacts : Nat := 256
def maxVerificationChecks : Nat := 64
def maxPhaseDeadlineMs : Nat := 60 * 60 * 1000
def maxRepairInvestigationTokensV1 : Nat := 1000000
def maxCapabilityReportValidityMs : Nat := 15 * 60 * 1000
def maxTotalActivationMs : Nat := 4 * 60 * 60 * 1000

/-- The validators answer with a fixed text when they refuse. -/
abbrev Validation := Except String Unit

def validText (value : String) (maxBytes : Nat) : Bool :=
  !value.isEmpty && decide (value.utf8ByteSize ≤ maxBytes) && trimmed value &&
    !value.toList.any fun c => c == '\x00' || (controlChar c && c != '\n' && c != '\t')

/-- The components between slashes of either kind. -/
def pathComponents : List Char → List (List Char)
  | [] => [[]]
  | c :: rest =>
    if c == '/' || c == '\\' then [] :: pathComponents rest
    else match pathComponents rest with
      | [] => [[c]]
      | first :: others => (c :: first) :: others

def validRelativeEntry (value : String) : Bool :=
  validText value 1024 && value.toList.head? != some '/' && value.toList.head? != some '\\' &&
    !value.toList.contains ':' &&
    (pathComponents value.toList).all fun component => !component.isEmpty && component != ['.'] &&
      component != ['.', '.']

def containsDuplicateIds : List StableId → Bool
  | [] => false
  | id :: rest => rest.contains id || containsDuplicateIds rest

def isLegacyAuthorityHash (value : String) : Bool := value.utf8ByteSize == 64 && value.toList.all lowerHexChar

/-- `windows(2).all(|pair| pair[0] < pair[1])`. -/
def canonicalOrder : List StableId → Bool
  | first :: second :: rest => compare first.val second.val == .lt && canonicalOrder (second :: rest)
  | _ => true

def validateArtifact (value : RepairArtifactRefV1) : Validation :=
  refuseIf (!isCanonicalSha256 value.contentHash || value.byteSize == 0 || !validText value.mediaType 128 ||
    !validText value.logicalName maxShortTextBytes) "invalid repair evidence artifact"

def validateBuildBundle (value : BuildBundleRefV1) : Validation :=
  refuseIf (!(validateArtifact value.artifact).isOk || !validRelativeEntry value.manifestRelativeEntry)
    "invalid whole-build bundle reference"

def validateOccurrence (value : ErrorOccurrenceV1) : Validation :=
  refuseIf (!isCanonicalSha256 value.fingerprint || !validText value.summary maxSummaryBytes ||
    value.observedAtEpochMs == 0 || decide (maxEvidenceArtifacts < value.evidence.length) ||
    value.evidence.any fun artifact => !(validateArtifact artifact).isOk) "invalid recurring-error occurrence"

def validateInvestigation (value : RepairInvestigationV1) : Validation :=
  let budget := value.budget
  refuseIf (budget.maxAttempts == 0 || decide (10000 < budget.maxAttempts) || budget.maxToolCalls == 0 ||
    decide (100000 < budget.maxToolCalls) || budget.maxTokens == 0 ||
    decide (maxRepairInvestigationTokensV1 < budget.maxTokens) || budget.deadlineMs == 0 ||
    decide (maxPhaseDeadlineMs < budget.deadlineMs) || value.authority.capabilityIds.isEmpty ||
    decide (256 < value.authority.capabilityIds.length) ||
      !isLegacyAuthorityHash value.authority.authorityManifestHash ||
    containsDuplicateIds value.authority.capabilityIds) "invalid bounded investigation"

def validateEvidenceDisclosure (evidenceRequired : Bool) : RepairEvidenceDisclosureV1 → Validation
  | .evidence summary artifacts =>
    refuseIf (!(validText summary maxSummaryBytes && !artifacts.isEmpty &&
      decide (artifacts.length ≤ maxEvidenceArtifacts) &&
        artifacts.all fun artifact => (validateArtifact artifact).isOk))
      "required evidence disclosure is incomplete"
  | .noneDeclared explanation | .notPerformed explanation =>
    refuseIf (!(!evidenceRequired && validText explanation maxSummaryBytes)) "required evidence disclosure is incomplete"

def validateDisclosureItems (value : DisclosureItemsV1) : Validation :=
  refuseIf (decide (maxDisclosureItems < value.items.length) || value.noneDeclared == !value.items.isEmpty ||
    containsDuplicateIds (value.items.map DisclosureItemV1.itemId) ||
    value.items.any fun item => !validText item.label maxShortTextBytes || !validText item.detail maxSummaryBytes)
    "disclosure list must contain unique detailed items or explicitly declare none"

def validPlatformReason (value : PlatformReasonV1) : Bool :=
  validText value.code 128 && validText value.message maxSummaryBytes && !value.nextSteps.isEmpty &&
    decide (value.nextSteps.length ≤ 32) && value.nextSteps.all fun step => validText step maxSummaryBytes

def validBuildOrigin : BuildOriginV1 → Bool
  | .managedLocal enrollmentDigest activeSlotHash => isCanonicalSha256 enrollmentDigest &&
    isCanonicalSha256 activeSlotHash
  | .sourceCheckout projectedProvenanceHash => isCanonicalSha256 projectedProvenanceHash
  | .packagedDistribution owner => validText owner maxSummaryBytes
  | .unknown => true
  | .conflicting detail | .mismatched detail => validText detail maxSummaryBytes

/-- The eligibility that belongs to an origin. -/
def originMatchesEligibility : BuildOriginV1 → ActivationEligibilityV1 → Bool
  | .managedLocal .., .supportedManagedLocal => true
  | .sourceCheckout _, .enrollmentRequired => true
  | .packagedDistribution _, .packagedDistribution => true
  | .unknown, .unknownOrigin => true
  | .conflicting _, .conflictingOrigin => true
  | .mismatched _, .mismatchedEnrollment => true
  | _, _ => false

def validateEnrollmentRequest (value : ManagedLocalEnrollmentRequestV1) : Validation :=
  refuseIf (value.candidateVersion == 0 || !isCanonicalSha256 value.candidateHash ||
    !isCanonicalSha256 value.projectedProvenanceHash || !isCanonicalSha256 value.capabilityDigest ||
    !(validateBuildBundle value.wholeBundle).isOk) "invalid managed-local enrollment request"

def validateEnrollmentPrepared (value : EnrollmentPreparedV1) : Validation :=
  refuseIf (!isCanonicalSha256 value.enrollmentDigest || !validText value.stableLauncher maxSummaryBytes ||
    value.restartInstructions.isEmpty || decide (32 < value.restartInstructions.length) ||
    value.restartInstructions.any fun step => !validText step maxSummaryBytes) "invalid enrollment preparation response"

def validateCheckpoint (value : ManagementCheckpointRefV1) : Validation :=
  refuseIf (value.committedSequence == 0 || !isCanonicalSha256 value.snapshotHash ||
    !isCanonicalSha256 value.checkpointHash) "invalid Management checkpoint"

def validateCandidateDecision (value : RepairCandidateDecisionV1) : Validation :=
  refuseIf (value.candidateVersion == 0 || !validText value.reason maxSummaryBytes) "invalid candidate decision"

variable (value : BootstrapDeadlinesV1)

def deadlineValues : List Nat :=
  [value.admissionMs, value.cleanupMs, value.startupMs, value.focusedVerificationMs, value.rollbackMs,
    value.resultReadMs]

/-- Rust's `checked_add` on 64-bit values. -/
def checkedSum (a b : Nat) : Option Nat := if a + b ≤ u64Max then some (a + b) else none

def totalDeadlineMs : Option Nat :=
  (deadlineValues value).foldlM checkedSum 0

def validateBootstrapDeadlines : Validation :=
  refuseIf ((deadlineValues value).any (fun ms => ms == 0 || decide (maxPhaseDeadlineMs < ms)) ||
    (totalDeadlineMs value).all fun total => decide (maxTotalActivationMs < total)) "invalid bootstrap deadlines"

namespace RepairDigests
variable (d : RepairDigests)

def validateProvenance (value : BuildProvenanceV1) : Validation := do
  refuseIf (!validText value.sourceRevision maxShortTextBytes || !isCanonicalSha256 value.sourceTreeHash ||
    !isCanonicalSha256 value.workspaceIdentityHash || !isCanonicalSha256 value.toolchainHash ||
    !isCanonicalSha256 value.buildManifestHash) "invalid build provenance"
  let hash ← require (d.buildProvenanceHashV1 value) "invalid provenance hash"
  refuseIf (hash != value.provenanceHash) "invalid build provenance"

def validateFocusedVerificationPlan (value : FocusedVerificationPlanV1) : Validation := do
  refuseIf (value.checks.isEmpty || decide (maxVerificationChecks < value.checks.length) ||
    containsDuplicateIds (value.checks.map FocusedVerificationCheckV1.checkId) || value.checks.any fun check =>
      !validText check.label maxShortTextBytes || check.timeoutMs == 0 || decide (maxPhaseDeadlineMs < check.timeoutMs))
    "invalid focused-verification plan"
  let hash ← require (d.focusedVerificationPlanHashV1 value) "invalid verification plan hash"
  refuseIf (hash != value.planHash) "invalid focused-verification plan"

def validateDisclosure (value : RepairDisclosureV1) : Validation := do
  let undisclosed := match value.dataCompatibility with
    | .deferredUntilVerified explanation | .forwardOnlyMigrationRequired explanation =>
      !validText explanation maxSummaryBytes
    | .rollbackCompatible => false
  refuseIf (!(validateEvidenceDisclosure true value.sourceDiff).isOk ||
    !(validateEvidenceDisclosure false value.configurationDiff).isOk ||
    !(validateEvidenceDisclosure true value.tests).isOk || !(validateEvidenceDisclosure false value.benchmarks).isOk ||
    !(validateDisclosureItems value.consequences).isOk || !(validateDisclosureItems value.removedBehaviors).isOk ||
    !(validateDisclosureItems value.disabledBehaviors).isOk ||
      !(validateDisclosureItems value.broadenedBehaviors).isOk ||
    !(validateDisclosureItems value.replacedBehaviors).isOk || !(validateDisclosureItems value.uncertainties).isOk ||
    undisclosed || !(validateBuildBundle value.rollbackPoint).isOk ||
    !(d.validateFocusedVerificationPlan value.verificationPlan).isOk) "incomplete candidate disclosure"
  let hash ← require (d.repairDisclosureHashV1 value) "invalid disclosure hash"
  refuseIf (hash != value.disclosureHash) "incomplete candidate disclosure"

def validateCandidate (value : RepairCandidateV1) : Validation := do
  refuseIf (value.candidateVersion == 0 || !validText value.summary maxSummaryBytes ||
    !(validateBuildBundle value.buildBundle).isOk || !(d.validateProvenance value.provenance).isOk ||
    !isLegacyAuthorityHash value.builtUnderAuthorityManifestHash || !(d.validateDisclosure value.disclosure).isOk)
    "invalid or incomplete repair candidate"
  let hash ← require (d.repairCandidateHashV1 value) "invalid candidate hash"
  refuseIf (hash != value.candidateHash) "invalid or incomplete repair candidate"

def validateAuthenticatedInvestigationExecution (value : AuthenticatedInvestigationExecutionReceiptV1)
    (investigation : RepairInvestigationV1) (candidate : RepairCandidateV1) : Validation := do
  let receipt := value.receipt
  let usage := receipt.observedUsage
  let invalid := "invalid authenticated investigation execution receipt"
  refuseIf (receipt.schemaVersion != repairSchemaVersionV1 || receipt.candidateVersion == 0 ||
    receipt.completedAtEpochMs == 0 || !isCanonicalSha256 receipt.candidateHash ||
    !isLegacyAuthorityHash receipt.authorityManifestHash || receipt.frozenCapabilityIds.isEmpty ||
    receipt.executedCapabilityIds.isEmpty || usage.attempts == 0 ||
      decide (receipt.frozenBudget.maxAttempts < usage.attempts) ||
    decide (usage.toolCalls < receipt.executedCapabilityIds.length % 2 ^ 32) ||
    decide (receipt.frozenBudget.maxToolCalls < usage.toolCalls) ||
      decide (receipt.frozenBudget.maxTokens < usage.tokens) ||
    usage.elapsedMs == 0 || decide (receipt.frozenBudget.deadlineMs < usage.elapsedMs) ||
    containsDuplicateIds receipt.frozenCapabilityIds || containsDuplicateIds receipt.executedCapabilityIds ||
    !canonicalOrder receipt.frozenCapabilityIds || !canonicalOrder receipt.executedCapabilityIds) invalid
  let hash ← require (d.investigationExecutionReceiptHashV1 receipt) "invalid investigation execution receipt hash"
  refuseIf (hash != receipt.receiptHash || !value.peer.sameUserAuthenticated ||
    !isCanonicalSha256 value.peer.ownershipHash ||
    !isCanonicalSha256 value.peer.channelBindingHash) invalid
  refuseIf (receipt.investigationId != investigation.investigationId || receipt.groupId != investigation.groupId ||
    receipt.managementChatId != investigation.managementChatId ||
      receipt.managementRunId != investigation.managementRunId ||
    receipt.candidateId != candidate.candidateId || receipt.candidateVersion != candidate.candidateVersion ||
    receipt.candidateHash != candidate.candidateHash ||
    receipt.authorityManifestId != investigation.authority.authorityManifestId ||
    receipt.authorityManifestHash != investigation.authority.authorityManifestHash ||
    receipt.frozenCapabilityIds != investigation.authority.capabilityIds ||
    receipt.executedCapabilityIds != investigation.authority.capabilityIds ||
    receipt.frozenBudget != investigation.budget ||
    candidate.disclosure.verificationPlan.checks.any fun check => !receipt.executedCapabilityIds.contains check.capabilityId)
    "investigation execution receipt does not exactly bind candidate authority"

def validateCapabilityReportShape (value : PlatformCapabilityReportV1) : Validation := do
  let validWindow := decide (0 < value.validFromEpochMs) && decide (value.validFromEpochMs < value.expiresAtEpochMs) &&
    decide (value.expiresAtEpochMs - value.validFromEpochMs ≤ maxCapabilityReportValidityMs)
  let originMatches := originMatchesEligibility value.buildOrigin value.eligibility || value.eligibility == .unsupported
  let previousValid := value.previousWorkingBuild.all fun build => (validateBuildBundle build).isOk
  refuseIf (value.schemaVersion != repairSchemaVersionV1 || value.candidateVersion == 0 ||
    value.capabilityGeneration == 0 || !isCanonicalSha256 value.candidateHash || !validPlatformReason value.reason ||
    !validBuildOrigin value.buildOrigin || !(validateBuildBundle value.currentBuild).isOk || !previousValid ||
    (value.eligibility == .supportedManagedLocal && value.previousWorkingBuild.isNone) || !validWindow ||
      !originMatches)
    "invalid activation capability report"
  let hash ← require (d.capabilityReportDigestV1 value) "invalid capability report digest"
  refuseIf (hash != value.capabilityDigest) "invalid activation capability report"

def validateCapabilityReportFresh (value : PlatformCapabilityReportV1) (nowEpochMs : Nat) : Validation := do
  d.validateCapabilityReportShape value
  refuseIf (decide (nowEpochMs < value.validFromEpochMs) || decide (value.expiresAtEpochMs < nowEpochMs))
    "activation capability report is stale"

def validateRepairActivationBaton (value : RepairActivationBatonV1) : Validation := do
  refuseIf (value.schemaVersion != repairSchemaVersionV1 || value.candidateVersion == 0 ||
    !isCanonicalSha256 value.candidateHash || !(validateBuildBundle value.candidateBundle).isOk ||
    !isCanonicalSha256 value.disclosureHash || !isCanonicalSha256 value.provenanceHash ||
    !isCanonicalSha256 value.enrollmentDigest || value.capabilityGeneration == 0 ||
    !isCanonicalSha256 value.capabilityDigest || !(validateBuildBundle value.previousWorkingBuild).isOk ||
    !(validateCheckpoint value.managementCheckpoint).isOk ||
    !(d.validateFocusedVerificationPlan value.verificationPlan).isOk || value.currentProcessGeneration == 0 ||
    checkedSum value.currentProcessGeneration 1 != some value.candidateProcessGeneration ||
    checkedSum value.currentProcessGeneration 2 != some value.rollbackProcessGeneration ||
    !(validateBootstrapDeadlines value.deadlines).isOk || value.expiresAtEpochMs == 0) "invalid repair activation baton"
  let hash ← require (d.repairActivationBatonHashV1 value) "invalid baton hash"
  refuseIf (hash != value.batonHash) "invalid repair activation baton"

def validateAdmission (value : BootstrapAcceptedAdmissionV1) : Validation := do
  refuseIf (!isCanonicalSha256 value.batonHash || value.candidateProcessGeneration == 0 ||
    value.rollbackProcessGeneration == 0 || value.candidateProcessGeneration == value.rollbackProcessGeneration)
    "invalid bootstrap admission"
  let hash ← require (d.bootstrapAdmissionHashV1 value) "invalid admission hash"
  refuseIf (hash != value.admissionHash) "invalid bootstrap admission"

def validateQuiescenceFacts (value : CoreQuiescenceFactsV1) : Validation := do
  refuseIf (value.processGeneration == 0) "invalid current-generation quiescence facts"
  let hash ← require (d.coreQuiescenceFactsHashV1 value) "invalid quiescence facts hash"
  refuseIf (hash != value.factsHash) "invalid current-generation quiescence facts"

def validateFocusedVerificationEvidence (value : FocusedVerificationEvidenceV1) : Validation := do
  refuseIf (!isCanonicalSha256 value.planHash || value.results.isEmpty ||
    decide (maxVerificationChecks < value.results.length) ||
    containsDuplicateIds (value.results.map checkId) || value.results.any fun result =>
      !validText result.summary maxSummaryBytes || result.evidence.isEmpty ||
        decide (maxEvidenceArtifacts < result.evidence.length) ||
        result.evidence.any fun artifact => !(validateArtifact artifact).isOk) "invalid focused-verification evidence"
  let hash ← require (d.focusedVerificationEvidenceHashV1 value) "invalid verification evidence hash"
  refuseIf (hash != value.evidenceHash) "invalid focused-verification evidence"

def validateFocusedEvidenceAgainstPlan (evidence : FocusedVerificationEvidenceV1) (plan : FocusedVerificationPlanV1) :
    Validation := do
  d.validateFocusedVerificationEvidence evidence
  refuseIf (evidence.planId != plan.planId || evidence.planHash != plan.planHash ||
    evidence.results.length != plan.checks.length ||
    plan.checks.any fun check => !evidence.results.any fun result => result.checkId == check.checkId)
    "verification evidence does not exactly cover the sealed plan"

def validateBootstrapResult (value : BootstrapResultV1) : Validation := do
  let kindValid := match value.result with
    | .unsupported reason => validPlatformReason reason
    | .activatedVerified focusedVerification => (d.validateFocusedVerificationEvidence focusedVerification).isOk
    | .rolledBack reason rollbackEvidence =>
      validText reason maxSummaryBytes && !rollbackEvidence.isEmpty &&
        decide (rollbackEvidence.length ≤ maxEvidenceArtifacts) &&
        rollbackEvidence.all fun artifact => (validateArtifact artifact).isOk
    | .manualRecoveryRequired _ observedSlotState instructions =>
      validText observedSlotState maxSummaryBytes && !instructions.isEmpty && decide (instructions.length ≤ 32) &&
        instructions.all fun step => validText step maxSummaryBytes
  refuseIf (value.schemaVersion != repairSchemaVersionV1 || !isCanonicalSha256 value.batonHash ||
    value.recipientProcessGeneration == 0 || value.sealedAtEpochMs == 0 ||
      !kindValid) "invalid bootstrap result receipt"
  let hash ← require (d.bootstrapResultHashV1 value) "invalid receipt hash"
  refuseIf (hash != value.receiptHash) "invalid bootstrap result receipt"

def validateAuthenticatedResult (value : AuthenticatedBootstrapResultV1) (baton : RepairActivationBatonV1)
    (admission : Option BootstrapAcceptedAdmissionV1) : Validation := do
  d.validateBootstrapResult value.receipt
  refuseIf (!value.peer.sameUserAuthenticated ||
    value.peer.recipientProcessGeneration != value.receipt.recipientProcessGeneration ||
    !isCanonicalSha256 value.peer.ownershipHash || !isCanonicalSha256 value.peer.channelBindingHash ||
    value.receipt.activationId != baton.activationId || value.receipt.batonHash != baton.batonHash ||
    value.receipt.managementCheckpointId != baton.managementCheckpoint.checkpointId ||
    decide (baton.expiresAtEpochMs < value.receipt.sealedAtEpochMs))
    "bootstrap result authentication or baton binding failed"
  let unexpected := "bootstrap result status or recipient generation is unexpected"
  match value.receipt.result, admission with
  | .unsupported _, none =>
    refuseIf (value.receipt.recipientProcessGeneration != baton.currentProcessGeneration) unexpected
  | .activatedVerified focusedVerification, some admission => do
    refuseIf (value.receipt.recipientProcessGeneration != admission.candidateProcessGeneration) unexpected
    d.validateFocusedEvidenceAgainstPlan focusedVerification baton.verificationPlan
    refuseIf (!focusedVerification.results.all passed)
      "ActivatedVerified receipt contains a failed focused check"
  | .rolledBack .., some admission | .manualRecoveryRequired .., some admission =>
    refuseIf (value.receipt.recipientProcessGeneration != admission.rollbackProcessGeneration) unexpected
  | _, _ => .error unexpected

end RepairDigests

def validateResultFresh (value : AuthenticatedBootstrapResultV1) (baton : RepairActivationBatonV1) (nowEpochMs : Nat) :
    Validation :=
  refuseIf (decide (nowEpochMs < value.receipt.sealedAtEpochMs) || decide (baton.expiresAtEpochMs < nowEpochMs))
    "bootstrap result is stale or from the future"

end Aworkit.Core.Repair
