import Aworkit.Protocol.Runtime

/-! The contracts between core and bootstrap helper (`bootstrap.rs`): builds, plans, capability reports, batons and
receipts. -/
namespace Aworkit.Protocol

def repairSchemaVersionV1 : Nat := 1

structure RepairArtifactRefV1 where
  artifactId : StableId
  contentHash : String
  byteSize : Nat
  (mediaType logicalName : String)
  deriving DecidableEq

structure BuildBundleRefV1 where
  artifact : RepairArtifactRefV1
  manifestRelativeEntry : String
  deriving DecidableEq

structure FocusedVerificationCheckV1 where
  checkId : StableId
  label : String
  capabilityId : StableId
  timeoutMs : Nat
  deriving DecidableEq

structure FocusedVerificationPlanV1 where
  planId : StableId
  checks : List FocusedVerificationCheckV1
  planHash : String
  deriving DecidableEq

structure FocusedVerificationCheckResultV1 where
  checkId : StableId
  passed : Bool
  summary : String
  evidence : List RepairArtifactRefV1
  deriving DecidableEq

structure FocusedVerificationEvidenceV1 where
  planId : StableId
  planHash : String
  results : List FocusedVerificationCheckResultV1
  evidenceHash : String
  deriving DecidableEq

structure BuildProvenanceV1 where
  (sourceRevision sourceTreeHash workspaceIdentityHash toolchainHash buildManifestHash : String)
  provenanceHash : String
  deriving DecidableEq

inductive BuildOriginV1 where
  | managedLocal (enrollmentDigest activeSlotHash : String)
  | sourceCheckout (projectedProvenanceHash : String)
  | packagedDistribution (owner : String)
  | unknown
  | conflicting (detail : String)
  | mismatched (detail : String)
  deriving DecidableEq

inductive ActivationEligibilityV1 where
  | supportedManagedLocal
  | enrollmentRequired
  | packagedDistribution
  | unknownOrigin
  | conflictingOrigin
  | mismatchedEnrollment
  | unsupported
  deriving DecidableEq

structure PlatformReasonV1 where
  (code message : String)
  nextSteps : List String
  deriving DecidableEq

structure PlatformCapabilityReportV1 where
  schemaVersion : Nat
  (reportId candidateId : StableId)
  candidateVersion : Nat
  candidateHash : String
  capabilityGeneration : Nat
  buildOrigin : BuildOriginV1
  eligibility : ActivationEligibilityV1
  reason : PlatformReasonV1
  currentBuild : BuildBundleRefV1
  previousWorkingBuild : Option BuildBundleRefV1
  (validFromEpochMs expiresAtEpochMs : Nat)
  capabilityDigest : String
  deriving DecidableEq

structure ManagedLocalEnrollmentRequestV1 where
  (requestId groupId candidateId : StableId)
  candidateVersion : Nat
  (candidateHash projectedProvenanceHash : String)
  wholeBundle : BuildBundleRefV1
  capabilityReportId : StableId
  capabilityDigest : String

structure EnrollmentPreparedV1 where
  requestId : StableId
  (enrollmentDigest stableLauncher : String)
  restartInstructions : List String

structure ManagementCheckpointRefV1 where
  (checkpointId chatId runId : StableId)
  committedSequence : Nat
  (snapshotHash checkpointHash : String)
  deriving DecidableEq

structure RepairCandidateDecisionV1 where
  candidateId : StableId
  candidateVersion : Nat
  reason : String

structure BootstrapDeadlinesV1 where
  (admissionMs cleanupMs startupMs focusedVerificationMs rollbackMs resultReadMs : Nat)
  deriving DecidableEq

structure RepairActivationDecisionV1 where
  (activationId candidateId : StableId)
  expectedCandidateVersion : Nat
  expectedCandidateHash : String
  expectedCapabilityReportId : StableId
  expectedCapabilityDigest : String
  decidedAtEpochMs : Nat

structure RepairActivationBatonV1 where
  schemaVersion : Nat
  (batonId activationId groupId candidateId : StableId)
  candidateVersion : Nat
  candidateHash : String
  candidateBundle : BuildBundleRefV1
  (disclosureHash provenanceHash enrollmentDigest : String)
  capabilityReportId : StableId
  capabilityGeneration : Nat
  capabilityDigest : String
  previousWorkingBuild : BuildBundleRefV1
  managementCheckpoint : ManagementCheckpointRefV1
  verificationPlan : FocusedVerificationPlanV1
  (currentProcessGeneration candidateProcessGeneration rollbackProcessGeneration : Nat)
  deadlines : BootstrapDeadlinesV1
  expiresAtEpochMs : Nat
  batonHash : String

structure BootstrapAcceptedAdmissionV1 where
  (admissionId activationId : StableId)
  batonHash : String
  (candidateProcessGeneration rollbackProcessGeneration : Nat)
  admissionHash : String

structure CoreQuiescenceFactsV1 where
  (quiescenceId activationId : StableId)
  (processGeneration workerTreesStopped hostTreesStopped sidecarTreesStopped : Nat)
  (timedOut orphanRisk : Bool)
  factsHash : String

inductive BootstrapResultKindV1 where
  | unsupported (reason : PlatformReasonV1)
  | activatedVerified (focusedVerification : FocusedVerificationEvidenceV1)
  | rolledBack (reason : String) (rollbackEvidence : List RepairArtifactRefV1)
  | manualRecoveryRequired (diagnosticId : StableId) (observedSlotState : String) (instructions : List String)
  deriving DecidableEq

structure BootstrapResultV1 where
  schemaVersion : Nat
  (receiptId activationId : StableId)
  batonHash : String
  managementCheckpointId : StableId
  (recipientProcessGeneration sealedAtEpochMs : Nat)
  result : BootstrapResultKindV1
  receiptHash : String
  deriving DecidableEq

structure BootstrapPeerProofV1 where
  sameUserAuthenticated : Bool
  recipientProcessGeneration : Nat
  (ownershipHash channelBindingHash : String)
  deriving DecidableEq

structure AuthenticatedBootstrapResultV1 where
  receipt : BootstrapResultV1
  peer : BootstrapPeerProofV1
  deriving DecidableEq

/-- A formatted digest has the canonical shape. -/
theorem Sha256Digest.isCanonicalSha256_text (digest : Sha256Digest) :
    isCanonicalSha256 ("sha256:" ++ digest.text) = true := by
  have hhex := digest.hex
  have hsize : digest.text.utf8ByteSize = 64 := by
    have hsha := digest.isSha256_text
    simp only [isSha256, Bool.and_eq_true, decide_eq_true_eq] at hsha
    exact hsha.1
  rw [isCanonicalSha256, String.utf8ByteSize_append, hsize, String.toList_append]
  simp only [Bool.and_eq_true]
  refine ⟨⟨by decide, ?_⟩, ?_⟩
  · simp
  · rw [List.drop_left' (by decide)]
    exact hhex

end Aworkit.Protocol
