import Aworkit.Core.RepairAggregate
import Aworkit.Logic.Justified

/-! What an accepted repair log records before an activation and its verified result. -/
namespace Aworkit.Core.Repair
open Protocol Fallible Repair CommittedRepairEventV1 RepairDigests FocusedVerificationCheckResultV1 List Except
  Option

variable {result : AuthenticatedBootstrapResultV1} {evidence : FocusedVerificationEvidenceV1}
  {baton : RepairActivationBatonV1} {candidate : RepairCandidateV1}

/-- The candidates a log registers, in order. -/
def registered (log : List RepairEventV1) : List RepairCandidateV1 :=
  log.filterMap fun
    | .candidateRegistered candidate _ => some candidate
    | _ => none

/-- The candidate with exactly this id, version and hash. -/
structure Identifies (candidateId : StableId) (version : Nat) (hash : String) (candidate : RepairCandidateV1) :
    Prop where
  id : candidate.candidateId = candidateId
  version : candidate.candidateVersion = version
  hash : candidate.candidateHash = hash

def DecisionNames (decision : RepairActivationDecisionV1) : RepairCandidateV1 → Prop :=
  Identifies decision.candidateId decision.expectedCandidateVersion decision.expectedCandidateHash

def ReportNames (report : PlatformCapabilityReportV1) : RepairCandidateV1 → Prop :=
  Identifies report.candidateId report.candidateVersion report.candidateHash

/-- The baton carries the candidate's identity, build, disclosure and plan. -/
structure BatonNames (baton : RepairActivationBatonV1) (candidate : RepairCandidateV1) : Prop where
  identity : Identifies baton.candidateId baton.candidateVersion baton.candidateHash candidate
  bundle : baton.candidateBundle = candidate.buildBundle
  disclosure : baton.disclosureHash = candidate.disclosure.disclosureHash
  provenance : baton.provenanceHash = candidate.provenance.provenanceHash
  plan : baton.verificationPlan = candidate.disclosure.verificationPlan

/-- The report the baton refers to supports the activation. -/
structure BatonReports (baton : RepairActivationBatonV1) (report : PlatformCapabilityReportV1) : Prop where
  id : baton.capabilityReportId = report.reportId
  generation : baton.capabilityGeneration = report.capabilityGeneration
  digest : baton.capabilityDigest = report.capabilityDigest
  supported : report.eligibility = .supportedManagedLocal

/-- What stands in a log before an activation: the registration of the named candidate, and the capability report,
bound to it if it is the last one registered. -/
structure Prepared (before : List RepairEventV1) (decision : RepairActivationDecisionV1)
    (baton : RepairActivationBatonV1) : Prop where
  candidate : ∃ candidate ∈ registered before, DecisionNames decision candidate ∧ BatonNames baton candidate
  report : ∃ queriedAt report, .capabilityReported queriedAt report ∈ before ∧ BatonReports baton report ∧
    ∀ candidate, (registered before).getLast? = some candidate → DecisionNames decision candidate →
      ReportNames report candidate

/-- The evidence is for the plan, with as many results as checks and a passed one for each. -/
structure Covers (evidence : FocusedVerificationEvidenceV1) (plan : FocusedVerificationPlanV1) : Prop where
  sealed : evidence.planId = plan.planId ∧ evidence.planHash = plan.planHash
  size : evidence.results.length = plan.checks.length
  checks : ∀ check ∈ plan.checks, ∃ result ∈ evidence.results, result.checkId = check.checkId ∧ result.passed = true

/-- The records of a handover under a baton: the admission, the quiescence and the verification. -/
structure HandedOver (baton : RepairActivationBatonV1) (admission : BootstrapAcceptedAdmissionV1)
    (facts : CoreQuiescenceFactsV1) : Prop where
  admission : admission.activationId = baton.activationId ∧ admission.batonHash = baton.batonHash
  quiescence : facts.activationId = baton.activationId ∧ facts.processGeneration = baton.currentProcessGeneration
  safe : facts.timedOut = false ∧ facts.orphanRisk = false

/-- The records between an activation's preparation and its verified result. -/
def handoverRecords (baton : RepairActivationBatonV1) (admission : BootstrapAcceptedAdmissionV1)
    (facts : CoreQuiescenceFactsV1) (evidence : FocusedVerificationEvidenceV1) : List RepairEventV1 :=
  [.bootstrapAdmissionAccepted admission, .coreQuiesced facts,
    .focusedVerificationSubmitted baton.activationId baton.candidateProcessGeneration evidence]

/-- The log hands over under the baton, with evidence that covers its plan. -/
def VerifiedUnder (baton : RepairActivationBatonV1) (after : List RepairEventV1)
    (result : AuthenticatedBootstrapResultV1) (evidence : FocusedVerificationEvidenceV1) : Prop :=
  result.receipt.activationId = baton.activationId ∧ result.receipt.batonHash = baton.batonHash ∧
    Covers evidence baton.verificationPlan ∧ ∃ admission facts, HandedOver baton admission facts ∧
      (handoverRecords baton admission facts evidence).Sublist after

/-- What each event of an accepted log rests on. -/
def Backed (before : List RepairEventV1) : RepairEventV1 → Prop
  | .activationPrepared decision _ baton => Prepared before decision baton
  | .bootstrapResultReconciled _ result =>
    ∀ evidence, result.receipt.result = .activatedVerified evidence →
      ∃ earlier decision checkpoint baton since,
        before = earlier ++ .activationPrepared decision checkpoint baton :: since ∧
          VerifiedUnder baton since result evidence
  | _ => True

namespace RepairAggregateV1
variable {d : RepairDigests} {agg agg' : RepairAggregateV1} {log : List RepairEventV1}

/-- What an event can do to the records an activation rests on. -/
inductive Advances (agg agg' : RepairAggregateV1) : RepairEventV1 → Prop
  | aside {event : RepairEventV1} (hcandidates : agg'.candidates = agg.candidates)
      (hreport : agg'.latestCapabilityReport = agg.latestCapabilityReport)
      (hbaton : agg'.activationBaton = agg.activationBaton)
      (hadmission : agg'.bootstrapAdmission = agg.bootstrapAdmission)
      (hquiescence : agg'.quiescence = agg.quiescence)
      (hverification : agg'.focusedVerification = agg.focusedVerification)
      (hresult : agg'.bootstrapResult = agg.bootstrapResult) (hquiet : registered [event] = [])
      (hbacked : ∀ before, Backed before event) : Advances agg agg' event
  | restarted (investigation : RepairInvestigationV1) (hcandidates : agg'.candidates = agg.candidates)
      (hreport : agg'.latestCapabilityReport = none) (hbaton : agg'.activationBaton = none)
      (hresult : agg'.bootstrapResult = none) : Advances agg agg' (.investigationStarted investigation)
  | registered (candidate : RepairCandidateV1) (receipt : AuthenticatedInvestigationExecutionReceiptV1)
      (hcandidates : agg'.candidates = agg.candidates ++ [candidate]) (hreport : agg'.latestCapabilityReport = none)
      (hidle : agg.activationBaton = none) (hbaton : agg'.activationBaton = none)
      (hresult : agg'.bootstrapResult = agg.bootstrapResult) :
      Advances agg agg' (.candidateRegistered candidate receipt)
  | reported (queriedAt : Nat) (report : PlatformCapabilityReportV1) (candidate : RepairCandidateV1)
      (hactive : agg.activeCandidate = some candidate) (hnames : ReportNames report candidate)
      (hnext : agg' = { agg with latestCapabilityReport := some report }) :
      Advances agg agg' (.capabilityReported queriedAt report)
  | prepared (decision : RepairActivationDecisionV1) (checkpoint : ManagementCheckpointRefV1)
      (baton : RepairActivationBatonV1) (candidate : RepairCandidateV1) (report : PlatformCapabilityReportV1)
      (hcandidate : candidate ∈ agg.candidates) (hreport : agg.latestCapabilityReport = some report)
      (hdecision : DecisionNames decision candidate) (hbaton : BatonNames baton candidate)
      (hreports : BatonReports baton report)
      (hnext : agg' = { agg with
        activationDecision := some decision
        managementCheckpoint := some checkpoint
        activationBaton := some baton
        bootstrapAdmission := none
        quiescence := none
        focusedVerification := none
        bootstrapResult := none
        phase := some .activationPrepared }) : Advances agg agg' (.activationPrepared decision checkpoint baton)
  | accepted (admission : BootstrapAcceptedAdmissionV1) (baton : RepairActivationBatonV1)
      (hbaton : agg.activationBaton = some baton) (hnew : agg.bootstrapAdmission = none)
      (hnames : admission.activationId = baton.activationId ∧ admission.batonHash = baton.batonHash)
      (hnext : agg' = { agg with bootstrapAdmission := some admission, phase := some .awaitingBootstrapResult }) :
      Advances agg agg' (.bootstrapAdmissionAccepted admission)
  | quiesced (facts : CoreQuiescenceFactsV1) (baton : RepairActivationBatonV1)
      (hbaton : agg.activationBaton = some baton) (hadmission : agg.bootstrapAdmission.isSome = true)
      (hnew : agg.quiescence = none)
      (hnames : facts.activationId = baton.activationId ∧ facts.processGeneration = baton.currentProcessGeneration)
      (hsafe : facts.timedOut = false ∧ facts.orphanRisk = false)
      (hnext : agg' = { agg with quiescence := some facts }) :
      Advances agg agg' (.coreQuiesced facts)
  | verified (evidence : FocusedVerificationEvidenceV1) (baton : RepairActivationBatonV1)
      (hbaton : agg.activationBaton = some baton) (hquiescence : agg.quiescence.isSome = true)
      (hopen : agg.bootstrapResult = none) (hnew : agg.focusedVerification = none)
      (hnext : agg' = { agg with focusedVerification := some evidence, phase := some .verificationSubmitted }) :
      Advances agg agg' (.focusedVerificationSubmitted baton.activationId baton.candidateProcessGeneration evidence)
  | reconciled (reconciledAt : Nat) (result : AuthenticatedBootstrapResultV1) (baton : RepairActivationBatonV1)
      (hbaton : agg.activationBaton = some baton) (hnew : agg.bootstrapResult = none)
      (hnames : result.receipt.activationId = baton.activationId ∧ result.receipt.batonHash = baton.batonHash)
      (hverified : ∀ evidence, result.receipt.result = .activatedVerified evidence →
        agg.focusedVerification = some evidence ∧ Covers evidence baton.verificationPlan)
      (hnext : agg' = { agg with
        phase := some (resultPhase result.receipt.result)
        bootstrapResult := some result }) : Advances agg agg' (.bootstrapResultReconciled reconciledAt result)

/-- What the passed checks of a transition say, as one rule for `simp`. -/
theorem legal : (∀ (check : Validation) (u : Unit), valid check = .ok u ↔ check = .ok ()) ∧
    ∀ (condition : Bool) (reason : String) (u : Unit), illegalIf condition reason = .ok u ↔ condition = false :=
  ⟨fun check => mapError_eq_ok check _, fun _ _ => refuseIf_eq_ok _ _⟩

private theorem candidateExact_eq_some (h : agg.candidateExact candidateId version = some candidate) :
    candidate ∈ agg.candidates ∧ candidate.candidateId = candidateId ∧ candidate.candidateVersion = version := by
  refine ⟨mem_of_find?_eq_some h, ?_⟩
  simpa using find?_some h

theorem prepareActivation_advances {decision : RepairActivationDecisionV1} {checkpoint : ManagementCheckpointRefV1}
    (h : agg.prepareActivation d decision checkpoint baton = .ok agg') :
    Advances agg agg' (.activationPrepared decision checkpoint baton) := by
  simp only [prepareActivation, passes, legal] at h
  obtain ⟨_, _, _, _, _, _, candidate, hcandidate, report, hreport, investigation, _, _, hmatch, hnext⟩ := h
  simp only [Bool.or_eq_false_iff, bne_eq_false_iff_eq, and_assoc] at hmatch
  obtain ⟨hhash, _, _, heligible, _, _, _, _, _, _, hbatonId, hbatonVersion, hbatonHash, hbundle, hdisclosure,
    hprovenance, _, hreportId, hgeneration, hdigest, _, _, _, hplan, _⟩ := hmatch
  obtain ⟨hmem, hid, hversion⟩ := candidateExact_eq_some hcandidate
  apply Advances.prepared decision checkpoint baton candidate report hmem hreport
  · exact ⟨hid, hversion, hhash.symm⟩
  · exact ⟨⟨hbatonId.symm, hbatonVersion.symm, hbatonHash.symm⟩, hbundle, hdisclosure, hprovenance, hplan⟩
  · exact ⟨hreportId, hgeneration, hdigest, heligible⟩
  · exact (ok.inj hnext).symm

private theorem covers_of_accepted {plan : FocusedVerificationPlanV1}
    (h : d.validateFocusedEvidenceAgainstPlan evidence plan = .ok ())
    (hpassed : evidence.results.all passed = true) : Covers evidence plan := by
  simp only [validateFocusedEvidenceAgainstPlan, passes, unmet, and_assoc] at h
  obtain ⟨_, _, hid, hhash, hlength, hcovered⟩ := h
  refine ⟨⟨hid, hhash⟩, hlength, ?_⟩
  intro check hcheck
  have hfound := any_eq_false.mp hcovered check hcheck
  simp only [Bool.not_eq_true, Bool.not_eq_false', List.any_eq_true, beq_iff_eq] at hfound
  obtain ⟨result, hresult, hid⟩ := hfound
  exact ⟨result, hresult, hid, all_eq_true.mp hpassed result hresult⟩

theorem reconcileBootstrapResult_advances {reconciledAt : Nat}
    (h : agg.reconcileBootstrapResult d reconciledAt result = .ok agg') :
    Advances agg agg' (.bootstrapResultReconciled reconciledAt result) := by
  simp only [reconcileBootstrapResult, passes, legal] at h
  obtain ⟨baton, hbaton, _, hvalid, _, _, _, hnew, _, _, _, hkind, hnext⟩ := h
  simp only [validateAuthenticatedResult, passes, unmet, and_assoc] at hvalid
  obtain ⟨_, _, _, _, _, _, _, hactivation, hhash, _, _, hstatus⟩ := hvalid
  apply Advances.reconciled reconciledAt result baton hbaton
  · exact not_isSome_iff_eq_none.mp (by rw [hnew]; exact Bool.false_ne_true)
  · exact ⟨hactivation, hhash⟩
  · intro evidence hevidence
    rw [hevidence] at hkind hstatus
    simp only [checkVerification, legal, bne_eq_false_iff_eq] at hkind
    refine ⟨hkind, ?_⟩
    cases hadmission : agg.bootstrapAdmission with
    | none =>
      rw [hadmission] at hstatus
      cases hstatus
    | some admission =>
      rw [hadmission] at hstatus
      simp only [passes, unmet] at hstatus
      obtain ⟨_, _, _, hplan, hpassed⟩ := hstatus
      exact covers_of_accepted hplan hpassed
  · exact (ok.inj hnext).symm

/-- An event that applies is one of these advances. -/
theorem apply_advances {event : RepairEventV1} (h : agg.apply d event = .ok agg') : Advances agg agg' event := by
  cases event with
  | failureRecorded occurrence =>
    simp only [apply, recordFailure, passes, legal] at h
    obtain ⟨_, _, _, _, _, _, _, _, _, _, hnext⟩ := h
    cases hnext
    exact .aside rfl rfl rfl rfl rfl rfl rfl rfl fun _ => trivial
  | investigationStarted investigation =>
    simp only [apply, startInvestigation, passes, legal] at h
    obtain ⟨_, _, _, _, _, _, hnext⟩ := h
    cases hnext
    exact .restarted investigation rfl rfl rfl rfl
  | candidateRegistered candidate receipt =>
    simp only [apply, registerCandidate, passes, legal, unmet] at h
    obtain ⟨_, _, _, ⟨_, hidle⟩, _, _, _, _, _, _, _, _, hnext⟩ := h
    cases hnext
    have hnone : agg.activationBaton = none := isSome_eq_false_iff.mp hidle |> isNone_iff_eq_none.mp
    exact .registered candidate receipt rfl rfl hnone hnone rfl
  | capabilityReported queriedAt report =>
    simp only [apply, recordCapability, passes, legal, unmet, and_assoc] at h
    obtain ⟨_, _, _, _, _, _, _, _, candidate, hactive, _, hid, hversion, hhash, hnext⟩ := h
    exact .reported queriedAt report candidate hactive ⟨hid.symm, hversion.symm, hhash.symm⟩ (ok.inj hnext).symm
  | enrollmentRequested requestedAt request =>
    simp only [apply, requestEnrollment, passes, legal] at h
    obtain ⟨_, _, _, _, _, _, _, _, _, _, _, _, hnext⟩ := h
    cases hnext
    exact .aside rfl rfl rfl rfl rfl rfl rfl rfl fun _ => trivial
  | enrollmentPrepared prepared =>
    simp only [apply, prepareEnrollment, passes, legal] at h
    obtain ⟨_, _, _, _, _, _, _, _, hnext⟩ := h
    cases hnext
    exact .aside rfl rfl rfl rfl rfl rfl rfl rfl fun _ => trivial
  | candidateDecided decision =>
    simp only [apply, decideCandidate, passes, legal] at h
    obtain ⟨_, _, _, _, _, _, hnext⟩ := h
    cases hnext
    exact .aside rfl rfl rfl rfl rfl rfl rfl rfl fun _ => trivial
  | activationPrepared decision checkpoint baton => exact prepareActivation_advances h
  | bootstrapAdmissionAccepted admission =>
    simp only [apply, acceptBootstrapAdmission, passes, legal, unmet, and_assoc,
      isSome_eq_false_iff, isNone_iff_eq_none] at h
    obtain ⟨_, _, baton, hbaton, _, hactivation, hhash, _, _, hnew, hnext⟩ := h
    exact .accepted admission baton hbaton hnew ⟨hactivation, hhash⟩ (ok.inj hnext).symm
  | coreQuiesced facts =>
    simp only [apply, recordQuiescence, passes, legal, unmet, and_assoc,
      isSome_eq_false_iff, isNone_iff_eq_none, isNone_eq_false_iff] at h
    obtain ⟨_, _, _, htimed, horphan, baton, hbaton, _, hadmission, hnew, hactivation, hgeneration, hnext⟩ := h
    exact .quiesced facts baton hbaton hadmission hnew ⟨hactivation, hgeneration⟩ ⟨htimed, horphan⟩
      (ok.inj hnext).symm
  | focusedVerificationSubmitted activationId generation evidence =>
    simp only [apply, recordFocusedVerification, passes, legal, unmet, and_assoc,
      isSome_eq_false_iff, isNone_iff_eq_none, isNone_eq_false_iff] at h
    obtain ⟨baton, hbaton, _, _, _, hopen, _, rfl, rfl, _, _, _, hquiescence, _, hnew, hnext⟩ := h
    exact .verified evidence baton hbaton hquiescence hopen hnew (ok.inj hnext).symm
  | bootstrapResultReconciled reconciledAt result => exact reconcileBootstrapResult_advances h
  | regressionRecorded regression =>
    simp only [apply, recordRegression, passes, legal] at h
    obtain ⟨_, _, _, _, hnext⟩ := h
    cases hnext
    exact .aside rfl rfl rfl rfl rfl rfl rfl rfl fun _ => trivial

theorem registered_append (first second : List RepairEventV1) :
    registered (first ++ second) = registered first ++ registered second :=
  filterMap_append

/-- The records of the current handover, in their order. -/
def records (agg : RepairAggregateV1) (baton : RepairActivationBatonV1) : List RepairEventV1 :=
  (agg.bootstrapAdmission.map .bootstrapAdmissionAccepted).toList ++ (agg.quiescence.map .coreQuiesced).toList ++
    (agg.focusedVerification.map
      (.focusedVerificationSubmitted baton.activationId baton.candidateProcessGeneration)).toList

/-- The current handover as the log has recorded it since its preparation. -/
structure Handoff (agg : RepairAggregateV1) (decision : RepairActivationDecisionV1) (baton : RepairActivationBatonV1)
    (since : List RepairEventV1) : Prop where
  steady : registered since = []
  named : ∀ candidate, DecisionNames decision candidate →
    Identifies baton.candidateId baton.candidateVersion baton.candidateHash candidate
  recorded : (agg.records baton).Sublist since
  admitted : ∀ admission, agg.bootstrapAdmission = some admission →
    admission.activationId = baton.activationId ∧ admission.batonHash = baton.batonHash
  quiesced : ∀ facts, agg.quiescence = some facts → agg.bootstrapAdmission.isSome = true ∧
    (facts.activationId = baton.activationId ∧ facts.processGeneration = baton.currentProcessGeneration) ∧
      facts.timedOut = false ∧ facts.orphanRisk = false
  verified : agg.focusedVerification.isSome = true → agg.quiescence.isSome = true
  result : ∀ result evidence, agg.bootstrapResult = some result →
    result.receipt.result = .activatedVerified evidence → agg.focusedVerification = some evidence ∧
      (result.receipt.activationId = baton.activationId ∧ result.receipt.batonHash = baton.batonHash) ∧
      Covers evidence baton.verificationPlan ∧
      ∃ reconciledAt, (agg.records baton ++ [RepairEventV1.bootstrapResultReconciled reconciledAt result]).Sublist since

/-- The records of the aggregate are those of the log. -/
structure Traced (log : List RepairEventV1) (agg : RepairAggregateV1) : Prop where
  candidates : agg.candidates = registered log
  report : ∀ report, agg.latestCapabilityReport = some report →
    (∃ queriedAt, .capabilityReported queriedAt report ∈ log) ∧
      ∀ candidate, agg.activeCandidate = some candidate → ReportNames report candidate
  handoff : ∀ baton, agg.activationBaton = some baton → ∃ before decision checkpoint since,
    log = before ++ .activationPrepared decision checkpoint baton :: since ∧ Handoff agg decision baton since
  idle : agg.activationBaton = none → agg.bootstrapResult = none

section Step
variable {decision : RepairActivationDecisionV1} {since : List RepairEventV1} {event : RepairEventV1}

section
variable (h : Handoff agg decision baton since)
include h

theorem Handoff.quiet (hquiet : registered [event] = []) : registered (since ++ [event]) = [] := by
  rw [registered_append, h.steady, hquiet]
  rfl

theorem Handoff.extend (hquiet : registered [event] = [])
    (hadmission : agg'.bootstrapAdmission = agg.bootstrapAdmission) (hquiescence : agg'.quiescence = agg.quiescence)
    (hverification : agg'.focusedVerification = agg.focusedVerification)
    (hresult : agg'.bootstrapResult = agg.bootstrapResult) : Handoff agg' decision baton (since ++ [event]) := by
  have hrecords : agg'.records baton = agg.records baton := by
    rw [records, records, hadmission, hquiescence, hverification]
  refine ⟨h.quiet hquiet, h.named, ?_, ?_, ?_, ?_, ?_⟩
  · rw [hrecords]
    exact h.recorded.trans (sublist_append_left ..)
  · rw [hadmission]
    exact h.admitted
  · rw [hquiescence, hadmission]
    exact h.quiesced
  · rw [hverification, hquiescence]
    exact h.verified
  · intro result evidence hsome hkind
    rw [hresult] at hsome
    obtain ⟨hevidence, hnames, hcovers, reconciledAt, hsublist⟩ := h.result result evidence hsome hkind
    rw [hrecords, hverification]
    exact ⟨hevidence, hnames, hcovers, reconciledAt, hsublist.trans (sublist_append_left ..)⟩

theorem Handoff.not_verified (hnew : agg.quiescence = none) : agg.focusedVerification = none := by
  apply not_isSome_iff_eq_none.mp
  intro hsome
  have hquiesced := h.verified hsome
  rw [hnew] at hquiesced
  cases hquiesced

theorem Handoff.not_quiesced (hnew : agg.bootstrapAdmission = none) : agg.quiescence = none := by
  cases hfacts : agg.quiescence with
  | none => rfl
  | some facts =>
    have hadmitted := (h.quiesced facts hfacts).1
    rw [hnew] at hadmitted
    cases hadmitted

theorem Handoff.open_result (hnew : agg.focusedVerification = none)
    (result : AuthenticatedBootstrapResultV1) (evidence : FocusedVerificationEvidenceV1)
    (hresult : agg.bootstrapResult = some result) : result.receipt.result ≠ .activatedVerified evidence := by
  intro hkind
  have hverified := (h.result result evidence hresult hkind).1
  rw [hnew] at hverified
  cases hverified

theorem Handoff.accept (admission : BootstrapAcceptedAdmissionV1)
    (phase : Option RepairPhaseV1) (hnew : agg.bootstrapAdmission = none)
    (hnames : admission.activationId = baton.activationId ∧ admission.batonHash = baton.batonHash) :
    Handoff { agg with bootstrapAdmission := some admission, phase } decision baton
      (since ++ [.bootstrapAdmissionAccepted admission]) := by
  have hquiescence := h.not_quiesced hnew
  have hverification := h.not_verified hquiescence
  refine ⟨h.quiet rfl, h.named, ?_, ?_, ?_, ?_, ?_⟩
  · simp only [records, hquiescence, hverification]
    exact sublist_append_right ..
  · rintro _ ⟨⟩
    exact hnames
  · intro facts hfacts
    cases hquiescence.symm.trans hfacts
  · exact h.verified
  · intro result evidence hresult hkind
    exact absurd hkind (h.open_result hverification result evidence hresult)

theorem Handoff.quiesce (facts : CoreQuiescenceFactsV1)
    (hadmission : agg.bootstrapAdmission.isSome = true) (hnew : agg.quiescence = none)
    (hnames : facts.activationId = baton.activationId ∧ facts.processGeneration = baton.currentProcessGeneration)
    (hsafe : facts.timedOut = false ∧ facts.orphanRisk = false) :
    Handoff { agg with quiescence := some facts } decision baton (since ++ [.coreQuiesced facts]) := by
  have hverification := h.not_verified hnew
  have hrecords : records { agg with quiescence := some facts } baton = agg.records baton ++ [.coreQuiesced facts] := by
    simp [records, hnew, hverification]
  refine ⟨h.quiet rfl, h.named, ?_, h.admitted, ?_, fun _ => rfl, ?_⟩
  · rw [hrecords]
    exact h.recorded.append (List.Sublist.refl _)
  · rintro _ ⟨⟩
    exact ⟨hadmission, hnames, hsafe⟩
  · intro result evidence hresult hkind
    exact absurd hkind (h.open_result hverification result evidence hresult)

theorem Handoff.verify (evidence : FocusedVerificationEvidenceV1)
    (phase : Option RepairPhaseV1) (hquiescence : agg.quiescence.isSome = true) (hopen : agg.bootstrapResult = none)
    (hnew : agg.focusedVerification = none) :
    Handoff { agg with focusedVerification := some evidence, phase } decision baton (since ++
      [.focusedVerificationSubmitted baton.activationId baton.candidateProcessGeneration evidence]) := by
  have hrecords : records { agg with focusedVerification := some evidence, phase } baton = agg.records baton ++
      [.focusedVerificationSubmitted baton.activationId baton.candidateProcessGeneration evidence] := by
    simp [records, hnew]
  refine ⟨h.quiet rfl, h.named, ?_, h.admitted, h.quiesced, fun _ => hquiescence, fun _ _ hresult => ?_⟩
  · rw [hrecords]
    exact h.recorded.append (List.Sublist.refl _)
  · cases hopen.symm.trans hresult

/-- With all three records at hand the recorded list is the whole handover. -/
theorem Handoff.handed (hverification : agg.focusedVerification = some evidence) :
    ∃ admission facts, HandedOver baton admission facts ∧
      agg.records baton = handoverRecords baton admission facts evidence := by
  have hsome : agg.focusedVerification.isSome = true := by
    rw [hverification]
    rfl
  obtain ⟨facts, hfacts⟩ := isSome_iff_exists.mp (h.verified hsome)
  obtain ⟨hadmitted, hnames, hsafe⟩ := h.quiesced facts hfacts
  obtain ⟨admission, hadmission⟩ := isSome_iff_exists.mp hadmitted
  refine ⟨admission, facts, ⟨h.admitted admission hadmission, hnames, hsafe⟩, ?_⟩
  rw [records, hadmission, hfacts, hverification]
  rfl

theorem Handoff.reconcile (reconciledAt : Nat) (result : AuthenticatedBootstrapResultV1) (phase : Option RepairPhaseV1)
    (hnames : result.receipt.activationId = baton.activationId ∧ result.receipt.batonHash = baton.batonHash)
    (hverified : ∀ evidence, result.receipt.result = .activatedVerified evidence →
      agg.focusedVerification = some evidence ∧ Covers evidence baton.verificationPlan) :
    Handoff { agg with phase, bootstrapResult := some result } decision baton
      (since ++ [.bootstrapResultReconciled reconciledAt result]) := by
  refine ⟨h.quiet rfl, h.named, h.recorded.trans (sublist_append_left ..), h.admitted, h.quiesced, h.verified, ?_⟩
  rintro _ evidence ⟨⟩ hkind
  obtain ⟨hevidence, hcovers⟩ := hverified evidence hkind
  exact ⟨hevidence, hnames, hcovers, reconciledAt, h.recorded.append (List.Sublist.refl _)⟩

end

end Step

theorem Traced.empty (groupId : StableId) : Traced [] (RepairAggregateV1.empty groupId) := by
  constructor
  · rfl
  · rintro _ ⟨⟩
  · rintro _ ⟨⟩
  · intro _
    rfl

section
variable {event : RepairEventV1}
include event

section
variable (h : Traced log agg)
include h

/-- A report stays backed as long as no candidate is registered. -/
theorem Traced.report_kept (hreport : agg'.latestCapabilityReport = agg.latestCapabilityReport)
    (hcandidates : agg'.candidates = agg.candidates) :
    ∀ report, agg'.latestCapabilityReport = some report →
      (∃ queriedAt, .capabilityReported queriedAt report ∈ log ++ [event]) ∧
        ∀ candidate, agg'.activeCandidate = some candidate → ReportNames report candidate := by
  intro report hsome
  rw [hreport] at hsome
  obtain ⟨⟨queriedAt, hmem⟩, hnames⟩ := h.report report hsome
  refine ⟨⟨queriedAt, mem_append_left _ hmem⟩, ?_⟩
  rw [activeCandidate, hcandidates]
  exact hnames

theorem Traced.candidates_kept (hcandidates : agg'.candidates = agg.candidates) (hquiet : registered [event] = []) :
    agg'.candidates = registered (log ++ [event]) := by
  rw [registered_append, hquiet, append_nil, hcandidates, h.candidates]

theorem Traced.handoff_kept (hbaton : agg'.activationBaton = agg.activationBaton)
    (hstep : ∀ decision baton since, agg.activationBaton = some baton → Handoff agg decision baton since →
      Handoff agg' decision baton (since ++ [event])) :
    ∀ baton, agg'.activationBaton = some baton → ∃ before decision checkpoint since,
      log ++ [event] = before ++ .activationPrepared decision checkpoint baton :: since ∧
        Handoff agg' decision baton since := by
  intro baton hsome
  rw [hbaton] at hsome
  obtain ⟨before, decision, checkpoint, since, rfl, hhandoff⟩ := h.handoff baton hsome
  refine ⟨before, decision, checkpoint, since ++ [event], ?_, hstep decision baton since hsome hhandoff⟩
  rw [append_assoc, cons_append]

theorem Traced.handed_on (hbaton : agg.activationBaton = some baton) (hcandidates : agg'.candidates = agg.candidates)
    (hreport : agg'.latestCapabilityReport = agg.latestCapabilityReport)
    (hkept : agg'.activationBaton = agg.activationBaton) (hquiet : registered [event] = [])
    (hstep : ∀ decision since, Handoff agg decision baton since → Handoff agg' decision baton (since ++ [event])) :
    Traced (log ++ [event]) agg' := by
  constructor
  · exact h.candidates_kept hcandidates hquiet
  · exact h.report_kept hreport hcandidates
  · apply h.handoff_kept hkept
    intro decision other since hother hhandoff
    obtain rfl := some.inj (hbaton.symm.trans hother)
    exact hstep decision since hhandoff
  · intro hnone
    cases (hkept.trans hbaton).symm.trans hnone

end

/-- Each advance keeps the records those of the log. -/
theorem Advances.traced (hstep : Advances agg agg' event) (h : Traced log agg) : Traced (log ++ [event]) agg' := by
  cases hstep with
  | aside hcandidates hreport hbaton hadmission hquiescence hverification hresult hquiet =>
    constructor
    · exact h.candidates_kept hcandidates hquiet
    · exact h.report_kept hreport hcandidates
    · apply h.handoff_kept hbaton
      intro decision baton since _ hhandoff
      exact hhandoff.extend hquiet hadmission hquiescence hverification hresult
    · rw [hbaton, hresult]
      exact h.idle
  | restarted investigation hcandidates hreport hbaton hresult =>
    constructor
    · exact h.candidates_kept hcandidates rfl
    · intro report hsome
      cases hreport.symm.trans hsome
    · intro baton hsome
      cases hbaton.symm.trans hsome
    · exact fun _ => hresult
  | registered candidate receipt hcandidates hreport hidle hbaton hresult =>
    constructor
    · rw [hcandidates, registered_append, h.candidates]
      rfl
    · intro report hsome
      cases hreport.symm.trans hsome
    · intro baton hsome
      cases hbaton.symm.trans hsome
    · intro _
      rw [hresult, h.idle hidle]
  | reported queriedAt report candidate hactive hnames hnext =>
    subst hnext
    constructor
    · exact h.candidates_kept rfl rfl
    · rintro _ ⟨⟩
      refine ⟨⟨queriedAt, mem_append_right _ (mem_singleton.mpr rfl)⟩, ?_⟩
      intro active hsame
      obtain rfl := some.inj (hactive.symm.trans hsame)
      exact hnames
    · apply h.handoff_kept
      · rfl
      · intro decision baton since _ hhandoff
        exact hhandoff.extend rfl rfl rfl rfl rfl
    · exact h.idle
  | prepared decision checkpoint baton candidate report _ _ hdecision hnames _ hnext =>
    subst hnext
    constructor
    · exact h.candidates_kept rfl rfl
    · exact h.report_kept rfl rfl
    · rintro _ ⟨⟩
      refine ⟨log, decision, checkpoint, [], rfl, ?_⟩
      constructor
      · rfl
      · intro other hother
        obtain ⟨⟨hid, hversion, hhash⟩, _⟩ := hnames
        exact ⟨(hother.id.trans hdecision.id.symm).trans hid,
          (hother.version.trans hdecision.version.symm).trans hversion,
          (hother.hash.trans hdecision.hash.symm).trans hhash⟩
      · exact nil_sublist _
      · rintro _ ⟨⟩
      · rintro _ ⟨⟩
      · intro hverified
        cases hverified
      · rintro _ _ ⟨⟩
    · intro _
      rfl
  | accepted admission baton hbaton hnew hnames hnext =>
    subst hnext
    refine h.handed_on hbaton rfl rfl rfl rfl fun decision since hhandoff => ?_
    exact hhandoff.accept admission _ hnew hnames
  | quiesced facts baton hbaton hadmission hnew hnames hsafe hnext =>
    subst hnext
    refine h.handed_on hbaton rfl rfl rfl rfl fun decision since hhandoff => ?_
    exact hhandoff.quiesce facts hadmission hnew hnames hsafe
  | verified evidence baton hbaton hquiescence hopen hnew hnext =>
    subst hnext
    refine h.handed_on hbaton rfl rfl rfl rfl fun decision since hhandoff => ?_
    exact hhandoff.verify evidence _ hquiescence hopen hnew
  | reconciled reconciledAt result baton hbaton _ hnames hverified hnext =>
    subst hnext
    refine h.handed_on hbaton rfl rfl rfl rfl fun decision since hhandoff => ?_
    exact hhandoff.reconcile reconciledAt result _ hnames hverified

theorem Advances.backed (hstep : Advances agg agg' event) (h : Traced log agg) : Backed log event := by
  cases hstep with
  | aside _ _ _ _ _ _ _ _ hbacked => exact hbacked log
  | prepared decision checkpoint baton candidate report hcandidate hreport hdecision hbaton hreports =>
    rw [h.candidates] at hcandidate
    obtain ⟨⟨queriedAt, hmem⟩, hnames⟩ := h.report report hreport
    refine ⟨⟨candidate, hcandidate, hdecision, hbaton⟩, queriedAt, report, hmem, hreports, ?_⟩
    intro active hactive _
    rw [← h.candidates] at hactive
    exact hnames active hactive
  | reconciled reconciledAt result baton hbaton _ hnames hverified =>
    intro evidence hkind
    obtain ⟨before, decision, checkpoint, since, hlog, hhandoff⟩ := h.handoff baton hbaton
    obtain ⟨hevidence, hcovers⟩ := hverified evidence hkind
    obtain ⟨admission, facts, hhanded, hrecords⟩ := hhandoff.handed hevidence
    refine ⟨before, decision, checkpoint, baton, since, hlog, hnames.1, hnames.2, hcovers, admission, facts, hhanded,
      ?_⟩
    rw [← hrecords]
    exact hhandoff.recorded
  | _ => trivial

end

private theorem verifiedBuild_eq_some (h : agg.verifiedBuild = some (candidate, result)) :
    ∃ evidence, agg.bootstrapResult = some result ∧ result.receipt.result = .activatedVerified evidence ∧
      agg.activeCandidate = some candidate := by
  simp only [verifiedBuild, Option.bind_eq_bind, Option.bind_eq_some_iff] at h
  obtain ⟨found, hfound, h⟩ := h
  split at h
  · cases h
  · rename_i hkind
    simp only [Option.bind_eq_some_iff, Option.pure_def, Option.some.injEq, Prod.mk.injEq] at h
    obtain ⟨active, hactive, rfl, rfl⟩ := h
    cases hresult : found.receipt.result with
    | activatedVerified evidence => exact ⟨evidence, hfound, rfl, hactive⟩
    | _ => simp [hresult, BootstrapResultKindV1.isActivatedVerified] at hkind

private theorem advance_ok {committed : CommittedRepairEventV1} (h : agg.advance d committed = .ok agg') :
    ∃ next, agg.apply d committed.event = .ok next ∧
      agg' = { next with ledgerVersion := committed.ledgerSequence } := by
  simp only [advance, bind_ok_iff] at h
  obtain ⟨_, _, _, _, next, happly, hnext⟩ := h
  exact ⟨next, happly, (ok.inj hnext).symm⟩

/-- The aggregate's number of events is none of its records. -/
theorem Traced.renumbered (h : Traced log agg) (version : Nat) : Traced log { agg with ledgerVersion := version } where
  candidates := h.candidates
  report := h.report
  handoff baton hbaton := by
    obtain ⟨before, decision, checkpoint, since, hlog, hhandoff⟩ := h.handoff baton hbaton
    exact ⟨before, decision, checkpoint, since, hlog, hhandoff.steady, hhandoff.named, hhandoff.recorded,
      hhandoff.admitted, hhandoff.quiesced, hhandoff.verified, hhandoff.result⟩
  idle := h.idle

private theorem rehydrate_traced {groupId : StableId} {events : List CommittedRepairEventV1}
    (h : rehydrate d groupId events = .ok agg) :
    Traced (events.map event) agg ∧ Justified Backed (events.map event) := by
  apply foldlM_keeps (advance d) (fun done agg => Traced (done.map event) agg ∧
    Justified Backed (done.map event)) _ events [] (RepairAggregateV1.empty groupId) agg _ h
  · rintro done current committed next ⟨htraced, hjustified⟩ hadvance
    obtain ⟨applied, happly, rfl⟩ := advance_ok hadvance
    have hstep := apply_advances happly
    rw [map_append, map_singleton]
    exact ⟨(hstep.traced htraced).renumbered _, hjustified.snoc (hstep.backed htraced)⟩
  · exact ⟨Traced.empty groupId, Justified.nil⟩

/-- An activation follows the registration of its candidate and the capability report; a verified result follows,
under one baton, preparation, admission, quiescence and verification. The verified build is the last candidate with
such a result, its own if the decision names it. -/
theorem activation_backed (d : RepairDigests) (groupId : StableId) (events : List CommittedRepairEventV1)
    (agg : RepairAggregateV1) (h : rehydrate d groupId events = .ok agg) :
    Justified Backed (events.map event) ∧
      ∀ candidate result, agg.verifiedBuild = some (candidate, result) →
        ∃ before decision checkpoint baton since evidence reconciledAt,
          events.map event = before ++ .activationPrepared decision checkpoint baton :: since ∧
          result.receipt.result = .activatedVerified evidence ∧
          .bootstrapResultReconciled reconciledAt result ∈ since ∧
          VerifiedUnder baton since result evidence ∧
          (registered before).getLast? = some candidate ∧
          (DecisionNames decision candidate →
            Identifies baton.candidateId baton.candidateVersion baton.candidateHash candidate) := by
  obtain ⟨htraced, hjustified⟩ := rehydrate_traced h
  refine ⟨hjustified, ?_⟩
  intro candidate result hbuild
  obtain ⟨evidence, hresult, hkind, hactive⟩ := verifiedBuild_eq_some hbuild
  obtain ⟨baton, hbaton⟩ := ne_none_iff_exists'.mp fun hnone => by
    cases (htraced.idle hnone).symm.trans hresult
  obtain ⟨before, decision, checkpoint, since, hlog, hhandoff⟩ := htraced.handoff baton hbaton
  obtain ⟨hevidence, hnames, hcovers, reconciledAt, hsublist⟩ := hhandoff.result result evidence hresult hkind
  obtain ⟨admission, facts, hhanded, hrecords⟩ := hhandoff.handed hevidence
  refine ⟨before, decision, checkpoint, baton, since, evidence, reconciledAt, hlog, hkind, ?_, ?_, ?_, ?_⟩
  · exact hsublist.subset (mem_append_right _ (mem_singleton.mpr rfl))
  · refine ⟨hnames.1, hnames.2, hcovers, admission, facts, hhanded, ?_⟩
    rw [← hrecords]
    exact hhandoff.recorded
  · -- No candidate was registered since the preparation.
    rw [activeCandidate, htraced.candidates, hlog, registered_append] at hactive
    have hsteady : registered (.activationPrepared decision checkpoint baton :: since) = [] := hhandoff.steady
    rw [hsteady, append_nil] at hactive
    exact hactive
  · exact hhandoff.named candidate

section Sample
variable (d)

/-- The text under which a record is hashed. -/
def sealed (digest : Sha256Digest) : String := "sha256:" ++ digest.text

/-- A content hash that no check of the fold recomputes. -/
def sampleContent : String := "sha256:0000000000000000000000000000000000000000000000000000000000000000"

def sampleAuthority : String := "0000000000000000000000000000000000000000000000000000000000000000"

def sampleGroup : StableId :=
  ⟨"repair.group.0000000000000000000000000000000000000000000000000000000000000000", by decide⟩

def sampleArtifact : RepairArtifactRefV1 := ⟨⟨"artifact", by decide⟩, sampleContent, 1, "sample", "sample"⟩

def sampleBundle : BuildBundleRefV1 := ⟨sampleArtifact, "sample"⟩

def samplePlan : FocusedVerificationPlanV1 :=
  let plan : FocusedVerificationPlanV1 :=
    ⟨⟨"plan", by decide⟩, [⟨⟨"check", by decide⟩, "sample", ⟨"capability", by decide⟩, 1000⟩], ""⟩
  { plan with planHash := sealed (d.plan plan) }

def sampleDisclosure : RepairDisclosureV1 :=
  let disclosure : RepairDisclosureV1 := {
    sourceDiff := .evidence "sample" [sampleArtifact]
    configurationDiff := .noneDeclared "sample"
    tests := .evidence "sample" [sampleArtifact]
    benchmarks := .noneDeclared "sample"
    consequences := ⟨[], true⟩
    removedBehaviors := ⟨[], true⟩
    disabledBehaviors := ⟨[], true⟩
    broadenedBehaviors := ⟨[], true⟩
    replacedBehaviors := ⟨[], true⟩
    uncertainties := ⟨[], true⟩
    dataCompatibility := .rollbackCompatible
    rollbackPoint := sampleBundle
    verificationPlan := samplePlan d
    disclosureHash := "" }
  { disclosure with disclosureHash := sealed (d.disclosure disclosure) }

def sampleProvenance : BuildProvenanceV1 :=
  let provenance : BuildProvenanceV1 := ⟨"sample", sampleContent, sampleContent, sampleContent, sampleContent, ""⟩
  { provenance with provenanceHash := sealed (d.provenance provenance) }

variable (version : Nat)

def sampleCandidate : RepairCandidateV1 :=
  let candidate : RepairCandidateV1 := {
    candidateId := ⟨"candidate", by decide⟩
    groupId := sampleGroup
    candidateVersion := version
    summary := "sample"
    buildBundle := sampleBundle
    provenance := sampleProvenance d
    builtUnderAuthorityManifestHash := sampleAuthority
    disclosure := sampleDisclosure d
    candidateHash := "" }
  { candidate with candidateHash := sealed (d.candidate candidate) }

def sampleOccurrence : ErrorOccurrenceV1 := ⟨⟨"occurrence", by decide⟩, sampleContent, "sample", [], 1⟩

def sampleInvestigation : RepairInvestigationV1 where
  investigationId := ⟨"investigation", by decide⟩
  groupId := sampleGroup
  managementChatId := ⟨"chat", by decide⟩
  managementRunId := ⟨"run", by decide⟩
  authority := ⟨⟨"manifest", by decide⟩, sampleAuthority, [⟨"capability", by decide⟩]⟩
  budget := ⟨1, 1, 1, 1000⟩

def sampleExecution : AuthenticatedInvestigationExecutionReceiptV1 :=
  let receipt : InvestigationExecutionReceiptV1 := {
    schemaVersion := 1
    receiptId := ⟨"receipt", by decide⟩
    investigationId := ⟨"investigation", by decide⟩
    groupId := sampleGroup
    managementChatId := ⟨"chat", by decide⟩
    managementRunId := ⟨"run", by decide⟩
    candidateId := ⟨"candidate", by decide⟩
    candidateVersion := version
    candidateHash := (sampleCandidate d version).candidateHash
    authorityManifestId := ⟨"manifest", by decide⟩
    authorityManifestHash := sampleAuthority
    frozenCapabilityIds := [⟨"capability", by decide⟩]
    executedCapabilityIds := [⟨"capability", by decide⟩]
    frozenBudget := ⟨1, 1, 1, 1000⟩
    observedUsage := ⟨1, 1, 1, 1⟩
    completedAtEpochMs := 1
    receiptHash := "" }
  ⟨{ receipt with receiptHash := sealed (d.execution receipt) }, ⟨true, sampleContent, sampleContent⟩⟩

def sampleReport : PlatformCapabilityReportV1 :=
  let report : PlatformCapabilityReportV1 := {
    schemaVersion := 1
    reportId := ⟨"report", by decide⟩
    candidateId := ⟨"candidate", by decide⟩
    candidateVersion := 2
    candidateHash := (sampleCandidate d 2).candidateHash
    capabilityGeneration := 1
    buildOrigin := .managedLocal sampleContent sampleContent
    eligibility := .supportedManagedLocal
    reason := ⟨"sample", "sample", ["sample"]⟩
    currentBuild := sampleBundle
    previousWorkingBuild := some sampleBundle
    validFromEpochMs := 1000
    expiresAtEpochMs := 2000
    capabilityDigest := "" }
  { report with capabilityDigest := sealed (d.report report) }

def sampleDecision : RepairActivationDecisionV1 where
  activationId := ⟨"activation", by decide⟩
  candidateId := ⟨"candidate", by decide⟩
  expectedCandidateVersion := version
  expectedCandidateHash := (sampleCandidate d version).candidateHash
  expectedCapabilityReportId := ⟨"report", by decide⟩
  expectedCapabilityDigest := (sampleReport d).capabilityDigest
  decidedAtEpochMs := 1500

def sampleCheckpoint : ManagementCheckpointRefV1 :=
  ⟨⟨"checkpoint", by decide⟩, ⟨"chat", by decide⟩, ⟨"run", by decide⟩, 1, sampleContent, sampleContent⟩

def sampleBaton : RepairActivationBatonV1 :=
  let baton : RepairActivationBatonV1 := {
    schemaVersion := 1
    batonId := ⟨"baton", by decide⟩
    activationId := ⟨"activation", by decide⟩
    groupId := sampleGroup
    candidateId := ⟨"candidate", by decide⟩
    candidateVersion := version
    candidateHash := (sampleCandidate d version).candidateHash
    candidateBundle := sampleBundle
    disclosureHash := (sampleDisclosure d).disclosureHash
    provenanceHash := (sampleProvenance d).provenanceHash
    enrollmentDigest := sampleContent
    capabilityReportId := ⟨"report", by decide⟩
    capabilityGeneration := 1
    capabilityDigest := (sampleReport d).capabilityDigest
    previousWorkingBuild := sampleBundle
    managementCheckpoint := sampleCheckpoint
    verificationPlan := samplePlan d
    currentProcessGeneration := 1
    candidateProcessGeneration := 2
    rollbackProcessGeneration := 3
    deadlines := ⟨1000, 1000, 1000, 1000, 1000, 1000⟩
    expiresAtEpochMs := 7500
    batonHash := "" }
  { baton with batonHash := sealed (d.baton baton) }

def sampleAdmission : BootstrapAcceptedAdmissionV1 :=
  let admission : BootstrapAcceptedAdmissionV1 :=
    ⟨⟨"admission", by decide⟩, ⟨"activation", by decide⟩, (sampleBaton d version).batonHash, 2, 3, ""⟩
  { admission with admissionHash := sealed (d.admission admission) }

def sampleFacts : CoreQuiescenceFactsV1 :=
  let facts : CoreQuiescenceFactsV1 :=
    ⟨⟨"quiescence", by decide⟩, ⟨"activation", by decide⟩, 1, 0, 0, 0, false, false, ""⟩
  { facts with factsHash := sealed (d.quiescence facts) }

def sampleEvidence : FocusedVerificationEvidenceV1 :=
  let evidence : FocusedVerificationEvidenceV1 := ⟨⟨"plan", by decide⟩, (samplePlan d).planHash,
    [⟨⟨"check", by decide⟩, true, "sample", [sampleArtifact]⟩], ""⟩
  { evidence with evidenceHash := sealed (d.evidence evidence) }

def sampleResult : AuthenticatedBootstrapResultV1 :=
  let receipt : BootstrapResultV1 := {
    schemaVersion := 1
    receiptId := ⟨"result", by decide⟩
    activationId := ⟨"activation", by decide⟩
    batonHash := (sampleBaton d version).batonHash
    managementCheckpointId := ⟨"checkpoint", by decide⟩
    recipientProcessGeneration := 2
    sealedAtEpochMs := 3000
    result := .activatedVerified (sampleEvidence d)
    receiptHash := "" }
  ⟨{ receipt with receiptHash := sealed (d.result receipt) }, ⟨true, 2, sampleContent, sampleContent⟩⟩

private theorem isOk_ok {ε α : Type} (a : α) : (ok a : Except ε α).isOk = true := rfl

private theorem sealed_canonical (digest : Sha256Digest) : isCanonicalSha256 (sealed digest) = true :=
  digest.isCanonicalSha256_text

private theorem sample_content : isCanonicalSha256 sampleContent = true := by decide +kernel

private theorem sample_authority : isLegacyAuthorityHash sampleAuthority = true := by decide +kernel

private theorem sample_text {maxBytes : Nat} (h : 6 ≤ maxBytes) : validText "sample" maxBytes = true := by
  have hsize : "sample".utf8ByteSize ≤ maxBytes := h
  rw [validText, decide_eq_true hsize]
  decide

attribute [local simp] isOk_ok sealed_canonical sample_content sample_authority sample_text maxShortTextBytes
  maxSummaryBytes maxEvidenceArtifacts maxVerificationChecks maxPhaseDeadlineMs repairSchemaVersionV1
  containsDuplicateIds

theorem seal_accepted {condition : Bool} {hash : Option String} {own first second third : String}
    (hfields : condition = false) (hhash : hash = some own) : (do
      refuseIf condition first
      let found ← require hash second
      refuseIf (found != own) third : Validation) = .ok () := by
  rw [hfields, hhash]
  exact (refuseIf_eq_ok ..).mpr (bne_self_eq_false own)

@[simp] theorem sample_artifact : validateArtifact sampleArtifact = .ok () := by
  simp [validateArtifact, sampleArtifact]

@[simp] theorem sample_bundle : validateBuildBundle sampleBundle = .ok () := by
  have hentry : validRelativeEntry "sample" = true := by decide +kernel
  simp [validateBuildBundle, sampleBundle, hentry]

@[simp] theorem sample_plan : d.validateFocusedVerificationPlan (samplePlan d) = .ok () := by
  apply seal_accepted _ rfl
  simp [samplePlan]

@[simp] theorem sample_provenance : d.validateProvenance (sampleProvenance d) = .ok () := by
  apply seal_accepted _ rfl
  simp [sampleProvenance]

@[simp] theorem sample_disclosure : d.validateDisclosure (sampleDisclosure d) = .ok () := by
  apply seal_accepted _ rfl
  simp [sampleDisclosure, validateEvidenceDisclosure, validateDisclosureItems, refuseIf]

private theorem sample_candidate {version : Nat} (h : version ≠ 0) :
    d.validateCandidate (sampleCandidate d version) = .ok () := by
  apply seal_accepted _ rfl
  simp [sampleCandidate, h]

private theorem sample_execution {version : Nat} (h : version ≠ 0) :
    d.validateAuthenticatedInvestigationExecution (sampleExecution d version) sampleInvestigation
      (sampleCandidate d version) = .ok () := by
  have hhash : d.investigationExecutionReceiptHashV1 (sampleExecution d version).receipt =
    some (sampleExecution d version).receipt.receiptHash := rfl
  simp only [validateAuthenticatedInvestigationExecution, hhash, passes]
  refine ⟨(), ?_, _, rfl, (), ?_, ?_⟩
  · simp [sampleExecution, sampleCandidate, canonicalOrder, h]
  · simp [sampleExecution]
  · simp [sampleExecution, sampleInvestigation, sampleCandidate, sampleDisclosure, samplePlan]

private theorem sample_report : d.validateCapabilityReportShape (sampleReport d) = .ok () := by
  apply seal_accepted _ rfl
  simp [sampleReport, sampleCandidate, validPlatformReason, validBuildOrigin, originMatchesEligibility,
    maxCapabilityReportValidityMs]

@[simp] theorem sample_checkpoint : validateCheckpoint sampleCheckpoint = .ok () := by
  simp [validateCheckpoint, sampleCheckpoint]

private theorem sample_baton {version : Nat} (h : version ≠ 0) :
    d.validateRepairActivationBaton (sampleBaton d version) = .ok () := by
  apply seal_accepted _ rfl
  have hdeadlines : validateBootstrapDeadlines ⟨1000, 1000, 1000, 1000, 1000, 1000⟩ = .ok () := by decide
  simp [sampleBaton, sampleCandidate, sampleDisclosure, sampleProvenance, sampleReport, hdeadlines, checkedSum, u64Max, h]

private theorem sample_admission : d.validateAdmission (sampleAdmission d version) = .ok () := by
  apply seal_accepted _ rfl
  simp [sampleAdmission, sampleBaton]

private theorem sample_facts : d.validateQuiescenceFacts (sampleFacts d) = .ok () := by
  apply seal_accepted _ rfl
  rfl

@[simp] theorem sample_evidence : d.validateFocusedVerificationEvidence (sampleEvidence d) = .ok () := by
  apply seal_accepted _ rfl
  simp [sampleEvidence, samplePlan]

private theorem sample_covers : d.validateFocusedEvidenceAgainstPlan (sampleEvidence d) (samplePlan d) = .ok () := by
  simp only [validateFocusedEvidenceAgainstPlan, sample_evidence, ok_bind, refuseIf_eq_ok]
  simp [sampleEvidence, samplePlan]

private theorem sample_result : d.validateBootstrapResult (sampleResult d version).receipt = .ok () := by
  apply seal_accepted _ rfl
  simp [sampleResult, sampleBaton]

private theorem sample_authenticated :
    d.validateAuthenticatedResult (sampleResult d version) (sampleBaton d version) (some (sampleAdmission d version)) =
      .ok () := by
  simp only [validateAuthenticatedResult, sample_result, ok_bind, passes]
  refine ⟨(), ?_, ?_⟩
  · simp [sampleResult, sampleBaton, sampleCheckpoint]
  · have hpassed : (sampleEvidence d).results.all passed = true := rfl
    simp only [sampleResult, passes, hpassed]
    exact ⟨(), rfl, (), sample_covers d, rfl⟩

private theorem sample_occurrence : validateOccurrence sampleOccurrence = .ok () := by
  simp [validateOccurrence, sampleOccurrence]

private theorem sample_investigation : validateInvestigation sampleInvestigation = .ok () := by
  simp [validateInvestigation, sampleInvestigation, maxRepairInvestigationTokensV1]

/-- The aggregate under investigation, with the candidates registered so far. -/
def sampleInvestigated (versions : List Nat) (phase : RepairPhaseV1) (report : Option PlatformCapabilityReportV1) :
    RepairAggregateV1 :=
  { empty sampleGroup with
    fingerprint := some sampleContent
    ledgerVersion := 2 + versions.length + report.toList.length
    phase := some phase
    occurrences := [sampleOccurrence]
    investigation := some sampleInvestigation
    candidates := versions.map (sampleCandidate d)
    candidateExecutionReceipts := versions.map (sampleExecution d)
    latestCapabilityReport := report }

private theorem sample_failure :
    recordFailure (empty sampleGroup) sampleOccurrence = .ok { empty sampleGroup with
      fingerprint := some sampleContent, phase := some .observed, occurrences := [sampleOccurrence] } := by
  have hgroup : repairGroupIdForFingerprintV1 sampleContent = some sampleGroup := by decide +kernel
  simp only [recordFailure, passes, legal]
  exact ⟨(), sample_occurrence, sampleGroup, hgroup, (), bne_self_eq_false _, (), rfl, (), rfl, rfl⟩

private theorem sample_started : startInvestigation { empty sampleGroup with
      fingerprint := some sampleContent, ledgerVersion := 1, phase := some .observed, occurrences := [sampleOccurrence] }
      sampleInvestigation =
      .ok { sampleInvestigated d [] .investigating none with ledgerVersion := 1 } := by
  simp only [startInvestigation, passes, legal]
  exact ⟨(), sample_investigation, (), bne_self_eq_false _, (), rfl, rfl⟩

private theorem sample_registered {versions : List Nat} {phase : RepairPhaseV1} {version : Nat} (h : version ≠ 0)
    (hversion : checkVersion (sampleInvestigated d versions phase none) (sampleCandidate d version) = .ok ()) :
    registerCandidate d (sampleInvestigated d versions phase none) (sampleCandidate d version)
      (sampleExecution d version) =
      .ok { sampleInvestigated d (versions ++ [version]) .candidateReady none with ledgerVersion := 2 + versions.length } := by
  simp only [registerCandidate, passes, legal]
  refine ⟨(), sample_candidate d h, (), rfl, sampleInvestigation, rfl, (), sample_execution d h, (), ?_, (), hversion,
    ?_⟩
  · simp [sampleCandidate, sampleInvestigated, empty, sampleInvestigation, sampleDisclosure, samplePlan]
  · simp [sampleInvestigated]
    rfl

private theorem sample_reported : recordCapability d (sampleInvestigated d [1, 2] .candidateReady none) 1500 (sampleReport d) =
    .ok { sampleInvestigated d [1, 2] .candidateReady (some (sampleReport d)) with ledgerVersion := 4 } := by
  simp only [recordCapability, passes, legal]
  have hfresh : d.validateCapabilityReportFresh (sampleReport d) 1500 = .ok () := by
    rw [validateCapabilityReportFresh, sample_report]
    rfl
  refine ⟨(), sample_report d, (), hfresh, (), rfl, (), rfl, sampleCandidate d 2, rfl, (), ?_, rfl⟩
  simp [sampleReport, sampleCandidate]

/-- Two versions are registered and the second is reported on. -/
def sampleReady : RepairAggregateV1 := sampleInvestigated d [1, 2] .candidateReady (some (sampleReport d))

/-- The aggregate in the handover of the given version, with the first of its four records. -/
def sampleHandover (ledgerVersion records : Nat) (phase : RepairPhaseV1) : RepairAggregateV1 :=
  { sampleReady d with
    ledgerVersion
    phase := some phase
    activationDecision := some (sampleDecision d version)
    managementCheckpoint := some sampleCheckpoint
    activationBaton := some (sampleBaton d version)
    bootstrapAdmission := if 0 < records then some (sampleAdmission d version) else none
    quiescence := if 1 < records then some (sampleFacts d) else none
    focusedVerification := if 2 < records then some (sampleEvidence d) else none
    bootstrapResult := if 3 < records then some (sampleResult d version) else none }

private theorem sample_prepared {version : Nat} (h : version = 1 ∨ version = 2) :
    prepareActivation d (sampleReady d) (sampleDecision d version) sampleCheckpoint (sampleBaton d version) =
      .ok (sampleHandover d version 5 0 .activationPrepared) := by
  have hversion : version ≠ 0 := by omega
  have hfound : (sampleReady d).candidateExact (sampleDecision d version).candidateId version =
      some (sampleCandidate d version) := by
    rcases h with rfl | rfl <;> rfl
  simp only [prepareActivation, passes, legal]
  refine ⟨(), sample_checkpoint, (), sample_baton d hversion, (), rfl, sampleCandidate d version, hfound,
    sampleReport d, rfl, sampleInvestigation, rfl, (), ?_, rfl⟩
  simp [sampleDecision, sampleReport, sampleCandidate, sampleCheckpoint, sampleInvestigation, sampleBaton, sampleReady,
    sampleInvestigated, empty, managedEnrollmentDigest, totalDeadlineMs, deadlineValues, checkedSum, u64Max,
    sampleDisclosure]

private theorem sample_admitted :
    acceptBootstrapAdmission d (sampleHandover d version 6 0 .activationPrepared) (sampleAdmission d version) =
      .ok (sampleHandover d version 6 1 .awaitingBootstrapResult) := by
  simp only [acceptBootstrapAdmission, passes, legal]
  refine ⟨(), sample_admission d version, sampleBaton d version, rfl, (), ?_, rfl⟩
  simp [sampleAdmission, sampleBaton, sampleHandover]

private theorem sample_quiesced :
    recordQuiescence d (sampleHandover d version 7 1 .awaitingBootstrapResult) (sampleFacts d) =
      .ok (sampleHandover d version 7 2 .awaitingBootstrapResult) := by
  simp only [recordQuiescence, passes, legal]
  refine ⟨(), sample_facts d, (), rfl, sampleBaton d version, rfl, (), ?_, rfl⟩
  simp [sampleFacts, sampleBaton, sampleHandover]

private theorem sample_verified :
    recordFocusedVerification d (sampleHandover d version 8 2 .awaitingBootstrapResult) ⟨"activation", by decide⟩ 2
      (sampleEvidence d) =
      .ok (sampleHandover d version 8 3 .verificationSubmitted) := by
  simp only [recordFocusedVerification, passes, legal]
  refine ⟨sampleBaton d version, rfl, (), sample_covers d, (), rfl, (), ?_, (), rfl, rfl⟩
  simp [sampleEvidence, sampleBaton, samplePlan, sampleHandover]

private theorem sample_reconciled :
    reconcileBootstrapResult d (sampleHandover d version 9 3 .verificationSubmitted) 4000 (sampleResult d version) =
      .ok (sampleHandover d version 9 4 .verified) := by
  simp only [reconcileBootstrapResult, passes, legal]
  refine ⟨sampleBaton d version, rfl, (), sample_authenticated d version, (), rfl, (), rfl, (), rfl, (), ?_, rfl⟩
  simp [checkVerification, sampleResult, sampleHandover, illegalIf]

/-- Two versions are registered, the second reported on, the given one activated and verified. -/
def sampleEvents : List RepairEventV1 :=
  [.failureRecorded sampleOccurrence,
    .investigationStarted sampleInvestigation,
    .candidateRegistered (sampleCandidate d 1) (sampleExecution d 1),
    .candidateRegistered (sampleCandidate d 2) (sampleExecution d 2),
    .capabilityReported 1500 (sampleReport d),
    .activationPrepared (sampleDecision d version) sampleCheckpoint (sampleBaton d version),
    .bootstrapAdmissionAccepted (sampleAdmission d version),
    .coreQuiesced (sampleFacts d),
    .focusedVerificationSubmitted ⟨"activation", by decide⟩ 2 (sampleEvidence d),
    .bootstrapResultReconciled 4000 (sampleResult d version)]

def sampleLog : List CommittedRepairEventV1 :=
  (sampleEvents d version).zipIdx.map fun (event, index) => ⟨sampleGroup, index + 1, event⟩

theorem foldlM_advance {next : RepairAggregateV1} {rest : List CommittedRepairEventV1} (agg : RepairAggregateV1)
    (event : RepairEventV1) (sequence : Nat) (hsequence : saturatingAdd u64Max agg.ledgerVersion 1 = sequence)
    (happly : agg.apply d event = .ok next) :
    foldlM (advance d) agg (⟨agg.groupId, sequence, event⟩ :: rest) =
      foldlM (advance d) { next with ledgerVersion := sequence } rest := by
  rw [foldlM_cons, advance, hsequence, bne_self_eq_false, bne_self_eq_false, happly]
  rfl

def sampleVerified : RepairAggregateV1 :=
  sampleHandover d version 10 4 .verified

private theorem sample_rehydrated {version : Nat} (h : version = 1 ∨ version = 2) :
    rehydrate d sampleGroup (sampleLog d version) = .ok (sampleVerified d version) := by
  apply (foldlM_advance d (empty sampleGroup) (.failureRecorded _) 1 rfl sample_failure).trans
  apply (foldlM_advance d _ (.investigationStarted _) 2 rfl (sample_started d)).trans
  apply (foldlM_advance d (sampleInvestigated d [] .investigating none) (.candidateRegistered _ _) 3 rfl
    (sample_registered d (by decide) rfl)).trans
  apply (foldlM_advance d (sampleInvestigated d [1] .candidateReady none) (.candidateRegistered _ _) 4 rfl
    (sample_registered d (by decide) rfl)).trans
  apply (foldlM_advance d (sampleInvestigated d [1, 2] .candidateReady none) (.capabilityReported _ _) 5 rfl
    (sample_reported d)).trans
  apply (foldlM_advance d (sampleReady d) (.activationPrepared _ _ _) 6 rfl (sample_prepared d h)).trans
  apply (foldlM_advance d _ (.bootstrapAdmissionAccepted _) 7 rfl (sample_admitted d version)).trans
  apply (foldlM_advance d _ (.coreQuiesced _) 8 rfl (sample_quiesced d version)).trans
  apply (foldlM_advance d _ (.focusedVerificationSubmitted _ _ _) 9 rfl (sample_verified d version)).trans
  apply (foldlM_advance d _ (.bootstrapResultReconciled _ _) 10 rfl (sample_reconciled d version)).trans
  rfl

/-- A first version is activated after the second was registered: the verified build pairs the second with the first
one's receipt. -/
theorem stale_candidate_activated :
    (∀ d, rehydrate d sampleGroup (sampleLog d 1) = .ok (sampleVerified d 1)) ∧ ∀ d,
    ((sampleEvents d 1).take 5).all (fun event => match event with
      | .focusedVerificationSubmitted .. | .bootstrapAdmissionAccepted _ | .coreQuiesced _ => false
      | _ => true) = true ∧
    (sampleEvents d 1)[5]? = some (.activationPrepared (sampleDecision d 1) sampleCheckpoint (sampleBaton d 1)) ∧
    (sampleVerified d 1).verifiedBuild = some (sampleCandidate d 2, sampleResult d 1) ∧
    (sampleResult d 1).receipt.batonHash = (sampleBaton d 1).batonHash ∧ (sampleBaton d 1).candidateVersion = 1 := by
  exact ⟨fun d => sample_rehydrated d (.inl rfl), fun d => ⟨rfl, rfl, rfl, rfl, rfl⟩⟩

theorem sample_activation_backed :
    (∀ d, rehydrate d sampleGroup (sampleLog d 2) = .ok (sampleVerified d 2)) ∧ ∀ d,
    (sampleVerified d 2).verifiedBuild = some (sampleCandidate d 2, sampleResult d 2) ∧
    Justified Backed ((sampleLog d 2).map event) := by
  have haccepted (d : RepairDigests) := @sample_rehydrated d 2 (.inr rfl)
  exact ⟨haccepted, fun d => ⟨rfl, (activation_backed d sampleGroup (sampleLog d 2) _ (haccepted d)).1⟩⟩

end Sample

end RepairAggregateV1
end Aworkit.Core.Repair
