import Aworkit.Helper.CoordinatorParts

/-! Whole runs of the coordinator: each ends sealed or was interrupted, and the activation rests; so every host call
of all runs was admitted. -/
namespace Aworkit.Helper
open Protocol Fallible Hoare JournalStorage ActivationJournal List

variable {Ω : Type} {d : CoordinatorDigests} {ports : Ports Ω} {baton : BatonAcceptedV1}
  {phase : BootstrapPhaseV1} {pending : Option BootstrapEffectV1} {w w' : World Ω} {calm : Prop} {room : Nat}
  {execution : ActivationExecutionV1} {failed : Halt → World Ω → Prop} {α : Type}

theorem fits_effect (baton : BatonAcceptedV1) (phase : BootstrapPhaseV1) (current target : VerifiedBuildSlotV1)
    (hinside : outsideActivation phase = false) (hgeneration : generation ∈ baton.intends phase) :
    Fits baton phase (some (bootstrapEffect current target baton.capabilityGeneration generation)) := by
  refine ⟨hinside, ?_⟩
  rintro _ ⟨⟩
  exact ⟨hgeneration, rfl⟩

theorem At.closed (h : At d baton phase pending w) (hempty : baton.intends phase = []) : At d baton phase none w := by
  cases pending with
  | none => exact h
  | some effect =>
    have hmem := (h.fits.intended effect rfl).1
    rw [hempty] at hmem
    cases hmem

theorem orFail_bind {β : Type} {answer : Except CoordinatorError α} {k : α → CoordinatorProg Ω β}
    {post : β → World Ω → Prop} (herror : ∀ e, answer = .error e → failed (.failed e) w)
    (hok : ∀ a, answer = .ok a → Outcome (k a) w post failed) : Outcome (orFail answer >>= k) w post failed := by
  cases answer with
  | error e => exact herror e rfl
  | ok a => exact hok a rfl

variable {cleanup : ProcessTreeCleanupV1}

section Rollback

theorem restoreSelector_outcome (h : At d baton .rollingBack (some effect) w) (hcalm : calm → Calm ports room w)
    (hintends : Intends effect plan .restorePrevious) :
    Answers calm d baton (restoreSelector d ports plan).run w
      (fun _ w' => Switched d baton .rollingBack effect calm ports room w w') := by
  have hstart : Switched d baton .rollingBack effect calm ports room w w := ⟨h, .refl hcalm⟩
  refine .attempt (observeActiveSelector_outcome h hcalm plan) (fun _ _ hlooked => hstart.then hlooked.1) ?_
  rintro observation w1 ⟨hlooked1, _⟩
  have hswitched1 := hstart.then hlooked1
  split
  case isTrue => exact hswitched1
  case isFalse =>
    split
    case isFalse => exact hswitched1
    case isTrue =>
      have happlied := applySelector_outcome hlooked1.stays (by decide) hlooked1.asked.calm hintends .rollingBack
      have hswitched (w2) (h2 : Switched d baton .rollingBack effect calm ports room w1 w2) :
          Switched d baton .rollingBack effect calm ports room w w2 := ⟨h2.stays, hswitched1.asked.trans h2.asked⟩
      exact .attempt happlied (fun _ w2 h2 => hswitched w2 h2.1) fun _ w2 h2 => hswitched w2 h2.1

section
variable (h : At d baton .rollingBack none w) (hmatches : Matches execution baton)
  (hcleaned : CleanedUp d w baton.candidateProcessGeneration cleanup)
include h hmatches hcleaned

private theorem rollbackLaunch_outcome {observation : ActiveSelectorObservationV1}
    (hseen : Seen w observation) (hon : observation.on execution.plan.previous = true) (hcalm : calm → Calm ports 5 w)
    (reason : String) (restored : ActiveSelectorObservationV1) :
    Answers calm d baton (rollbackLaunch d ports execution baton reason cleanup restored) w (Finished d baton) := by
  have hroom : calm → Calm ports (4 + 1) w := hcalm
  refine .bind (step_outcome h rfl rfl rfl (by decide) hroom) ?_
  rintro _ w1 ⟨hat1, hstep1⟩
  have hfits := fits_effect baton .previousSelected execution.plan.previous execution.plan.previous rfl
    mem_cons_self
  have hroom1 : calm → Calm ports (2 + 2) w1 := hstep1.calm
  refine .bind (launch_outcome (by decide) hat1 hfits rfl (by decide) hroom1 rfl rfl hmatches.previous
    (hcleaned.follows hstep1.follows) (hseen.follows hstep1.follows) hon) ?_
  intro launch w2 hlaunched
  have hroom2 : calm → Calm ports (1 + 1) w2 := hlaunched.calm
  refine .bind (step_outcome hlaunched.stays rfl rfl rfl (by decide) hroom2) ?_
  rintro _ w3 ⟨hat3, hstep3⟩
  split
  case h_1 =>
    have hroom3 : calm → Calm ports (0 + 1) w3 := hstep3.calm
    refine .bind (step_outcome hat3 rfl rfl rfl (by decide) hroom3) ?_
    rintro _ w4 ⟨hat4, hstep4⟩
    obtain ⟨evidence, hresult⟩ := rolledBack_eq (d := d) hat4.generations_encode.2.2 reason
    rw [hresult]
    exact sealDisposition_outcome (by decide) hat4 hat4.generations_encode.2.2 rfl nofun hstep4.calm
  case h_2 => exact manual_outcome hat3 rfl hstep3.calm _ _

private theorem rollbackRestore_outcome
    (hcalm : calm → Calm ports 7 w) (reason : String) :
    Answers calm d baton (rollbackRestore d ports execution baton reason cleanup) w (Finished d baton) := by
  have hfits := fits_effect baton .rollingBack execution.plan.candidate execution.plan.previous rfl
    (mem_cons_of_mem _ mem_cons_self)
  have hintends : Intends (bootstrapEffect execution.plan.candidate execution.plan.previous
      baton.capabilityGeneration baton.rollbackProcessGeneration) execution.plan .restorePrevious :=
    ⟨hmatches.capability.symm, hmatches.rollbackGeneration.symm, rfl, rfl⟩
  have hroom : calm → Calm ports (5 + 2) w := hcalm
  refine .bind (journaled_outcome (fun _ _ _ => True) h hfits rfl (by decide) hroom ?_) ?_
  · intro w1 hat1 hstep1
    refine (restoreSelector_outcome hat1 hstep1.calm hintends).weaken ?_
    exact fun _ _ hswitched => ⟨hswitched.stays, hswitched.asked, trivial⟩
  rintro restored w2 ⟨hjournaled, _⟩
  have hcleaned2 := hcleaned.follows hjournaled.follows
  have hmanual {w' : World Ω} (hat : At d baton .rollingBack none w') (hcalm' : calm → Calm ports 5 w')
      (reason : ReasonCodeV1) (observed : Observation) :
      Answers calm d baton (manual d ports execution baton reason observed) w' (Finished d baton) :=
    manual_outcome hat rfl (fun hc => (hcalm' hc).mono (by decide)) reason observed
  cases restored with
  | error error => exact hmanual hjournaled.stays hjournaled.calm _ _
  | ok restored =>
    refine .bind (reverify_outcome hjournaled.stays hjournaled.calm _) ?_
    intro answer w3 hlooked3
    cases answer with
    | error error => exact hmanual hlooked3.stays hlooked3.asked.calm _ _
    | ok _ =>
      refine .bind (verifySelector_outcome hlooked3.stays hlooked3.asked.calm execution.plan
        execution.plan.previous) ?_
      rintro answer w4 ⟨hlooked4, htells⟩
      cases answer with
      | error error => exact hmanual hlooked4.stays hlooked4.asked.calm _ _
      | ok observation =>
        obtain ⟨hseen, hon⟩ := htells observation rfl
        exact rollbackLaunch_outcome hlooked4.stays hmatches
          (hcleaned2.follows (hlooked3.asked.follows.trans hlooked4.asked.follows)) hseen hon hlooked4.asked.calm
          reason restored

end

theorem rollback_outcome (h : At d baton phase none w) (hmatches : Matches execution baton)
    (hedge : bootstrapCanAdvance phase .rollingBack = true) (hcalm : calm → Calm ports 10 w) (reason : String) :
    Answers calm d baton (rollback d ports execution baton reason) w (Finished d baton) := by
  have hrunning : bootstrapIsTerminal phase = false ∧ phase ≠ .rollingBack := by
    revert hedge
    cases phase <;> decide
  have hroom : calm → Calm ports (9 + if phase = .rollingBack then 0 else 1) w := by
    rw [if_neg hrunning.2]
    exact hcalm
  refine .bind (reach_outcome h (fun _ => hedge)
    (fun _ hterminal => absurd (hrunning.1.symm.trans hterminal) Bool.false_ne_true) rfl (by decide) hroom) ?_
  rintro _ w1 ⟨hat1, hstep1⟩
  have hfits := fits_effect baton .rollingBack execution.plan.candidate execution.plan.previous rfl
    mem_cons_self
  have hroom1 : calm → Calm ports (7 + 2) w1 := hstep1.calm
  refine .bind (cleanup_outcome (by decide) hat1 hfits rfl (by decide) hroom1 true) ?_
  rintro answer w2 ⟨hjournaled, _, hcleaned⟩
  cases answer with
  | error failure => exact manual_outcome hjournaled.stays rfl (fun hc => (hjournaled.calm hc).mono (by decide)) _ _
  | ok proof => exact rollbackRestore_outcome hjournaled.stays hmatches (hcleaned proof rfl) hjournaled.calm reason

end Rollback

section Recovery

/-- What closes an open effect is a cleanup its intent describes, or a look at the selector. -/
theorem reconcileOpenEffect_outcome (h : At d baton phase (some effect) w) (hcalm : calm → Calm ports (room + 1) w) :
    Answers calm d baton (reconcileOpenEffect d ports execution baton phase effect) w
      (fun _ w' => At d baton phase none w' ∧ (calm → Calm ports room w')) := by
  obtain ⟨hgeneration, _⟩ := h.fits.intended effect rfl
  have hphase : phase ≠ .batonDurable := by
    rintro rfl
    cases hgeneration
  have hcleanup {label : String} {generation : Nat} (hlabel : label ∈ coordinatorLabels)
      (hgeneration : effect.processGeneration = generation) (required : Bool) :
      Answers calm d baton (cleanupObservation <$> cleanupUnder d ports baton label generation required) w
        (fun _ w' => Looked d baton phase (some effect) calm ports (room + 1) w w') :=
    .bind (cleanupUnder_outcome hlabel h hgeneration hcalm required) fun _ _ h => h.1
  refine .via (fun _ w' => Looked d baton phase (some effect) calm ports (room + 1) w w') ?_ ?_
  · unfold reconcileAttempt
    split
    case isTrue hcurrent => exact hcleanup (by decide) hcurrent.2 _
    split
    case isTrue hcandidate =>
      refine hcleanup (by decide) ?_ _
      rcases hcandidate with hcandidate | ⟨_, hcandidate⟩
      · revert hgeneration hcandidate
        cases phase <;> simp [BatonAcceptedV1.intends]
      · exact hcandidate
    split
    case isTrue hprevious =>
      refine hcleanup (by decide) ?_ _
      revert hgeneration hprevious
      cases phase <;> simp [BatonAcceptedV1.intends]
    case isFalse => exact .bind (observeActiveSelector_outcome h hcalm _) fun _ _ h => h.1
  · intro observation w1 hlooked
    refine (observe_outcome hlooked.stays hphase observation hlooked.asked.calm).weaken ?_
    exact fun _ _ hobserved => ⟨hobserved.1, hobserved.2.1.calm⟩

/-- The phases that only lack their receipt. -/
def awaitsReceipt : BootstrapPhaseV1 → Bool
  | .rolledBack | .unsupported | .abortedBeforeSwitch | .manualRecoveryRequired => true
  | _ => false

/-- How many records a recovery may append. -/
def recoveryRecords (phase : BootstrapPhaseV1) (pending : Option BootstrapEffectV1) : Nat :=
  if awaitsReceipt phase then 0
  else 10 + (if phase = .recovering then 0 else 1) + (if pending.isSome then 1 else 0)

private theorem reconcilePending_outcome (h : At d baton phase pending w)
    (hcalm : calm → Calm ports (room + if pending.isSome then 1 else 0) w) :
    Answers calm d baton (reconcilePending d ports execution baton phase pending) w
      (fun _ w' => At d baton phase none w' ∧ (calm → Calm ports room w')) := by
  cases pending with
  | none => exact ⟨h, hcalm⟩
  | some effect => exact reconcileOpenEffect_outcome h hcalm

private theorem recoverInterrupted_outcome (h : At d baton phase pending w)
    (hstate : Reports w baton phase pending state) (hmatches : Matches execution baton)
    (hawaits : awaitsReceipt phase = false) (hcalm : calm → Calm ports (recoveryRecords phase pending) w) :
    Answers calm d baton (recoverInterrupted d ports execution baton baton.activationId state) w (Finished d baton) := by
  have hinside := h.fits.inside
  rw [recoveryRecords, hawaits] at hcalm
  rw [recoverInterrupted, hstate.inPhase, hstate.opened]
  refine .bind (reconcilePending_outcome h hcalm) ?_
  rintro _ w1 ⟨hat1, hcalm1⟩
  refine .bind (reach_outcome hat1 ?_ ?_ rfl (by decide) hcalm1) ?_
  · revert hinside hawaits
    cases phase <;> decide
  · revert hinside hawaits
    cases phase <;> decide
  rintro _ w2 ⟨hat2, hstep2⟩
  refine .bind (observeActiveSelector_outcome hat2 hstep2.calm _) ?_
  rintro answer w3 ⟨hlooked3, _⟩
  have hone : calm → Calm ports 1 w3 := fun hc => (hlooked3.asked.calm hc).mono (by decide)
  cases answer with
  | error error => exact manual_outcome hlooked3.stays rfl hone _ _
  | ok value =>
    dsimp only
    split
    case isTrue => exact unsupported_outcome hlooked3.stays rfl rfl hone _
    split
    case isTrue => exact rollback_outcome hlooked3.stays hmatches rfl hlooked3.asked.calm _
    case isFalse => exact manual_outcome hlooked3.stays rfl hone _ _

/-- A recovery of an activation in progress seals it, unless a manual recovery lacks its notice. -/
theorem recoverPhase_outcome {state : BootstrapRecoveryStateV1} (h : At d baton phase pending w)
    (hstate : Reports w baton phase pending state) (hmatches : Matches execution baton)
    (hcalm : calm → Calm ports (recoveryRecords phase pending) w)
    (hnotice : calm → phase = .manualRecoveryRequired → w.storage.notice.isSome = true) :
    Answers calm d baton (recoverPhase d ports execution baton baton.activationId state) w (Finished d baton) := by
  have hgenerations := h.generations_encode
  rw [recoverPhase, hstate.inPhase]
  split
  case h_1 =>
    obtain ⟨evidence, hresult⟩ := rolledBack_eq (d := d) hgenerations.2.2 "recovered completed rollback"
    rw [hresult]
    exact sealDisposition_outcome (by decide) (h.closed rfl) hgenerations.2.2 rfl nofun hcalm
  case h_2 | h_3 => exact sealDisposition_outcome (by decide) (h.closed rfl) hgenerations.1 rfl nofun hcalm
  case h_4 =>
    rw [hstate.notice]
    cases hstored : w.storage.notice with
    | none =>
      refine ⟨h.resting, fun hc => ?_⟩
      have hsome := hnotice hc rfl
      rw [hstored] at hsome
      cases hsome
    | some notice =>
      refine sealDisposition_outcome (by decide) (h.closed rfl) hgenerations.2.2 rfl (fun _ => ?_) hcalm
      rw [hstored]
      rfl
  case h_5 hrolled hunsupported haborted hmanual =>
    refine recoverInterrupted_outcome h hstate hmatches ?_ hcalm
    revert hrolled hunsupported haborted hmanual
    cases phase <;> simp [awaitsReceipt]

end Recovery

section Execution

private theorem ask_finished (call : Ω → Option α × Ω) (h : Finished d baton result w) :
    Answers False d baton (ask call fun _ => []) w (fun _ => Finished d baton result) := by
  have hfinished (host : Ω) : Finished d baton result { w with host, trace := w.trace ++ [] } :=
    h.same (.refl _) (append_nil _)
  unfold Answers Outcome ask
  rcases call w.host with ⟨_ | a, host⟩
  · exact ⟨(hfinished host).resting, id⟩
  · exact hfinished host

/-- Nothing is promised of an execution that may be interrupted at any time. -/
theorem uncalm {w : World Ω} (ports : Ports Ω) (room : Nat) : False → Calm ports room w := False.elim

private theorem executeVerified_outcome (h : At d baton .candidateLaunching none w)
    (focusedVerification : FocusedVerificationEvidenceV1) :
    Answers False d baton (executeVerified d ports execution baton focusedVerification) w (Finished d baton) := by
  refine .bind (step_outcome h rfl rfl rfl (by decide) (uncalm ports 1)) ?_
  rintro _ w1 ⟨hat1, _⟩
  refine .bind (step_outcome hat1 rfl rfl rfl (by decide) (uncalm ports 1)) ?_
  rintro _ w2 ⟨hat2, _⟩
  refine .bind (step_outcome hat2 rfl rfl rfl (by decide) (uncalm ports 1)) ?_
  rintro _ w3 ⟨hat3, _⟩
  have hlabel : "verified" ∈ coordinatorLabels := by decide
  obtain ⟨receipt, hreceipt, hid, hkind, hhash⟩ := bootstrapReceipt_eq (d := d) execution baton hlabel
    h.generations_encode.2.1 (.activatedVerified focusedVerification)
  refine pass_bind (a := receipt) (by rw [hreceipt]; rfl) ?_
  refine .bind (store_outcome hat3 hid hhash (hkind ▸ rfl) nofun (uncalm ports 0)) ?_
  rintro _ w4 ⟨hfinished4, _⟩
  refine .bind (ask_finished _ hfinished4) ?_
  intro marked w5 hfinished5
  refine lift_bind (fun _ _ => ⟨hfinished5.resting, id⟩) fun _ _ => ?_
  exact .bind (sealTerminal_outcome hfinished5 False.elim) fun _ _ hfinished => hfinished

section
variable (h : At d baton .quiescingCurrent none w)
include h

section
variable (hmatches : Matches execution baton)
include hmatches

private theorem executeLaunch_outcome {selected : ActiveSelectorObservationV1}
    (hcleaned : CleanedUp d w baton.currentProcessGeneration cleanup) (hseen : Seen w selected)
    (hon : selected.on execution.plan.candidate = true) :
    Answers False d baton (executeLaunch d ports execution baton cleanup selected) w (Finished d baton) := by
  refine .bind (step_outcome h rfl rfl rfl (by decide) (uncalm ports 1)) ?_
  rintro _ w1 ⟨hat1, hstep1⟩
  have hfits := fits_effect baton .candidateSelected execution.plan.candidate execution.plan.candidate rfl
    mem_cons_self
  refine .bind (launch_outcome (by decide) hat1 hfits rfl (by decide) (uncalm ports 2) rfl rfl hmatches.candidate
    (hcleaned.follows hstep1.follows) (hseen.follows hstep1.follows) hon) ?_
  intro launch w2 hlaunched
  refine .bind (step_outcome hlaunched.stays rfl rfl rfl (by decide) (uncalm ports 1)) ?_
  rintro _ w3 ⟨hat3, _⟩
  split
  case h_1 => exact executeVerified_outcome hat3 _
  case h_2 => exact rollback_outcome hat3 hmatches rfl (uncalm ports 10) _

private theorem switchFailed_outcome (error : ProfileError) :
    Answers False d baton (switchFailed d ports execution baton error) w (Finished d baton) := by
  refine .bind (observeActiveSelector_outcome h (uncalm ports 0) _) ?_
  rintro answer w1 ⟨hlooked, _⟩
  split
  case isTrue => exact unsupported_outcome hlooked.stays rfl rfl (uncalm ports 1) _
  case isFalse =>
    refine .bind (step_outcome hlooked.stays rfl rfl rfl (by decide) (uncalm ports 1)) ?_
    rintro _ w2 ⟨hat2, _⟩
    exact rollback_outcome hat2 hmatches rfl (uncalm ports 10) _

theorem executeSwitch_outcome
    (hcleaned : CleanedUp d w baton.currentProcessGeneration cleanup) (hmemory : w.receipts = []) :
    Answers False d baton (executeSwitch d ports execution baton cleanup) w (Finished d baton) := by
  have hfits := fits_effect baton .quiescingCurrent execution.plan.current execution.plan.candidate rfl
    (mem_cons_of_mem _ mem_cons_self)
  have hintends : Intends (bootstrapEffect execution.plan.current execution.plan.candidate
      baton.capabilityGeneration baton.candidateProcessGeneration) execution.plan .selectCandidate :=
    ⟨hmatches.capability.symm, hmatches.candidateGeneration.symm, rfl, rfl⟩
  refine .bind (journaled_outcome (fun answer w1 w2 => w1.receipts = [] →
    Tells answer (Proves w2 execution.plan.candidate)) h hfits rfl (by decide) (uncalm ports 2) ?_) ?_
  · intro w1 hat1 hstep1
    refine (applySelector_outcome hat1 (by decide) hstep1.calm hintends _).weaken ?_
    exact fun _ _ hswitched => ⟨hswitched.1.stays, hswitched.1.asked, hswitched.2⟩
  rintro switched w3 ⟨hjournaled, _, w1, w2, hproves, hreceipts, hfollows, _⟩
  cases switched with
  | error error => exact switchFailed_outcome hjournaled.stays hmatches error
  | ok receipt =>
    obtain ⟨hseen, hon⟩ := hproves (hreceipts.trans hmemory) receipt rfl
    exact executeLaunch_outcome hjournaled.stays hmatches (hcleaned.follows hjournaled.follows)
      (hseen.follows hfollows) hon

end

end

private theorem reverifySlots_outcome (slots : List VerifiedBuildSlotV1) (h : At d baton phase pending w)
    (hcalm : calm → Calm ports room w) :
    Answers calm d baton (reverifySlots ports slots).run w (fun _ => Looked d baton phase pending calm ports room w) := by
  induction slots generalizing w with
  | nil => exact ⟨h, .refl hcalm, rfl⟩
  | cons slot rest ih =>
    have hfirst : Answers calm d baton (reverifyUnchanged ports slot).run w
        (fun _ => Looked d baton phase pending calm ports room w) :=
      .bind (reverify_outcome h hcalm slot.handle) fun _ _ h => h
    refine .attempt hfirst (fun _ _ h => h) ?_
    intro _ w1 hlooked1
    exact (ih hlooked1.stays hlooked1.asked.calm).weaken (fun _ _ h => hlooked1.trans h)

private theorem reverifyPlan_outcome (plan : ActivationPlanV1) (h : At d baton phase pending w)
    (hcalm : calm → Calm ports room w) :
    Answers calm d baton (reverifyPlan ports plan).run w (fun _ => Looked d baton phase pending calm ports room w) := by
  refine .attempt (reverifySlots_outcome _ h hcalm) (fun _ _ h => h) ?_
  intro _ w1 hlooked1
  refine .bind (verifySelector_outcome hlooked1.stays hlooked1.asked.calm plan plan.current) ?_
  exact fun _ _ h => hlooked1.trans h.1

theorem executePlan_outcome (h : At d baton .batonDurable none w) (hmatches : Matches execution baton) :
    Answers False d baton (executePlan d ports execution baton) w (Finished d baton) := by
  refine .bind (reverifyPlan_outcome execution.plan h (uncalm ports 0)) ?_
  intro answer w1 hlooked
  cases answer with
  | error error => exact unsupported_outcome hlooked.stays (by exact rfl) rfl (uncalm ports 1) _
  | ok _ =>
    refine .bind (step_outcome hlooked.stays rfl rfl rfl (by decide) (uncalm ports 1)) ?_
    rintro _ w2 ⟨hat2, hstep2⟩
    refine .bind (step_outcome hat2 rfl rfl rfl (by decide) (uncalm ports 1)) ?_
    rintro _ w3 ⟨hat3, hstep3⟩
    have hfits := fits_effect baton .quiescingCurrent execution.plan.current execution.plan.candidate rfl
      mem_cons_self
    refine .bind (cleanup_outcome (by decide) hat3 hfits rfl (by decide) (uncalm ports 2) false) ?_
    rintro answer w4 ⟨hjournaled, hreceipts, hcleaned⟩
    cases answer with
    | error failure => exact unsupported_outcome hjournaled.stays rfl rfl (uncalm ports 1) _
    | ok proof =>
      have hmemory : w4.receipts = [] := by
        rw [hreceipts, hstep3.receipts, hstep2.receipts, hlooked.receipts, h.memory rfl]
      exact executeSwitch_outcome hjournaled.stays hmatches (hcleaned proof rfl) hmemory

end Execution

theorem Resting.activated (h : Resting d baton w) :
    ∃ header, Activated d.toJournalDigests w.storage header ∧ header.activationId = baton.activationId := by
  rcases h with ⟨_, _, h⟩ | ⟨⟨result, hresult, hnamed⟩, _⟩
  · exact h.stage.activated
  · rw [← hnamed]
    exact hresult.activated

theorem state_resting {id : StableId} {k : BootstrapRecoveryStateV1 → CoordinatorProg Ω α}
    {post : α → World Ω → Prop} (h : Resting d baton w) (hother : id ≠ baton.activationId → ∀ e, failed e w)
    (hsealed : ∀ state result, state.terminal = some result → Finished d baton result w → id = baton.activationId →
      Outcome (k state) w post failed)
    (hat : ∀ state phase pending, At d baton phase pending w → Reports w baton phase pending state →
      id = baton.activationId → Outcome (k state) w post failed) :
    Outcome (coordinatorState d id >>= k) w post failed := by
  by_cases hid : id = baton.activationId
  · subst hid
    rcases h with ⟨phase, pending, h⟩ | ⟨⟨result, hresult, hnamed⟩, htraced⟩
    · exact state_bind h fun state hstate => hat state phase pending h hstate rfl
    · obtain ⟨_, state, hload, hterminal⟩ := hresult.readable
      rw [hnamed] at hload
      have hrun : coordinatorState d baton.activationId w = (.ok state, w) := by
        apply (Prog.run_read w).trans
        rw [hload]
        rfl
      unfold Outcome
      rw [Prog.run_bind hrun]
      exact hsealed state result hterminal ⟨hresult, hnamed, htraced⟩ rfl
  · apply Outcome.halts
    apply read_bind
    cases hload : w.storage.loadActivationRecovery d.toJournalDigests id with
    | error e => exact hother hid _
    | ok found =>
      cases found with
      | none => exact hother hid _
      | some state =>
        obtain ⟨header, hactivated, hnamed⟩ := h.activated
        obtain ⟨other, _, hloaded, hid', _⟩ := loadActivationRecovery_eq_some.mp hload
        cases hactivated.stored.symm.trans hloaded.stored
        exact hid (hid'.symm.trans hnamed)

theorem executeActivation_resting (h : Resting d baton w) :
    Ends (executeActivation d ports execution) w (Resting d baton) := by
  refine state_resting h (fun _ _ => h) ?_ ?_
  · intro state result hresult _ _
    rw [hresult]
    exact h
  · intro state phase pending hat hreports _
    rw [hreports.unsealed, hreports.admitted, hreports.inPhase]
    refine pass_bind (a := baton) rfl ?_
    refine orFail_bind (fun _ _ => h) fun _ hvalid => ?_
    refine orFail_bind (fun _ _ => h) fun _ hdurable => ?_
    rw [refuseIf_eq_ok, bne_eq_false_iff_eq] at hdurable
    subst hdurable
    refine (executePlan_outcome (hat.closed rfl) (matches_of_valid hvalid)).conseq ?_ ?_
    · exact fun _ _ hfinished => hfinished.resting
    · exact fun _ _ hinterrupted => hinterrupted.1

/-- The journal has room for a recovery, and what the recovery needs to know. -/
structure Recoverable (s : JournalStorage) : Prop where
  noticed : deriveBootstrapPhase s.records = .manualRecoveryRequired → s.notice.isSome = true
  room : s.records.length + recoveryRecords (deriveBootstrapPhase s.records) (openEffect s.records) ≤ maxJournalRecords

/-- A recovery with the execution of the baton, which nothing will interrupt. -/
structure Undisturbed (d : CoordinatorDigests) (ports : Ports Ω) (baton : BatonAcceptedV1) (id : StableId)
    (execution : Option ActivationExecutionV1) (w : World Ω) : Prop where
  named : id = baton.activationId
  valid : ∃ given, execution = some given ∧ validateExecution d given baton = .ok ()
  live : ports.Live
  ready : w.journal.Ready
  recoverable : w.storage.receipt = none → Recoverable w.storage

/-- `recover_activation` from a resting activation seals it, unless disturbed. -/
theorem recoverActivation_outcome (h : Resting d baton w) (id : StableId) (execution : Option ActivationExecutionV1) :
    Answers (Undisturbed d ports baton id execution w) d baton (recoverActivation d ports id execution) w (Finished d baton) := by
  refine state_resting h (fun hother _ => ⟨h, fun hcalm => hother hcalm.named⟩) ?_ ?_
  · intro state result hresult hfinished _
    rw [hresult]
    exact hfinished
  · intro state phase pending hat hreports hid
    subst hid
    rw [hreports.unsealed, hreports.admitted]
    refine orFail_bind (fun e he => ⟨h, fun hcalm => ?_⟩) fun given hgiven => ?_
    · obtain ⟨_, hsome, _⟩ := hcalm.valid
      rw [hsome] at he
      cases he
    refine pass_bind (a := baton) rfl ?_
    refine orFail_bind (fun e he => ⟨h, fun hcalm => ?_⟩) fun _ hvalid => ?_
    · obtain ⟨_, hsome, hvalid⟩ := hcalm.valid
      rw [hsome] at hgiven
      cases hgiven
      cases hvalid.symm.trans he
    have hrecoverable (hcalm : Undisturbed d ports baton baton.activationId execution w) :=
      hcalm.recoverable hat.stage.unsealed
    refine recoverPhase_outcome hat hreports (matches_of_valid hvalid) (fun hcalm => ?_) fun hcalm => ?_
    · have hroom := (hrecoverable hcalm).room
      rw [hat.stage.derived, hat.stage.opened] at hroom
      exact ⟨hcalm.live, hcalm.ready, hroom⟩
    · have hnoticed := (hrecoverable hcalm).noticed
      rw [hat.stage.derived] at hnoticed
      exact hnoticed

theorem Resting.same (h : Resting d baton w) (hfiles : SameFiles w.storage w'.storage) (htrace : w'.trace = w.trace)
    (hreceipts : w'.receipts = w.receipts ∨ w'.receipts = []) : Resting d baton w' := by
  rcases h with ⟨phase, pending, h⟩ | ⟨⟨result, hresult, hnamed⟩, htraced⟩
  · refine .inl ⟨phase, pending, h.stage.same hfiles, h.fits, htrace ▸ h.traced, fun hdurable => ?_⟩
    exact hreceipts.elim (fun hsame => hsame.trans (h.memory hdurable)) id
  · exact .inr ⟨⟨result, hresult.same hfiles, hnamed⟩, htrace ▸ htraced⟩

namespace World

private theorem step_resting (h : Resting d baton w) (next : CoordinatorStep) : Resting d baton (w.step d ports next) := by
  have hfacing (writes : List WriteOutcome) : Resting d baton (w.facing writes) :=
    h.same (.refl _) rfl (.inl rfl)
  cases next with
  | execute writes execution => exact (executeActivation_resting (hfacing writes)).state
  | recover writes id execution =>
    refine Outcome.state ((recoverActivation_outcome (hfacing writes) id execution).conseq ?_ ?_)
    · exact fun _ _ hfinished => hfinished.resting
    · exact fun _ _ hinterrupted => hinterrupted.1
  | restart => exact h.same ⟨rfl, rfl, rfl, rfl⟩ rfl (.inr rfl)
  | acquire writes =>
    have hacquired : Ends (onJournal acquireSingleFlight) (w.facing writes) (Resting d baton) :=
      .zoom (acquireSingleFlight_same.conseq
        (fun _ _ hsame => (hfacing writes).same hsame rfl (.inl rfl))
        fun _ _ hsame => (hfacing writes).same hsame rfl (.inl rfl))
    exact hacquired.state

theorem run_resting (h : Resting d baton w) (steps : List CoordinatorStep) : Resting d baton (w.run d ports steps) := by
  induction steps generalizing w with
  | nil => exact h
  | cons next rest ih => exact ih (step_resting h next)

/-- An activation whose baton is durable and for which nothing was done yet. -/
structure Starts (d : CoordinatorDigests) (baton : BatonAcceptedV1) (w : World Ω) : Prop where
  stage : Stage d.toJournalDigests baton .batonDurable none w.storage
  memory : w.receipts = []
  trace : w.trace = []

theorem Starts.resting (h : Starts d baton w) : Resting d baton w := by
  refine .inl ⟨_, _, h.stage, .closed rfl, ?_, fun _ => h.memory⟩
  rw [h.trace]
  exact .nil

end World

theorem Resting.traced (h : Resting d baton w) : Justified (HostAdmits d baton) w.trace := by
  rcases h with ⟨_, _, h⟩ | ⟨_, h⟩
  · exact h.traced
  · exact h

/-- In every run the host is changed behind an open intent only, and a build is launched only after the generation it
replaces was cleaned up and its slot seen selected. -/
theorem World.host_changes_intended (d : CoordinatorDigests) (ports : Ports Ω) (baton : BatonAcceptedV1) (w : World Ω)
    (hstart : w.Starts d baton) (steps : List CoordinatorStep) (before : List HostEntry) (entry : HostEntry)
    (after : List HostEntry) (htrace : (w.run d ports steps).trace = before ++ entry :: after) :
    (entry.event.changes = true →
      ∃ effect, openEffect entry.records = some effect ∧ entry.event.DescribedBy effect baton) ∧
    ∀ spec answer, entry.event = .launched spec answer →
      (∃ observation, (∃ earlier ∈ before, earlier.event = .observed (some (.ok observation))) ∧
        observation.on spec.slot = true) ∧
      (spec.role = .candidate → spec.slot.buildContentHash = baton.candidateSlotHash ∧
        CleanupObserved d before entry.records baton.currentProcessGeneration) ∧
      (spec.role = .previous → spec.slot.buildContentHash = baton.previousSlotHash ∧
        CleanupObserved d before entry.records baton.candidateProcessGeneration) := by
  have hadmits := (World.run_resting hstart.resting steps).traced before entry after htrace
  refine ⟨hadmits.described, fun spec answer hlaunched => ?_⟩
  have hprepared := hadmits.prepared spec answer hlaunched
  obtain ⟨earlier, hearlier, observation, hobserved, hon⟩ := hprepared.selected
  have hgenerations := hprepared.generations
  have hslot := hprepared.slot
  refine ⟨⟨observation, ⟨earlier, hearlier, hobserved⟩, hon⟩, fun hrole => ?_, fun hrole => ?_⟩
  all_goals
    rw [hrole] at hgenerations hslot
    refine ⟨hslot, ?_⟩
    rw [← (Prod.mk.inj hgenerations).2]
    exact hprepared.cleanup

/-- A recovery in progress, with its baton's execution, passes its checks. -/
theorem recoverActivation_at {post : BootstrapResultV1 → World Ω → Prop} {failed : Halt → World Ω → Prop}
    (h : At d baton phase pending w) (hvalid : validateExecution d execution baton = .ok ())
    (hphase : ∀ state, Reports w baton phase pending state →
      Outcome (recoverPhase d ports execution baton baton.activationId state) w post failed) :
    Outcome (recoverActivation d ports baton.activationId (some execution)) w post failed := by
  refine state_bind h fun state hstate => ?_
  rw [hstate.unsealed, hstate.admitted]
  refine pass_bind (a := execution) rfl ?_
  refine pass_bind (a := baton) rfl ?_
  refine pass_bind (a := ()) (by rw [hvalid]; rfl) ?_
  exact hphase state hstate

section Sample
variable (d)

def sampleSlot (build : String) : VerifiedBuildSlotV1 where
  buildContentHash := build
  manifestHash := "manifest"
  rootIdentityHash := "root"
  ownerIdentityHash := "owner"
  volumeIdentityHash := "volume"
  expectedCoreEntry := "core"
  dataCompatibility := .rollbackCompatible
  handle := ⟨.ofText "handle.1", build, "root", "manifest", 1⟩
  handle_build := rfl
  handle_root := rfl

def sampleChecks : FocusedVerificationPlanV1 :=
  let unhashed : FocusedVerificationPlanV1 := { planId := .ofText "plan.1", checks := [], planHash := "" }
  { unhashed with planHash := "sha256:" ++ (d.plan unhashed).text }

/-- The sample's baton, bound to the plan of its checks. -/
def sampleBound : BatonAcceptedV1 :=
  { sampleBaton with verificationPlanHash := (sampleChecks d).planHash }

def sampleExecution : ActivationExecutionV1 where
  plan :=
    { activationId := (sampleBound d).activationId, capabilityGeneration := 1, capabilityDigest := "capability",
      selectorIdentityHash := "selector", current := sampleSlot "current", candidate := sampleSlot "candidate",
      previous := sampleSlot "previous", currentProcessGeneration := 1, candidateProcessGeneration := 2,
      rollbackProcessGeneration := 3, deadlines := (sampleBound d).deadlines }
  installationId := .ofText "installation.1"
  managementCheckpointId := (sampleBound d).managementCheckpointId
  verificationPlan := sampleChecks d
  helperDetachedAndSurviving := true
  sealedAtEpochMs := 1000

theorem sampleExecution_valid : validateExecution d (sampleExecution d) (sampleBound d) = .ok () := by
  have hhash : canonicalHash [] (d.plan { sampleChecks d with planHash := "" }) = .ok (sampleChecks d).planHash := rfl
  refine (refuseIf_eq_ok _ _ ()).mpr ?_
  simp [sampleExecution, sampleBound, hhash, sampleBaton, sampleSlot]

def sampleDurable : ActivationJournal :=
  ((sampleHeaded d.toJournalDigests).grown d.toJournalDigests (.batonAccepted (sampleBound d))).grown
    d.toJournalDigests (.phaseAdvance .batonDurable)

def sampleWorld (host : Ω) : World Ω where
  journal := sampleDurable d
  receipts := []
  host := host
  trace := []

theorem sampleWorld_starts (host : Ω) : (sampleWorld d host).Starts d (sampleBound d) := by
  have hadmitted : Activated d.toJournalDigests
      ((sampleHeaded d.toJournalDigests).storage.grown d.toJournalDigests
        (.batonAccepted (sampleBound d))) (sampleHeader d.toJournalDigests) :=
    (sampleHeaded_activated d.toJournalDigests).grown (by decide : 0 < 512) rfl rfl
  have hdurable : Activated d.toJournalDigests (sampleDurable d).storage
      (sampleHeader d.toJournalDigests) := hadmitted.grown (by decide : 1 < 512) rfl rfl
  exact ⟨⟨⟨_, hdurable, rfl⟩, rfl, rfl, rfl, rfl, nofun⟩, rfl, rfl⟩

def refusing : Ports Unit where
  reverifyOpenedSlot _ host := (some (.error ⟨"refused"⟩), host)
  markCandidateActivatedVerified host := (some (.error ⟨"refused"⟩), host)
  observe host := (some (.error (.observation "refused")), host)
  atomicReplace _ host := (some (.error (.selector "refused")), host)
  cleanupGeneration _ _ _ _ _ host := (some (.error ⟨"refused"⟩), host)
  launchAndWatch _ host := (some (.error ⟨"refused"⟩), host)
  stableLauncherNotice _ host := (some (), host)

theorem refusing_live : refusing.Live where
  reverifies _ _ := rfl
  marks _ := rfl
  observes _ := rfl
  replaces _ _ := rfl
  cleans _ _ _ _ _ _ := rfl
  launches _ _ := rfl
  notifies _ _ := rfl

def sampleObservation : ActiveSelectorObservationV1 where
  selectorIdentityHash := "selector"
  selectedBuildContentHash := "previous"
  selectedRootIdentityHash := "root"
  capabilityGeneration := 1
  observationHash := "observation"

/-- The previous build is selected, all slots are as planned and a cleanup succeeds; a launch stops the helper. -/
def relaunching : Ports Unit :=
  { refusing with
    reverifyOpenedSlot := fun handle host => (some (.ok (sampleSlot handle.buildContentHash)), host)
    observe := fun host => (some (.ok sampleObservation), host)
    cleanupGeneration := fun _ _ generation _ _ host =>
      (some (.ok ⟨generation, true, false, 0, true, false, "proof"⟩), host)
    launchAndWatch := fun _ host => (none, host) }

section Launch
variable {w : World Unit} {failed : Halt → World Unit → Prop}

/-- Undisturbed, the journal is never in the way. -/
theorem answers_certain {m : CoordinatorProg Unit α} {post : α → World Unit → Prop}
    (h : Answers True d baton m w post) : Outcome m w post failed :=
  h.refail fun _ _ hinterrupted => (hinterrupted.2 trivial).elim

/-- A question whose answer is known. -/
theorem asked_certain {m : CoordinatorProg Unit α} {a : α} (hrun : ∃ w', m w = (.ok a, w'))
    (hm : Answers False d baton m w fun _ w' => At d baton phase pending w' ∧ Asked False relaunching room w w')
    (hcalm : True → Calm refusing room w) :
    Outcome m w (fun answer w' => At d baton phase pending w' ∧ Asked True refusing room w w' ∧ answer = a) failed := by
  obtain ⟨w', hrun⟩ := hrun
  obtain ⟨hat, hasked⟩ := hm.of_ok hrun
  have hcalm' : Calm refusing room w' := by
    refine ⟨refusing_live, hasked.journal ▸ (hcalm trivial).ready, ?_⟩
    rw [hasked.storage]
    exact (hcalm trivial).room
  unfold Outcome
  rw [hrun]
  exact ⟨hat, ⟨hasked.journal, hasked.trace, fun _ => hcalm'⟩, rfl⟩

theorem relaunching_outcome :
    Outcome (recoverActivation d relaunching (sampleBound d).activationId (some (sampleExecution d))) (sampleWorld d ())
      (fun _ _ => False) fun _ w' => ∃ before records spec, spec.role = .previous ∧
        w'.trace = before ++ [⟨records, .launched spec none⟩] := by
  have hstart := sampleWorld_starts d ()
  have hat : At d (sampleBound d) .batonDurable none (sampleWorld d ()) :=
    ⟨hstart.stage, .closed rfl, .nil, fun _ => rfl⟩
  have hcalm (_ : True) : Calm refusing 8 (sampleWorld d ()) := ⟨refusing_live, ⟨rfl, rfl⟩, (by decide : 10 ≤ 512)⟩
  refine recoverActivation_at hat (sampleExecution_valid d) fun state hstate => ?_
  rw [recoverPhase, hstate.inPhase, recoverInterrupted, hstate.inPhase, hstate.opened]
  refine .via (fun _ w' => w' = sampleWorld d ()) rfl ?_
  rintro _ _ rfl
  refine .bind (answers_certain d (reach_outcome hat (fun _ => rfl) (fun _ => nofun) rfl (by decide) hcalm)) ?_
  rintro _ w1 ⟨hat1, hstep1⟩
  refine .bind (asked_certain d ⟨_, rfl⟩ ((observeActiveSelector_outcome hat1 (uncalm relaunching 7) _).weaken
    fun _ _ h => ⟨h.1.stays, h.1.asked⟩) hstep1.calm) ?_
  rintro _ w2 ⟨hat2, hasked2, rfl⟩
  refine .bind (answers_certain d (reach_outcome hat2 (fun _ => rfl) (fun _ => nofun) rfl (by decide) hasked2.calm)) ?_
  rintro _ w3 ⟨hat3, hstep3⟩
  let plan := (sampleExecution d).plan
  have hcleaning := fits_effect (sampleBound d) .rollingBack plan.candidate plan.previous rfl mem_cons_self
  refine .bind (answers_certain d (journaled_outcome (fun a _ _ => ∃ proof, a = .ok proof) hat3 hcleaning rfl
    (by decide) hstep3.calm fun v hat hstep => ?_)) ?_
  · obtain ⟨attempt, hattempt⟩ := @stableId_eq d "candidate-cleanup" (by decide) (sampleBound d).activationId
    refine (asked_certain d (a := .ok ⟨2, true, false, 0, true, false, "proof"⟩) ?_
      ((cleanupUnder_outcome (by decide) hat rfl (uncalm relaunching 5) true).weaken
        fun _ _ h => ⟨h.1.stays, h.1.asked⟩) hstep.calm).weaken fun _ _ h => ⟨h.1, h.2.1, _, h.2.2⟩
    rw [cleanupUnder, hattempt]
    exact ⟨_, rfl⟩
  rintro _ w4 ⟨hdone4, -, _, _, ⟨proof, rfl⟩, -⟩
  have hrestoring := fits_effect (sampleBound d) .rollingBack plan.candidate plan.previous rfl
    (mem_cons_of_mem _ mem_cons_self)
  refine .bind (answers_certain d (journaled_outcome (fun a _ _ => a = .ok sampleObservation) hdone4.stays hrestoring rfl
    (by decide) hdone4.calm fun v hat hstep => ?_)) ?_
  · exact asked_certain d ⟨_, rfl⟩ ((restoreSelector_outcome hat (uncalm relaunching 3) ⟨rfl, rfl, rfl, rfl⟩).weaken
      fun _ _ h => ⟨h.stays, h.asked⟩) hstep.calm
  rintro _ w5 ⟨hdone5, -, _, _, rfl, -⟩
  refine .bind (asked_certain d ⟨_, rfl⟩ ((reverify_outcome hdone5.stays (uncalm relaunching 2) _).weaken
    fun _ _ h => ⟨h.stays, h.asked⟩) hdone5.calm) ?_
  rintro _ w6 ⟨hat6, hasked6, rfl⟩
  refine .bind (asked_certain d ⟨_, rfl⟩ ((verifySelector_outcome hat6 (uncalm relaunching 2) plan plan.previous).weaken
    fun _ _ h => ⟨h.1.stays, h.1.asked⟩) hasked6.calm) ?_
  rintro _ w7 ⟨hat7, hasked7, rfl⟩
  refine .bind (answers_certain d (step_outcome hat7 rfl rfl rfl (by decide) hasked7.calm)) ?_
  rintro _ w8 ⟨hat8, hstep8⟩
  apply Outcome.halts
  have hlaunching := fits_effect (sampleBound d) .previousSelected plan.previous plan.previous rfl mem_cons_self
  refine .bind (answers_certain d (intent_outcome hat8 hlaunching rfl (by decide) hstep8.calm)) fun _ w9 _ => ?_
  apply Outcome.halts
  refine stableId_bind (by decide) _ fun attempt => ?_
  exact ⟨w9.trace, w9.storage.records, _, rfl, rfl⟩

end Launch

/-- The sample's helper stops in the relaunch of the previous build, behind the cleanup of the candidate's generation. -/
theorem World.sample_launch_intended : (∀ d, (sampleWorld d ()).Starts d (sampleBound d)) ∧ ∀ d,
    ∃ before records spec effect, ((sampleWorld d ()).run d relaunching
        [.recover [] (sampleBound d).activationId (some (sampleExecution d))]).trace =
      before ++ [⟨records, .launched spec none⟩] ∧ openEffect records = some effect ∧
    (HostEvent.launched spec none).DescribedBy effect (sampleBound d) ∧
    CleanupObserved d before records (sampleBound d).candidateProcessGeneration := by
  refine ⟨fun d => sampleWorld_starts d (), fun d => ?_⟩
  obtain ⟨before, records, spec, hrole, htrace⟩ := Outcome.state
    ((relaunching_outcome d).weaken (fun _ _ h => h.elim))
  obtain ⟨hdescribed, hlaunched⟩ := World.host_changes_intended d relaunching (sampleBound d) _
    (sampleWorld_starts d ()) [.recover [] (sampleBound d).activationId (some (sampleExecution d))] before _ [] htrace
  obtain ⟨effect, hopened, heffect⟩ := hdescribed rfl
  exact ⟨before, records, spec, effect, htrace, hopened, heffect, ((hlaunched spec none rfl).2.2 hrole).2⟩

end Sample

end Aworkit.Helper
