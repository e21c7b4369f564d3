import Aworkit.Helper.CoordinatorStage

/-! The parts of the coordinator's runs: the selector adapter under its intent, effects behind their intents, and the
ways a run ends with a sealed result. -/
namespace Aworkit.Helper
open Protocol Fallible Hoare JournalStorage ActivationJournal

variable {kind : SelectorMutationKindV1} {mutation : SelectorMutationV1} {label : String} {plan : ActivationPlanV1}

variable {Ω α : Type} {d : CoordinatorDigests} {ports : Ports Ω} {baton : BatonAcceptedV1}
  {phase : BootstrapPhaseV1} {pending : Option BootstrapEffectV1} {w w' : World Ω} {calm : Prop} {room : Nat}
  {effect : BootstrapEffectV1} {failed : Halt → World Ω → Prop} {recipient : Nat} {β ε : Type}
  {slot : VerifiedBuildSlotV1} {good : α → Prop}

/-- What an answer that is not an error says. -/
def Tells {ε : Type} (answer : Except ε α) (good : α → Prop) : Prop := ∀ a, answer = .ok a → good a

theorem Tells.error {e : ε} : Tells (.error e) good := by
  intro a h
  cases h

theorem Tells.ok {a : α} (h : good a) : Tells (.ok a : Except ε α) good := by
  intro b hb
  cases hb
  exact h

/-- The native selector answered with this observation. -/
def Seen (w : World Ω) (observation : ActiveSelectorObservationV1) : Prop :=
  ∃ entry ∈ w.trace, entry.event = .observed (some (.ok observation))

theorem Seen.follows (h : Seen w observation) (hfollows : Follows w w') : Seen w' observation := by
  obtain ⟨entry, hmem, hevent⟩ := h
  exact ⟨entry, hfollows.trace.subset hmem, hevent⟩

/-- A cleanup succeeded with this proof, and the journal has its observation. -/
structure CleanedUp (d : CoordinatorDigests) (w : World Ω) (generation : Nat) (proof : ProcessTreeCleanupV1) :
    Prop where
  traced : ∃ entry ∈ w.trace, entry.event = .cleanedUp generation (some (.ok proof))
  recorded : ∃ record ∈ w.storage.records, ∃ effect, record.payload = .observedEffect effect ∧
    effect.processGeneration = generation ∧
    effect.observationHash = "sha256:" ++ (d.observation (cleanupObservation (.ok proof))).text

theorem CleanedUp.follows (h : CleanedUp d w generation proof)
    (hfollows : Follows w w') : CleanedUp d w' generation proof := by
  obtain ⟨⟨entry, hentry, hevent⟩, record, hrecord, hpayload⟩ := h
  exact ⟨⟨entry, hfollows.trace.subset hentry, hevent⟩, record, hfollows.records.subset hrecord, hpayload⟩

section Adapter

theorem remembered_bind {k : World Ω → SelectorProg Ω β} {last : Except ProfileError β → World Ω → Prop}
    (h : Outcome (k w).run w last failed) : Outcome (.lift Prog.read >>= k).run w last failed := h

theorem checked_bind {x : Except ProfileError α} {k : α → SelectorProg Ω β}
    {last : Except ProfileError β → World Ω → Prop} (herror : ∀ e, x = .error e → last (.error e) w)
    (hok : ∀ a, x = .ok a → Outcome (k a).run w last failed) : Outcome (checked x >>= k).run w last failed := by
  cases x with
  | error e => exact herror e rfl
  | ok a => exact hok a rfl

section
variable (h : At d baton phase pending w)
include h

section
variable (hcalm : calm → Calm ports room w)
include hcalm

theorem reverify_outcome (handle : OpenBuildSlotHandleV1) :
    Answers calm d baton (ports.reverify handle) w (fun _ => Looked d baton phase pending calm ports room w) :=
  ask_silent (ports.reverifyOpenedSlot handle) h (fun hlive => hlive.reverifies handle) hcalm

theorem reverifySlot_outcome (handle : OpenBuildSlotHandleV1) :
    Answers calm d baton (reverifySlot ports handle).run w (fun _ => Looked d baton phase pending calm ports room w) :=
  .bind (reverify_outcome h hcalm handle) fun _ _ h => h

theorem observeNative_outcome :
    Answers calm d baton ports.observeNative.run w (fun answer w' =>
      Looked d baton phase pending calm ports room w w' ∧ Tells answer (Seen w')) := by
  refine (ask_traced ports.observe .observed h .observed (fun hlive => hlive.observes) hcalm).weaken ?_
  rintro answer w' ⟨hlooked, hentry⟩
  refine ⟨hlooked, ?_⟩
  rintro observation rfl
  exact ⟨_, hentry, rfl⟩

theorem observeActiveSelector_outcome (plan : ActivationPlanV1) :
    Answers calm d baton (observeActiveSelector ports plan).run w (fun answer w' =>
      Looked d baton phase pending calm ports room w w' ∧ Tells answer (Seen w')) := by
  refine .attempt (observeNative_outcome h hcalm) (fun _ _ hlooked => ⟨hlooked.1, .error⟩) ?_
  rintro observation w' ⟨hlooked, hseen⟩
  exact checked_bind (fun _ _ => ⟨hlooked, .error⟩) fun _ _ => ⟨hlooked, .ok (hseen observation rfl)⟩

theorem verifySelector_outcome
    (plan : ActivationPlanV1) (slot : VerifiedBuildSlotV1) :
    Answers calm d baton (verifySelector ports plan slot.handle).run w (fun answer w' =>
      Looked d baton phase pending calm ports room w w' ∧
        Tells answer fun observation => Seen w' observation ∧ observation.on slot = true) := by
  refine .attempt (reverifySlot_outcome h hcalm _) (fun _ _ hlooked => ⟨hlooked, .error⟩) ?_
  intro _ w1 hfirst
  refine .attempt (observeActiveSelector_outcome hfirst.stays hfirst.asked.calm plan)
    (fun _ _ hlooked => ⟨hfirst.trans hlooked.1, .error⟩) ?_
  rintro observation w2 ⟨hsecond, hseen⟩
  refine checked_bind (fun _ _ => ⟨hfirst.trans hsecond, .error⟩) fun _ hselects => ⟨hfirst.trans hsecond, .ok ?_⟩
  refine ⟨hseen observation rfl, ?_⟩
  rwa [refuseIf_eq_ok, Bool.not_eq_false', slot.handle_build, slot.handle_root] at hselects

end

end

/-- An intent of the switch that a mutation makes. -/
structure Intends (effect : BootstrapEffectV1) (plan : ActivationPlanV1) (kind : SelectorMutationKindV1) : Prop where
  capability : effect.capabilityGeneration = plan.capabilityGeneration
  generation : effect.processGeneration = (plan.route kind).2.2
  source : effect.currentSlotHash = (plan.route kind).1.buildContentHash
  destination : effect.targetSlotHash = (plan.route kind).2.1.buildContentHash

theorem Intends.describes (h : Intends effect plan kind)
    (hmutation : selectorMutation d plan kind expected = .ok mutation)
    (answer : Option (Except ProfileError NativeSelectorMutationOutcomeV1)) :
    (HostEvent.replaced mutation answer).DescribedBy effect baton := by
  simp only [selectorMutation, bind_ok_iff] at hmutation
  obtain ⟨_, _, _, _, _, _, ⟨⟩⟩ := hmutation
  exact ⟨h.capability, h.generation, h.source, h.destination⟩

/-- What a switch through the adapter leaves. -/
structure Switched (d : CoordinatorDigests) (baton : BatonAcceptedV1) (phase : BootstrapPhaseV1)
    (effect : BootstrapEffectV1) (calm : Prop) (ports : Ports Ω) (room : Nat) (w w' : World Ω) : Prop where
  stays : At d baton phase (some effect) w'
  asked : Asked calm ports room w w'

theorem Switched.then {w'' : World Ω} (h : Switched d baton phase effect calm ports room w w')
    (h' : Looked d baton phase (some effect) calm ports room w' w'') :
    Switched d baton phase effect calm ports room w w'' := ⟨h'.stays, h.asked.trans h'.asked⟩

/-- A receipt tells what was seen last, the slot the mutation selects. -/
def Proves (w : World Ω) (slot : VerifiedBuildSlotV1) (receipt : SelectorMutationReceiptV1) : Prop :=
  Seen w receipt.after ∧ receipt.after.on slot = true

private theorem remember_outcome {receipt : SelectorMutationReceiptV1} {w0 : World Ω}
    (h : Switched d baton phase effect calm ports room w0 w) (hphase : phase ≠ .batonDurable)
    (hreceipt : Proves w slot receipt) :
    Answers calm d baton (remember mutation receipt >>= fun _ => (pure receipt : SelectorProg Ω SelectorMutationReceiptV1)).run w
      (fun answer w' => Switched d baton phase effect calm ports room w0 w' ∧ Tells answer (Proves w' slot)) := by
  refine ⟨⟨⟨h.stays.stage, h.stays.fits, h.stays.traced, fun hdurable => absurd hdurable hphase⟩,
    ⟨h.asked.journal, h.asked.trace, fun hc => ?_⟩⟩, .ok hreceipt⟩
  exact ⟨(h.asked.calm hc).live, (h.asked.calm hc).ready, (h.asked.calm hc).room⟩

section
variable (h : At d baton phase (some effect) w) (hphase : phase ≠ .batonDurable) (hcalm : calm → Calm ports room w)
  (hintends : Intends effect plan kind)
include h hphase hcalm hintends

private theorem applyFresh_outcome {expected : BootstrapPhaseV1}
    (hmutation : selectorMutation d plan kind expected = .ok mutation) :
    Answers calm d baton (applyFresh d ports plan kind mutation).run w (fun answer w' =>
      Switched d baton phase effect calm ports room w w' ∧ Tells answer (Proves w' (plan.route kind).2.1)) := by
  have hstart : Switched d baton phase effect calm ports room w w := ⟨h, .refl hcalm⟩
  refine .attempt (reverifySlot_outcome h hcalm _) (fun _ _ hlooked => ⟨hstart.then hlooked, .error⟩) ?_
  intro _ w1 hlooked1
  have hswitched1 := hstart.then hlooked1
  refine .attempt (reverifySlot_outcome hlooked1.stays hlooked1.asked.calm _)
    (fun _ _ hlooked => ⟨hswitched1.then hlooked, .error⟩) ?_
  intro _ w2 hlooked2
  have hswitched2 := hswitched1.then hlooked2
  refine .attempt (observeNative_outcome hlooked2.stays hlooked2.asked.calm)
    (fun _ _ hlooked => ⟨hswitched2.then hlooked.1, .error⟩) ?_
  rintro before w3 ⟨hlooked3, _⟩
  have hswitched3 := hswitched2.then hlooked3
  refine checked_bind (fun _ _ => ⟨hswitched3, .error⟩) fun _ _ => ?_
  have hadmits (answer) : HostAdmits d baton w3.trace ⟨w3.storage.records, .replaced mutation answer⟩ :=
    ⟨fun _ => ⟨effect, hlooked3.stays.stage.opened, hintends.describes hmutation answer⟩,
      fun _ _ h => HostEvent.noConfusion h⟩
  refine Outcome.attempt (ask_traced (ports.atomicReplace mutation) (.replaced mutation) hlooked3.stays hadmits
    (fun hlive => hlive.replaces mutation) hlooked3.asked.calm)
    (fun _ _ hlooked => ⟨hswitched3.then hlooked.1, .error⟩) ?_
  rintro outcome w4 ⟨hlooked4, _⟩
  have hswitched4 := hswitched3.then hlooked4
  refine checked_bind (fun _ _ => ⟨hswitched4, .error⟩) fun after _ => ?_
  refine checked_bind (fun _ _ => ⟨hswitched4, .error⟩) fun _ hafter => ?_
  refine .attempt (observeNative_outcome hlooked4.stays hlooked4.asked.calm)
    (fun _ _ hlooked => ⟨hswitched4.then hlooked.1, .error⟩) ?_
  rintro reopened w5 ⟨hlooked5, hseen⟩
  have hswitched5 := hswitched4.then hlooked5
  refine checked_bind (fun _ _ => ⟨hswitched5, .error⟩) fun _ hreopened => ?_
  rw [refuseIf_eq_ok, bne_eq_false_iff_eq] at hreopened
  rw [refuseIf_eq_ok, Bool.not_eq_false', Bool.and_eq_true] at hafter
  subst hreopened
  exact remember_outcome hswitched5 hphase ⟨hseen _ rfl, hafter.2⟩

theorem applySelector_outcome (expected : BootstrapPhaseV1) :
    Answers calm d baton (applySelector d ports plan kind expected).run w (fun answer w' =>
      Switched d baton phase effect calm ports room w w' ∧
        (w.receipts = [] → Tells answer (Proves w' (plan.route kind).2.1))) := by
  have hstart : Switched d baton phase effect calm ports room w w := ⟨h, .refl hcalm⟩
  refine checked_bind (fun _ _ => ⟨hstart, fun _ => .error⟩) fun _ _ => ?_
  refine checked_bind (fun _ _ => ⟨hstart, fun _ => .error⟩) fun mutation hmutation => ?_
  refine remembered_bind ?_
  split
  case h_1 hash receipt hlookup =>
    refine ⟨hstart, fun hempty => ?_⟩
    rw [hempty] at hlookup
    cases hlookup
  case h_2 =>
    refine (applyFresh_outcome h hphase hcalm hintends hmutation).weaken ?_
    rintro answer w' ⟨hswitched, hreceipt⟩
    exact ⟨hswitched, fun _ => hreceipt⟩

end

end Adapter

/-- What `validate_execution` compares and the runs rely on. -/
structure Matches (execution : ActivationExecutionV1) (baton : BatonAcceptedV1) : Prop where
  capability : execution.plan.capabilityGeneration = baton.capabilityGeneration
  candidate : execution.plan.candidate.buildContentHash = baton.candidateSlotHash
  previous : execution.plan.previous.buildContentHash = baton.previousSlotHash
  candidateGeneration : execution.plan.candidateProcessGeneration = baton.candidateProcessGeneration
  rollbackGeneration : execution.plan.rollbackProcessGeneration = baton.rollbackProcessGeneration

theorem matches_of_valid (h : validateExecution d execution baton = .ok u) : Matches execution baton := by
  simp only [validateExecution, refuseIf_eq_ok, unmet] at h
  obtain ⟨⟨⟨⟨⟨⟨⟨⟨⟨⟨⟨⟨_, hcapability⟩, _⟩, hcandidate⟩, hprevious⟩, _⟩, hgeneration⟩, hrollback⟩, _⟩, _⟩, _⟩, _⟩, _⟩ := h
  exact ⟨hcapability, hcandidate, hprevious, hgeneration, hrollback⟩

/-- A journaled effect leaves the phase, with the effect observed. -/
structure Journaled (d : CoordinatorDigests) (baton : BatonAcceptedV1) (phase : BootstrapPhaseV1) (calm : Prop)
    (ports : Ports Ω) (room : Nat) (w w' : World Ω) : Prop where
  stays : At d baton phase none w'
  follows : Follows w w'
  calm : calm → Calm ports room w'

theorem journaled_outcome (during : α → World Ω → World Ω → Prop)
    {observation : α → Observation} (h : At d baton phase none w) (hfits : Fits baton phase (some effect))
    (hblank : effect.observationHash = "") (hphase : phase ≠ .batonDurable) (hcalm : calm → Calm ports (room + 2) w)
    (hattempt : ∀ w1, At d baton phase (some effect) w1 → Stepped calm ports (room + 1) w w1 →
      Answers calm d baton attempt w1 (fun a w2 => At d baton phase (some effect) w2 ∧ Asked calm ports (room + 1) w1 w2 ∧
        during a w1 w2)) :
    Answers calm d baton (journaled d baton.activationId effect attempt observation) w
      (fun a w' => Journaled d baton phase calm ports room w w' ∧ Recorded d w' effect (observation a) ∧
        ∃ w1 w2, during a w1 w2 ∧ w1.receipts = w.receipts ∧ Follows w2 w' ∧ w'.receipts = w2.receipts) := by
  refine .bind (intent_outcome h hfits hblank hphase hcalm) ?_
  rintro _ w1 ⟨hat1, hstep1⟩
  refine .bind (hattempt w1 hat1 hstep1) ?_
  rintro a w2 ⟨hat2, hasked, hduring⟩
  refine .bind (observe_outcome hat2 hphase (observation a) hasked.calm) ?_
  rintro _ w3 ⟨hat3, hstep3, hrecorded⟩
  refine ⟨⟨hat3, (hstep1.asked hasked).trans hstep3.follows, hstep3.calm⟩, hrecorded, w1, w2, hduring,
    hstep1.receipts, hstep3.follows, hstep3.receipts⟩

theorem cleanupUnder_outcome (hlabel : label ∈ coordinatorLabels) (h : At d baton phase (some effect) w)
    (hgeneration : effect.processGeneration = generation) (hcalm : calm → Calm ports room w) (required : Bool) :
    Answers calm d baton (cleanupUnder d ports baton label generation required) w (fun answer w' =>
      Looked d baton phase (some effect) calm ports room w w' ∧ Tells answer fun proof =>
        ∃ entry ∈ w'.trace, entry.event = .cleanedUp generation (some (.ok proof))) := by
  refine stableId_bind hlabel _ fun attempt => ?_
  have hadmits (answer) : HostAdmits d baton w.trace ⟨w.storage.records, .cleanedUp generation answer⟩ :=
    ⟨fun _ => ⟨effect, h.stage.opened, (h.fits.intended effect rfl).2, hgeneration⟩,
      fun _ _ h => HostEvent.noConfusion h⟩
  refine (ask_traced _ (.cleanedUp generation) h hadmits (fun hlive => hlive.cleans _ _ _ _ _) hcalm).weaken ?_
  rintro answer w' ⟨hlooked, hentry⟩
  refine ⟨hlooked, ?_⟩
  rintro proof rfl
  exact ⟨_, hentry, rfl⟩

section
variable (hlabel : label ∈ coordinatorLabels) (h : At d baton phase none w) (hfits : Fits baton phase (some effect))
  (hblank : effect.observationHash = "") (hphase : phase ≠ .batonDurable) (hcalm : calm → Calm ports (room + 2) w)
include hlabel h hfits hblank hphase hcalm

theorem cleanup_outcome (required : Bool) :
    Answers calm d baton (journaled d baton.activationId effect
        (cleanupUnder d ports baton label effect.processGeneration required) cleanupObservation) w
      (fun answer w' => Journaled d baton phase calm ports room w w' ∧ w'.receipts = w.receipts ∧
        Tells answer (CleanedUp d w' effect.processGeneration)) := by
  refine (journaled_outcome (fun answer w1 w2 => w2.receipts = w1.receipts ∧ Tells answer fun proof =>
    ∃ entry ∈ w2.trace, entry.event = .cleanedUp effect.processGeneration (some (.ok proof))) h hfits hblank hphase
    hcalm ?_).weaken ?_
  · intro w1 hat1 hstep1
    refine (cleanupUnder_outcome hlabel hat1 rfl hstep1.calm required).weaken ?_
    exact fun _ _ hlooked => ⟨hlooked.1.stays, hlooked.1.asked, hlooked.1.receipts, hlooked.2⟩
  · rintro answer w' ⟨hjournaled, ⟨record, hrecord, hpayload⟩, w1, w2, ⟨hreceipts2, hcleaned⟩, hreceipts1, hfollows,
      hreceipts'⟩
    refine ⟨hjournaled, hreceipts'.trans (hreceipts2.trans hreceipts1), ?_⟩
    rintro proof rfl
    obtain ⟨entry, hentry, hevent⟩ := hcleaned proof rfl
    exact ⟨⟨entry, hfollows.trace.subset hentry, hevent⟩, record, hrecord, _, hpayload, rfl, rfl⟩

theorem launch_outcome {selector observation : ActiveSelectorObservationV1}
    (hgeneration : effect.processGeneration = (baton.generations role).1)
    (htarget : effect.targetSlotHash = slot.buildContentHash) (hslot : slot.buildContentHash = baton.slotHash role)
    (hcleaned : CleanedUp d w (baton.generations role).2 cleanup) (hseen : Seen w observation)
    (hon : observation.on slot = true) : Answers calm d baton (journaled d baton.activationId effect
        (launchUnder d ports execution baton role slot selector cleanup label) watchdogObservation) w
      (fun _ => Journaled d baton phase calm ports room w) := by
  refine (journaled_outcome (fun _ _ _ => True) h hfits hblank hphase hcalm ?_).weaken
    fun _ _ h => h.1
  intro w1 hat1 hstep1
  refine stableId_bind hlabel _ fun attempt => ?_
  have hcleaned1 := hcleaned.follows hstep1.follows
  have hseen1 := hseen.follows hstep1.follows
  have hadmits (answer) : HostAdmits d baton w1.trace ⟨w1.storage.records,
      .launched (launchSpec execution baton role slot selector cleanup attempt) answer⟩ := by
    refine ⟨fun _ => ⟨effect, hat1.stage.opened, (hfits.intended effect rfl).2, hgeneration, htarget⟩, ?_⟩
    rintro _ _ ⟨⟩
    obtain ⟨entry, hentry, hevent⟩ := hseen1
    exact ⟨rfl, hslot, hcleaned1.traced, hcleaned1.recorded, entry, hentry, observation, hevent, hon⟩
  refine (ask_traced _ (.launched _) hat1 hadmits (fun hlive => hlive.launches _) hstep1.calm).weaken ?_
  exact fun _ _ hlooked => ⟨hlooked.1.stays, hlooked.1.asked, trivial⟩

end

section Ends
variable {result receipt : BootstrapResultV1} {execution : ActivationExecutionV1}

/-- The activation is sealed with this result. -/
structure Finished (d : CoordinatorDigests) (baton : BatonAcceptedV1) (result : BootstrapResultV1) (w : World Ω) :
    Prop where
  isSealed : Sealed d.toJournalDigests w.storage result
  named : result.activationId = baton.activationId
  traced : Justified (HostAdmits d baton) w.trace

theorem Finished.resting (h : Finished d baton result w) : Resting d baton w :=
  .inr ⟨⟨result, h.isSealed, h.named⟩, h.traced⟩

theorem Finished.same (h : Finished d baton result w) (hfiles : SameFiles w.storage w'.storage)
    (htrace : w'.trace = w.trace) : Finished d baton result w' := ⟨h.isSealed.same hfiles, h.named, htrace ▸ h.traced⟩

theorem store_outcome (h : At d baton phase none w) (hid : receipt.activationId = baton.activationId)
    (hhash : d.toJournalDigests.bootstrapResultHashV1 receipt = .ok receipt.receiptHash)
    (hphase : resultCanSeal phase receipt.result = true)
    (hnotice : phase = .manualRecoveryRequired → w.storage.notice.isSome = true) (hcalm : calm → Calm ports room w) :
    Answers calm d baton (onJournal (storeBootstrapResult d.toJournalDigests receipt)) w
      (fun _ w' => Finished d baton receipt w' ∧ (calm → w'.journal.Ready)) := by
  have hsealable : Sealable d.toJournalDigests w.storage receipt := by
    refine ⟨hid ▸ h.stage.activated, hhash, h.stage.unsealed, h.stage.opened, h.stage.derived.symm ▸ hphase, ?_⟩
    rintro ⟨diagnostic, observed, instructions, hkind⟩
    rw [hkind] at hphase
    exact hnotice (by simpa [resultCanSeal] using hphase)
  obtain ⟨before, last, hsplit⟩ := List.eq_nil_or_concat' w.storage.records |>.resolve_left h.stage.records_ne_nil
  have hlast : w.storage.records.getLast? = some last := by rw [hsplit, List.getLast?_concat]
  have hfinished {w' : World Ω} (hstorage : w'.storage = { w.storage with
      receipt := some (.bootstrapResult (sealOf d.toJournalDigests w.storage receipt last)) })
      (htrace : w'.trace = w.trace) : Finished d baton receipt w' :=
    ⟨hstorage ▸ sealed_of_sealable hsealable hlast, hid, htrace ▸ h.traced⟩
  refine guarded_step (sealResult d.toJournalDigests · receipt) h.resting (fun hc => (hcalm hc).ready) ?_ ?_
  · intro _ e he
    cases (sealResult_eq_ok.mpr ⟨hsealable, hlast, rfl⟩).symm.trans he
  · rintro ⟨terminal, head⟩ hok
    obtain ⟨_, hhead, rfl⟩ := sealResult_eq_ok.mp hok
    cases hlast.symm.trans hhead
    refine .via (fun _ j' => Finished d baton receipt { w with journal := j' } ∧ (calm → j'.Ready)) ?_
      fun _ _ h => h
    apply read_bind
    refine pass_bind (a := ()) ?_ ?_
    · rw [refuseIf_eq_ok]
      exact congrArg Option.isSome h.stage.unsealed
    refine (write_ready _).conseq ?_ ?_
    · rintro _ j' ⟨hstorage, hready⟩
      exact ⟨hfinished hstorage rfl, fun hc => hready (hcalm hc).ready⟩
    · rintro _ j' ⟨hstorage | hstorage, hready⟩
      · have hsame : SameFiles w.storage j'.storage := hstorage.symm ▸ .refl _
        exact ⟨At.resting (h.same hsame rfl rfl), fun hc => hready (hcalm hc).ready⟩
      · exact ⟨Finished.resting (hfinished hstorage rfl), fun hc => hready (hcalm hc).ready⟩

theorem sealTerminal_outcome (h : Finished d baton result w) (hready : calm → w.journal.Ready) :
    Answers calm d baton (onJournal (sealTerminal d.toJournalDigests)) w (fun _ => Finished d baton result) := by
  have hguard : w.storage.guardTerminal d.toJournalDigests = .ok () := by
    obtain ⟨header, hactivated, hid⟩ := h.isSealed.activated
    obtain ⟨_, state, hload, hterminal⟩ := h.isSealed.readable
    rw [← hid] at hload
    rw [guardTerminal, hactivated.stored]
    simp only [hload, passes]
    exact ⟨_, rfl, _, rfl, by rw [hterminal]; rfl⟩
  refine guarded_step (guardTerminal d.toJournalDigests) h.resting hready ?_ ?_
  · intro _ e he
    cases hguard.symm.trans he
  · intro _ _
    exact h.same ⟨rfl, rfl, rfl, rfl⟩ rfl

theorem bootstrapReceipt_eq (execution : ActivationExecutionV1) (baton : BatonAcceptedV1)
    (hlabel : label ∈ coordinatorLabels) (hrecipient : recipient ≤ maxSafeWireInteger) (kind : BootstrapResultKindV1) :
    ∃ receipt, bootstrapReceipt d execution baton recipient kind label = .ok receipt ∧
      receipt.activationId = baton.activationId ∧ receipt.result = kind ∧
      d.toJournalDigests.bootstrapResultHashV1 receipt = .ok receipt.receiptHash := by
  obtain ⟨receiptId, hid⟩ := stableId_eq (d := d) hlabel baton.activationId
  let unhashed : BootstrapResultV1 :=
    { schemaVersion := 1, receiptId, activationId := baton.activationId, batonHash := baton.batonHash,
      managementCheckpointId := execution.managementCheckpointId, recipientProcessGeneration := recipient,
      sealedAtEpochMs := execution.sealedAtEpochMs, result := kind, receiptHash := "" }
  have hhash (hash : String) : d.toJournalDigests.bootstrapResultHashV1 { unhashed with receiptHash := hash } =
      .ok ("sha256:" ++ (d.result unhashed).text) := by
    refine if_pos ?_
    simpa [unhashed] using hrecipient
  refine ⟨{ unhashed with receiptHash := "sha256:" ++ (d.result unhashed).text }, ?_, rfl, rfl, hhash _⟩
  rw [bootstrapReceipt, bind_ok_iff]
  refine ⟨receiptId, hid, ?_⟩
  rw [bind_ok_iff]
  exact ⟨_, congrArg (Except.mapError CoordinatorError.journal) (hhash ""), rfl⟩

theorem rolledBack_eq (hrollback : baton.rollbackProcessGeneration ≤ maxSafeWireInteger) (reason : String) :
    ∃ evidence, rolledBack d baton reason = .ok (.rolledBack reason [evidence]) := by
  have hlabel : "rollback-evidence" ∈ coordinatorLabels := by decide
  obtain ⟨artifactId, hid⟩ := stableId_eq (d := d) hlabel baton.activationId
  have hhash (digest : Sha256Digest) :
      canonicalHash [baton.rollbackProcessGeneration] digest = .ok ("sha256:" ++ digest.text) :=
    if_pos (by simpa using hrollback)
  obtain ⟨evidence, hevidence⟩ : ∃ evidence, rollbackEvidence d baton = .ok evidence := by
    simp only [rollbackEvidence, bind_ok_iff]
    exact ⟨_, _, congrArg (Except.mapError CoordinatorError.journal) (hhash _), artifactId, hid, rfl⟩
  exact ⟨evidence, by rw [rolledBack, hevidence]; rfl⟩

theorem sealDisposition_outcome {kind : BootstrapResultKindV1}
    (hlabel : label ∈ coordinatorLabels) (h : At d baton phase none w) (hrecipient : recipient ≤ maxSafeWireInteger)
    (hphase : resultCanSeal phase kind = true)
    (hnotice : phase = .manualRecoveryRequired → w.storage.notice.isSome = true) (hcalm : calm → Calm ports room w) :
    Answers calm d baton (sealDisposition d execution baton recipient kind label) w (Finished d baton) := by
  obtain ⟨receipt, hreceipt, hid, rfl, hhash⟩ :=
    bootstrapReceipt_eq (d := d) execution baton hlabel hrecipient kind
  rw [sealDisposition, hreceipt]
  show Outcome (sealReceipt d receipt) w _ _
  refine .bind (store_outcome h hid hhash hphase hnotice hcalm) ?_
  rintro _ w1 ⟨hfinished, hready⟩
  refine .bind (sealTerminal_outcome hfinished hready) ?_
  exact fun _ _ hfinished => hfinished

theorem At.generations_encode (h : At d baton phase pending w) :
    baton.currentProcessGeneration ≤ maxSafeWireInteger ∧ baton.candidateProcessGeneration ≤ maxSafeWireInteger ∧
      baton.rollbackProcessGeneration ≤ maxSafeWireInteger := by
  have hbaton := h.stage.encodes
  simpa [JournalRecordPayloadV1.encodes, JournalRecordPayloadV1.generations] using hbaton

theorem step_outcome {next : BootstrapPhaseV1} (h : At d baton phase none w)
    (hedge : bootstrapCanAdvance phase next = true) (hterminal : bootstrapIsTerminal phase = false)
    (hinside : outsideActivation next = false) (hnext : next ≠ .batonDurable) (hcalm : calm → Calm ports (room + 1) w) :
    Answers calm d baton (advance d baton.activationId next) w
      (fun _ w' => At d baton next none w' ∧ Stepped calm ports room w w') :=
  advance_outcome h hedge (fun h => absurd (hterminal.symm.trans h) Bool.false_ne_true) hinside hnext hcalm

theorem unsupported_outcome {aborted : Bool} (h : At d baton phase none w)
    (hedge : bootstrapCanAdvance phase (if aborted then .abortedBeforeSwitch else .unsupported) = true)
    (hterminal : bootstrapIsTerminal phase = false) (hcalm : calm → Calm ports 1 w) (code : String) :
    Answers calm d baton (unsupported d execution baton aborted code) w (Finished d baton) := by
  have hroom : calm → Calm ports (0 + 1) w := hcalm
  refine .bind (step_outcome h hedge hterminal ?_ ?_ hroom) ?_
  · cases aborted <;> rfl
  · cases aborted <;> decide
  rintro _ w1 ⟨hat1, hstep1⟩
  refine sealDisposition_outcome (by decide) hat1 h.generations_encode.1 ?_ ?_ hstep1.calm
  · cases aborted <;> rfl
  · intro hmanual
    cases aborted <;> cases hmanual

private theorem notice_outcome {notice : ManualRecoveryNoticeV1} (h : At d baton .manualRecoveryRequired none w)
    (hid : notice.activationId = baton.activationId) (hinstructions : notice.instructions = manualInstructions)
    (hnone : w.storage.notice = none) (hcalm : calm → Calm ports room w) :
    Answers calm d baton (onJournal (storeManualRecoveryNotice d.toJournalDigests notice)) w
      (fun _ w' => At d baton .manualRecoveryRequired none w' ∧ w'.storage.notice.isSome = true ∧
        (calm → Calm ports room w')) := by
  have hguard : w.storage.guardNotice d.toJournalDigests notice = .ok w.storage.records := by
    obtain ⟨header, hactivated, hheader⟩ := h.stage.activated
    simp only [guardNotice, passes, activationId_eq_ok, verifiedRecords_eq_ok, fencePhase_eq_ok, unmet]
    refine ⟨_, ⟨header, hactivated.stored, hactivated.valid, rfl⟩, (), hid.trans hheader.symm, (), ?_, _,
      ⟨rfl, _, hactivated.stored, hactivated.verified⟩, (), h.stage.derived.symm, rfl⟩
    rw [hinstructions]
    decide
  have hnoticed {w' : World Ω} (hstorage : w'.storage = { w.storage with notice := some notice })
      (htrace : w'.trace = w.trace) : At d baton .manualRecoveryRequired none w' := by
    obtain ⟨header, ⟨hstored, hverified⟩, hheader⟩ := h.stage.activated
    refine ⟨?_, h.fits, htrace ▸ h.traced, fun hphase => by cases hphase⟩
    rw [hstorage]
    exact ⟨⟨header, ⟨hstored, hverified⟩, hheader⟩, h.stage.admitted, h.stage.derived, h.stage.opened,
      h.stage.unsealed, fun _ => rfl⟩
  refine guarded_step (guardNotice d.toJournalDigests · notice) h.resting (fun hc => (hcalm hc).ready) ?_ ?_
  · intro _ e he
    cases hguard.symm.trans he
  · intro records hok
    cases hguard.symm.trans hok
    obtain ⟨before, last, hsplit⟩ := List.eq_nil_or_concat' w.storage.records |>.resolve_left h.stage.records_ne_nil
    refine .via (fun _ j' => j'.storage = { w.storage with notice := some notice } ∧
      (w.journal.Ready → j'.Ready)) ?_ ?_
    · apply read_bind
      rw [show w.journal.storage.notice = none from hnone]
      refine (write_ready _).refail ?_
      rintro _ j' ⟨hstorage | hstorage, hready⟩
      · have hsame : SameFiles w.storage j'.storage := hstorage.symm ▸ .refl _
        exact ⟨At.resting (h.same hsame rfl rfl), fun hc => hready (hcalm hc).ready⟩
      · exact ⟨At.resting (hnoticed hstorage rfl), fun hc => hready (hcalm hc).ready⟩
    · rintro _ j' ⟨hstorage, hready⟩
      refine pass_bind (a := last) ?_ ?_
      · rw [require_eq_ok, hsplit, List.getLast?_concat]
      refine ⟨hnoticed hstorage rfl, congrArg (Option.isSome ∘ JournalStorage.notice) hstorage, fun hc => ?_⟩
      refine ⟨(hcalm hc).live, hready (hcalm hc).ready, ?_⟩
      show j'.storage.records.length + room ≤ _
      rw [hstorage]
      exact (hcalm hc).room

theorem manual_outcome (h : At d baton phase none w) (hedge : bootstrapCanAdvance phase .manualRecoveryRequired = true)
    (hcalm : calm → Calm ports 1 w) (reason : ReasonCodeV1) (observed : Observation) :
    Answers calm d baton (manual d ports execution baton reason observed) w (Finished d baton) := by
  have hrunning : bootstrapIsTerminal phase = false ∧ phase ≠ .manualRecoveryRequired := by
    revert hedge
    cases phase <;> decide
  have hnone : w.storage.notice = none := by
    rw [← Option.not_isSome_iff_eq_none]
    exact fun hsome => hrunning.2 (h.stage.noticed hsome)
  have hroom : calm → Calm ports (0 + if phase = .manualRecoveryRequired then 0 else 1) w := by
    rw [if_neg hrunning.2]
    exact hcalm
  refine .bind (reach_outcome h (fun _ => hedge)
    (fun _ hterminal => absurd (hrunning.1.symm.trans hterminal) Bool.false_ne_true) rfl (by decide) hroom) ?_
  rintro _ w1 ⟨hat1, hstep1⟩
  refine stableId_bind (by decide) _ fun diagnosticId => ?_
  refine stableId_bind (by decide) _ fun noticeId => ?_
  refine .bind (notice_outcome hat1 rfl rfl (hstep1.notice.trans hnone) hstep1.calm) ?_
  rintro _ w2 ⟨hat2, hnotice2, hcalm2⟩
  refine .bind (ask_silent _ hat2 (fun hlive => hlive.notifies _) hcalm2) ?_
  intro _ w3 hlooked
  refine sealDisposition_outcome (by decide) hlooked.stays h.generations_encode.2.2 rfl (fun _ => ?_) hlooked.asked.calm
  rw [hlooked.asked.storage]
  exact hnotice2

end Ends

end Aworkit.Helper
