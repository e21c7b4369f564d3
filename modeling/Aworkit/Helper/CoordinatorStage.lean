import Aworkit.Helper.Coordinator
import Aworkit.Helper.JournalSeal

/-! What one journal write or one question to the host does to an activation in progress: an interruption leaves one
that rests, and nothing else stops the step. -/
namespace Aworkit.Helper
open Protocol Fallible Hoare JournalRecordPayloadV1 List ActivationJournal

namespace JournalStorage

variable {payload : JournalRecordPayloadV1} {effect : BootstrapEffectV1} {w'' : World Ω}
  {failed : Halt → World Ω → Prop} {γ : Type} {post : α → World Ω → Prop}

def extended (d : JournalDigests) (s : JournalStorage) (payload : JournalRecordPayloadV1) : JournalStorage :=
  { s with records := s.records ++ [sealedRecord d s.records payload] }

/-- An activation not sealed: its baton, phase and open effect. -/
structure Stage (d : JournalDigests) (baton : BatonAcceptedV1) (phase : BootstrapPhaseV1)
    (pending : Option BootstrapEffectV1) (s : JournalStorage) : Prop where
  activated : ∃ header, Activated d s header ∧ header.activationId = baton.activationId
  admitted : admittedBaton s.records = some baton
  derived : deriveBootstrapPhase s.records = phase
  opened : openEffect s.records = pending
  unsealed : s.receipt = none
  noticed : s.notice.isSome = true → phase = .manualRecoveryRequired

variable {d : JournalDigests} {baton : BatonAcceptedV1} {phase : BootstrapPhaseV1}
  {pending : Option BootstrapEffectV1} {s s' : JournalStorage}

section
variable (h : Stage d baton phase pending s)
include h

theorem Stage.same (hsame : SameFiles s s') : Stage d baton phase pending s' := by
  obtain ⟨header, hactivated, hid⟩ := h.activated
  refine ⟨⟨header, ⟨?_, ?_⟩, hid⟩, ?_, ?_, ?_, ?_, ?_⟩
  · rw [hsame.header, hactivated.stored]
  · rw [hsame.records, hactivated.verified]
  · rw [hsame.records, h.admitted]
  · rw [hsame.records, h.derived]
  · rw [hsame.records, h.opened]
  · rw [hsame.receipt, h.unsealed]
  · rw [hsame.notice]
    exact h.noticed

theorem Stage.terminal (id : StableId) : s.activationTerminal d id = .ok none := by
  rw [activationTerminal, h.unsealed]

theorem Stage.loaded :
    s.loadActivationRecovery d baton.activationId = .ok (some (s.recovered baton.activationId none)) := by
  obtain ⟨header, hactivated, hid⟩ := h.activated
  exact loadActivationRecovery_eq_some.mpr ⟨header, none, hactivated, hid, h.terminal _, rfl⟩

theorem Stage.records_ne_nil : s.records ≠ [] := by
  intro hnil
  have hbaton := h.admitted
  rw [hnil] at hbaton
  cases hbaton

theorem Stage.next_ordinal : s.headOrdinal + 1 = s.records.length := by
  obtain ⟨header, hactivated, _⟩ := h.activated
  obtain ⟨_, _, hlinked⟩ := (verifyChain_iff _).mp hactivated.verified
  obtain ⟨before, last, hsplit⟩ := eq_nil_or_concat' s.records |>.resolve_left h.records_ne_nil
  have hlast := (hlinked before last [] hsplit).ordinal
  rw [headOrdinal, hsplit]
  simp [hlast]

/-- The generations of the baton can be encoded, since the baton is durable. -/
theorem Stage.encodes : (batonAccepted baton).encodes = true := by
  obtain ⟨header, hactivated, _⟩ := h.activated
  obtain ⟨_, _, hlinked⟩ := (verifyChain_iff _).mp hactivated.verified
  obtain ⟨record, hmem, hpayload⟩ := exists_of_findSome?_eq_some h.admitted
  obtain ⟨before, after, hsplit, hlink⟩ := hlinked.mem hmem
  have hhash := hlink.hash
  split at hpayload
  case h_2 => cases hpayload
  case h_1 other hother =>
    cases hpayload
    rw [JournalDigests.recordHash, hother] at hhash
    unfold canonicalHash at hhash
    split at hhash
    case isTrue hencodes => exact hencodes
    case isFalse => cases hhash

theorem Stage.extended (hroom : s.records.length < maxJournalRecords) (hencodes : payload.encodes = true)
    (hkind : ∀ header, kindMatches (.activation header) payload = true) {phase' : BootstrapPhaseV1}
    {pending' : Option BootstrapEffectV1}
    (hphase : deriveBootstrapPhase (s.records ++ [sealedRecord d s.records payload]) = phase')
    (hpending : openEffect (s.records ++ [sealedRecord d s.records payload]) = pending')
    (hnoticed : s.notice.isSome = true → phase' = .manualRecoveryRequired) :
    Stage d baton phase' pending' (s.extended d payload) := by
  obtain ⟨header, hactivated, hid⟩ := h.activated
  have hverified := (hactivated.grown hroom hencodes (hkind header)).verified
  rw [grown_records] at hverified
  refine ⟨⟨header, ⟨hactivated.stored, hverified⟩, hid⟩, ?_, hphase, hpending, h.unsealed, hnoticed⟩
  show (s.records ++ [sealedRecord d s.records payload]).findSome? _ = _
  rw [findSome?_append]
  exact congrArg (Option.or · _) h.admitted

end

end JournalStorage

namespace ActivationJournal
open JournalStorage
variable {d : JournalDigests} {j : ActivationJournal}

/-- The lock is held and every write will succeed. -/
structure Ready (j : ActivationJournal) : Prop where
  held : j.held = true
  writes : j.writes = []

theorem write_ready (change : JournalStorage → JournalStorage) : Outcome (write change) j
    (fun _ j' => j'.storage = change j.storage ∧ (j.Ready → j'.Ready))
    fun _ j' => (j'.storage = j.storage ∨ j'.storage = change j.storage) ∧ ¬j.Ready := by
  have hfailed {outcome : WriteOutcome} {rest : List WriteOutcome} (h : j.writes = outcome :: rest) : ¬j.Ready :=
    fun hready => by cases h.symm.trans hready.writes
  unfold Outcome write
  rcases hwrites : j.writes with _ | ⟨_ | _ | _, _⟩
  · exact ⟨rfl, fun hready => ⟨hready.held, rfl⟩⟩
  · exact ⟨rfl, fun hready => absurd hready (hfailed hwrites)⟩
  · exact ⟨.inl rfl, hfailed hwrites⟩
  · exact ⟨.inr rfl, hfailed hwrites⟩

private theorem writeSnapshot_ready : Outcome writeSnapshot j
    (fun _ j' => SameFiles j.storage j'.storage ∧ (j.Ready → j'.Ready))
    fun _ j' => SameFiles j.storage j'.storage ∧ ¬j.Ready := by
  apply read_bind
  split
  case h_1 => exact ⟨.refl _, id⟩
  case h_2 =>
    refine (write_ready _).conseq ?_ ?_
    · rintro _ j' ⟨hstorage, hready⟩
      rw [hstorage]
      exact ⟨⟨rfl, rfl, rfl, rfl⟩, hready⟩
    · rintro _ j' ⟨hstorage | hstorage, hready⟩
      · rw [hstorage]
        exact ⟨.refl _, hready⟩
      · rw [hstorage]
        exact ⟨⟨rfl, rfl, rfl, rfl⟩, hready⟩

theorem commit_ready (kind : JournalTransactionKindV1) (id : StableId)
    (hroom : j.storage.records.length < maxJournalRecords) (hencodes : payload.encodes = true) :
    Outcome (commit d kind id payload) j
      (fun _ j' => SameFiles (j.storage.extended d payload) j'.storage ∧ (j.Ready → j'.Ready))
      fun _ j' => (SameFiles j.storage j'.storage ∨ SameFiles (j.storage.extended d payload) j'.storage) ∧
        ¬j.Ready := by
  refine .via (fun _ j' => j'.storage = j.storage.extended d payload ∧ (j.Ready → j'.Ready)) ?_ ?_
  · apply read_bind
    refine pass_bind (a := ()) (requireCapacity_eq_ok.mpr hroom) ?_
    refine pass_bind (nextRecord_eq _ hencodes) ?_
    refine .via (fun _ j' => j'.storage = j.storage.extended d payload ∧ (j.Ready → j'.Ready)) ?_
      fun _ _ h => h
    apply read_bind
    refine pass_bind (a := ()) ((refuseIf_eq_ok _ _ ()).mpr (decide_eq_false (Nat.lt_irrefl _))) ?_
    refine (write_ready _).refail ?_
    rintro _ j' ⟨hstorage | hstorage, hready⟩
    · rw [hstorage]
      exact ⟨.inl (.refl _), hready⟩
    · rw [hstorage]
      exact ⟨.inr (.refl _), hready⟩
  · rintro record j' ⟨hstorage, hready⟩
    refine .via (fun _ j'' => SameFiles (j.storage.extended d payload) j''.storage ∧ (j.Ready → j''.Ready)) ?_
      fun _ _ h => h
    refine writeSnapshot_ready.conseq ?_ ?_
    · exact fun _ _ h => ⟨hstorage ▸ h.1, fun hj => h.2 (hready hj)⟩
    · exact fun _ _ h => ⟨.inr (hstorage ▸ h.1), fun hj => h.2 (hready hj)⟩

end ActivationJournal

/-- The phases behind a durable baton, with the generations of an open effect. -/
def BatonAcceptedV1.intends (baton : BatonAcceptedV1) : BootstrapPhaseV1 → List Nat
  | .quiescingCurrent => [baton.currentProcessGeneration, baton.candidateProcessGeneration]
  | .candidateSelected => [baton.candidateProcessGeneration]
  | .rollingBack => [baton.candidateProcessGeneration, baton.rollbackProcessGeneration]
  | .previousSelected => [baton.rollbackProcessGeneration]
  | _ => []

/-- The phases before a durable baton, and the one that is never written. -/
def outsideActivation : BootstrapPhaseV1 → Bool
  | .idle | .admittingBaton | .resultAvailable => true
  | _ => false

/-- An open effect is one that the coordinator intends in the phase. -/
structure Fits (baton : BatonAcceptedV1) (phase : BootstrapPhaseV1) (pending : Option BootstrapEffectV1) : Prop where
  inside : outsideActivation phase = false
  intended : ∀ effect, pending = some effect → effect.processGeneration ∈ baton.intends phase ∧
    effect.capabilityGeneration = baton.capabilityGeneration

theorem Fits.closed {phase : BootstrapPhaseV1} (h : outsideActivation phase = false) :
    Fits baton phase none := ⟨h, nofun⟩

def BatonAcceptedV1.slotHash (baton : BatonAcceptedV1) : GenerationRoleV1 → String
  | .candidate => baton.candidateSlotHash
  | .previous => baton.previousSlotHash

/-- The cleanup of a generation succeeded and is observed in the journal. -/
def CleanupObserved (d : CoordinatorDigests) (before : List HostEntry) (records : List JournalRecordV1)
    (generation : Nat) : Prop :=
  ∃ proof, (∃ entry ∈ before, entry.event = .cleanedUp generation (some (.ok proof))) ∧
    ∃ record ∈ records, ∃ effect, record.payload = .observedEffect effect ∧ effect.processGeneration = generation ∧
      effect.observationHash = "sha256:" ++ (d.observation (cleanupObservation (.ok proof))).text

/-- A launch with everything before it observed: the cleanup of the generation it replaces, journaled too, and the
selector on its slot. -/
structure Prepared (d : CoordinatorDigests) (baton : BatonAcceptedV1) (before : List HostEntry)
    (records : List JournalRecordV1) (spec : GenerationLaunchSpecV1) : Prop where
  generations : (spec.processGeneration, spec.expectedPriorProcessGeneration) = baton.generations spec.role
  slot : spec.slot.buildContentHash = baton.slotHash spec.role
  cleaned : ∃ entry ∈ before,
    entry.event = .cleanedUp spec.expectedPriorProcessGeneration (some (.ok spec.priorCleanup))
  recorded : ∃ record ∈ records, ∃ effect, record.payload = .observedEffect effect ∧
    effect.processGeneration = spec.expectedPriorProcessGeneration ∧
    effect.observationHash = "sha256:" ++ (d.observation (cleanupObservation (.ok spec.priorCleanup))).text
  selected : ∃ entry ∈ before, ∃ observation, entry.event = .observed (some (.ok observation)) ∧
    observation.on spec.slot = true

theorem Prepared.cleanup {spec : GenerationLaunchSpecV1} (h : Prepared d baton before records spec) :
    CleanupObserved d before records spec.expectedPriorProcessGeneration :=
  ⟨spec.priorCleanup, h.cleaned, h.recorded⟩

/-- What a host-changing call asks of the open intent: the same capability, process generation and, for a switch or
launch, slots. -/
def HostEvent.DescribedBy (effect : BootstrapEffectV1) (baton : BatonAcceptedV1) : HostEvent → Prop
  | .observed _ => True
  | .cleanedUp generation _ => effect.capabilityGeneration = baton.capabilityGeneration ∧
    effect.processGeneration = generation
  | .replaced mutation _ => effect.capabilityGeneration = mutation.capabilityGeneration ∧
    effect.processGeneration = mutation.processGeneration ∧ effect.currentSlotHash = mutation.expectedSourceHash ∧
    effect.targetSlotHash = mutation.destinationHash
  | .launched spec _ => effect.capabilityGeneration = spec.capabilityGeneration ∧
    effect.processGeneration = spec.processGeneration ∧ effect.targetSlotHash = spec.slot.buildContentHash

def HostEvent.changes : HostEvent → Bool
  | .observed _ => false
  | .cleanedUp _ _ | .replaced _ _ | .launched _ _ => true

/-- A host call that the journal and the calls before it admit. -/
structure HostAdmits (d : CoordinatorDigests) (baton : BatonAcceptedV1) (before : List HostEntry) (entry : HostEntry) :
    Prop where
  described : entry.event.changes = true →
    ∃ effect, openEffect entry.records = some effect ∧ entry.event.DescribedBy effect baton
  prepared : ∀ spec answer, entry.event = .launched spec answer → Prepared d baton before entry.records spec

theorem HostAdmits.observed {d : CoordinatorDigests} {before : List HostEntry}
    {records : List JournalRecordV1} (answer : Option (Except ProfileError ActiveSelectorObservationV1)) :
    HostAdmits d baton before ⟨records, .observed answer⟩ :=
  ⟨fun h => Bool.noConfusion h, fun _ _ h => HostEvent.noConfusion h⟩

open JournalStorage
variable {Ω α β : Type} {d : CoordinatorDigests} {ports : Ports Ω} {baton : BatonAcceptedV1}
  {phase phase' : BootstrapPhaseV1} {pending pending' : Option BootstrapEffectV1} {w w' : World Ω}

/-- An activation in progress; the selector adapter remembers nothing from before its start. -/
structure At (d : CoordinatorDigests) (baton : BatonAcceptedV1) (phase : BootstrapPhaseV1)
    (pending : Option BootstrapEffectV1) (w : World Ω) : Prop where
  stage : Stage d.toJournalDigests baton phase pending w.storage
  fits : Fits baton phase pending
  traced : Justified (HostAdmits d baton) w.trace
  memory : phase = .batonDurable → w.receipts = []

/-- An activation between two runs: in progress, or sealed. -/
def Resting (d : CoordinatorDigests) (baton : BatonAcceptedV1) (w : World Ω) : Prop :=
  (∃ phase pending, At d baton phase pending w) ∨
    (∃ result, Sealed d.toJournalDigests w.storage result ∧ result.activationId = baton.activationId) ∧
      Justified (HostAdmits d baton) w.trace

/-- Every port answers. -/
structure Ports.Live (ports : Ports Ω) : Prop where
  reverifies : ∀ handle ω, (ports.reverifyOpenedSlot handle ω).1.isSome = true
  marks : ∀ ω, (ports.markCandidateActivatedVerified ω).1.isSome = true
  observes : ∀ ω, (ports.observe ω).1.isSome = true
  replaces : ∀ mutation ω, (ports.atomicReplace mutation ω).1.isSome = true
  cleans : ∀ activationId attemptId generation deadlines required ω,
    (ports.cleanupGeneration activationId attemptId generation deadlines required ω).1.isSome = true
  launches : ∀ spec ω, (ports.launchAndWatch spec ω).1.isSome = true
  notifies : ∀ notice ω, (ports.stableLauncherNotice notice ω).1.isSome = true

/-- Nothing interrupts the coordinator while it appends so many records. -/
structure Calm (ports : Ports Ω) (room : Nat) (w : World Ω) : Prop where
  live : ports.Live
  ready : w.journal.Ready
  room : w.storage.records.length + room ≤ maxJournalRecords

theorem Calm.mono {room room' : Nat} (h : Calm ports room w) (hle : room' ≤ room) : Calm ports room' w :=
  ⟨h.live, h.ready, (Nat.add_le_add_left hle _).trans h.room⟩

/-- A run without a result was interrupted, and the activation rests. -/
def Interrupted (calm : Prop) (d : CoordinatorDigests) (baton : BatonAcceptedV1) (_ : Halt) (w : World Ω) : Prop :=
  Resting d baton w ∧ ¬calm

/-- A program answers as `post` says, unless the run is interrupted. -/
abbrev Answers (calm : Prop) (d : CoordinatorDigests) (baton : BatonAcceptedV1) (m : Prog Halt (World Ω) α) (w : World Ω)
    (post : α → World Ω → Prop) : Prop := Outcome m w post (Interrupted calm d baton)

/-- What happened since is behind what happened before. -/
structure Follows (w w' : World Ω) : Prop where
  records : w.storage.records <+: w'.storage.records
  trace : w.trace <+: w'.trace

theorem Follows.refl (w : World Ω) : Follows w w := ⟨prefix_rfl, prefix_rfl⟩

theorem Follows.trans (h : Follows w w') (h' : Follows w' w'') : Follows w w'' :=
  ⟨h.records.trans h'.records, h.trace.trans h'.trace⟩

theorem At.resting (h : At d baton phase pending w) : Resting d baton w := .inl ⟨phase, pending, h⟩

theorem At.same (h : At d baton phase pending w) (hfiles : SameFiles w.storage w'.storage) (htrace : w'.trace = w.trace)
    (hreceipts : w'.receipts = w.receipts) : At d baton phase pending w' :=
  ⟨h.stage.same hfiles, h.fits, htrace ▸ h.traced, fun hphase => hreceipts.trans (h.memory hphase)⟩

/-- What the recovery state says of an activation in progress. -/
structure Reports (w : World Ω) (baton : BatonAcceptedV1) (phase : BootstrapPhaseV1)
    (pending : Option BootstrapEffectV1) (state : BootstrapRecoveryStateV1) : Prop where
  next : state.headOrdinal + 1 = w.storage.records.length
  inPhase : state.phase = phase
  unsealed : state.terminal = none
  opened : state.openEffect = pending
  admitted : state.baton = some baton
  notice : state.manualRecovery = w.storage.notice

theorem state_bind {k : BootstrapRecoveryStateV1 → CoordinatorProg Ω α} (h : At d baton phase pending w)
    (hk : ∀ state, Reports w baton phase pending state → Outcome (k state) w post failed) :
    Outcome (coordinatorState d baton.activationId >>= k) w post failed := by
  have hrun : coordinatorState d baton.activationId w = (.ok (w.storage.recovered baton.activationId none), w) := by
    apply (Prog.run_read w).trans
    rw [h.stage.loaded]
    rfl
  unfold Outcome
  rw [Prog.run_bind hrun]
  exact hk _ ⟨h.stage.next_ordinal, h.stage.derived, rfl, h.stage.opened, h.stage.admitted, rfl⟩

section Rules
variable {calm : Prop} {room : Nat}

/-- A guarded call of the journal: a refusal leaves the activation as it was. -/
theorem guarded_step {δ : Type} (guard : JournalStorage → Except BootstrapJournalError γ)
    {rest : γ → JournalProg δ} {post : δ → World Ω → Prop} (h : Resting d baton w) (hready : calm → w.journal.Ready)
    (hguard : calm → ∀ e, guard w.storage ≠ .error e)
    (hrest : ∀ c, guard w.storage = .ok c → Outcome (rest c) w.journal (fun a j => post a { w with journal := j })
      fun _ j => Resting d baton { w with journal := j } ∧ ¬calm) :
    Answers calm d baton (onJournal (requireHeld >>= fun _ => Prog.read >>= fun j =>
      Prog.lift (guard j.storage) >>= rest)) w post := by
  refine Outcome.zoom (guarded_bind guard rest ?_ ?_ fun _ => hrest)
  · intro hheld _
    refine ⟨h, fun hc => ?_⟩
    cases (hready hc).held.symm.trans hheld
  · exact fun e he => ⟨h, fun hc => hguard hc e he⟩

/-- What a step of the coordinator that appends one record leaves. -/
structure Stepped (calm : Prop) (ports : Ports Ω) (room : Nat) (w w' : World Ω) : Prop where
  follows : Follows w w'
  receipts : w'.receipts = w.receipts
  notice : w'.storage.notice = w.storage.notice
  calm : calm → Calm ports room w'

theorem append_outcome (guard : JournalStorage → Except BootstrapJournalError γ) {c : γ}
    (h : At d baton phase pending w) (hguard : w.storage.records.length < maxJournalRecords → guard w.storage = .ok c)
    (hfull : ∀ c, guard w.storage = .ok c → w.storage.records.length < maxJournalRecords)
    (hencodes : payload.encodes = true) (hnext : w.storage.records.length < maxJournalRecords →
      Stage d.toJournalDigests baton phase' pending' (w.storage.extended d.toJournalDigests payload))
    (hfits : Fits baton phase' pending') (hphase : phase' ≠ .batonDurable)
    (hcalm : calm → Calm ports (room + 1) w) (id : StableId) :
    Answers calm d baton (discard (onJournal (requireHeld >>= fun _ => Prog.read >>= fun j =>
        Prog.lift (guard j.storage) >>= fun _ => commit d.toJournalDigests .activation id payload)) :
          CoordinatorProg Ω Unit) w
      (fun _ w' => At d baton phase' pending' w' ∧ Stepped calm ports room w w' ∧
        sealedRecord d.toJournalDigests w.storage.records payload ∈ w'.storage.records) := by
  refine Outcome.bind (guarded_step guard h.resting (fun hc => (hcalm hc).ready) ?_ ?_) fun _ _ h => h
  · intro hc e he
    have hroom := (hcalm hc).room
    cases (hguard (by omega)).symm.trans he
  · intro _ hok
    have hroom := hfull _ hok
    have hat {w' : World Ω} (hfiles : SameFiles (w.storage.extended d.toJournalDigests payload) w'.storage)
        (htrace : w'.trace = w.trace) : At d baton phase' pending' w' :=
      ⟨(hnext hroom).same hfiles, hfits, htrace ▸ h.traced, fun hdurable => absurd hdurable hphase⟩
    refine (commit_ready .activation id hroom hencodes).conseq ?_ ?_
    · rintro _ j' ⟨hfiles, hready⟩
      have hrecords := hfiles.records
      refine ⟨hat hfiles rfl, ⟨⟨hrecords ▸ prefix_append _ _, prefix_rfl⟩, rfl, hfiles.notice, fun hc => ?_⟩,
        hrecords ▸ mem_append_right _ mem_cons_self⟩
      refine ⟨(hcalm hc).live, hready (hcalm hc).ready, ?_⟩
      have hcap : w.journal.storage.records.length + (room + 1) ≤ maxJournalRecords := (hcalm hc).room
      show j'.storage.records.length + room ≤ _
      rw [hfiles.records]
      simp only [JournalStorage.extended, length_append, length_singleton]
      omega
    · rintro _ j' ⟨hfiles | hfiles, hready⟩
      · exact ⟨At.resting (h.same hfiles rfl rfl), fun hc => hready (hcalm hc).ready⟩
      · exact ⟨At.resting (hat hfiles rfl), fun hc => hready (hcalm hc).ready⟩

section
variable (h : At d baton phase none w)
include h

theorem At.guardAdvance {next : BootstrapPhaseV1} (hedge : bootstrapCanAdvance phase next = true)
    (hterminal : bootstrapIsTerminal phase = true → phase = .verified ∧ next = .recovering)
    (hroom : w.storage.records.length < maxJournalRecords) : w.storage.guardAdvance d.toJournalDigests
      { activationId := baton.activationId, expectedOrdinal := w.storage.records.length, expectedPhase := phase,
        nextPhase := next } = .ok () := by
  refine guardAdvance_eq_ok.mpr ⟨⟨h.stage.activated, hroom, rfl, h.stage.derived.symm⟩, ?_, h.stage.opened, ?_⟩
  · rw [h.stage.derived]
    exact hterminal
  · rw [h.stage.derived]
    exact hedge

theorem At.advanced {next : BootstrapPhaseV1}
    (hterminal : bootstrapIsTerminal phase = true → phase = .verified ∧ next = .recovering)
    (hroom : w.storage.records.length < maxJournalRecords) :
    Stage d.toJournalDigests baton next none (w.storage.extended d.toJournalDigests (.phaseAdvance next)) := by
  refine h.stage.extended hroom rfl (fun _ => rfl) ?_ ?_ fun hnotice => ?_
  · rw [deriveBootstrapPhase_snoc]
    rfl
  · rw [openEffect_snoc]
    exact h.stage.opened
  · -- A notice is there in the manual phase only, which has no edge.
    rw [h.stage.noticed hnotice] at hterminal
    cases (hterminal rfl).1

theorem advance_outcome {next : BootstrapPhaseV1} (hedge : bootstrapCanAdvance phase next = true)
    (hterminal : bootstrapIsTerminal phase = true → phase = .verified ∧ next = .recovering)
    (hinside : outsideActivation next = false) (hnext : next ≠ .batonDurable) (hcalm : calm → Calm ports (room + 1) w) :
    Answers calm d baton (advance d baton.activationId next) w
      (fun _ w' => At d baton next none w' ∧ Stepped calm ports room w w') := by
  refine state_bind h fun state hstate => ?_
  rw [hstate.next, hstate.inPhase]
  refine (append_outcome (guardAdvance d.toJournalDigests · _) h (h.guardAdvance hedge hterminal)
    (fun _ hok => (guardAdvance_eq_ok.mp hok).1.room) rfl (h.advanced hterminal) (.closed hinside) hnext hcalm
    baton.activationId).weaken (fun _ _ h => ⟨h.1, h.2.1⟩)

theorem reach_outcome {next : BootstrapPhaseV1} (hedge : phase ≠ next → bootstrapCanAdvance phase next = true)
    (hterminal : phase ≠ next → bootstrapIsTerminal phase = true → phase = .verified ∧ next = .recovering)
    (hinside : outsideActivation next = false) (hnext : next ≠ .batonDurable)
    (hcalm : calm → Calm ports (room + if phase = next then 0 else 1) w) :
    Answers calm d baton (reach d baton.activationId next) w
      (fun _ w' => At d baton next none w' ∧ Stepped calm ports room w w') := by
  refine state_bind h fun state hstate => ?_
  rw [hstate.inPhase]
  split
  case isTrue hsame =>
    subst hsame
    exact ⟨h, .refl _, rfl, rfl, fun hc => (hcalm hc).mono (Nat.le_add_right _ _)⟩
  case isFalse hother =>
    rw [if_neg hother] at hcalm
    exact advance_outcome h (hedge hother) (hterminal hother) hinside hnext hcalm

end

/-- The generations the coordinator intends are the baton's, which encode. -/
theorem At.intended_encodes (h : At d baton phase pending w)
    (hfits : Fits baton phase' (some effect)) : effect.processGeneration ≤ maxSafeWireInteger := by
  have hbaton := h.stage.encodes
  simp only [encodes, generations, all_cons, all_nil, Bool.and_true, met] at hbaton
  have hmem := (hfits.intended effect rfl).1
  revert hmem
  cases phase' <;> simp [BatonAcceptedV1.intends, mem_cons]
  case quiescingCurrent | rollingBack => rintro (h | h) <;> omega
  case candidateSelected | previousSelected => omega

theorem effect_outcome (isIntent : Bool) (h : At d baton phase pending w)
    (hcheck : checkEffect isIntent w.storage.records effect = .ok ())
    (hbound : effect.processGeneration ≤ maxSafeWireInteger)
    (hfits : Fits baton phase (if isIntent then some effect else none)) (hphase : phase ≠ .batonDurable)
    (hcalm : calm → Calm ports (room + 1) w) :
    Answers calm d baton (discard (onJournal (appendEffect d.toJournalDigests
        { activationId := baton.activationId, expectedOrdinal := w.storage.records.length, expectedPhase := phase,
          effect } isIntent)) : CoordinatorProg Ω Unit) w
      (fun _ w' => At d baton phase (if isIntent then some effect else none) w' ∧ Stepped calm ports room w w' ∧
        ∃ record ∈ w'.storage.records,
          record.payload = if isIntent then .effectIntent effect else .observedEffect effect) := by
  have hencodes : (if isIntent then effectIntent effect else observedEffect effect).encodes = true := by
    cases isIntent <;> simpa [encodes, generations] using hbound
  have hstage (hroom : w.storage.records.length < maxJournalRecords) : Stage d.toJournalDigests baton phase
      (if isIntent then some effect else none) (w.storage.extended d.toJournalDigests
        (if isIntent then effectIntent effect else observedEffect effect)) := by
    refine h.stage.extended hroom hencodes ?_ ?_ ?_ h.stage.noticed
    · intro _
      cases isIntent <;> rfl
    · rw [deriveBootstrapPhase_snoc]
      cases isIntent <;> exact h.stage.derived
    · rw [openEffect_snoc]
      cases isIntent <;> rfl
  refine (append_outcome (guardEffect d.toJournalDigests · _ isIntent) h
    (fun hroom => guardEffect_eq_ok.mpr ⟨⟨h.stage.activated, hroom, rfl, h.stage.derived.symm⟩, hcheck⟩)
    (fun _ hok => (guardEffect_eq_ok.mp hok).1.room) hencodes hstage hfits hphase hcalm
    baton.activationId).weaken (fun _ _ h => ⟨h.1, h.2.1, _, h.2.2, rfl⟩)

theorem intent_outcome (h : At d baton phase none w) (hfits : Fits baton phase (some effect))
    (hblank : effect.observationHash = "") (hphase : phase ≠ .batonDurable) (hcalm : calm → Calm ports (room + 1) w) :
    Answers calm d baton (intent d baton.activationId effect) w
      (fun _ w' => At d baton phase (some effect) w' ∧ Stepped calm ports room w w') := by
  refine state_bind h fun state hstate => ?_
  rw [hstate.next, hstate.inPhase]
  have hcheck := checkEffect_intent.mpr ⟨by rw [hblank]; rfl, h.stage.opened⟩
  exact (effect_outcome true h hcheck (h.intended_encodes hfits) hfits hphase hcalm).weaken
    fun _ _ h => ⟨h.1, h.2.1⟩

/-- The observation of an effect is in the journal. -/
def Recorded (d : CoordinatorDigests) (w : World Ω) (effect : BootstrapEffectV1) (observation : Observation) : Prop :=
  ∃ record ∈ w.storage.records, record.payload =
    .observedEffect { effect with observationHash := "sha256:" ++ (d.observation observation).text }

theorem observe_outcome (h : At d baton phase (some effect) w)
    (hphase : phase ≠ .batonDurable) (observation : Observation) (hcalm : calm → Calm ports (room + 1) w) :
    Answers calm d baton (observe d baton.activationId effect observation) w
      (fun _ w' => At d baton phase none w' ∧ Stepped calm ports room w w' ∧ Recorded d w' effect observation) := by
  refine state_bind h fun state hstate => ?_
  rw [hstate.next, hstate.inPhase]
  have hcheck : checkEffect false w.storage.records
      { effect with observationHash := "sha256:" ++ (d.observation observation).text } = .ok () := by
    refine checkEffect_observed.mpr ⟨?_, effect, h.stage.opened, ?_⟩
    · simp
    · simp [effectsMatch]
  have hbound := h.intended_encodes h.fits
  exact effect_outcome false h hcheck hbound (.closed h.fits.inside) hphase hcalm

/-- What a question to the host leaves: the journal, and perhaps a longer trace. -/
structure Asked (calm : Prop) (ports : Ports Ω) (room : Nat) (w w' : World Ω) : Prop where
  journal : w'.journal = w.journal
  trace : w.trace <+: w'.trace
  calm : calm → Calm ports room w'

theorem Asked.refl (hcalm : calm → Calm ports room w) : Asked calm ports room w w := ⟨rfl, prefix_rfl, hcalm⟩

section
variable (h : Asked calm ports room w w')
include h

theorem Asked.trans (h' : Asked calm ports room w' w'') :
    Asked calm ports room w w'' := ⟨h'.journal.trans h.journal, h.trace.trans h'.trace, h'.calm⟩

theorem Asked.storage : w'.storage = w.storage :=
  congrArg ActivationJournal.storage h.journal

theorem Asked.follows : Follows w w' :=
  ⟨h.storage ▸ prefix_rfl, h.trace⟩

end

theorem Stepped.asked (h : Stepped calm ports room w w')
    (h' : Asked calm ports room' w' w'') : Follows w w'' := h.follows.trans h'.follows

/-- What looking at the host through the adapter leaves. -/
structure Looked (d : CoordinatorDigests) (baton : BatonAcceptedV1) (phase : BootstrapPhaseV1)
    (pending : Option BootstrapEffectV1) (calm : Prop) (ports : Ports Ω) (room : Nat) (w w' : World Ω) : Prop where
  stays : At d baton phase pending w'
  asked : Asked calm ports room w w'
  receipts : w'.receipts = w.receipts

theorem Looked.trans (h : Looked d baton phase pending calm ports room w w')
    (h' : Looked d baton phase pending calm ports room w' w'') : Looked d baton phase pending calm ports room w w'' :=
  ⟨h'.stays, h.asked.trans h'.asked, h'.receipts.trans h.receipts⟩

variable (call : Ω → Option α × Ω)

theorem ask_outcome (event : Option α → List HostEvent) (h : At d baton phase pending w)
    (htrace : ∀ answer, Justified (HostAdmits d baton)
      (w.trace ++ (event answer).map fun event => ⟨w.storage.records, event⟩))
    (hlive : ports.Live → ∀ ω, (call ω).1.isSome = true) (hcalm : calm → Calm ports room w) :
    Answers calm d baton (ask call event) w
      (fun a w' => Looked d baton phase pending calm ports room w w' ∧
        ∀ e ∈ event (some a), (⟨w.storage.records, e⟩ : HostEntry) ∈ w'.trace) := by
  have hat (answer : Option α) (host : Ω) : At d baton phase pending { w with
      host
      trace := w.trace ++ (event answer).map fun event => ⟨w.storage.records, event⟩ } :=
    ⟨h.stage, h.fits, htrace answer, h.memory⟩
  unfold Answers Outcome ask
  rcases hcall : call w.host with ⟨answer, host⟩
  cases answer with
  | none =>
    refine ⟨(hat none host).resting, fun hc => ?_⟩
    have hsome := hlive (hcalm hc).live w.host
    rw [hcall] at hsome
    cases hsome
  | some a =>
    refine ⟨⟨hat (some a) host, ⟨rfl, prefix_append _ _, fun hc => ?_⟩, rfl⟩, ?_⟩
    · exact ⟨(hcalm hc).live, (hcalm hc).ready, (hcalm hc).room⟩
    · intro e he
      exact mem_append_right _ (mem_map_of_mem he)

theorem ask_traced (event : Option α → HostEvent) (h : At d baton phase pending w)
    (hadmits : ∀ answer, HostAdmits d baton w.trace ⟨w.storage.records, event answer⟩)
    (hlive : ports.Live → ∀ ω, (call ω).1.isSome = true) (hcalm : calm → Calm ports room w) :
    Answers calm d baton (ask call fun answer => [event answer]) w
      (fun a w' => Looked d baton phase pending calm ports room w w' ∧
        (⟨w.storage.records, event (some a)⟩ : HostEntry) ∈ w'.trace) := by
  exact (ask_outcome call (fun answer => [event answer]) h (fun answer => h.traced.snoc (hadmits answer)) hlive
    hcalm).weaken fun _ _ hlooked => ⟨hlooked.1, hlooked.2 _ mem_cons_self⟩

theorem ask_silent (h : At d baton phase pending w)
    (hlive : ports.Live → ∀ ω, (call ω).1.isSome = true) (hcalm : calm → Calm ports room w) :
    Answers calm d baton (ask call fun _ => []) w (fun _ => Looked d baton phase pending calm ports room w) := by
  have htrace : Justified (HostAdmits d baton) (w.trace ++ []) := (append_nil _).symm ▸ h.traced
  exact (ask_outcome call (fun _ => []) h (fun _ => htrace) hlive hcalm).weaken fun _ _ hlooked => hlooked.1

/-- The texts from which the coordinator derives identifiers. -/
def coordinatorLabels : List String :=
  ["candidate-cleanup", "current-cleanup", "recover-current-cleanup", "recover-candidate-cleanup",
    "recover-rollback-cleanup", "rollback-launch", "candidate-launch", "rollback-evidence", "diagnostic", "notice",
    "unsupported", "manual", "rollback", "verified"]

private theorem coordinatorLabels_valid : ∀ label ∈ coordinatorLabels,
    stableIdText ("bootstrap." ++ label ++ ".") = true ∧ ("bootstrap." ++ label ++ ".").utf8ByteSize + 24 ≤ 128 := by
  decide

theorem stableId_eq {label : String} (h : label ∈ coordinatorLabels) (id : StableId) :
    ∃ derived, stableId d id label = .ok derived := by
  obtain ⟨hvalid, hlength⟩ := coordinatorLabels_valid label h
  have htext := stableIdText_digest _ (d.derivedId id label) 24 hvalid hlength
  refine ⟨⟨_, htext⟩, ?_⟩
  rw [stableId, StableId.parse, dif_pos htext]
  rfl

theorem stableId_bind {k : StableId → CoordinatorProg Ω α} (hlabel : label ∈ coordinatorLabels) (id : StableId)
    (hk : ∀ derived, Outcome (k derived) w post failed) :
    Outcome (orFail (stableId d id label) >>= k) w post failed := by
  obtain ⟨derived, hderived⟩ := stableId_eq (d := d) hlabel id
  rw [hderived]
  exact hk derived

end Rules

end Aworkit.Helper
