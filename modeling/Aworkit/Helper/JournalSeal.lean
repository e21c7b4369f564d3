import Aworkit.Helper.JournalChain

/-! A sealed result stays readable until a record is appended behind it. -/
namespace Aworkit.Helper
open Protocol Fallible Hoare JournalRecordPayloadV1

variable {payload : JournalRecordPayloadV1} {next : JournalStep} {α : Type}

/-- The result can be read, and recovery reports it. -/
def Readable (d : JournalDigests) (s : JournalStorage) (result : BootstrapResultV1) : Prop :=
  s.readBootstrapResult d result.activationId = .ok result ∧
    ∃ state, s.loadActivationRecovery d result.activationId = .ok (some state) ∧ state.terminal = some result

/-- A step whose first write appends a record to a fenced activation: an effect intent, or the advance from `verified`
to `recovering`. -/
def Reopens (d : JournalDigests) (j : ActivationJournal) : JournalStep → Prop
  | .call writes (.appendEffectIntent mutation) =>
    j.held = true ∧
      j.storage.Fenced d mutation.activationId mutation.expectedOrdinal mutation.expectedPhase ∧
      mutation.effect.observationHash.isEmpty = true ∧ mutation.effect.processGeneration ≤ maxSafeWireInteger ∧
      writes.head? ≠ some .lost
  | .call writes (.advancePhase mutation) =>
    j.held = true ∧
      j.storage.Fenced d mutation.activationId mutation.expectedOrdinal mutation.expectedPhase ∧
      deriveBootstrapPhase j.storage.records = .verified ∧ mutation.nextPhase = .recovering ∧
      writes.head? ≠ some .lost
  | _ => False

/-- The files a result is read from are the same. -/
structure SameFiles (s s' : JournalStorage) : Prop where
  header : s'.header = s.header
  records : s'.records = s.records
  receipt : s'.receipt = s.receipt
  notice : s'.notice = s.notice

theorem SameFiles.refl (s : JournalStorage) : SameFiles s s := ⟨rfl, rfl, rfl, rfl⟩

namespace JournalStorage
variable {d : JournalDigests} {s s' : JournalStorage} {result : BootstrapResultV1}

/-- Its receipt is bound to the chain, no effect is open, and its phase fits. -/
structure Sealed (d : JournalDigests) (s : JournalStorage) (result : BootstrapResultV1) : Prop where
  activated : ∃ header, Activated d s header ∧ header.activationId = result.activationId
  bound : ∃ terminal, Bound d s terminal ∧ terminal.receipt = result
  closed : openEffect s.records = none
  phase : resultCanSeal (deriveBootstrapPhase s.records) result.result = true
  noticed : deriveBootstrapPhase s.records = .manualRecoveryRequired → s.notice.isSome = true

theorem readable_iff : Readable d s result ↔
    (∃ header, Activated d s header ∧ header.activationId = result.activationId) ∧
      ∃ terminal, Bound d s terminal ∧ terminal.receipt = result := by
  constructor
  · rintro ⟨_, state, hload, hterminal⟩
    obtain ⟨header, terminal, hactivated, hid, hread, rfl⟩ := loadActivationRecovery_eq_some.mp hload
    obtain rfl : terminal = some result := hterminal
    obtain ⟨terminal, hbound, hreceipt, _⟩ := activationTerminal_eq_some.mp hread
    exact ⟨⟨header, hactivated, hid⟩, terminal, hbound, hreceipt⟩
  · rintro ⟨⟨header, hactivated, hid⟩, terminal, hbound, rfl⟩
    have hread := activationTerminal_eq_some.mpr ⟨terminal, hbound, rfl, rfl⟩
    have hload := loadActivationRecovery_eq_some.mpr ⟨header, _, hactivated, hid, hread, rfl⟩
    refine ⟨?_, _, hload, rfl⟩
    simp only [readBootstrapResult, passes]
    refine ⟨_, hbound.stored, ?_⟩
    simp only [passes, bne_self_eq_false]
    exact ⟨(), trivial, _, hload, rfl⟩

section
variable (h : Sealed d s result)
include h

theorem Sealed.readable : Readable d s result := readable_iff.mpr ⟨h.activated, h.bound⟩

theorem Sealed.same (hsame : SameFiles s s') : Sealed d s' result := by
  obtain ⟨header, hactivated, hid⟩ := h.activated
  obtain ⟨terminal, hbound, hreceipt⟩ := h.bound
  refine ⟨⟨header, ⟨?_, ?_⟩, hid⟩, ⟨terminal, ⟨?_, hbound.hashed, ?_, ?_⟩, hreceipt⟩, ?_, ?_, ?_⟩
  · rw [hsame.header, hactivated.stored]
  · rw [hsame.records, hactivated.verified]
  · rw [hsame.receipt, hbound.stored]
  · rw [hsame.records]
    exact hbound.head
  · rw [hsame.notice]
    exact hbound.notice
  · rw [hsame.records]
    exact h.closed
  · rw [hsame.records]
    exact h.phase
  · rw [hsame.records, hsame.notice]
    exact h.noticed

theorem Sealed.terminal : bootstrapIsTerminal (deriveBootstrapPhase s.records) = true := by
  have hphase := h.phase
  revert hphase
  cases result.result <;> cases deriveBootstrapPhase s.records <;> simp [resultCanSeal, bootstrapIsTerminal]

theorem Sealed.records_ne_nil : s.records ≠ [] := by
  obtain ⟨terminal, hbound, _⟩ := h.bound
  obtain ⟨head, hhead, _⟩ := hbound.head
  rintro hnil
  rw [hnil] at hhead
  cases hhead

theorem Sealed.receipt_isSome : s.receipt.isSome = true := by
  obtain ⟨terminal, hbound, _⟩ := h.bound
  rw [hbound.stored]
  rfl

theorem Sealed.not_enrollment (id : StableId) : s.enrollmentId d ≠ .ok id := by
  obtain ⟨header, hactivated, _⟩ := h.activated
  rintro henrollment
  obtain ⟨other, hother, _⟩ := enrollmentId_eq_ok.mp henrollment
  cases hactivated.stored.symm.trans hother

end

theorem sealed_of_sealable (h : Sealable d s result) (hlast : s.records.getLast? = some last) :
    Sealed d { s with receipt := some (.bootstrapResult (sealOf d s result last)) } result := by
  obtain ⟨header, ⟨hstored, hverified⟩, hid⟩ := h.activated
  refine ⟨⟨header, ⟨hstored, hverified⟩, hid⟩,
    ⟨_, ⟨rfl, bootstrapSealHash_eq h.hashed, ⟨last, hlast, rfl, rfl⟩, rfl⟩, rfl⟩, h.closed, h.phase, ?_⟩
  intro hmanual
  apply h.noticed
  have hphase := h.phase
  rw [show deriveBootstrapPhase s.records = _ from hmanual] at hphase
  revert hphase
  cases result.result with
  | manualRecoveryRequired diagnostic observed instructions => exact fun _ => ⟨_, _, _, rfl⟩
  | unsupported | activatedVerified | rolledBack => exact fun hmanual => by cases hmanual

/-- Behind a readable receipt no record may follow. -/
theorem not_readable_of_grown {record : JournalRecordV1} (h : Readable d s result)
    (hrecords : s'.records = s.records ++ [record]) (hordinal : record.ordinal = s.records.length)
    (hreceipt : s'.receipt = s.receipt) : ¬Readable d s' result := by
  intro hreadable
  obtain ⟨⟨header, hactivated, _⟩, terminal, hbound, _⟩ := readable_iff.mp h
  obtain ⟨_, terminal', hbound', _⟩ := readable_iff.mp hreadable
  have hsame := hbound'.stored
  rw [hreceipt, hbound.stored] at hsame
  cases hsame
  obtain ⟨head, hhead, hold, _⟩ := hbound.head
  obtain ⟨head', hhead', hnew, _⟩ := hbound'.head
  rw [hrecords, List.getLast?_concat] at hhead'
  cases hhead'
  -- The sealed head is the last record of the old chain, whose ordinal is below its length.
  obtain ⟨_, _, hlinked⟩ := (verifyChain_iff _).mp hactivated.verified
  obtain ⟨before, hsplit⟩ := List.getLast?_eq_some_iff.mp hhead
  have hlink := hlinked before head [] hsplit
  have hlength : s.records.length = before.length + 1 := by rw [hsplit]; simp
  have hhead := hlink.ordinal
  omega

end JournalStorage

namespace ActivationJournal
open JournalStorage
variable {d : JournalDigests} {j : ActivationJournal} {s : JournalStorage} {result : BootstrapResultV1}

theorem commit_lost (kind : JournalTransactionKindV1) (id : StableId)
    (h : payload.encodes = true → j.writes.head? = some .lost) :
    Ends (commit d kind id payload) j fun j' => SameFiles j.storage j'.storage := by
  apply Outcome.halts
  apply read_bind
  refine lift_bind (fun _ _ => .refl _) fun _ _ => ?_
  refine lift_bind (fun _ _ => .refl _) fun record hrecord => ?_
  have hencodes := encodes_of_nextRecord hrecord
  apply Outcome.halts
  apply read_bind
  refine lift_bind (fun _ _ => .refl _) fun _ _ => ?_
  unfold Outcome write
  rw [h hencodes]
  exact .refl _

/-- A record with room whose write is not lost becomes durable, whatever the call answers. -/
theorem commit_grows (kind : JournalTransactionKindV1) (id : StableId)
    (hroom : j.storage.records.length < maxJournalRecords) (hencodes : payload.encodes = true)
    (hwrite : j.writes.head? ≠ some .lost) : Ends (commit d kind id payload) j fun j' => SameFiles { j.storage with
      records := j.storage.records ++ [sealedRecord d j.storage.records payload] } j'.storage := by
  refine .via (fun _ j' => SameFiles { j.storage with
    records := j.storage.records ++ [sealedRecord d j.storage.records payload] } j'.storage) ?_ ?_
  · apply read_bind
    refine pass_bind (a := ()) (requireCapacity_eq_ok.mpr hroom) ?_
    refine pass_bind (nextRecord_eq _ hencodes) ?_
    apply Ends.answer
    apply read_bind
    refine pass_bind (a := ()) ((refuseIf_eq_ok _ _ ()).mpr (decide_eq_false (Nat.lt_irrefl _))) ?_
    unfold Outcome write
    revert hwrite
    rcases j.writes with _ | ⟨_ | _ | _, _⟩ <;> intro hwrite
    · exact ⟨rfl, rfl, rfl, rfl⟩
    · exact ⟨rfl, rfl, rfl, rfl⟩
    · exact absurd rfl hwrite
    · exact ⟨rfl, rfl, rfl, rfl⟩
  · intro record j' h
    exact (writeSnapshot_keeps h fun _ => ⟨h.header, h.records, h.receipt, h.notice⟩).answer

theorem acquireSingleFlight_same : Ends acquireSingleFlight j fun j' => SameFiles j.storage j'.storage :=
  acquireSingleFlight_keeps (.refl _) ⟨rfl, rfl, rfl, rfl⟩

/-- A sealed activation keeps its files, unless the call reopens it. -/
theorem perform_same {writes : List WriteOutcome} (call : JournalCall) (hwrites : j.writes = writes)
    (h : Sealed d j.storage result) (hnot : ¬Reopens d j (.call writes call)) :
    Ends (perform d call) j fun j' => SameFiles j.storage j'.storage := by
  have hopening : ∀ kind id unsealed payload, Ends (openTransaction d kind id unsealed payload) j
      fun j' => SameFiles j.storage j'.storage := by
    intro kind id unsealed payload
    refine guarded_outcome (fun s => refuseIf (!s.records.isEmpty) (.staleOrdinal 0 s.records.length)) _ (.refl _) ?_
    intro _ _ hempty
    rw [refuseIf_eq_ok, Bool.not_eq_false', List.isEmpty_iff] at hempty
    exact absurd hempty h.records_ne_nil
  cases call with
  | acquireSingleFlight => exact acquireSingleFlight_same
  | appendEnrollmentIntent request identities | appendBatonAccepted baton =>
    exact (hopening _ _ _ _).answer
  | appendEnrollmentObservation mutation =>
    refine (guarded_outcome (guardObservation d · mutation) _ (.refl _) fun _ _ hguard => ?_).answer
    obtain ⟨id, hid, _⟩ := (bind_ok_iff _ _ _).mp hguard
    exact absurd hid (h.not_enrollment id)
  | storeEnrollmentPrepared receipt =>
    refine (guarded_outcome (sealEnrollment d · receipt) _ (.refl _) fun _ _ hguard => ?_).answer
    obtain ⟨id, hid, _⟩ := (bind_ok_iff _ _ _).mp hguard
    exact absurd hid (h.not_enrollment id)
  | appendEffectIntent mutation =>
    refine (guarded_outcome (guardEffect d · mutation true) _ (.refl _) ?_).answer
    intro hheld _ hguard
    obtain ⟨hfenced, hcheck⟩ := guardEffect_eq_ok.mp hguard
    refine commit_lost _ _ fun hencodes => ?_
    by_contra hlost
    refine hnot ⟨hheld, hfenced, (checkEffect_intent.mp hcheck).1, ?_, by rwa [← hwrites]⟩
    simpa [encodes, generations] using hencodes
  | appendObservedEffect mutation =>
    refine (guarded_outcome (guardEffect d · mutation false) _ (.refl _) ?_).answer
    intro _ _ hguard
    obtain ⟨_, intent, hopen, _⟩ := checkEffect_observed.mp (guardEffect_eq_ok.mp hguard).2
    cases h.closed.symm.trans hopen
  | advancePhase mutation =>
    refine (guarded_outcome (guardAdvance d · mutation) _ (.refl _) ?_).answer
    intro hheld _ hguard
    obtain ⟨hfenced, hterminal, _⟩ := guardAdvance_eq_ok.mp hguard
    obtain ⟨hverified, hrecovering⟩ := hterminal h.terminal
    refine commit_lost _ _ fun _ => ?_
    by_contra hlost
    exact hnot ⟨hheld, hfenced, hverified, hrecovering, by rwa [← hwrites]⟩
  | appendCommandAdmitted command =>
    refine (guarded_outcome (guardCommand d · command) _ (.refl _) ?_).answer
    intro _ _ hguard
    simp only [guardCommand, passes, activationRecords_eq_ok] at hguard
    obtain ⟨_, ⟨rfl, _⟩, _, _, _, hopen, _⟩ := hguard
    cases h.terminal.symm.trans hopen
  | storeManualRecoveryNotice notice =>
    refine (guarded_outcome (guardNotice d · notice) _ (.refl _) ?_).answer
    intro _ records hguard
    simp only [guardNotice, bind_ok_iff, verifiedRecords_eq_ok, fencePhase_eq_ok] at hguard
    obtain ⟨_, _, _, _, _, _, _, ⟨rfl, _⟩, _, hphase, _⟩ := hguard
    refine .via (fun _ j' => SameFiles j.storage j'.storage) ?_ fun _ _ h => ?_
    · -- A notice is stored already, so that this one is the same or refused.
      obtain ⟨existing, hexisting⟩ := Option.isSome_iff_exists.mp (h.noticed hphase.symm)
      apply read_bind
      rw [hexisting]
      exact .lift (fun _ _ => .refl _) fun _ _ => .refl _
    · exact lift_bind (fun _ _ => h) fun _ _ => h
  | storeBootstrapResult other =>
    refine (guarded_outcome (sealResult d · other) _ (.refl _) ?_).answer
    rintro _ ⟨terminal, last⟩ hguard
    have hunsealed := (sealResult_eq_ok.mp hguard).1.unsealed
    have hsealed := h.receipt_isSome
    rw [hunsealed] at hsealed
    cases hsealed
  | sealTerminal => exact guarded_outcome (guardTerminal d) _ (.refl _) fun _ _ _ => ⟨rfl, rfl, rfl, rfl⟩

theorem step_same (h : Sealed d j.storage result) (hnot : ¬Reopens d j next) :
    SameFiles j.storage (step d j next).storage := by
  cases next with
  | call writes call =>
    have hnot' : ¬Reopens d { j with writes } (.call writes call) := by
      cases call <;> exact hnot
    exact (perform_same (j := { j with writes }) call rfl h hnot').state
  | restart => exact ⟨rfl, rfl, rfl, rfl⟩

private theorem discard_same {call : JournalProg α} {s : JournalStorage}
    (h : SameFiles s (call j).2.storage) : SameFiles s ((discard call : JournalProg Unit) j).2.storage :=
  (Prog.state_discard call j).symm ▸ h

theorem checked_grows (kind : JournalTransactionKindV1) (id : StableId)
    (guard : JournalStorage → Except BootstrapJournalError α) {a : α} (hheld : j.held = true)
    (hguard : guard j.storage = .ok a) (hroom : j.storage.records.length < maxJournalRecords)
    (hencodes : payload.encodes = true) (hwrite : j.writes.head? ≠ some .lost) :
    SameFiles { j.storage with records := j.storage.records ++ [sealedRecord d j.storage.records payload] }
      ((discard (requireHeld >>= fun _ => Prog.read >>= fun j => Prog.lift (guard j.storage) >>= fun _ =>
        commit d kind id payload) : JournalProg Unit) j).2.storage := by
  apply discard_same
  rw [guarded_run guard hheld hguard]
  exact (commit_grows kind id hroom hencodes hwrite).state

theorem step_reopened (h : Sealed d j.storage result) (hnext : Reopens d j next) :
    ∃ record, record.ordinal = j.storage.records.length ∧
      (step d j next).storage.records = j.storage.records ++ [record] ∧
      (step d j next).storage.receipt = j.storage.receipt := by
  cases next with
  | restart => cases hnext
  | call writes call =>
    cases call with
    | appendEffectIntent mutation =>
      obtain ⟨hheld, hfenced, hblank, hencodes, hwrite⟩ := hnext
      have hguard : j.storage.guardEffect d mutation true = .ok () :=
        guardEffect_eq_ok.mpr ⟨hfenced, checkEffect_intent.mpr ⟨hblank, h.closed⟩⟩
      have hpayload : (effectIntent mutation.effect).encodes = true := by
        simpa [encodes, generations] using hencodes
      have hgrown := checked_grows (d := d) (j := { j with writes }) .activation mutation.activationId
        (guardEffect d · mutation true) hheld hguard hfenced.room hpayload hwrite
      exact ⟨_, rfl, hgrown.records, hgrown.receipt⟩
    | advancePhase mutation =>
      obtain ⟨hheld, hfenced, hverified, hrecovering, hwrite⟩ := hnext
      have hguard : j.storage.guardAdvance d mutation = .ok () := by
        refine guardAdvance_eq_ok.mpr ⟨hfenced, fun _ => ⟨hverified, hrecovering⟩, h.closed, ?_⟩
        rw [hverified, hrecovering]
        rfl
      have hpayload : (phaseAdvance mutation.nextPhase).encodes = true := rfl
      have hgrown := checked_grows (d := d) (j := { j with writes }) .activation mutation.activationId
        (guardAdvance d · mutation) hheld hguard hfenced.room hpayload hwrite
      exact ⟨_, rfl, hgrown.records, hgrown.receipt⟩
    | _ => cases hnext

theorem sealed_of_stored {j' : ActivationJournal} {ack : JournalDurableAckV1}
    (h : storeBootstrapResult d result j = (.ok ack, j')) : Sealed d j'.storage result := by
  have houtcome : Outcome (storeBootstrapResult d result) j (fun _ j' => Sealed d j'.storage result)
      fun _ _ => True := by
    refine .via (fun _ j' => j' = j) ?_ ?_
    · apply read_bind
      exact .lift (fun _ _ => trivial) fun _ _ => rfl
    rintro _ _ rfl
    apply read_bind
    refine lift_bind (fun _ _ => trivial) ?_
    rintro ⟨terminal, last⟩ hguard
    obtain ⟨hsealable, hlast, rfl⟩ := sealResult_eq_ok.mp hguard
    refine .via (fun _ j' => Sealed d j'.storage result) ?_ fun _ _ h => h
    apply read_bind
    refine lift_bind (fun _ _ => trivial) fun _ _ => ?_
    refine (write_outcome _).conseq ?_ fun _ _ _ => trivial
    rintro _ j' ⟨_, hstorage⟩
    rw [hstorage]
    exact sealed_of_sealable hsealable hlast
  exact houtcome.of_ok h

theorem run_snoc (steps : List JournalStep) (next : JournalStep) (j : ActivationJournal) :
    run d (steps ++ [next]) j = step d (run d steps j) next := by
  rw [run, List.foldl_append]
  rfl

/-- As long as the result is readable after every step, no step has reopened. -/
theorem run_sealed (h : Sealed d j.storage result)
    (hsteps : ∀ earlier next later, steps = earlier ++ next :: later → Sealed d (run d earlier j).storage result →
      ¬Reopens d (run d earlier j) next) : Sealed d (run d steps j).storage result := by
  induction steps using List.reverseRecOn with
  | nil => exact h
  | append_singleton steps next ih =>
    have hbefore : Sealed d (run d steps j).storage result := by
      refine ih ?_
      intro earlier other later hsplit
      exact hsteps earlier other (later ++ [next]) (by rw [hsplit]; simp)
    rw [run_snoc]
    exact hbefore.same (step_same hbefore (hsteps steps next [] rfl hbefore))

/-- A stored result stays readable in every state of a run exactly if no step of the run reopens the activation. -/
theorem sealed_result_readable (d : JournalDigests) (result : BootstrapResultV1) (j j' : ActivationJournal)
    (ack : JournalDurableAckV1) (hstored : storeBootstrapResult d result j = (.ok ack, j')) (steps : List JournalStep) :
    (∀ earlier later, steps = earlier ++ later → Readable d (run d earlier j').storage result) ↔
      ∀ earlier next later, steps = earlier ++ next :: later → ¬Reopens d (run d earlier j') next := by
  have hsealed := sealed_of_stored hstored
  constructor
  · intro hreadable earlier next later hsplit hreopens
    have hnever : ∀ before other after, steps = before ++ other :: after →
        Sealed d (run d before j').storage result → ¬Reopens d (run d before j') other := by
      intro before other after hother hbefore hreopened
      obtain ⟨record, hordinal, hrecords, hreceipt⟩ := step_reopened hbefore hreopened
      refine not_readable_of_grown hbefore.readable hrecords hordinal hreceipt ?_
      rw [← run_snoc]
      exact hreadable (before ++ [other]) after (by rw [hother]; simp)
    refine hnever earlier next later hsplit ?_ hreopens
    refine run_sealed hsealed fun before other after hother hbefore => ?_
    exact hnever before other (after ++ next :: later) (by rw [hsplit, hother]; simp) hbefore
  · intro hsteps earlier later hsplit
    refine (run_sealed hsealed fun before other after hother _ => ?_).readable
    exact hsteps before other (after ++ later) (by rw [hsplit, hother]; simp)

section Sample
variable (d)

/-- An effect intent for the sealed sample. -/
def sampleLateIntent : BootstrapJournalMutationV1 :=
  { activationId := sampleId, expectedOrdinal := 2, expectedPhase := .unsupported, effect := sampleEffect }

private theorem sampleSealed_reopens : Reopens d (sampleSealed d) (.call [] (.appendEffectIntent sampleLateIntent)) := by
  have hactivated : Activated d (sampleSealed d).storage (sampleHeader d) :=
    ⟨(sampleUnsupported_activated d).stored, (sampleUnsupported_activated d).verified⟩
  exact ⟨rfl, ⟨⟨_, hactivated, rfl⟩, (by decide : 2 < 512), rfl, rfl⟩, rfl, (by decide : 1 ≤ maxSafeWireInteger), nofun⟩

/-- An effect intent behind a sealed result is accepted and hides it. -/
theorem sealed_result_lost :
    (∀ d, ∃ ack, storeBootstrapResult d (sampleResult d) (sampleUnsupported d) = (.ok ack, sampleSealed d)) ∧
    ∀ d, Readable d (sampleSealed d).storage (sampleResult d) ∧
      ¬Readable d (run d [.call [] (.appendEffectIntent sampleLateIntent)] (sampleSealed d)).storage
        (sampleResult d) := by
  refine ⟨sampleResult_run, fun d => ?_⟩
  obtain ⟨ack, hstored⟩ := sampleResult_run d
  have hsealed := sealed_of_stored hstored
  obtain ⟨record, hordinal, hrecords, hreceipt⟩ := step_reopened hsealed (sampleSealed_reopens d)
  exact ⟨hsealed.readable, not_readable_of_grown hsealed.readable hrecords hordinal hreceipt⟩

/-- The helper restarts, takes the lock again and offers another baton. -/
def sampleLater : List JournalStep :=
  [.restart, .call [] .acquireSingleFlight, .call [.unconfirmed] (.appendBatonAccepted sampleBaton)]

theorem sample_result_readable :
    (∀ d, ∃ ack, storeBootstrapResult d (sampleResult d) (sampleUnsupported d) = (.ok ack, sampleSealed d)) ∧
    ∀ d earlier later, sampleLater = earlier ++ later →
      Readable d (run d earlier (sampleSealed d)).storage (sampleResult d) := by
  refine ⟨sampleResult_run, fun d => ?_⟩
  obtain ⟨ack, hstored⟩ := sampleResult_run d
  refine (sealed_result_readable d _ _ _ ack hstored sampleLater).mpr ?_
  intro earlier next later hsplit
  unfold sampleLater at hsplit
  rcases earlier with _ | ⟨_, _ | ⟨_, _ | ⟨_, _⟩⟩⟩
  · cases hsplit
    exact id
  · cases hsplit
    exact id
  · cases hsplit
    exact id
  · simp at hsplit

end Sample

end ActivationJournal

end Aworkit.Helper
