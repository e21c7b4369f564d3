import Aworkit.Helper.JournalLinks

/-! What every run of the journal's port keeps of its chain. -/
namespace Aworkit.Helper
open Protocol Fallible Hoare JournalStorage JournalRecordV1 CommandAdmittedV1 List

variable {j : ActivationJournal} {record : JournalRecordV1} {s : JournalStorage} {α : Type}

/-- What the journal asks of a payload behind the records before it. -/
def Admits (before : List JournalRecordV1) : JournalRecordPayloadV1 → Prop
  | .enrollmentIntent _ | .batonAccepted _ => before = []
  | .enrollmentObservation _ => deriveEnrollmentPhase before = .intent
  | .effectIntent _ => openEffect before = none
  | .observedEffect effect => ∃ intent, openEffect before = some intent ∧ effectsMatch intent effect = true
  | .phaseAdvance next => openEffect before = none ∧ bootstrapCanAdvance (deriveBootstrapPhase before) next = true
  | .commandAdmitted command => ∀ earlier ∈ admittedCommands before, earlier.commandId ≠ command.commandId

/-- The records that open a transaction. -/
def JournalRecordPayloadV1.opens : JournalRecordPayloadV1 → Bool
  | .enrollmentIntent _ | .batonAccepted _ => true
  | _ => false

/-- The record a call asks for. -/
def JournalCall.payload : JournalCall → Option JournalRecordPayloadV1
  | .appendEnrollmentIntent request identities => some (.enrollmentIntent { request, identities })
  | .appendEnrollmentObservation mutation => some (.enrollmentObservation mutation.observation)
  | .appendBatonAccepted baton => some (.batonAccepted baton)
  | .appendEffectIntent mutation => some (.effectIntent mutation.effect)
  | .appendObservedEffect mutation => some (.observedEffect mutation.effect)
  | .advancePhase mutation => some (.phaseAdvance mutation.nextPhase)
  | .appendCommandAdmitted command => some (.commandAdmitted command)
  | _ => none

def JournalStep.payload : JournalStep → Option JournalRecordPayloadV1
  | .call _ asked => asked.payload
  | .restart => none

/-- What a call that asks for a record can do to the header and the chain. -/
inductive Extends (d : JournalDigests) (asked : Option JournalRecordPayloadV1) (s s' : JournalStorage) : Prop
  | kept (hheader : s'.header = s.header) (hrecords : s'.records = s.records)
  | headed (header : JournalHeaderV1) (hnew : s.header = none) (hvalid : verifyHeader d header = .ok ())
      (hheader : s'.header = some header) (hrecords : s'.records = s.records)
  | grown (header : JournalHeaderV1) (record : JournalRecordV1)
      (hasked : asked = some record.payload)
      (hbefore : s.header = some header ∨ s.header = none ∧ s.records = [] ∧ record.payload.opens = true)
      (hvalid : verifyHeader d header = .ok ()) (hroom : s.records.length < maxJournalRecords)
      (hlinked : Linked d header s.records record) (hadmits : Admits s.records record.payload)
      (hheader : s'.header = some header) (hrecords : s'.records = s.records ++ [record])

namespace JournalStorage
variable {d : JournalDigests}

/-- An intent is recorded with no effect open, an observation if it matches. -/
theorem guardEffect_admits {mutation : BootstrapJournalMutationV1}
    (h : s.guardEffect d mutation isIntent = .ok ()) : (∃ header, Activated d s header) ∧
      Admits s.records (if isIntent then .effectIntent mutation.effect else .observedEffect mutation.effect) := by
  obtain ⟨⟨⟨header, hactivated, _⟩, _, _, _⟩, hcheck⟩ := guardEffect_eq_ok.mp h
  refine ⟨⟨header, hactivated⟩, ?_⟩
  cases isIntent with
  | true => exact (checkEffect_intent.mp hcheck).2
  | false => exact (checkEffect_observed.mp hcheck).2

theorem guardAdvance_admits {mutation : BootstrapPhaseAdvanceV1} (h : s.guardAdvance d mutation = .ok ()) :
    (∃ header, Activated d s header) ∧ Admits s.records (.phaseAdvance mutation.nextPhase) := by
  obtain ⟨⟨⟨header, hactivated, _⟩, _, _, _⟩, _, hopen, hedge⟩ := guardAdvance_eq_ok.mp h
  exact ⟨⟨header, hactivated⟩, hopen, hedge⟩

theorem guardCommand_admits (h : s.guardCommand d command = .ok ()) :
    (∃ header, Activated d s header) ∧ Admits s.records (.commandAdmitted command) := by
  simp only [guardCommand, bind_ok_iff, activationRecords_eq_ok] at h
  obtain ⟨_, ⟨rfl, header, hactivated, _⟩, _, _, _, _, _, _, hfresh⟩ := h
  refine ⟨⟨header, hactivated⟩, ?_⟩
  split at hfresh
  case h_1 hnone =>
    intro earlier hearlier
    simpa using find?_eq_none.mp hnone earlier hearlier
  case h_2 => split at hfresh <;> cases hfresh

theorem guardObservation_admits {mutation : EnrollmentJournalMutationV1} (h : s.guardObservation d mutation = .ok ()) :
    (∃ header, s.header = some (.enrollment header) ∧ verifyHeader d (.enrollment header) = .ok ()) ∧
      Admits s.records (.enrollmentObservation mutation.observation) := by
  simp only [guardObservation, passes, enrollmentId_eq_ok, verifiedRecords_eq_ok] at h
  obtain ⟨_, ⟨header, hheader, hvalid, _⟩, _, _, _, ⟨rfl, _⟩, _, _, _, _, _, _, hedge⟩ := h
  refine ⟨⟨header, hheader, hvalid⟩, ?_⟩
  show deriveEnrollmentPhase s.records = .intent
  revert hedge
  cases deriveEnrollmentPhase s.records <;> simp [enrollmentCanAdvance]

end JournalStorage

namespace ActivationJournal
open JournalStorage
variable {d : JournalDigests} {header : JournalHeaderV1} {payload : JournalRecordPayloadV1}
  {asked : Option JournalRecordPayloadV1}

theorem kept_rfl (s : JournalStorage) : Extends d asked s s := .kept rfl rfl

private theorem writeSnapshot_kept (h : Extends d asked s j.storage) :
    Ends writeSnapshot j fun j' => Extends d asked s j'.storage := by
  have hframe : ∀ snapshot, Extends d asked s { j.storage with snapshot } := by
    intro snapshot
    cases h with
    | kept hheader hrecords => exact .kept hheader hrecords
    | headed header hnew hvalid hheader hrecords => exact .headed header hnew hvalid hheader hrecords
    | grown header record hasked hbefore hvalid hroom hlinked hadmits hheader hrecords =>
      exact .grown header record hasked hbefore hvalid hroom hlinked hadmits hheader hrecords
  exact writeSnapshot_keeps h hframe

theorem commit_extends (kind : JournalTransactionKindV1) (id : StableId)
    (hheader : j.storage.header = some header) (hvalid : verifyHeader d header = .ok ())
    (hkind : kindMatches header payload = true) (hadmits : Admits j.storage.records payload)
    (hrecords : j.storage.records = s.records) (hasked : asked = some payload) (hstart : Extends d asked s j.storage)
    (hbefore : s.header = some header ∨ s.header = none ∧ s.records = [] ∧ payload.opens = true) :
    Ends (commit d kind id payload) j fun j' => Extends d asked s j'.storage := by
  refine .via (fun _ j' => Extends d asked s j'.storage) ?_ ?_
  · apply read_bind
    refine lift_bind (fun _ _ => hstart) fun _ hcapacity => ?_
    refine lift_bind (fun _ _ => hstart) fun record hrecord => ?_
    obtain ⟨hlinked, rfl⟩ := nextRecord_linked hrecord hkind
    rw [requireCapacity_eq_ok] at hcapacity
    have hgrown : Extends d asked s { j.storage with records := j.storage.records ++ [record] } := by
      refine .grown header record hasked hbefore hvalid ?_ ?_ ?_ hheader ?_
      · rwa [← hrecords]
      · rwa [← hrecords]
      · rwa [← hrecords]
      · rw [hrecords]
    apply Ends.answer
    apply read_bind
    exact lift_bind (fun _ _ => hstart) fun _ _ => write_keeps hstart hgrown
  · intro record j' hgrown
    exact (writeSnapshot_kept hgrown).answer

section
variable (kind : JournalTransactionKindV1) (id : StableId) (guard : JournalStorage → Except BootstrapJournalError α)
  (hasked : asked = some payload)
include hasked

theorem checked_extends
    (hguard : ∀ a, guard j.storage = .ok a → (∃ header, j.storage.header = some header ∧
      verifyHeader d header = .ok () ∧ kindMatches header payload = true) ∧ Admits j.storage.records payload) :
    Ends (requireHeld >>= fun _ => Prog.read >>= fun j => Prog.lift (guard j.storage) >>= fun _ =>
      commit d kind id payload) j fun j' => Extends d asked j.storage j'.storage := by
  refine guarded_outcome guard _ (kept_rfl _) fun _ a ha => ?_
  obtain ⟨⟨header, hheader, hvalid, hkind⟩, hadmits⟩ := hguard a ha
  exact commit_extends kind id hheader hvalid hkind hadmits rfl hasked (kept_rfl _) (.inl hheader)

theorem activated_extends
    (hkind : ∀ header, kindMatches (.activation header) payload = true)
    (hguard : ∀ a, guard j.storage = .ok a → (∃ header, Activated d j.storage header) ∧
      Admits j.storage.records payload) :
    Ends (requireHeld >>= fun _ => Prog.read >>= fun j => Prog.lift (guard j.storage) >>= fun _ =>
      commit d kind id payload) j fun j' => Extends d asked j.storage j'.storage := by
  refine checked_extends kind id guard hasked fun a ha => ?_
  obtain ⟨⟨header, hactivated⟩, hadmits⟩ := hguard a ha
  exact ⟨⟨_, hactivated.stored, hactivated.valid, hkind header⟩, hadmits⟩

end

private theorem establishHeader_extends (hvalid : verifyHeader d header = .ok ()) :
    Outcome (establishHeader d header) j (fun _ j' => j'.storage.header = some header ∧
      j'.storage.records = j.storage.records ∧ Extends d asked j.storage j'.storage ∧
      (j.storage.header = some header ∨ j.storage.header = none))
      fun _ j' => Extends d asked j.storage j'.storage := by
  apply read_bind
  split
  case h_1 hnone =>
    apply read_bind
    refine lift_bind (fun _ _ => kept_rfl _) fun _ _ => ?_
    refine (write_outcome _).conseq ?_ ?_
    · rintro _ j' ⟨_, hstorage⟩
      rw [hstorage]
      exact ⟨rfl, rfl, .headed header hnone hvalid rfl rfl, .inr hnone⟩
    · rintro _ j' ⟨_, hstorage | hstorage⟩
      · rw [hstorage]
        exact kept_rfl _
      · rw [hstorage]
        exact .headed header hnone hvalid rfl rfl
  case h_2 existing hexisting =>
    refine lift_bind (fun _ _ => kept_rfl _) fun _ hsame => ?_
    refine .lift (fun _ _ => kept_rfl _) fun _ _ => ?_
    rw [refuseIf_eq_ok, bne_eq_false_iff_eq] at hsame
    subst hsame
    exact ⟨hexisting, rfl, kept_rfl _, .inl hexisting⟩

private theorem openTransaction_extends (kind : JournalTransactionKindV1) (id : StableId) (unsealed : JournalHeaderV1)
    (hvalid : ∀ header, sealHeader d unsealed = .ok header →
      verifyHeader d header = .ok () ∧ kindMatches header payload = true) (hasked : asked = some payload)
    (hopens : payload.opens = true) (hadmits : Admits [] payload) :
    Ends (openTransaction d kind id unsealed payload) j fun j' => Extends d asked j.storage j'.storage := by
  refine .via (fun _ j' => j' = j) ?_ ?_
  · apply read_bind
    exact .lift (fun _ _ => kept_rfl _) fun _ _ => rfl
  · rintro _ _ rfl
    apply read_bind
    refine lift_bind (fun _ _ => kept_rfl _) fun _ hempty => ?_
    rw [refuseIf_eq_ok, Bool.not_eq_false', List.isEmpty_iff] at hempty
    refine lift_bind (fun _ _ => kept_rfl _) fun header hsealed => ?_
    obtain ⟨hheader, hkind⟩ := hvalid header hsealed
    refine .bind (establishHeader_extends hheader) ?_
    rintro _ j' ⟨hstored, hrecords, hstart, hbefore⟩
    refine commit_extends kind id hstored hheader hkind ?_ hrecords hasked hstart ?_
    · rw [hrecords, hempty]
      exact hadmits
    · exact hbefore.imp_right fun hnone => ⟨hnone, hempty, hopens⟩

theorem sealReceipt_kept (receipt : TerminalReceiptV1) :
    Ends (JournalStorage.sealReceipt receipt) j fun j' => Extends d asked j.storage j'.storage := by
  apply read_bind
  exact lift_bind (fun _ _ => kept_rfl _) fun _ _ => write_keeps (kept_rfl _) (.kept rfl rfl)

private theorem writeNotice_kept (notice : ManualRecoveryNoticeV1) :
    Ends (writeNotice notice) j fun j' => Extends d asked j.storage j'.storage := by
  apply read_bind
  split
  case h_1 => exact .lift (fun _ _ => kept_rfl _) fun _ _ => kept_rfl _
  case h_2 => exact write_keeps (kept_rfl _) (.kept rfl rfl)

private theorem perform_extends (call : JournalCall) :
    Ends (perform d call) j fun j' => Extends d call.payload j.storage j'.storage := by
  cases call with
  | acquireSingleFlight => exact acquireSingleFlight_keeps (kept_rfl _) (.kept rfl rfl)
  | appendEnrollmentIntent request identities | appendBatonAccepted baton =>
    refine Ends.answer (openTransaction_extends _ _ _ ?_ rfl rfl rfl)
    intro header hsealed
    refine ⟨sealHeader_valid hsealed ⟨rfl, rfl, rfl⟩, ?_⟩
    obtain ⟨hash, _, hheader⟩ := (bind_ok_iff _ _ _).mp hsealed
    cases hheader
    rfl
  | appendEnrollmentObservation mutation =>
    refine (checked_extends _ _ (guardObservation d · mutation) rfl ?_).answer
    intro _ hguard
    obtain ⟨⟨header, hheader, hvalid⟩, hadmits⟩ := guardObservation_admits hguard
    exact ⟨⟨_, hheader, hvalid, rfl⟩, hadmits⟩
  | appendEffectIntent mutation | appendObservedEffect mutation =>
    exact (activated_extends _ _ (guardEffect d · mutation _) rfl (fun _ => rfl) fun _ => guardEffect_admits).answer
  | advancePhase mutation =>
    exact (activated_extends _ _ (guardAdvance d · mutation) rfl (fun _ => rfl) fun _ => guardAdvance_admits).answer
  | appendCommandAdmitted command =>
    exact (activated_extends _ _ (guardCommand d · command) rfl (fun _ => rfl) fun _ => guardCommand_admits).answer
  | storeEnrollmentPrepared receipt =>
    exact (guarded_outcome (sealEnrollment d · receipt) _ (kept_rfl _) fun _ _ _ => (sealReceipt_kept _).answer).answer
  | storeBootstrapResult result =>
    exact (guarded_outcome (sealResult d · result) _ (kept_rfl _) fun _ _ _ => (sealReceipt_kept _).answer).answer
  | storeManualRecoveryNotice notice =>
    refine .answer (guarded_outcome (guardNotice d · notice) _ (kept_rfl _) ?_)
    intro _ records _
    refine .bind (writeNotice_kept notice) fun _ _ h => ?_
    exact lift_bind (fun _ _ => h) fun _ _ => h
  | sealTerminal =>
    exact guarded_outcome (guardTerminal d) _ (kept_rfl _) fun _ _ _ => .kept rfl rfl

theorem step_extends (j : ActivationJournal) (next : JournalStep) :
    Extends d next.payload j.storage (step d j next).storage := by
  cases next with
  | call writes call => exact (perform_extends call (j := { j with writes })).state
  | restart => exact .kept rfl rfl

/-- Every record of the chain was linked and admitted when it was appended. -/
structure Built (d : JournalDigests) (stored : Option JournalHeaderV1) (records : List JournalRecordV1) : Prop where
  headless : stored = none → records = []
  valid : ∀ header, stored = some header → verifyHeader d header = .ok ()
  capped : records.length ≤ maxJournalRecords
  linked : ∀ header, stored = some header → Justified (Linked d header) records
  admitted : Justified (fun before record => Admits before record.payload) records

theorem Built.nil (stored : Option JournalHeaderV1)
    (hvalid : ∀ header, stored = some header → verifyHeader d header = .ok ()) : Built d stored [] where
  headless _ := rfl
  valid := hvalid
  capped := Nat.zero_le _
  linked _ _ := .nil
  admitted := .nil

theorem Built.extends {s' : JournalStorage} (h : Built d s.header s.records) (hnext : Extends d asked s s') :
    Built d s'.header s'.records := by
  cases hnext with
  | kept hheader hrecords =>
    rw [hheader, hrecords]
    exact h
  | headed header hnew hvalid hheader hrecords =>
    rw [hheader, hrecords, h.headless hnew]
    exact .nil _ fun _ hsame => Option.some.inj hsame ▸ hvalid
  | grown header record _ hbefore hvalid hroom hrecord hadmits hheader hrecords =>
    have hchain : Justified (Linked d header) s.records := by
      rcases hbefore with hsame | ⟨_, hempty, _⟩
      · exact h.linked header hsame
      · rw [hempty]
        exact .nil
    rw [hheader, hrecords]
    refine ⟨nofun, ?_, ?_, ?_, h.admitted.snoc hadmits⟩
    · rintro _ ⟨⟩
      exact hvalid
    · rw [length_append, length_singleton]
      exact hroom
    · rintro _ ⟨⟩
      exact hchain.snoc hrecord

theorem run_built (steps : List JournalStep) (h : Built d j.storage.header j.storage.records) :
    Built d (run d steps j).storage.header (run d steps j).storage.records := by
  induction steps generalizing j with
  | nil => exact h
  | cons next steps ih => exact ih (h.extends (step_extends j next))

end ActivationJournal

/-- The phases that the records of a chain enter, in order. -/
def phases (records : List JournalRecordV1) : List BootstrapPhaseV1 :=
  records.filterMap fun record => match record.payload with
    | .batonAccepted _ => some .admittingBaton
    | .phaseAdvance next => some next
    | _ => none

/-- The phases that the records of an enrollment enter, in order. -/
def enrollmentPhases (records : List JournalRecordV1) : List EnrollmentPhaseV1 :=
  records.filterMap fun record => match record.payload with
    | .enrollmentIntent _ => some .intent
    | .enrollmentObservation _ => some .published
    | _ => none

/-- The effect that is pending behind a record. -/
def pendingAfter (pending : Option BootstrapEffectV1) : JournalRecordPayloadV1 → Option BootstrapEffectV1
  | .effectIntent effect => some effect
  | .observedEffect _ => none
  | _ => pending

/-- From a pending intent on, intents and their observations take turns. -/
def Alternates : Option BootstrapEffectV1 → List JournalRecordPayloadV1 → Prop
  | _, [] => True
  | none, .effectIntent intent :: rest => Alternates (some intent) rest
  | some _, .effectIntent _ :: _ => False
  | some intent, .observedEffect observed :: rest => effectsMatch intent observed = true ∧ Alternates none rest
  | none, .observedEffect _ :: _ => False
  | pending, _ :: rest => Alternates pending rest

section History
variable {records : List JournalRecordV1}

theorem phases_snoc (records : List JournalRecordV1) (record : JournalRecordV1) :
    phases (records ++ [record]) = phases records ++ match record.payload with
      | .batonAccepted _ => [.admittingBaton]
      | .phaseAdvance next => [next]
      | _ => [] := by
  rw [phases, filterMap_append]
  congr 1
  rcases record with ⟨_, _, _ | _ | _ | _ | _ | _ | _, _⟩ <;> rfl

theorem deriveBootstrapPhase_eq (records : List JournalRecordV1) :
    deriveBootstrapPhase records = (phases records).getLast?.getD .idle := by
  induction records using reverseRecOn with
  | nil => rfl
  | append_singleton records record ih =>
    rw [deriveBootstrapPhase_snoc, phases_snoc]
    rcases record with ⟨_, _, _ | _ | _ | _ | _ | _ | _, _⟩ <;> simp [ih]

private theorem enrollmentPhases_snoc (records : List JournalRecordV1) (record : JournalRecordV1) :
    enrollmentPhases (records ++ [record]) = enrollmentPhases records ++ match record.payload with
      | .enrollmentIntent _ => [.intent]
      | .enrollmentObservation _ => [.published]
      | _ => [] := by
  rw [enrollmentPhases, filterMap_append]
  congr 1
  rcases record with ⟨_, _, _ | _ | _ | _ | _ | _ | _, _⟩ <;> rfl

theorem deriveEnrollmentPhase_eq (h : Justified (fun before record => Admits before record.payload) records) :
    deriveEnrollmentPhase records = (enrollmentPhases records).getLast?.getD .intent := by
  refine h.induction
    (motive := fun log => deriveEnrollmentPhase log = (enrollmentPhases log).getLast?.getD .intent) rfl ?_
  intro records record _ hadmits ih
  rw [deriveEnrollmentPhase_snoc, enrollmentPhases_snoc]
  revert hadmits
  cases record.payload with
  | enrollmentIntent intent =>
    rintro rfl
    rfl
  | enrollmentObservation observation => simp
  | batonAccepted | effectIntent | observedEffect | phaseAdvance | commandAdmitted => simp [ih]

private theorem alternates_snoc (payloads : List JournalRecordPayloadV1)
    (last : JournalRecordPayloadV1) (h : Alternates pending payloads)
    (hlast : Alternates (payloads.foldl pendingAfter pending) [last]) : Alternates pending (payloads ++ [last]) := by
  induction payloads generalizing pending with
  | nil => exact hlast
  | cons first rest ih =>
    cases first <;> cases pending <;> first
      | exact ih h hlast
      | exact ⟨h.1, ih h.2 hlast⟩
      | exact h.elim

private theorem openEffect_eq (records : List JournalRecordV1) :
    openEffect records = (records.map payload).foldl pendingAfter none := by
  rw [openEffect, foldl_map]
  rfl

section
variable (h : Admits records record.payload)
include h

theorem Admits.alternates (hbefore : Alternates none (records.map payload)) :
    Alternates none ((records ++ [record]).map payload) := by
  rw [map_append]
  refine alternates_snoc _ _ hbefore ?_
  rw [← openEffect_eq]
  revert h
  cases record.payload with
  | effectIntent effect =>
    intro hopen
    have hnone : openEffect records = none := hopen
    rw [hnone]
    trivial
  | observedEffect effect =>
    rintro ⟨intent, hopen, hmatch⟩
    rw [hopen]
    exact ⟨hmatch, trivial⟩
  | enrollmentIntent | enrollmentObservation | batonAccepted | phaseAdvance | commandAdmitted =>
    intro _
    cases openEffect records <;> trivial

theorem Admits.edges
    (hbefore : (.idle :: phases records).IsChain (bootstrapCanAdvance · · = true)) :
    (.idle :: phases (records ++ [record])).IsChain (bootstrapCanAdvance · · = true) := by
  have hlast : (.idle :: phases records).getLast? = some (deriveBootstrapPhase records) := by
    rw [deriveBootstrapPhase_eq, getLast?_cons]
  rw [phases_snoc, ← cons_append, isChain_append]
  refine ⟨hbefore, ?_, ?_⟩
  · cases record.payload <;> simp
  · rw [hlast]
    rintro _ ⟨⟩ next hnext
    revert h hnext
    cases record.payload with
    | batonAccepted baton =>
      rintro rfl ⟨⟩
      rfl
    | phaseAdvance phase =>
      rintro ⟨_, hedge⟩ ⟨⟩
      exact hedge
    | enrollmentIntent | enrollmentObservation | effectIntent | observedEffect | commandAdmitted =>
      rintro _ ⟨⟩

theorem Admits.commands
    (hbefore : ((admittedCommands records).map commandId).Nodup) :
    ((admittedCommands (records ++ [record])).map commandId).Nodup := by
  rw [admittedCommands_snoc]
  revert h
  cases record.payload with
  | commandAdmitted command =>
    intro hfresh
    rw [map_append, map_singleton]
    refine nodup_append.mpr ⟨hbefore, nodup_singleton _, ?_⟩
    rintro id hid _ hsame
    obtain ⟨earlier, hearlier, rfl⟩ := mem_map.mp hid
    rw [mem_singleton] at hsame
    rw [hsame]
    exact hfresh earlier hearlier
  | enrollmentIntent | enrollmentObservation | batonAccepted | effectIntent | observedEffect | phaseAdvance =>
    intro _
    rw [append_nil]
    exact hbefore

end

end History

/-- What holds of the header and the chain of a journal root at any time. -/
structure ChainSound (d : JournalDigests) (s : JournalStorage) : Prop where
  headless : s.header = none → s.records = []
  verified : ∀ header, s.header = some header → verifyChain d header s.records = .ok ()
  alternating : Alternates none (s.records.map payload)
  closed : ∀ before record after next, s.records = before ++ record :: after → record.payload = .phaseAdvance next →
    openEffect before = none
  edges : (.idle :: phases s.records).IsChain (bootstrapCanAdvance · · = true)
  commands : ((admittedCommands s.records).map commandId).Nodup
  capped : s.records.length ≤ 512
  activation : ∀ id state, s.loadActivationRecovery d id = .ok (some state) →
    state.phase = if s.receipt.isSome then .resultAvailable else (phases s.records).getLast?.getD .idle
  enrollment : ∀ id state, s.loadEnrollmentRecovery d id = .ok (some state) →
    state.phase = if s.receipt.isSome then .prepared else (enrollmentPhases s.records).getLast?.getD .intent

namespace JournalStorage
variable {d : JournalDigests} {id : StableId}

private theorem activationTerminal_isSome {terminal : Option BootstrapResultV1}
    (h : s.activationTerminal d id = .ok terminal) : terminal.isSome = s.receipt.isSome := by
  unfold activationTerminal at h
  split at h
  case h_1 hreceipt =>
    simp only [bind_ok_iff] at h
    obtain ⟨_, _, _, _, _, _, _, _, hterminal⟩ := h
    rw [← Except.ok.inj hterminal, hreceipt]
    rfl
  case h_2 => cases h
  case h_3 hreceipt =>
    rw [← Except.ok.inj h, hreceipt]
    rfl

private theorem enrollmentTerminal_isSome {terminal : Option EnrollmentPreparedV1}
    (h : s.enrollmentTerminal d id = .ok terminal) : terminal.isSome = s.receipt.isSome := by
  unfold enrollmentTerminal at h
  split at h
  case h_1 hreceipt =>
    simp only [bind_ok_iff] at h
    obtain ⟨_, _, _, _, _, _, hterminal⟩ := h
    rw [← Except.ok.inj hterminal, hreceipt]
    rfl
  case h_2 => cases h
  case h_3 hreceipt =>
    rw [← Except.ok.inj h, hreceipt]
    rfl

private theorem loadActivationRecovery_phase {state : BootstrapRecoveryStateV1}
    (h : s.loadActivationRecovery d id = .ok (some state)) :
    state.phase = if s.receipt.isSome then .resultAvailable else deriveBootstrapPhase s.records := by
  obtain ⟨header, terminal, _, _, hterminal, rfl⟩ := loadActivationRecovery_eq_some.mp h
  rw [← activationTerminal_isSome hterminal]
  rfl

private theorem loadEnrollmentRecovery_phase {state : EnrollmentRecoveryStateV1}
    (h : s.loadEnrollmentRecovery d id = .ok (some state)) :
    state.phase = if s.receipt.isSome then .prepared else deriveEnrollmentPhase s.records := by
  unfold loadEnrollmentRecovery at h
  split at h
  case h_2 => cases h
  case h_1 =>
    split at h
    case isFalse => cases h
    case isTrue =>
      obtain ⟨_, _, h⟩ := (bind_ok_iff _ _ _).mp h
      obtain ⟨terminal, hterminal, h⟩ := (bind_ok_iff _ _ _).mp h
      rw [← enrollmentTerminal_isSome hterminal, ← Option.some.inj (Except.ok.inj h)]

end JournalStorage

namespace ActivationJournal
variable {d : JournalDigests}

theorem Built.sound (h : Built d s.header s.records) : ChainSound d s where
  headless := h.headless
  verified header hheader := (verifyChain_iff _).mpr ⟨h.valid header hheader, h.capped, h.linked header hheader⟩
  alternating := by
    refine h.admitted.induction (motive := fun log => Alternates none (log.map payload)) trivial ?_
    exact fun _ _ _ hadmits hbefore => hadmits.alternates hbefore
  closed before record after next hsplit hpayload := by
    have hadmits : Admits before record.payload := h.admitted before record after hsplit
    rw [hpayload] at hadmits
    exact hadmits.1
  edges := by
    refine h.admitted.induction
      (motive := fun log => (.idle :: phases log).IsChain (bootstrapCanAdvance · · = true)) (.singleton _) ?_
    exact fun _ _ _ hadmits hbefore => hadmits.edges hbefore
  commands := by
    refine h.admitted.induction
      (motive := fun log => ((admittedCommands log).map commandId).Nodup) nodup_nil ?_
    exact fun _ _ _ hadmits hbefore => hadmits.commands hbefore
  capped := h.capped
  activation id state hload := by
    rw [loadActivationRecovery_phase hload, deriveBootstrapPhase_eq]
  enrollment id state hload := by
    rw [loadEnrollmentRecovery_phase hload, deriveEnrollmentPhase_eq h.admitted]

/-- A step that asks for another first record while a header has none. -/
def Skips (s : JournalStorage) (next : JournalStep) : Prop :=
  s.header.isSome = true ∧ s.records = [] ∧ ∃ payload, next.payload = some payload ∧ payload.opens = false

/-- No step of the run skips the first record. -/
def Orderly (d : JournalDigests) (steps : List JournalStep) (j : ActivationJournal) : Prop :=
  ∀ earlier next later, steps = earlier ++ next :: later → ¬Skips (run d earlier j).storage next

private theorem step_opened {next : JournalStep} (hnext : ¬Skips j.storage next)
    (hfirst : ∀ record ∈ j.storage.records.head?, record.payload.opens = true) :
    ∀ record ∈ (step d j next).storage.records.head?, record.payload.opens = true := by
  cases step_extends (d := d) j next with
  | kept _ hrecords | headed _ _ _ _ hrecords =>
    rw [hrecords]
    exact hfirst
  | grown header record hasked hbefore _ _ _ _ _ hrecords =>
    rw [hrecords]
    cases hempty : j.storage.records with
    | cons first rest =>
      rw [hempty] at hfirst
      exact hfirst
    | nil =>
      rintro _ ⟨⟩
      rcases hbefore with hheader | ⟨_, _, hopens⟩
      · by_contra hskip
        exact hnext ⟨by rw [hheader]; rfl, hempty, record.payload, hasked, by simpa using hskip⟩
      · exact hopens

private theorem run_opened (steps : List JournalStep) (j : ActivationJournal) (horderly : Orderly d steps j)
    (hfirst : ∀ record ∈ j.storage.records.head?, record.payload.opens = true) :
    ∀ record ∈ (run d steps j).storage.records.head?, record.payload.opens = true := by
  induction steps generalizing j with
  | nil => exact hfirst
  | cons next steps ih =>
    refine ih (step d j next) ?_ (step_opened (horderly [] next steps rfl) hfirst)
    intro earlier other later hsplit
    exact horderly (next :: earlier) other later (by rw [hsplit]; rfl)

/-- In every run the chain is sound and, unless a step skipped it, the first record opens the transaction; the last
hash determines a verified chain. -/
theorem journal_chain_sound (d : JournalDigests) (steps : List JournalStep) :
    ChainSound d (run d steps (opened .empty)).storage ∧
      (Orderly d steps (opened .empty) →
        ∀ record ∈ (run d steps (opened .empty)).storage.records.head?, record.payload.opens = true) ∧
      ∀ header chain other, verifyChain d header chain = .ok () → verifyChain d header other = .ok () →
        CollisionFree d chain other →
        chain.getLast?.map recordHash = other.getLast?.map recordHash →
        chain = other := by
  refine ⟨(run_built steps (.nil none nofun)).sound, ?_, ?_⟩
  · intro horderly
    exact run_opened steps _ horderly nofun
  · intro header chain other hchain hother hfree hlast
    exact chain_eq_of_last ((verifyChain_iff _).mp hchain).2.2 ((verifyChain_iff _).mp hother).2.2 hfree hlast

section Sample
variable (d)

def sampleId : StableId := .ofText "activation.1"

def sampleBaton : BatonAcceptedV1 where
  activationId := sampleId
  batonId := .ofText "baton.1"
  batonHash := "baton"
  commandHash := "command"
  challengeId := .ofText "challenge.1"
  challengeHash := "challenge"
  peerExecutableHash := "executable"
  peerOsIdentityHash := "user"
  admissionId := .ofText "admission.1"
  admissionHash := "admission"
  managementCheckpointId := .ofText "checkpoint.1"
  profileVersion := 1
  provenanceDigest := "provenance"
  enrollmentDigest := "enrollment"
  capabilityGeneration := 1
  capabilityDigest := "capability"
  candidateSlotHash := "candidate"
  previousSlotHash := "previous"
  verificationPlanHash := "plan"
  currentProcessGeneration := 1
  candidateProcessGeneration := 2
  rollbackProcessGeneration := 3
  deadlines := ⟨1, 1, 1, 1, 1, 1⟩

def sampleEffect : BootstrapEffectV1 where
  currentSlotHash := "previous"
  targetSlotHash := "candidate"
  capabilityGeneration := 1
  processGeneration := 1
  observationHash := ""

def sampleHeader : ActivationJournalHeaderV1 :=
  { activationHeader sampleBaton with
    headerHash := "sha256:" ++ (d.activationHeader (activationHeader sampleBaton)).text }

/-- A root that holds the sample's header, and no record. -/
def sampleHeaded : ActivationJournal where
  held := true
  storage := { empty with locked := true, header := some (.activation (sampleHeader d)) }
  writes := []

theorem sampleHeaded_activated : JournalStorage.Activated d (sampleHeaded d).storage (sampleHeader d) := by
  have hsealed : sealHeader d (.activation (activationHeader sampleBaton)) = .ok (.activation (sampleHeader d)) := rfl
  have hvalid := sealHeader_valid hsealed ⟨rfl, rfl, rfl⟩
  exact ⟨rfl, (verifyChain_iff _).mpr ⟨hvalid, Nat.zero_le _, .nil⟩⟩

private theorem sampleHeaded_room : (sampleHeaded d).storage.records.length < maxJournalRecords := Nat.zero_lt_succ 511

def sampleIntent : BootstrapJournalMutationV1 :=
  { activationId := sampleId, expectedOrdinal := 0, expectedPhase := .idle, effect := sampleEffect }

/-- The baton is accepted but only its header durable; then an effect is recorded. -/
def sampleSkipped : List JournalStep :=
  [.call [] .acquireSingleFlight, .call [.done, .lost] (.appendBatonAccepted sampleBaton),
    .call [] (.appendEffectIntent sampleIntent)]

private theorem sampleSkipped_run :
    run d sampleSkipped (opened .empty) = (sampleHeaded d).grown d (.effectIntent sampleEffect) := by
  have hheaded : run d sampleSkipped (opened .empty) =
      step d (sampleHeaded d) (.call [] (.appendEffectIntent sampleIntent)) := rfl
  have hguard : (sampleHeaded d).storage.guardEffect d sampleIntent true = .ok () :=
    guardEffect_eq_ok.mpr
      ⟨⟨⟨sampleHeader d, sampleHeaded_activated d, rfl⟩, sampleHeaded_room d, rfl, rfl⟩, rfl⟩
  obtain ⟨ack, hrun⟩ := appendEffect_run rfl rfl hguard (by decide)
  rw [hheaded]
  exact (Prog.state_discard _ _).trans (congrArg Prod.snd hrun)

def sampleAdmitted : ActivationJournal := (sampleHeaded d).grown d (.batonAccepted sampleBaton)

private theorem sampleAdmitted_activated : JournalStorage.Activated d (sampleAdmitted d).storage (sampleHeader d) :=
  (sampleHeaded_activated d).grown (sampleHeaded_room d) rfl rfl

def sampleUnsupported : ActivationJournal := (sampleAdmitted d).grown d (.phaseAdvance .unsupported)

def sampleAdvance : BootstrapPhaseAdvanceV1 :=
  { activationId := sampleId, expectedOrdinal := 1, expectedPhase := .admittingBaton, nextPhase := .unsupported }

private theorem sampleAdmitted_room : (sampleAdmitted d).storage.records.length < maxJournalRecords :=
  Nat.lt_add_left_iff_pos.mpr (Nat.zero_lt_succ 510)

private theorem sampleAdvance_run :
    ∃ ack, advancePhase d sampleAdvance (sampleAdmitted d) = (.ok ack, sampleUnsupported d) := by
  refine advancePhase_run rfl rfl (guardAdvance_eq_ok.mpr ?_)
  exact ⟨⟨⟨sampleHeader d, sampleAdmitted_activated d, rfl⟩, sampleAdmitted_room d, rfl, rfl⟩, nofun, rfl, rfl⟩

theorem sampleUnsupported_activated : JournalStorage.Activated d (sampleUnsupported d).storage (sampleHeader d) :=
  (sampleAdmitted_activated d).grown (sampleAdmitted_room d) rfl rfl

/-- A receipt that the sample's activation was not supported. -/
def sampleResult : BootstrapResultV1 :=
  let unhashed : BootstrapResultV1 :=
    { schemaVersion := 1, receiptId := .ofText "receipt.1", activationId := sampleId, batonHash := "baton",
      managementCheckpointId := .ofText "checkpoint.1", recipientProcessGeneration := 1, sealedAtEpochMs := 1000,
      result := .unsupported ⟨"unsupported", "unsupported", []⟩, receiptHash := "" }
  { unhashed with receiptHash := "sha256:" ++ (d.result unhashed).text }

def sampleLast : JournalRecordV1 := sealedRecord d (sampleAdmitted d).storage.records (.phaseAdvance .unsupported)

private theorem sampleUnsupported_sealable : JournalStorage.Sealable d (sampleUnsupported d).storage (sampleResult d) where
  activated := ⟨sampleHeader d, sampleUnsupported_activated d, rfl⟩
  hashed := rfl
  unsealed := rfl
  closed := rfl
  phase := rfl
  noticed := by
    rintro ⟨_, _, _, hkind⟩
    cases hkind

def sampleSealed : ActivationJournal := (sampleUnsupported d).terminated d (sampleResult d) (sampleLast d)

theorem sampleResult_run :
    ∃ ack, storeBootstrapResult d (sampleResult d) (sampleUnsupported d) = (.ok ack, sampleSealed d) :=
  storeBootstrapResult_run rfl rfl (sampleUnsupported_sealable d) rfl

/-- An activation is found unsupported and its result sealed. -/
def sampleSteps : List JournalStep :=
  [.call [] .acquireSingleFlight, .call [] (.appendBatonAccepted sampleBaton), .call [] (.advancePhase sampleAdvance),
    .call [] (.storeBootstrapResult (sampleResult d))]

private theorem sampleSteps_run : run d (sampleSteps d) (opened .empty) = sampleSealed d := by
  obtain ⟨_, hadvance⟩ := sampleAdvance_run d
  obtain ⟨_, hresult⟩ := sampleResult_run d
  have hadmitted : run d (sampleSteps d) (opened .empty) =
      step d (step d (sampleAdmitted d) (.call [] (.advancePhase sampleAdvance)))
        (.call [] (.storeBootstrapResult (sampleResult d))) := rfl
  have hunsupported : step d (sampleAdmitted d) (.call [] (.advancePhase sampleAdvance)) = sampleUnsupported d :=
    (Prog.state_discard _ _).trans (congrArg Prod.snd hadvance)
  rw [hadmitted, hunsupported]
  exact (Prog.state_discard _ _).trans (congrArg Prod.snd hresult)

private theorem sampleSealed_recovered : ∃ state,
    (sampleSealed d).storage.loadActivationRecovery d sampleId = .ok (some state) ∧ state.phase = .resultAvailable := by
  have hactivated : JournalStorage.Activated d (sampleSealed d).storage (sampleHeader d) :=
    ⟨(sampleUnsupported_activated d).stored, (sampleUnsupported_activated d).verified⟩
  have hterminal : (sampleSealed d).storage.activationTerminal d sampleId = .ok (some (sampleResult d)) :=
    activationTerminal_eq_some.mpr ⟨_, ⟨rfl, rfl, ⟨sampleLast d, rfl, rfl, rfl⟩, rfl⟩, rfl, rfl⟩
  exact ⟨_, loadActivationRecovery_eq_some.mpr ⟨_, _, hactivated, rfl, hterminal, rfl⟩, rfl⟩

/-- A chain that begins with an effect, and a phase reported that no record enters. -/
theorem first_record_skipped_and_phase_sealed :
    (∀ d, (run d sampleSkipped (opened .empty)).storage.records.map payload =
      [.effectIntent sampleEffect]) ∧ ∀ d,
    phases (run d (sampleSteps d) (opened .empty)).storage.records = [.admittingBaton, .unsupported] ∧
    ∃ state, (run d (sampleSteps d) (opened .empty)).storage.loadActivationRecovery d sampleId = .ok (some state) ∧
      state.phase = .resultAvailable := by
  constructor
  · intro d
    rw [sampleSkipped_run]
    rfl
  · intro d
    rw [sampleSteps_run]
    exact ⟨rfl, sampleSealed_recovered d⟩

private theorem sampleSteps_orderly : Orderly d (sampleSteps d) (opened .empty) := by
  rintro earlier next later hsplit ⟨hheader, hempty, payload, hpayload, hopens⟩
  unfold sampleSteps at hsplit
  rcases earlier with _ | ⟨_, _ | ⟨_, _ | ⟨_, _ | ⟨_, _⟩⟩⟩⟩
  · cases hheader
  · cases hsplit
    cases hheader
  · cases hsplit
    cases hempty
  · cases hsplit
    cases hpayload
  · simp at hsplit

/-- The sample's two records are all that a chain under its header can be that ends in their last hash. -/
theorem sample_chain_sound : ∀ d : JournalDigests,
    ChainSound d (run d (sampleSteps d) (opened .empty)).storage ∧
      (∀ record ∈ (run d (sampleSteps d) (opened .empty)).storage.records.head?, record.payload.opens = true) ∧
      ∀ other, verifyChain d (.activation (sampleHeader d)) other = .ok () →
        CollisionFree d (sampleUnsupported d).storage.records other →
        some (sampleLast d).recordHash = other.getLast?.map recordHash →
        [sealedRecord d [] (.batonAccepted sampleBaton), sampleLast d] = other := by
  intro d
  obtain ⟨hsound, hfirst, hchain⟩ := journal_chain_sound d (sampleSteps d)
  refine ⟨hsound, hfirst (sampleSteps_orderly d), fun other hother hfree hlast => ?_⟩
  exact hchain _ _ _ (sampleUnsupported_activated d).verified hother hfree hlast

end Sample

end ActivationJournal

end Aworkit.Helper
