import Aworkit.Helper.Journal
import Aworkit.Logic.Justified

/-! Chains of linked records: what verifies them, how a checked call extends them, and that the last hash determines
the chain. -/
namespace Aworkit.Helper
open Protocol Fallible Hoare JournalRecordV1 JournalStorage JournalRecordPayloadV1 List Option Prog

variable {payload : JournalRecordPayloadV1} {result : BootstrapResultV1} {u : Unit}
  {isIntent : Bool} {effect : BootstrapEffectV1} {mutation : BootstrapJournalMutationV1}
  {terminal : BootstrapTerminalSealV1} {d : JournalDigests} {header : JournalHeaderV1} {last record : JournalRecordV1}
  {change : JournalStorage → JournalStorage} {kept : JournalStorage → Prop} {records : List JournalRecordV1}
  {id : StableId} {hash : String} {α β : Type}

section Replay
variable (records record)

theorem deriveBootstrapPhase_snoc : deriveBootstrapPhase (records ++ [record]) =
    match record.payload with
    | .batonAccepted _ => .admittingBaton
    | .phaseAdvance next => next
    | _ => deriveBootstrapPhase records := by
  rw [deriveBootstrapPhase, foldl_append]
  rfl

theorem deriveEnrollmentPhase_snoc : deriveEnrollmentPhase (records ++ [record]) =
    match record.payload with
    | .enrollmentObservation _ => .published
    | _ => deriveEnrollmentPhase records := by
  rw [deriveEnrollmentPhase, foldl_append]
  rfl

theorem openEffect_snoc : openEffect (records ++ [record]) =
    match record.payload with
    | .effectIntent effect => some effect
    | .observedEffect _ => none
    | _ => openEffect records := by
  rw [openEffect, foldl_append]
  rfl

theorem admittedCommands_snoc : admittedCommands (records ++ [record]) = admittedCommands records ++
    match record.payload with
    | .commandAdmitted command => [command]
    | _ => [] := by
  rw [admittedCommands, filterMap_append]
  congr 1
  rcases record with ⟨_, _, _ | _ | _ | _ | _ | _ | _, _⟩ <;> rfl

end Replay

/-- A record that stands in a chain behind the records before it. -/
structure Linked (d : JournalDigests) (header : JournalHeaderV1) (before : List JournalRecordV1)
    (record : JournalRecordV1) : Prop where
  ordinal : record.ordinal = before.length
  previous : record.previousRecordHash = before.getLast?.map recordHash
  hash : d.recordHash record = .ok record.recordHash
  kind : kindMatches header record.payload = true

section Verified
private theorem expectedPrevious_eq (before : List JournalRecordV1) (ordinal : Nat) :
    expectedPrevious before.length (before.getLast?.map recordHash) ordinal =
      .ok (before.getLast?.map recordHash) := by
  induction before using reverseRecOn with
  | nil => rfl
  | append_singleton before last _ =>
    rw [expectedPrevious, if_neg (by simp), getLast?_concat]
    rfl

private theorem verifyRecords_cons (before : List JournalRecordV1) (record : JournalRecordV1) (rest : List JournalRecordV1) :
    verifyRecords d header before.length (before.getLast?.map recordHash) (record :: rest) = .ok () ↔
      Linked d header before record ∧
        verifyRecords d header (before ++ [record]).length
          ((before ++ [record]).getLast?.map recordHash) rest = .ok () := by
  rw [verifyRecords]
  simp only [passes, expectedPrevious_eq, unmet, length_append, length_singleton, getLast?_concat, map_some]
  constructor
  · rintro ⟨_, hordinal, _, ⟨⟩, _, hprevious, hash, hhash, _, rfl, _, hkind, hrest⟩
    exact ⟨⟨hordinal, hprevious, hhash, hkind⟩, hrest⟩
  · rintro ⟨⟨hordinal, hprevious, hhash, hkind⟩, hrest⟩
    exact ⟨(), hordinal, _, rfl, (), hprevious, _, hhash, (), rfl, (), hkind, hrest⟩

private theorem verifyRecords_append (before rest : List JournalRecordV1) :
    verifyRecords d header before.length (before.getLast?.map recordHash) rest = .ok () ↔
      ∀ done record after, rest = done ++ record :: after → Linked d header (before ++ done) record := by
  induction rest generalizing before with
  | nil => simp [verifyRecords]
  | cons record rest ih =>
    rw [verifyRecords_cons, ih]
    constructor
    · rintro ⟨hrecord, hrest⟩ done other after hsplit
      cases done with
      | nil =>
        obtain ⟨rfl, _⟩ := cons.inj hsplit
        simpa using hrecord
      | cons first done =>
        obtain ⟨rfl, hrestSplit⟩ := cons.inj hsplit
        simpa using hrest done other after hrestSplit
    · intro hall
      refine ⟨by simpa using hall [] record rest rfl, ?_⟩
      intro done other after hsplit
      simpa using hall (record :: done) other after (by rw [hsplit]; rfl)

private theorem verifyRecords_iff (records : List JournalRecordV1) :
    verifyRecords d header 0 none records = .ok () ↔ Justified (Linked d header) records :=
  verifyRecords_append [] records

theorem verifyChain_iff (records : List JournalRecordV1) : verifyChain d header records = .ok () ↔
    verifyHeader d header = .ok () ∧ records.length ≤ maxJournalRecords ∧ Justified (Linked d header) records := by
  simp only [verifyChain, passes, verifyRecords_iff, unmet, Nat.not_lt]
  constructor
  · rintro ⟨_, hheader, _, hcap, hlinked⟩
    exact ⟨hheader, hcap, hlinked⟩
  · rintro ⟨hheader, hcap, hlinked⟩
    exact ⟨(), hheader, (), hcap, hlinked⟩

end Verified

/-- No two records of the chains with different contents share a digest. -/
def CollisionFree (d : JournalDigests) (chain other : List JournalRecordV1) : Prop :=
  ∀ record ∈ chain, ∀ record' ∈ other,
    d.record record.ordinal record.previousRecordHash record.payload =
        d.record record'.ordinal record'.previousRecordHash record'.payload →
      record.ordinal = record'.ordinal ∧ record.previousRecordHash = record'.previousRecordHash ∧
        record.payload = record'.payload

private theorem canonicalHash_inj {generations generations' : List Nat} {digest digest' : Sha256Digest}
    (h : canonicalHash generations digest = .ok hash) (h' : canonicalHash generations' digest' = .ok hash) :
    digest = digest' := by
  unfold canonicalHash at h h'
  split at h
  case isFalse => cases h
  split at h'
  case isFalse => cases h'
  have htext := (Except.ok.inj h).trans (Except.ok.inj h').symm
  rw [String.append_right_inj] at htext
  cases digest
  cases digest'
  cases htext
  rfl

/-- The records of two chains that carry the same hash are the same record. -/
theorem Linked.eq_of_hash {before before' : List JournalRecordV1}
    {record' : JournalRecordV1} (h : Linked d header before record) (h' : Linked d header before' record')
    (hfree : CollisionFree d [record] [record']) (hhash : record.recordHash = record'.recordHash) :
    record = record' := by
  have hdigest := canonicalHash_inj h.hash (hhash ▸ h'.hash)
  obtain ⟨hordinal, hprevious, hpayload⟩ :=
    hfree record (mem_singleton.mpr rfl) record' (mem_singleton.mpr rfl) hdigest
  cases record
  cases record'
  cases hordinal
  cases hprevious
  cases hpayload
  cases hhash
  rfl

/-- The last hash of a linked chain commits to all of it, from the last record backwards. -/
theorem chain_eq_of_last {chain other : List JournalRecordV1} (hchain : Justified (Linked d header) chain)
    (hother : Justified (Linked d header) other) (hfree : CollisionFree d chain other)
    (hlast : chain.getLast?.map recordHash = other.getLast?.map recordHash) : chain = other := by
  induction chain using reverseRecOn generalizing other with
  | nil =>
    rw [getLast?_nil, map_none, eq_comm, map_eq_none_iff, getLast?_eq_none_iff] at hlast
    exact hlast.symm
  | append_singleton chain record ih =>
    induction other using reverseRecOn with
    | nil => simp at hlast
    | append_singleton other record' _ =>
      obtain ⟨hearlier, hrecord⟩ := hchain.of_snoc
      obtain ⟨hearlier', hrecord'⟩ := hother.of_snoc
      simp only [getLast?_concat, map_some, some.injEq] at hlast
      have hsame : record = record' := by
        refine hrecord.eq_of_hash hrecord' ?_ hlast
        intro a ha b hb
        rw [mem_singleton] at ha hb
        exact hfree a (by simp [ha]) b (by simp [hb])
      subst hsame
      have hbefore : chain = other := by
        refine ih hearlier hearlier' ?_ (hrecord.previous.symm.trans hrecord'.previous)
        intro a ha b hb
        exact hfree a (mem_append_left _ ha) b (mem_append_left _ hb)
      rw [hbefore]

namespace JournalStorage
variable {j : ActivationJournal} {s : JournalStorage}

theorem write_outcome (change : JournalStorage → JournalStorage) : Outcome (write change) j
    (fun _ j' => j'.held = j.held ∧ j'.storage = change j.storage)
    fun _ j' => j'.held = j.held ∧ (j'.storage = j.storage ∨ j'.storage = change j.storage) := by
  unfold Outcome write
  rcases j.writes with _ | ⟨_ | _ | _, _⟩ <;> simp

/-- What holds of the files before and after a change holds of what a write leaves. -/
theorem write_keeps (h : kept j.storage) (h' : kept (change j.storage)) : Ends (write change) j (kept ·.storage) := by
  refine (write_outcome change).conseq ?_ ?_
  · rintro _ j' ⟨_, hstorage⟩
    exact hstorage ▸ h'
  · rintro _ j' ⟨_, hstorage | hstorage⟩
    · exact hstorage ▸ h
    · exact hstorage ▸ h'

theorem verifiedRecords_eq_ok : s.verifiedRecords d = .ok records ↔
    records = s.records ∧ ∃ header, s.header = some header ∧ verifyChain d header s.records = .ok () := by
  simp only [verifiedRecords, passes]
  constructor
  · rintro ⟨header, hheader, _, hchain, ⟨⟩⟩
    exact ⟨rfl, header, hheader, hchain⟩
  · rintro ⟨rfl, header, hheader, hchain⟩
    exact ⟨header, hheader, (), hchain, rfl⟩

theorem activationId_eq_ok : s.activationId d = .ok id ↔
    ∃ header, s.header = some (.activation header) ∧ verifyHeader d (.activation header) = .ok () ∧
      header.activationId = id := by
  unfold activationId
  split
  case h_1 header hheader =>
    simp only [bind_ok_iff, hheader, some.injEq, JournalHeaderV1.activation.injEq]
    constructor
    · rintro ⟨_, hvalid, ⟨⟩⟩
      exact ⟨header, rfl, hvalid, rfl⟩
    · rintro ⟨_, rfl, hvalid, rfl⟩
      exact ⟨(), hvalid, rfl⟩
  case h_2 hother =>
    simp only [reduceCtorEq, false_iff]
    rintro ⟨header, hheader, _⟩
    exact hother header hheader

theorem enrollmentId_eq_ok : s.enrollmentId d = .ok id ↔
    ∃ header, s.header = some (.enrollment header) ∧ verifyHeader d (.enrollment header) = .ok () ∧
      header.enrollmentId = id := by
  unfold enrollmentId
  split
  case h_1 header hheader =>
    simp only [bind_ok_iff, hheader, some.injEq, JournalHeaderV1.enrollment.injEq]
    constructor
    · rintro ⟨_, hvalid, ⟨⟩⟩
      exact ⟨header, rfl, hvalid, rfl⟩
    · rintro ⟨_, rfl, hvalid, rfl⟩
      exact ⟨(), hvalid, rfl⟩
  case h_2 hother =>
    simp only [reduceCtorEq, false_iff]
    rintro ⟨header, hheader, _⟩
    exact hother header hheader

/-- A storage that holds this verified activation. -/
structure Activated (d : JournalDigests) (s : JournalStorage) (header : ActivationJournalHeaderV1) : Prop where
  stored : s.header = some (.activation header)
  verified : verifyChain d (.activation header) s.records = .ok ()

theorem activationRecords_eq_ok : s.activationRecords d id = .ok records ↔
      records = s.records ∧ ∃ header, Activated d s header ∧ header.activationId = id := by
  simp only [activationRecords, passes, unmet, activationId_eq_ok, verifiedRecords_eq_ok]
  constructor
  · rintro ⟨_, ⟨header, hheader, _, rfl⟩, _, rfl, rfl, other, hother, hchain⟩
    rw [hheader] at hother
    cases hother
    exact ⟨rfl, header, ⟨hheader, hchain⟩, rfl⟩
  · rintro ⟨rfl, header, ⟨hheader, hchain⟩, rfl⟩
    exact ⟨_, ⟨header, hheader, ((verifyChain_iff _).mp hchain).1, rfl⟩, (), rfl, rfl, _, hheader, hchain⟩

theorem Activated.valid {header : ActivationJournalHeaderV1} (h : Activated d s header) :
    verifyHeader d (.activation header) = .ok () :=
  ((verifyChain_iff _).mp h.verified).1

theorem requireCapacity_eq_ok : requireCapacity records = .ok u ↔ records.length < maxJournalRecords := by
  rw [requireCapacity, refuseIf_eq_ok, decide_eq_false_iff_not, Nat.not_le]

theorem fenceOrdinal_eq_ok {expected : Nat} : fenceOrdinal expected records = .ok u ↔ expected = records.length := by
  rw [fenceOrdinal, refuseIf_eq_ok, bne_eq_false_iff_eq]

theorem fencePhase_eq_ok {expected current : BootstrapPhaseV1} :
    fencePhase expected current = .ok u ↔ expected = current := by
  rw [fencePhase, refuseIf_eq_ok, bne_eq_false_iff_eq]

/-- A call that names the activation, the end of its chain and its phase. -/
structure Fenced (d : JournalDigests) (s : JournalStorage) (id : StableId) (ordinal : Nat) (phase : BootstrapPhaseV1) :
    Prop where
  activated : ∃ header, Activated d s header ∧ header.activationId = id
  room : s.records.length < maxJournalRecords
  ordinal : ordinal = s.records.length
  phase : phase = deriveBootstrapPhase s.records

theorem checkEffect_intent :
    checkEffect true records effect = .ok () ↔ effect.observationHash.isEmpty = true ∧ openEffect records = none := by
  unfold checkEffect
  generalize openEffect records = pending
  cases pending <;> simp [bind_ok_iff]

theorem checkEffect_observed : checkEffect false records effect = .ok () ↔ effect.observationHash.isEmpty = false ∧
      ∃ intent, openEffect records = some intent ∧ effectsMatch intent effect = true := by
  unfold checkEffect
  generalize openEffect records = pending
  cases pending <;> simp [bind_ok_iff]

theorem guardEffect_eq_ok : s.guardEffect d mutation isIntent = .ok () ↔
      Fenced d s mutation.activationId mutation.expectedOrdinal mutation.expectedPhase ∧
        checkEffect isIntent s.records mutation.effect = .ok () := by
  simp only [guardEffect, bind_ok_iff, activationRecords_eq_ok, requireCapacity_eq_ok, fenceOrdinal_eq_ok,
    fencePhase_eq_ok]
  constructor
  · rintro ⟨_, ⟨rfl, hactivated⟩, _, hroom, _, hordinal, _, hphase, hcheck⟩
    exact ⟨⟨hactivated, hroom, hordinal, hphase⟩, hcheck⟩
  · rintro ⟨⟨hactivated, hroom, hordinal, hphase⟩, hcheck⟩
    exact ⟨_, ⟨rfl, hactivated⟩, (), hroom, (), hordinal, (), hphase, hcheck⟩

theorem guardAdvance_eq_ok {mutation : BootstrapPhaseAdvanceV1} : s.guardAdvance d mutation = .ok () ↔
    Fenced d s mutation.activationId mutation.expectedOrdinal mutation.expectedPhase ∧
      (bootstrapIsTerminal (deriveBootstrapPhase s.records) = true →
        deriveBootstrapPhase s.records = .verified ∧ mutation.nextPhase = .recovering) ∧
      openEffect s.records = none ∧
      bootstrapCanAdvance (deriveBootstrapPhase s.records) mutation.nextPhase = true := by
  simp only [guardAdvance, passes, activationRecords_eq_ok, requireCapacity_eq_ok, fenceOrdinal_eq_ok,
    fencePhase_eq_ok, Bool.and_eq_false_imp, unmet, met, isSome_eq_false_iff, isNone_iff_eq_none]
  constructor
  · rintro ⟨_, ⟨rfl, hactivated⟩, _, hroom, _, hordinal, _, hphase, _, hterminal, _, hopen, hedge⟩
    exact ⟨⟨hactivated, hroom, hordinal, hphase⟩, hterminal, hopen, hedge⟩
  · rintro ⟨⟨hactivated, hroom, hordinal, hphase⟩, hterminal, hopen, hedge⟩
    exact ⟨_, ⟨rfl, hactivated⟩, (), hroom, (), hordinal, (), hphase, (), hterminal, (), hopen, hedge⟩

theorem storedNoticeHash_eq :
    s.storedNoticeHash d = .ok (s.notice.map fun notice => "sha256:" ++ (d.notice notice).text) := by
  unfold storedNoticeHash
  cases s.notice <;> rfl

/-- The seal of a result behind the last record of a chain. -/
def sealOf (d : JournalDigests) (s : JournalStorage) (result : BootstrapResultV1) (last : JournalRecordV1) :
    BootstrapTerminalSealV1 :=
  let noticeHash := s.notice.map fun notice => "sha256:" ++ (d.notice notice).text
  { receipt := result, headOrdinal := last.ordinal, headRecordHash := last.recordHash,
    manualRecoveryNoticeHash := noticeHash,
    sealHash := "sha256:" ++ (d.bootstrapSeal result last.ordinal last.recordHash noticeHash).text }

/-- What sealing a result asks of the journal. -/
structure Sealable (d : JournalDigests) (s : JournalStorage) (result : BootstrapResultV1) : Prop where
  activated : ∃ header, Activated d s header ∧ header.activationId = result.activationId
  hashed : d.bootstrapResultHashV1 result = .ok result.receiptHash
  unsealed : s.receipt = none
  closed : openEffect s.records = none
  phase : resultCanSeal (deriveBootstrapPhase s.records) result.result = true
  noticed : (∃ diagnostic observed instructions,
    result.result = .manualRecoveryRequired diagnostic observed instructions) → s.notice.isSome = true

theorem bootstrapSealHash_eq (h : d.bootstrapResultHashV1 terminal.receipt = .ok hash) : d.bootstrapSealHash terminal =
      .ok ("sha256:" ++ (d.bootstrapSeal terminal.receipt terminal.headOrdinal terminal.headRecordHash
        terminal.manualRecoveryNoticeHash).text) := by
  unfold JournalDigests.bootstrapResultHashV1 canonicalHash at h
  split at h
  case isFalse => cases h
  case isTrue hencodes => exact if_pos hencodes

theorem sealResult_eq_ok : s.sealResult d result = .ok (terminal, last) ↔
      Sealable d s result ∧ s.records.getLast? = some last ∧ terminal = sealOf d s result last := by
  simp only [sealResult, passes, activationId_eq_ok, verifiedRecords_eq_ok, unmet, storedNoticeHash_eq,
    isSome_eq_false_iff, isNone_iff_eq_none, Bool.and_eq_false_imp, isNone_eq_false_iff]
  constructor
  · rintro ⟨_, ⟨header, hheader, _, rfl⟩, _, hid, _, hhash, _, hunsealed, _, ⟨rfl, other, hother, hchain⟩,
      _, hclosed, _,
      hphase, _, hlast, _, hnotice, _, hmanual, _, hseal, hresult⟩
    rw [hheader] at hother
    cases hother
    cases hnotice
    cases hresult
    rw [bootstrapSealHash_eq hhash] at hseal
    cases hseal
    refine ⟨⟨⟨header, ⟨hheader, hchain⟩, hid.symm⟩, hhash, hunsealed, hclosed, hphase, ?_⟩, hlast, rfl⟩
    rintro ⟨diagnostic, observed, instructions, hkind⟩
    rw [hkind] at hmanual
    simpa using hmanual rfl
  · rintro ⟨⟨⟨header, ⟨hheader, hchain⟩, hid⟩, hhash, hunsealed, hclosed, hphase, hnoticed⟩, hlast, rfl⟩
    refine ⟨_, ⟨header, hheader, ((verifyChain_iff _).mp hchain).1, rfl⟩, (), hid.symm, (), hhash, (), hunsealed, _,
      ⟨rfl, _, hheader, hchain⟩, (), hclosed, (), hphase, last, hlast, _, rfl, (), ?_, _, bootstrapSealHash_eq hhash,
      rfl⟩
    intro hmanual
    rw [isSome_map]
    apply hnoticed
    revert hmanual
    cases result.result with
    | manualRecoveryRequired diagnostic observed instructions => exact fun _ => ⟨_, _, _, rfl⟩
    | unsupported | activatedVerified | rolledBack => exact fun hmanual => by cases hmanual

/-- A receipt bound to the head of the chain and the stored notice. -/
structure Bound (d : JournalDigests) (s : JournalStorage) (terminal : BootstrapTerminalSealV1) : Prop where
  stored : s.receipt = some (.bootstrapResult terminal)
  hashed : d.bootstrapSealHash terminal = .ok terminal.sealHash
  head : ∃ head, s.records.getLast? = some head ∧ terminal.headOrdinal = head.ordinal ∧
    terminal.headRecordHash = head.recordHash
  notice : terminal.manualRecoveryNoticeHash = s.notice.map fun notice => "sha256:" ++ (d.notice notice).text

theorem activationTerminal_eq_some : s.activationTerminal d id = .ok (some result) ↔
      ∃ terminal, Bound d s terminal ∧ terminal.receipt = result ∧ result.activationId = id := by
  unfold activationTerminal
  split
  case h_1 terminal hreceipt =>
    simp only [passes, storedNoticeHash_eq, unmet, and_assoc]
    constructor
    · rintro ⟨_, hhash, head, hhead, _, ⟨⟩, _, hsame, hordinal, hrecord, hid, hnotice, ⟨⟩⟩
      exact ⟨terminal, ⟨hreceipt, by rw [hhash, hsame], ⟨head, hhead, hordinal, hrecord⟩, hnotice⟩, rfl, hid⟩
    · rintro ⟨other, ⟨hother, hhash, ⟨head, hhead, hordinal, hrecord⟩, hnotice⟩, rfl, hid⟩
      rw [hreceipt] at hother
      cases hother
      exact ⟨_, hhash, head, hhead, _, rfl, (), rfl, hordinal, hrecord, hid, hnotice, rfl⟩
  case h_2 hreceipt =>
    simp only [reduceCtorEq, false_iff]
    rintro ⟨terminal, hbound, _⟩
    cases hreceipt.symm.trans hbound.stored
  case h_3 hreceipt =>
    simp only [Except.ok.injEq, reduceCtorEq, false_iff]
    rintro ⟨terminal, hbound, _⟩
    cases hreceipt.symm.trans hbound.stored

/-- The facts recovery reports of an activation. -/
def recovered (s : JournalStorage) (id : StableId) (terminal : Option BootstrapResultV1) : BootstrapRecoveryStateV1 :=
  { activationId := id
    phase := if terminal.isSome then .resultAvailable else deriveBootstrapPhase s.records
    headOrdinal := s.headOrdinal
    headRecordHash := s.headRecordHash
    terminal
    manualRecovery := s.notice
    openEffect := openEffect s.records
    baton := admittedBaton s.records
    admittedCommands := Helper.admittedCommands s.records }

theorem loadActivationRecovery_eq_some :
    s.loadActivationRecovery d id = .ok (some state) ↔ ∃ header terminal, Activated d s header ∧
      header.activationId = id ∧ s.activationTerminal d id = .ok terminal ∧ state = s.recovered id terminal := by
  unfold loadActivationRecovery
  split
  case h_1 header hheader =>
    split
    case isTrue hid =>
      simp only [bind_ok_iff]
      constructor
      · rintro ⟨_, hchain, terminal, hterminal, ⟨⟩⟩
        exact ⟨header, terminal, ⟨hheader, hchain⟩, hid, hterminal, rfl⟩
      · rintro ⟨other, terminal, ⟨hother, hchain⟩, _, hterminal, rfl⟩
        rw [hheader] at hother
        cases hother
        exact ⟨(), hchain, terminal, hterminal, rfl⟩
    case isFalse hid =>
      simp only [Except.ok.injEq, reduceCtorEq, false_iff]
      rintro ⟨other, _, ⟨hother, _⟩, hother', _⟩
      rw [hheader] at hother
      cases hother
      exact hid hother'
  case h_2 hnone =>
    simp only [Except.ok.injEq, reduceCtorEq, false_iff]
    rintro ⟨header, _, ⟨hheader, _⟩, _⟩
    exact hnone header hheader

theorem sealHeader_valid {unsealed : JournalHeaderV1} (hsealed : sealHeader d unsealed = .ok header)
    (hversions : (headerVersions unsealed).1 = journalSchemaVersionV1 ∧
      (headerVersions unsealed).2.1 = journalHelperVersionV1 ∧
      (headerVersions unsealed).2.2.1 = journalHelperVersionV1) : verifyHeader d header = .ok () := by
  obtain ⟨hash, hhash, hheader⟩ := (bind_ok_iff _ _ _).mp hsealed
  cases hheader
  obtain ⟨hschema, hhelper, hprotocol⟩ := hversions
  cases unsealed with
  | enrollment unsealed | activation unsealed =>
    rw [verifyHeader, bind_ok_iff]
    refine ⟨hash, hhash, ?_⟩
    simp only [headerVersions] at hschema hhelper hprotocol ⊢
    simp [hschema, hhelper, hprotocol]

theorem nextRecord_linked (h : nextRecord d records payload = .ok record)
    (hkind : kindMatches header payload = true) : Linked d header records record ∧ record.payload = payload := by
  obtain ⟨hash, hhash, hrecord⟩ := (bind_ok_iff _ _ _).mp h
  cases hrecord
  exact ⟨⟨rfl, rfl, hhash, hkind⟩, rfl⟩

end JournalStorage

/-- The record of a payload with its hash. -/
def sealedRecord (d : JournalDigests) (records : List JournalRecordV1) (payload : JournalRecordPayloadV1) :
    JournalRecordV1 :=
  { ordinal := records.length, previousRecordHash := records.getLast?.map recordHash,
    payload,
    recordHash :=
      "sha256:" ++ (d.record records.length (records.getLast?.map recordHash) payload).text }

def JournalRecordPayloadV1.encodes (payload : JournalRecordPayloadV1) : Bool :=
  payload.generations.all (· ≤ maxSafeWireInteger)

theorem nextRecord_eq (records : List JournalRecordV1)
    (h : payload.encodes = true) : nextRecord d records payload = .ok (sealedRecord d records payload) := by
  have hhash (digest : Sha256Digest) : canonicalHash payload.generations digest = .ok ("sha256:" ++ digest.text) :=
    if_pos h
  rw [nextRecord, bind_ok_iff]
  exact ⟨_, hhash _, rfl⟩

theorem encodes_of_nextRecord (h : nextRecord d records payload = .ok record) : payload.encodes = true := by
  obtain ⟨hash, hhash, _⟩ := (bind_ok_iff _ _ _).mp h
  unfold JournalDigests.recordHash canonicalHash at hhash
  split at hhash
  case isTrue hencodes => exact hencodes
  case isFalse => cases hhash

theorem Linked.sealed (records : List JournalRecordV1) (hencodes : payload.encodes = true)
    (hkind : kindMatches header payload = true) : Linked d header records (sealedRecord d records payload) :=
  (nextRecord_linked (nextRecord_eq records hencodes) hkind).1

namespace JournalStorage
variable {s : JournalStorage}

/-- The storage with the snapshot of its chain. -/
def snapshotted (s : JournalStorage) : JournalStorage :=
  match s.transaction with
  | none => s
  | some (kind, id) => { s with snapshot := some (s.snapshotOf kind id) }

/-- The storage with one more record, and the snapshot of the new chain. -/
def grown (d : JournalDigests) (s : JournalStorage) (payload : JournalRecordPayloadV1) : JournalStorage :=
  snapshotted { s with records := s.records ++ [sealedRecord d s.records payload] }

@[simp] theorem snapshotted_header : s.snapshotted.header = s.header := by
  unfold snapshotted
  split <;> rfl

@[simp] theorem snapshotted_records : s.snapshotted.records = s.records := by
  unfold snapshotted
  split <;> rfl

@[simp] theorem grown_header (payload : JournalRecordPayloadV1) : (s.grown d payload).header = s.header := by
  rw [grown, snapshotted_header]

@[simp] theorem grown_records (payload : JournalRecordPayloadV1) :
    (s.grown d payload).records = s.records ++ [sealedRecord d s.records payload] := by
  rw [grown, snapshotted_records]

theorem Activated.grown {header : ActivationJournalHeaderV1}
    (h : Activated d s header) (hroom : s.records.length < maxJournalRecords) (hencodes : payload.encodes = true)
    (hkind : kindMatches (.activation header) payload = true) : Activated d (s.grown d payload) header := by
  refine ⟨by rw [grown_header, h.stored], ?_⟩
  obtain ⟨hvalid, _, hlinked⟩ := (verifyChain_iff _).mp h.verified
  rw [grown_records]
  refine (verifyChain_iff _).mpr ⟨hvalid, ?_, hlinked.snoc (.sealed _ hencodes hkind)⟩
  rw [length_append, length_singleton]
  exact hroom

end JournalStorage

namespace ActivationJournal
open JournalStorage
variable {j : ActivationJournal}

/-- The journal after a record was appended. -/
def grown (d : JournalDigests) (j : ActivationJournal) (payload : JournalRecordPayloadV1) : ActivationJournal :=
  { j with storage := j.storage.grown d payload }

theorem write_run (h : j.writes = []) : write change j = (.ok (), { j with storage := change j.storage }) := by
  cases j
  cases h
  rfl

private theorem writeSnapshot_run (h : j.writes = []) :
    writeSnapshot j = (.ok (), { j with storage := j.storage.snapshotted }) := by
  apply (run_read j).trans
  unfold snapshotted
  cases j.storage.transaction with
  | none => rfl
  | some transaction => exact write_run h

theorem commit_run (kind : JournalTransactionKindV1) (id : StableId)
    (hwrites : j.writes = []) (hroom : j.storage.records.length < maxJournalRecords)
    (hencodes : payload.encodes = true) : commit d kind id payload j =
      (.ok (journalAck kind id (sealedRecord d j.storage.records payload)), j.grown d payload) := by
  have happend : append d payload j = (.ok (sealedRecord d j.storage.records payload),
      { j with storage := { j.storage with
        records := j.storage.records ++ [sealedRecord d j.storage.records payload] } }) := by
    apply (run_read j).trans
    apply (run_lift (a := ()) (requireCapacity_eq_ok.mpr hroom)).trans
    apply (run_lift (nextRecord_eq _ hencodes)).trans
    refine run_bind (a := ()) ?_
    apply (run_read j).trans
    refine (run_lift (a := ()) ?_).trans (write_run hwrites)
    rw [refuseIf_eq_ok, decide_eq_false_iff_not, Nat.not_lt]
    exact Nat.le_refl _
  apply (run_bind happend).trans
  exact run_bind (writeSnapshot_run hwrites)

theorem guarded_run (guard : JournalStorage → Except BootstrapJournalError α) {rest : α → JournalProg β}
    {a : α} (hheld : j.held = true) (hguard : guard j.storage = .ok a) :
    (requireHeld >>= fun _ => read >>= fun j => lift (guard j.storage) >>= rest) j = rest a j := by
  have hrequired : requireHeld j = (.ok (), j) := by
    apply (run_read j).trans
    rw [hheld]
    rfl
  apply (run_bind hrequired).trans
  apply (run_read j).trans
  exact run_lift hguard

theorem guarded_bind {post : β → ActivationJournal → Prop} {failed : BootstrapJournalError → ActivationJournal → Prop}
    (guard : JournalStorage → Except BootstrapJournalError α) (rest : α → JournalProg β)
    (hunheld : j.held = false → ∀ e, failed e j) (hrefused : ∀ e, guard j.storage = .error e → failed e j)
    (hrest : j.held = true → ∀ a, guard j.storage = .ok a → Outcome (rest a) j post failed) :
    Outcome (requireHeld >>= fun _ => read >>= fun j => lift (guard j.storage) >>= rest) j post failed := by
  refine .via (fun _ j' => j' = j ∧ j.held = true) ?_ ?_
  · apply read_bind
    refine .lift (fun e he => hunheld ?_ e) fun _ hheld => ⟨rfl, ?_⟩
    · cases hheld : j.held with
      | false => rfl
      | true => rw [hheld] at he; cases he
    · rwa [refuseIf_eq_ok, Bool.not_eq_false'] at hheld
  · rintro _ _ ⟨rfl, hheld⟩
    apply read_bind
    exact lift_bind hrefused (hrest hheld)

theorem writeSnapshot_keeps (h : kept j.storage)
    (hframe : ∀ snapshot, kept { j.storage with snapshot }) : Ends writeSnapshot j (kept ·.storage) := by
  apply read_bind
  split
  case h_1 => exact h
  case h_2 => exact write_keeps h (hframe _)

theorem acquireSingleFlight_keeps (h : kept j.storage)
    (hframe : kept { j.storage with locked := true }) : Ends acquireSingleFlight j (kept ·.storage) := by
  apply read_bind
  refine lift_bind (fun _ _ => h) fun _ _ => ?_
  refine .via (fun _ j' => kept j'.storage) ?_ fun _ _ h => h
  apply read_bind
  refine lift_bind (fun _ _ => h) fun _ _ => ?_
  split
  case h_1 | h_2 => exact h
  case h_3 => exact write_keeps h hframe

theorem guarded_outcome {kept : ActivationJournal → Prop}
    (guard : JournalStorage → Except BootstrapJournalError α) (rest : α → JournalProg β) (hstart : kept j)
    (hrest : j.held = true → ∀ a, guard j.storage = .ok a → Ends (rest a) j kept) :
    Ends (requireHeld >>= fun _ => read >>= fun j => lift (guard j.storage) >>= rest) j kept :=
  guarded_bind guard rest (fun _ _ => hstart) (fun _ _ => hstart) hrest

theorem appendEffect_run (hheld : j.held = true)
    (hwrites : j.writes = []) (hguard : j.storage.guardEffect d mutation isIntent = .ok ())
    (hencodes : mutation.effect.processGeneration ≤ maxSafeWireInteger) : ∃ ack, appendEffect d mutation isIntent j =
      (.ok ack, j.grown d (if isIntent then .effectIntent mutation.effect else .observedEffect mutation.effect)) := by
  have hroom := (guardEffect_eq_ok.mp hguard).1.room
  have hpayload : (if isIntent then effectIntent mutation.effect
      else .observedEffect mutation.effect).encodes = true := by
    cases isIntent <;> simpa [encodes, generations] using hencodes
  exact ⟨_, (guarded_run (guardEffect d · mutation isIntent) hheld hguard).trans
    (commit_run .activation mutation.activationId hwrites hroom hpayload)⟩

theorem advancePhase_run {mutation : BootstrapPhaseAdvanceV1} (hheld : j.held = true) (hwrites : j.writes = [])
    (hguard : j.storage.guardAdvance d mutation = .ok ()) :
    ∃ ack, advancePhase d mutation j = (.ok ack, j.grown d (.phaseAdvance mutation.nextPhase)) := by
  have hroom := (guardAdvance_eq_ok.mp hguard).1.room
  exact ⟨_, (guarded_run (guardAdvance d · mutation) hheld hguard).trans
    (commit_run .activation mutation.activationId hwrites hroom rfl)⟩

/-- The journal after a result was sealed. -/
def terminated (d : JournalDigests) (j : ActivationJournal) (result : BootstrapResultV1) (last : JournalRecordV1) :
    ActivationJournal :=
  { j with storage := { j.storage with receipt := some (.bootstrapResult (sealOf d j.storage result last)) } }

theorem storeBootstrapResult_run (hheld : j.held = true) (hwrites : j.writes = [])
    (hsealable : Sealable d j.storage result) (hlast : j.storage.records.getLast? = some last) :
    ∃ ack, storeBootstrapResult d result j = (.ok ack, j.terminated d result last) := by
  have hguard : j.storage.sealResult d result = .ok (sealOf d j.storage result last, last) :=
    sealResult_eq_ok.mpr ⟨hsealable, hlast, rfl⟩
  have hseal : JournalStorage.sealReceipt (.bootstrapResult (sealOf d j.storage result last)) j =
      (.ok (), j.terminated d result last) := by
    apply (run_read j).trans
    refine (run_lift (a := ()) ?_).trans (write_run hwrites)
    rw [refuseIf_eq_ok, hsealable.unsealed]
    rfl
  exact ⟨_, (guarded_run (sealResult d · result) hheld hguard).trans (run_bind hseal)⟩

end ActivationJournal

end Aworkit.Helper
