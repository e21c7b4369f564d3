import Aworkit.LocalStore.Ledger

/-! What a call does to the tables: each one, said once for all its branches. -/
namespace Aworkit.LocalStore
open Protocol Fallible Except
variable {c : LedgerCodec} {objects : String → Nat → Bool} {enforce : Bool} {batch : CommitBatchV1} {s next : Tables}
  {receipt : CommitReceiptV1} {cursors : List Nat} {head aggregate : Nat}

/-- The head and version of a stream; one not there has none. -/
def headOf (s : Tables) (chatId branchId : StableId) : Nat × Nat :=
  match streamState s chatId branchId with
  | some row => (row.headSequence, row.aggregateVersion)
  | none => (0, 0)

theorem bounded_eq_ok {bound value result : Nat} {e : StoreError} :
    (do refuseIf (decide (bound < value)) e; return value : Except StoreError Nat) = .ok result ↔
      value ≤ bound ∧ result = value := by
  simp only [passes, unmet, Nat.not_lt]
  constructor
  · rintro ⟨_, hle, hresult⟩
    exact ⟨hle, (ok.inj hresult).symm⟩
  · rintro ⟨hle, rfl⟩
    exact ⟨(), hle, rfl⟩

theorem toI64_eq_ok : toI64 value = .ok result ↔ value ≤ i64Max ∧ result = value := bounded_eq_ok

theorem checkedAdd_eq_ok : checkedAdd a b = .ok result ↔ a + b ≤ u64Max ∧ result = a + b := bounded_eq_ok

def upserted (batch : CommitBatchV1) (newHead newAggregate : Nat) (streams : List StreamRow) : List StreamRow :=
  if streams.any (·.on batch.chatId batch.branchId) then
    streams.map fun old =>
      if old.on batch.chatId batch.branchId then { old with headSequence := newHead, aggregateVersion := newAggregate }
      else old
  else streams ++ [⟨batch.chatId, batch.branchId, batch.runId, newHead, newAggregate⟩]

theorem upsertStream_eq_ok (h : upsertStream batch newHead newAggregate streams = .ok streams') :
    newHead ≤ i64Max ∧ streams' = upserted batch newHead newAggregate streams := by
  unfold upsertStream at h
  simp only [bind_ok_iff, toI64_eq_ok] at h
  obtain ⟨_, ⟨hhead, _⟩, _, _, hstreams⟩ := h
  exact ⟨hhead, (ok.inj hstreams).symm⟩

/-- A commit leaves all but the artifacts' tables to the statements before. -/
structure SameHistory (s s' : Tables) : Prop where
  streams : s'.streams = s.streams
  events : s'.events = s.events
  attempts : s'.attempts = s.attempts
  checkpoints : s'.checkpoints = s.checkpoints
  deduplication : s'.deduplication = s.deduplication
  outbox : s'.outbox = s.outbox

theorem SameHistory.refl (s : Tables) : SameHistory s s := ⟨rfl, rfl, rfl, rfl, rfl, rfl⟩

theorem SameHistory.trans (h : SameHistory s s') (h' : SameHistory s' s'') : SameHistory s s'' :=
  ⟨h'.streams.trans h.streams, h'.events.trans h.events, h'.attempts.trans h.attempts,
    h'.checkpoints.trans h.checkpoints, h'.deduplication.trans h.deduplication, h'.outbox.trans h.outbox⟩

private theorem finalizeArtifact_same {s' : Tables} (h : finalizeArtifact objects batch s reference = .ok s') :
    SameHistory s s' ∧ s'.quarantine = s.quarantine := by
  unfold finalizeArtifact at h
  simp only [bind_ok_iff] at h
  obtain ⟨_, _, _, _, _, _, _, _, _, _, _, _, hs'⟩ := h
  obtain rfl := ok.inj hs'
  exact ⟨⟨rfl, rfl, rfl, rfl, rfl, rfl⟩, rfl⟩

theorem finalizeArtifacts_same {s' : Tables} (h : finalizeArtifacts objects batch s = .ok s') :
    SameHistory s s' ∧ s'.quarantine = s.quarantine := by
  refine foldlM_keeps (finalizeArtifact objects batch) (fun _ t => SameHistory s t ∧ t.quarantine = s.quarantine) ?_
    batch.preparedArtifacts [] s s' ⟨.refl s, rfl⟩ h
  rintro _ t reference t' ⟨hsame, hquarantine⟩ hstep
  obtain ⟨hsame', hquarantine'⟩ := finalizeArtifact_same hstep
  exact ⟨hsame.trans hsame', hquarantine'.trans hquarantine⟩

structure Rows where
  events : List EventRow
  attempts : List AttemptRow
  checkpoints : List CheckpointRow
  outbox : List OutboxRow
  deduplication : List DeduplicationRow

/-- The receipt of a batch that is written to these tables. -/
def receiptOf (c : LedgerCodec) (batch : CommitBatchV1) (s : Tables) : CommitReceiptV1 :=
  commitReceipt batch (batch.expectedHead + batch.events.length) ((headOf s batch.chatId batch.branchId).2 + 1)
    (c.requestHash batch).text

/-- The cursors of the batch's entries, behind the greatest stored. -/
def cursorsOf (batch : CommitBatchV1) (s : Tables) : List Nat :=
  batch.outbox.zipIdx.map fun entry => maxCursor s.outbox + entry.2 + 1

def rowsOf (c : LedgerCodec) (batch : CommitBatchV1) (s : Tables) : Rows where
  events := batch.events.zipIdx.map (eventRow c batch batch.expectedHead)
  attempts := batch.attempts.map (attemptRow batch)
  checkpoints := batch.checkpoint.toList.map (checkpointRow batch (batch.expectedHead + batch.events.length))
  outbox := batch.outbox.zipIdx.map
    (outboxRow c batch (batch.expectedHead + batch.events.length) (maxCursor s.outbox))
  deduplication :=
    batch.deduplication.toList.map (deduplicationRow batch (c.requestHash batch).text (receiptOf c batch s))

/-- No row clashes with a stored one, and every cursor fits its column. -/
structure Rows.Fresh (rows : Rows) (s : Tables) : Prop where
  events : ∀ row ∈ rows.events, ∀ other ∈ s.events, row.clashes other = false
  attempts : ∀ row ∈ rows.attempts, ∀ other ∈ s.attempts, row.clashes other = false
  checkpoints : ∀ row ∈ rows.checkpoints, ∀ other ∈ s.checkpoints, row.clashes other = false
  outbox : ∀ row ∈ rows.outbox, ∀ other ∈ s.outbox, row.clashes other = false
  deduplication : ∀ row ∈ rows.deduplication, ∀ other ∈ s.deduplication, row.clashes other = false
  eventKeys : Table.Keyed EventRow.clashes rows.events
  outboxKeys : Table.Keyed OutboxRow.clashes rows.outbox
  cursors : ∀ row ∈ rows.outbox, row.deliveryCursor ≤ i64Max

/-- The tables with the rows of the batch; the artifacts' tables are left. -/
def appended (c : LedgerCodec) (batch : CommitBatchV1) (s : Tables) : Tables :=
  { s with
    streams := upserted batch (receiptOf c batch s).headSequence (receiptOf c batch s).aggregateVersion s.streams
    events := s.events ++ (rowsOf c batch s).events
    attempts := s.attempts ++ (rowsOf c batch s).attempts
    checkpoints := s.checkpoints ++ (rowsOf c batch s).checkpoints
    outbox := s.outbox ++ (rowsOf c batch s).outbox }

/-- A transaction with its batch written: what it found and leaves to the COMMIT. -/
structure Written (c : LedgerCodec) (objects : String → Nat → Bool) (enforce : Bool) (batch : CommitBatchV1)
    (s next : Tables) : Prop where
  valid : validateBatch batch = .ok ()
  unquarantined : s.quarantine = none
  unkeyed : batch.deduplication.bind (loadDeduplication · s.deduplication) = none
  run : ∀ row, streamState s batch.chatId batch.branchId = some row → row.runId = batch.runId
  head : (headOf s batch.chatId batch.branchId).1 = batch.expectedHead
  aggregate : enforce = true → (headOf s batch.chatId batch.branchId).2 = batch.expectedAggregateVersion
  fresh : (rowsOf c batch s).Fresh s
  finalized : ∃ finalized, finalizeArtifacts objects batch (appended c batch s) = .ok finalized ∧
    next = { finalized with deduplication := s.deduplication ++ (rowsOf c batch s).deduplication }

theorem existingReceipt_eq_none (h : existingReceipt batch requestHash s = .ok none) :
    batch.deduplication.bind (loadDeduplication · s.deduplication) = none := by
  unfold existingReceipt at h
  split at h
  case h_1 hnone => exact hnone
  case h_2 existing _ =>
    obtain ⟨_, _, hreturn⟩ := (bind_ok_iff _ _ _).mp h
    cases hreturn

private theorem fencedHead_eq_ok (h : fencedHead enforce batch s = .ok current) :
    (∀ row, streamState s batch.chatId batch.branchId = some row → row.runId = batch.runId) ∧
      headOf s batch.chatId batch.branchId = current ∧ current.1 = batch.expectedHead ∧
      (enforce = true → current.2 = batch.expectedAggregateVersion) := by
  unfold fencedHead at h
  simp only [passes, unmet, Bool.and_eq_false_iff] at h
  obtain ⟨found, hfound, _, hhead, _, haggregate, hreturn⟩ := h
  obtain rfl : found = current := ok.inj hreturn
  unfold currentHead at hfound
  refine ⟨?_, ?_, hhead, fun henforce => haggregate.resolve_left (by rw [henforce]; decide)⟩
  · intro row hrow
    rw [hrow] at hfound
    obtain ⟨_, hrun, _⟩ := (bind_ok_iff _ _ _).mp hfound
    rwa [refuseIf_eq_ok, bne_eq_false_iff_eq] at hrun
  · unfold headOf
    revert hfound
    cases streamState s batch.chatId batch.branchId with
    | none => exact fun hfound => ok.inj hfound
    | some row =>
      intro hfound
      obtain ⟨_, _, hpair⟩ := (bind_ok_iff _ _ _).mp hfound
      exact ok.inj hpair

private theorem checkedNumber_bound (h : (do checkedNumber old offset; rest) = .ok ()) : old + offset + 1 ≤ i64Max := by
  unfold checkedNumber at h
  simp only [bind_ok_iff, checkedAdd_eq_ok, toI64_eq_ok] at h
  obtain ⟨_, ⟨_, ⟨_, rfl⟩, _, ⟨_, rfl⟩, _, ⟨hbound, _⟩, _⟩, _⟩ := h
  exact hbound

/-- A batch that is staged as new was written. -/
theorem stageCommit_fresh (h : stageCommit c objects enforce batch s = .ok (.fresh receipt cursors next)) :
    receipt = receiptOf c batch s ∧ cursors = cursorsOf batch s ∧ Written c objects enforce batch s next := by
  obtain ⟨_, hvalid, h⟩ := (bind_ok_iff _ _ _).mp h
  cases hquarantine : s.quarantine with
  | some reason =>
    rw [hquarantine] at h
    cases h
  | none =>
    rw [hquarantine] at h
    obtain ⟨existing, hexisting, h⟩ := (bind_ok_iff _ _ _).mp h
    cases existing with
    | some existing => cases h
    | none =>
      obtain ⟨current, hfenced, h⟩ := (bind_ok_iff _ _ _).mp h
      obtain ⟨hrun, hheadOf, hhead, haggregate⟩ := fencedHead_eq_ok hfenced
      rw [← hheadOf] at h hhead haggregate
      unfold writeBatch at h
      rw [hhead] at h
      simp only [bind_ok_iff, checkedAdd_eq_ok] at h
      obtain ⟨_, ⟨_, rfl⟩, _, ⟨_, rfl⟩, streams, hstreams, events, hevents, attempts, hattempts, checkpoints,
        hcheckpoints, outbox, houtbox, finalized, hfinalized, deduplication, hdeduplication, hreturn⟩ := h
      cases hreturn
      obtain ⟨_, rfl⟩ := upsertStream_eq_ok hstreams
      obtain ⟨rfl, _, heventsFresh, heventsKeyed⟩ := Table.extend_eq_ok.mp hevents
      obtain ⟨rfl, _, hattemptsFresh, _⟩ := Table.extend_eq_ok.mp hattempts
      obtain ⟨rfl, _, hcheckpointsFresh, _⟩ := Table.extend_eq_ok.mp hcheckpoints
      obtain ⟨outboxRows, hrows, hpair⟩ := (bind_ok_iff _ _ _).mp houtbox
      cases hpair
      obtain ⟨rfl, hcursors, houtboxFresh, houtboxKeyed⟩ := Table.extend_eq_ok.mp hrows
      obtain ⟨rfl, _, hdeduplicationFresh, _⟩ := Table.extend_eq_ok.mp hdeduplication
      refine ⟨rfl, rfl, hvalid, hquarantine, existingReceipt_eq_none hexisting, hrun, hhead, haggregate, ?_,
        finalized, hfinalized, rfl⟩
      exact ⟨List.forall_mem_map.mpr heventsFresh, List.forall_mem_map.mpr hattemptsFresh,
        List.forall_mem_map.mpr hcheckpointsFresh, List.forall_mem_map.mpr houtboxFresh,
        List.forall_mem_map.mpr hdeduplicationFresh, heventsKeyed, houtboxKeyed,
        List.forall_mem_map.mpr fun entry hentry => checkedNumber_bound (hcursors entry hentry)⟩

end Aworkit.LocalStore
