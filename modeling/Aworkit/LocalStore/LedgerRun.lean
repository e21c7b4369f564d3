import Aworkit.LocalStore.LedgerVerification

/-! Runs of the local history over an atomic database, and what holds after every one of them. -/
namespace Aworkit.LocalStore
open Protocol Fallible EventRow CommitRequest StableId List
variable {c : LedgerCodec} {objects : String → Nat → Bool} {enforce : Bool} {batch : CommitBatchV1}
  {s next : Tables} {chatId branchId : StableId}

/-- A call of the store, or a write of the artifact repository's tables. -/
inductive LedgerStep where
  | commit (objects : String → Nat → Bool) (request : CommitRequest) (ending : CommitEnding)
  | markOutboxDelivered (outboxId : String)
  | markOutboxDeliveredV1 (outboxId : StableId) (expectedCursor : Nat)
  | prunePayloads (updates : List (String × Value))
  | purgeDeliveredOutbox (keepNewest : Nat)
  | deleteStream (chatId : String)
  | stageArtifacts (prepared : List PreparedArtifactRow) (artifacts : List ArtifactRow)
      (references : List (StableId × StableId))

/-- A COMMIT that fails leaves all of its transaction or nothing. -/
def CommitEnding.Atomic : CommitEnding → Prop
  | .torn _ _ => False
  | _ => True

/-- Whether a transaction is made that ends so. -/
def CommitEnding.made : CommitEnding → Bool
  | .confirmed | .unconfirmed _ => true
  | _ => false

def LedgerStep.Atomic : LedgerStep → Prop
  | .commit _ _ ending => ending.Atomic
  | _ => True

/-- What a run did to the streams. -/
inductive Happening where
  | committed (batch : CommitBatchV1) (receipt : CommitReceiptV1)
  | deleted (chatId : StableId)

/-- The tables that a call leaves, when it may refuse. -/
def keptOn (s : Tables) : Except StoreError Tables → Tables
  | .ok next => next
  | .error _ => s

def Tables.step (c : LedgerCodec) (s : Tables) : LedgerStep → Tables
  | .commit objects request ending => (commit c objects request ending s).2
  | .markOutboxDelivered outboxId => keptOn s (markOutboxDelivered outboxId s)
  | .markOutboxDeliveredV1 outboxId expectedCursor => keptOn s (markOutboxDeliveredV1 outboxId expectedCursor s)
  | .prunePayloads updates => prunePayloads c updates s
  | .purgeDeliveredOutbox keepNewest => purgeDeliveredOutbox keepNewest s
  | .deleteStream chatId => keptOn s (deleteStream chatId s)
  | .stageArtifacts prepared artifacts references =>
    { s with preparedArtifacts := prepared, artifacts, artifactReferences := references }

/-- A batch is committed if its transaction is made, whatever the call reports. -/
def CommitRequest.happens (c : LedgerCodec) (objects : String → Nat → Bool) (request : CommitRequest)
    (ending : CommitEnding) (s : Tables) : List Happening :=
  match request.batch with
  | .error _ => []
  | .ok batch =>
    match stageCommit c objects request.enforces batch s with
    | .ok (.fresh receipt _ _) => if ending.made then [.committed batch receipt] else []
    | _ => []

def Tables.happens (c : LedgerCodec) (s : Tables) : LedgerStep → List Happening
  | .commit objects request ending => request.happens c objects ending s
  | .deleteStream chatId => ((parse chatId).map .deleted).toList
  | _ => []

/-- A store with what has happened to it. -/
structure Ledger where
  tables : Tables
  happened : List Happening

def Ledger.step (c : LedgerCodec) (l : Ledger) (next : LedgerStep) : Ledger where
  tables := l.tables.step c next
  happened := l.happened ++ l.tables.happens c next

def Ledger.run (c : LedgerCodec) (steps : List LedgerStep) (l : Ledger) : Ledger := steps.foldl (Ledger.step c) l

def Ledger.opened : Ledger := ⟨.empty, []⟩

/-- The batches of a stream after one more happening. -/
def recordBatch (chatId branchId : StableId) (batches : List CommitBatchV1) : Happening → List CommitBatchV1
  | .committed batch _ => if batch.chatId = chatId ∧ batch.branchId = branchId then batches ++ [batch] else batches
  | .deleted deleted => if deleted = chatId then [] else batches

/-- The batches committed to a stream since it was created. -/
def batchesOf (chatId branchId : StableId) (happened : List Happening) : List CommitBatchV1 :=
  happened.foldl (recordBatch chatId branchId) []

theorem batchesOf_snoc (happened : List Happening) (last : Happening) : batchesOf chatId branchId (happened ++ [last]) =
    recordBatch chatId branchId (batchesOf chatId branchId happened) last := by
  rw [batchesOf, foldl_append]
  rfl

def EventRow.on (chatId branchId : StableId) (row : EventRow) : Bool := row.chatId == chatId && row.branchId == branchId

/-- The sequence numbers of a stream's events, in the order of the table. -/
def sequencesOf (chatId branchId : StableId) (events : List EventRow) : List Nat :=
  (events.filter (·.on chatId branchId)).map sequence

/-- The invariant of the ledger. -/
structure Sound (c : LedgerCodec) (l : Ledger) : Prop where
  streamKeys : l.tables.streams.Pairwise fun a b => ¬(a.chatId = b.chatId ∧ a.branchId = b.branchId)
  eventKeys : Table.Keyed clashes l.tables.events
  dense : ∀ chatId branchId, sequencesOf chatId branchId l.tables.events =
    range' 1 (headOf l.tables chatId branchId).1
  counted : ∀ chatId branchId, (headOf l.tables chatId branchId).2 = (batchesOf chatId branchId l.happened).length
  checkpoints : ∀ row ∈ l.tables.checkpoints, row.committedSequence ≤ (headOf l.tables row.chatId row.branchId).1
  remembered : ∀ batch receipt key, .committed batch receipt ∈ l.happened → batch.deduplication = some key →
    validateBatch batch = .ok () ∧ loadDeduplication key l.tables.deduplication =
      some (deduplicationRow batch (c.requestHash batch).text receipt key)

variable {request : CommitRequest} {s' : Tables}

/-- The legacy entry point takes the head for the aggregate version. -/
theorem legacyBatch_aggregate {legacy : CommitBatch} (h : legacyBatch legacy = .ok batch) :
    batch.expectedAggregateVersion = batch.expectedHead := by
  unfold legacyBatch at h
  simp only [bind_ok_iff] at h
  obtain ⟨_, _, _, _, _, _, _, _, _, _, _, _, _, _, hreturn⟩ := h
  cases hreturn
  rfl

/-- The aggregate version that the verification expects is the stream's: the call names it, or it is the head. -/
def CommitRequest.FencesAggregate (request : CommitRequest) (s : Tables) (batch : CommitBatchV1) : Prop :=
  request.enforces = true ∨
    ∀ row, streamState s batch.chatId batch.branchId = some row → row.aggregateVersion = row.headSequence

theorem CommitRequest.fencesAggregate_iff (hbatch : request.batch = .ok batch)
    (hw : Written c objects request.enforces batch s next) : request.FencesAggregate s batch ↔
      (streamState s batch.chatId batch.branchId).all (·.aggregateVersion == batch.expectedAggregateVersion) =
        true := by
  have hhead := hw.head
  have haggregate := hw.aggregate
  unfold headOf at hhead haggregate
  unfold CommitRequest.FencesAggregate
  cases request with
  | v1 _ =>
    refine ⟨fun _ => ?_, fun _ => .inl rfl⟩
    cases hstream : streamState s batch.chatId batch.branchId with
    | none => rfl
    | some row =>
      rw [hstream] at haggregate
      exact beq_iff_eq.mpr (haggregate rfl)
  | legacy legacy =>
    rw [legacyBatch_aggregate hbatch]
    cases hstream : streamState s batch.chatId batch.branchId with
    | none => simp
    | some row =>
      rw [hstream] at hhead
      simp [enforces, ← hhead]

/-- A COMMIT that a call cannot settle: it was made and is not verified, or it was lost and is taken for a conflict. -/
def CommitRequest.Misjudged (request : CommitRequest) (ending : CommitEnding) (s : Tables) (batch : CommitBatchV1) :
    Prop :=
  ending = .unconfirmed .unreadable ∨
    (ending = .lost .works ∨ ending = .lost (.unwritable true)) ∧ ¬request.FencesAggregate s batch

/-- How a call to commit ends over an atomic database, and what it did. -/
inductive CommitResult (c : LedgerCodec) (objects : String → Nat → Bool) (request : CommitRequest)
    (ending : CommitEnding) (s : Tables) : Except StoreError CommitOutcomeV1 × Tables → List Happening → Prop
  | refused (e : StoreError) : CommitResult c objects request ending s (.error e, s) []
  | quarantined (e : StoreError) (reason : String) (batch : CommitBatchV1) (next : Tables) :
      request.batch = .ok batch → Written c objects request.enforces batch s next → request.Misjudged ending s batch →
      CommitResult c objects request ending s (.error e, { s with quarantine := some reason }) []
  | existing (receipt : CommitReceiptV1) : CommitResult c objects request ending s (.ok (.existing receipt), s) []
  | committed (answer : Except StoreError CommitOutcomeV1) (batch : CommitBatchV1) (next : Tables) :
      request.batch = .ok batch → Written c objects request.enforces batch s next →
      answer = .ok (.committed (receiptOf c batch s)) ∨ request.Misjudged ending s batch ∧ answer = .error .sql →
      CommitResult c objects request ending s (answer, next) [.committed batch (receiptOf c batch s)]

theorem Written.lost (hw : Written c objects enforce batch s next) : Lost batch s s := by
  refine ⟨rfl, fun event hevent hmem => ?_, fun entry hentry hmem => ?_, hw.unkeyed⟩
  · obtain ⟨other, hother, hid⟩ := mem_map.mp hmem
    obtain ⟨_, hindexed⟩ := exists_place hevent
    have hclash := hw.fresh.events _ (mem_map_of_mem hindexed) other hother
    simp only [clashes, Bool.or_eq_false_iff, beq_eq_false_iff_ne] at hclash
    exact hclash.1 hid.symm
  · obtain ⟨other, hother, hid⟩ := mem_map.mp hmem
    obtain ⟨_, hindexed⟩ := exists_place hentry
    have hclash := hw.fresh.outbox _ (mem_map_of_mem hindexed) other hother
    simp only [OutboxRow.clashes, Bool.or_eq_false_iff, beq_eq_false_iff_ne] at hclash
    exact hclash.1 hid.symm

theorem Written.whole : Whole objects batch next next :=
  ⟨rfl, fun _ h _ => h, fun _ h _ => h, rfl, fun _ _ => rfl, rfl, fun _ _ h => h⟩

theorem Written.clear (hw : Written c objects enforce batch s next)
    (hcheckpoints : ∀ row ∈ s.checkpoints, row.committedSequence ≤ (headOf s row.chatId row.branchId).1) :
    CheckpointClear batch s := by
  intro row hrow hchat hbranch hsame
  have hle := hcheckpoints row hrow
  have hpos := length_pos_of_ne_nil (wellFormed_of_valid hw.valid).nonempty
  rw [hchat, hbranch, hw.head] at hle
  omega

/-- Each call to commit ends in one of these ways. -/
theorem commit_result {ending : CommitEnding} (hatomic : ending.Atomic)
    (hcheckpoints : ∀ row ∈ s.checkpoints, row.committedSequence ≤ (headOf s row.chatId row.branchId).1) :
    CommitResult c objects request ending s (commit c objects request ending s)
      (request.happens c objects ending s) := by
  unfold commit happens
  cases hbatch : request.batch with
  | error e => exact .refused e
  | ok batch =>
    dsimp only [commitInner]
    cases hstage : stageCommit c objects request.enforces batch s with
    | error e => exact .refused e
    | ok staged =>
      cases staged with
      | existing receipt =>
        cases ending with
        | confirmed => exact .existing receipt
        | aborted | lost _ | unconfirmed _ => exact .refused _
        | torn durable _ => exact hatomic.elim
      | fresh receipt cursors next =>
        obtain ⟨rfl, rfl, hw⟩ := stageCommit_fresh hstage
        cases ending with
        | confirmed => exact .committed _ batch next hbatch hw (.inl rfl)
        | aborted => exact .refused _
        | lost aftermath =>
          dsimp only
          rcases settle_lost hw hw.lost aftermath with ⟨_, hanswer⟩ | ⟨hunknown, herror, htables⟩
          · rw [hanswer]
            exact .refused _
          · have hunfenced : ¬ request.FencesAggregate s batch := by
              rw [fencesAggregate_iff hbatch hw, hunknown]
              exact Bool.false_ne_true
            rw [← Prod.eta (settleUncertain ..), htables]
            rcases herror with ⟨rfl, herror⟩ | ⟨rfl, herror⟩
            · rw [herror]
              exact .quarantined _ _ batch next hbatch hw (.inr ⟨.inl rfl, hunfenced⟩)
            · rw [herror]
              exact .quarantined _ _ batch next hbatch hw (.inr ⟨.inr rfl, hunfenced⟩)
        | unconfirmed aftermath =>
          dsimp only
          rw [settle_whole hw Written.whole (hw.clear hcheckpoints)]
          refine .committed _ batch next hbatch hw ?_
          by_cases hread : aftermath = .unreadable <;> simp [hread, Misjudged]
        | torn durable _ => exact hatomic.elim

section Committed
variable (hw : Written c objects enforce batch s next)
include hw

theorem Written.headOf_next : headOf next batch.chatId batch.branchId =
    (batch.expectedHead + batch.events.length, (headOf s batch.chatId batch.branchId).2 + 1) := by
  rw [headOf, hw.stream_next]
  rfl

theorem Written.headOf_other (hother : ¬(batch.chatId = chatId ∧ batch.branchId = branchId)) :
    headOf next chatId branchId = headOf s chatId branchId := by
  unfold headOf streamState
  rw [hw.left.streams, find_upserted_other hother]

theorem Written.headOf_le (chatId branchId : StableId) :
    (headOf s chatId branchId).1 ≤ (headOf next chatId branchId).1 := by
  by_cases hsame : batch.chatId = chatId ∧ batch.branchId = branchId
  · obtain ⟨rfl, rfl⟩ := hsame
    rw [hw.headOf_next, hw.head]
    exact Nat.le_add_right _ _
  · rw [hw.headOf_other hsame]

theorem Written.sequences (hdense : ∀ chatId branchId, sequencesOf chatId branchId s.events =
    range' 1 (headOf s chatId branchId).1) (chatId branchId : StableId) :
    sequencesOf chatId branchId next.events = range' 1 (headOf next chatId branchId).1 := by
  have hsplit : sequencesOf chatId branchId next.events =
      sequencesOf chatId branchId s.events ++ sequencesOf chatId branchId (rowsOf c batch s).events := by
    rw [sequencesOf, hw.left.events, filter_append, map_append]
    rfl
  by_cases hsame : batch.chatId = chatId ∧ batch.branchId = branchId
  · obtain ⟨rfl, rfl⟩ := hsame
    have hon (row : EventRow) (hrow : row ∈ (rowsOf c batch s).events) : row.on batch.chatId batch.branchId = true := by
      obtain ⟨event, _, rfl⟩ := mem_map.mp hrow
      simp [on, eventRow]
    have hnew : sequencesOf batch.chatId batch.branchId (rowsOf c batch s).events =
        range' (1 + batch.expectedHead) batch.events.length := by
      rw [sequencesOf, filter_eq_self.mpr hon]
      show (batch.events.zipIdx.map _).map _ = _
      have hplaces : batch.events.zipIdx.map (fun event => batch.expectedHead + event.2 + 1) =
          (batch.events.zipIdx.map Prod.snd).map fun place => batch.expectedHead + place + 1 := by
        rw [map_map]
        rfl
      rw [map_map]
      refine hplaces.trans ?_
      rw [zipIdx_map_snd, range'_eq_map_range, range'_eq_map_range, map_map]
      refine map_congr_left fun place _ => ?_
      simp only [Function.comp_apply]
      omega
    rw [hsplit, hnew, hdense, hw.head, hw.headOf_next, range'_append_1]
  · have hnone : sequencesOf chatId branchId (rowsOf c batch s).events = [] := by
      rw [sequencesOf, map_eq_nil_iff, filter_eq_nil_iff]
      intro row hrow hon
      obtain ⟨event, _, rfl⟩ := mem_map.mp hrow
      exact hsame (by simpa [on, eventRow] using hon)
    rw [hsplit, hnone, append_nil, hdense, hw.headOf_other hsame]

theorem Written.streamKeys (hkeys : s.streams.Pairwise fun a b => ¬(a.chatId = b.chatId ∧ a.branchId = b.branchId)) :
    next.streams.Pairwise fun a b => ¬(a.chatId = b.chatId ∧ a.branchId = b.branchId) := by
  rw [hw.left.streams]
  unfold upserted
  split
  case isTrue =>
    rw [pairwise_map]
    refine hkeys.imp fun {a b} hne => ?_
    rwa [(bumped_ids a).1, (bumped_ids a).2, (bumped_ids b).1, (bumped_ids b).2]
  case isFalse hnone =>
    refine pairwise_append.mpr ⟨hkeys, pairwise_singleton _ _, fun row hrow other hother => ?_⟩
    rw [mem_singleton.mp hother]
    rintro ⟨hchat, hbranch⟩
    exact hnone (any_eq_true.mpr ⟨row, hrow, StreamRow.on_eq_true.mpr ⟨hchat, hbranch⟩⟩)

theorem Written.sound (h : Sound c ⟨s, happened⟩) :
    Sound c ⟨next, happened ++ [.committed batch (receiptOf c batch s)]⟩ := by
  refine ⟨hw.streamKeys h.streamKeys, ?_, hw.sequences h.dense, ?_, ?_, ?_⟩
  · rw [hw.left.events]
    exact h.eventKeys.append hw.fresh.eventKeys hw.fresh.events
  · intro chatId branchId
    have hcounted := h.counted chatId branchId
    rw [batchesOf_snoc, recordBatch]
    split
    case isTrue hsame =>
      obtain ⟨rfl, rfl⟩ := hsame
      rw [hw.headOf_next, length_append, ← hcounted]
      rfl
    case isFalse hother =>
      rw [hw.headOf_other hother]
      exact hcounted
  · intro row hrow
    have hrow' : row ∈ next.checkpoints := hrow
    rw [hw.left.checkpoints] at hrow'
    rcases mem_append.mp hrow' with hold | hnew
    · exact (h.checkpoints row hold).trans (hw.headOf_le _ _)
    · obtain ⟨checkpoint, _, rfl⟩ := mem_map.mp hnew
      show batch.expectedHead + batch.events.length ≤ (headOf next batch.chatId batch.branchId).1
      rw [hw.headOf_next]
  · intro other receipt key hmem hkey
    rcases mem_append.mp hmem with hold | hnew
    · obtain ⟨hvalid, hload⟩ := h.remembered other receipt key hold hkey
      refine ⟨hvalid, ?_⟩
      rw [hw.left.deduplication, loadDeduplication, find?_append]
      exact congrArg (Option.or · _) hload
    · cases mem_singleton.mp hnew
      refine ⟨hw.valid, ?_⟩
      have hdeduplicated := hw.deduplicated
      rw [hkey] at hdeduplicated
      exact hdeduplicated

end Committed

section Maintenance
variable {happened : List Happening}

theorem headOf_streams (h : s'.streams = s.streams) (chatId branchId : StableId) :
    headOf s' chatId branchId = headOf s chatId branchId := by
  rw [headOf, streamState, h]
  rfl

theorem Sound.quiet (h : Sound c ⟨s, happened⟩) (hstreams : s'.streams = s.streams)
    (hcheckpoints : s'.checkpoints = s.checkpoints) (hdeduplication : s'.deduplication = s.deduplication)
    (hkeys : Table.Keyed clashes s'.events)
    (hevents : ∀ chatId branchId, sequencesOf chatId branchId s'.events = sequencesOf chatId branchId s.events) :
    Sound c ⟨s', happened⟩ := by
  refine ⟨?_, hkeys, fun chatId branchId => ?_, fun chatId branchId => ?_, fun row hrow => ?_, ?_⟩
  · rw [hstreams]
    exact h.streamKeys
  · rw [hevents, headOf_streams hstreams]
    exact h.dense chatId branchId
  · rw [headOf_streams hstreams]
    exact h.counted chatId branchId
  · have hold : row ∈ s'.checkpoints := hrow
    rw [hcheckpoints] at hold
    rw [headOf_streams hstreams]
    exact h.checkpoints row hold
  · intro batch receipt key hmem hkey
    rw [hdeduplication]
    exact h.remembered batch receipt key hmem hkey

theorem Sound.pruned (h : Sound c ⟨s, happened⟩) (updates : List (String × Value)) :
    Sound c ⟨prunePayloads c updates s, happened⟩ := by
  have hfold (events : List EventRow) : Table.Keyed clashes events →
      Table.Keyed clashes (updates.foldl (prunePayload c) events) ∧ ∀ chatId branchId,
        sequencesOf chatId branchId (updates.foldl (prunePayload c) events) = sequencesOf chatId branchId events := by
    induction updates generalizing events with
    | nil => exact fun hkeys => ⟨hkeys, fun _ _ => rfl⟩
    | cons update rest ih =>
      intro hkeys
      have hrow (row : EventRow) : ∃ payload, (if row.eventId.val = update.1 then
          { row with payload := c.toText update.2 } else row) = { row with payload } := by
        split
        · exact ⟨_, rfl⟩
        · exact ⟨row.payload, rfl⟩
      have hpruned : Table.Keyed clashes (prunePayload c events update) := by
        refine hkeys.map _ fun a b => ?_
        obtain ⟨_, ha⟩ := hrow a
        obtain ⟨_, hb⟩ := hrow b
        rw [ha, hb]
        rfl
      obtain ⟨hkept, hsequences⟩ := ih (prunePayload c events update) hpruned
      refine ⟨hkept, fun chatId branchId => (hsequences chatId branchId).trans ?_⟩
      unfold sequencesOf prunePayload
      rw [filter_map, map_map]
      congr 1
      · funext row
        obtain ⟨_, hpayload⟩ := hrow row
        rw [Function.comp_apply, hpayload]
      · congr 1
        funext row
        obtain ⟨_, hpayload⟩ := hrow row
        rw [Function.comp_apply, hpayload]
        rfl
  exact h.quiet rfl rfl rfl (hfold _ h.eventKeys).1 (hfold _ h.eventKeys).2

private theorem headOf_deleted (deleted chatId branchId : StableId) :
    headOf { s with streams := s.streams.filter (·.chatId != deleted) } chatId branchId =
      if deleted = chatId then (0, 0) else headOf s chatId branchId := by
  unfold headOf streamState
  by_cases hsame : deleted = chatId
  · have hnone : (s.streams.filter (·.chatId != deleted)).find? (·.on chatId branchId) = none := by
      refine find?_eq_none.mpr fun row hrow hon => ?_
      obtain ⟨_, hkept⟩ := mem_filter.mp hrow
      exact bne_iff_ne.mp hkept ((StreamRow.on_eq_true.mp hon).1.trans hsame.symm)
    rw [hnone, if_pos hsame]
  · rw [Table.find_filter fun row hon => ?_, if_neg hsame]
    rw [(StreamRow.on_eq_true.mp hon).1]
    exact bne_iff_ne.mpr (Ne.symm hsame)

private theorem sequencesOf_deleted (deleted chatId branchId : StableId) (events : List EventRow) :
    sequencesOf chatId branchId (events.filter (·.chatId != deleted)) =
      if deleted = chatId then [] else sequencesOf chatId branchId events := by
  unfold sequencesOf
  rw [filter_filter]
  split
  case isTrue hsame =>
    rw [map_eq_nil_iff, filter_eq_nil_iff]
    intro row _ hkept
    simp only [on, met, bne_iff_ne] at hkept
    exact hkept.2 (hkept.1.1.trans hsame.symm)
  case isFalse hother =>
    congr 1
    refine filter_congr fun row _ => ?_
    by_cases hon : row.chatId = chatId
    · simp [on, hon, Ne.symm hother]
    · simp [on, hon]

section
variable (h : Sound c ⟨s, happened⟩)
include h

theorem Sound.deleted {deleted : StableId}
    (hs' : deleteStream deleted.val s = .ok s') : Sound c ⟨s', happened ++ [.deleted deleted]⟩ := by
  unfold deleteStream stable at hs'
  rw [parse_val] at hs'
  obtain rfl := Except.ok.inj hs'
  have hheadOf := headOf_deleted (s := s) deleted
  refine ⟨h.streamKeys.filter _, h.eventKeys.filter _, fun chatId branchId => ?_, fun chatId branchId => ?_,
    fun row hrow => ?_, ?_⟩
  · refine (sequencesOf_deleted deleted chatId branchId s.events).trans ?_
    rw [h.dense chatId branchId]
    show _ = range' 1 (headOf { s with streams := _ } chatId branchId).1
    rw [hheadOf]
    split <;> rfl
  · show (headOf { s with streams := _ } chatId branchId).2 = _
    rw [hheadOf, batchesOf_snoc, recordBatch]
    split
    case isTrue => rfl
    case isFalse => exact h.counted chatId branchId
  · obtain ⟨hold, hkept⟩ := mem_filter.mp hrow
    show _ ≤ (headOf { s with streams := _ } row.chatId row.branchId).1
    rw [hheadOf, if_neg (Ne.symm (bne_iff_ne.mp hkept))]
    exact h.checkpoints row hold
  · intro batch receipt key hmem hkey
    rcases mem_append.mp hmem with hold | hnew
    · exact h.remembered batch receipt key hold hkey
    · cases mem_singleton.mp hnew

theorem Sound.kept (hok : ∀ s', answer = .ok s' → Sound c ⟨s', happened⟩) : Sound c ⟨keptOn s answer, happened⟩ := by
  cases answer with
  | error e => exact h
  | ok s' => exact hok s' rfl

theorem Sound.delivered (selected : OutboxRow → Bool) :
    Sound c ⟨deliver selected s, happened⟩ := h.quiet rfl rfl rfl h.eventKeys fun _ _ => rfl

end

theorem CommitResult.sound {ending : CommitEnding} (hresult : CommitResult c objects request ending s answer did)
    (h : Sound c ⟨s, happened⟩) : Sound c ⟨answer.2, happened ++ did⟩ := by
  have hquiet : Sound c ⟨s, happened ++ []⟩ := by
    rw [append_nil]
    exact h
  cases hresult with
  | refused e | existing receipt => exact hquiet
  | quarantined e reason batch => exact hquiet.quiet rfl rfl rfl hquiet.eventKeys fun _ _ => rfl
  | committed answer batch next hbatch hw => exact hw.sound h

end Maintenance

theorem Sound.found {l : Ledger} (h : Sound c l) {row : StreamRow} (hrow : row ∈ l.tables.streams) :
    streamState l.tables row.chatId row.branchId = some row := by
  have hkeyed : Table.Keyed (fun a b : StreamRow => b.on a.chatId a.branchId) l.tables.streams := by
    refine h.streamKeys.imp fun {a b} hne => ?_
    rw [Bool.eq_false_iff, Ne, StreamRow.on_eq_true]
    exact hne
  refine hkeyed.find (fun a b ha hb => ?_) hrow (StreamRow.on_eq_true.mpr ⟨rfl, rfl⟩)
  obtain ⟨hchat, hbranch⟩ := StreamRow.on_eq_true.mp ha
  rw [hchat, hbranch]
  exact hb

theorem stageCommit_keyed {row : DeduplicationRow} (objects : String → Nat → Bool) (enforce : Bool)
    (hvalid : validateBatch batch = .ok ()) (hquarantine : s.quarantine = none)
    (hkeyed : batch.deduplication.bind (loadDeduplication · s.deduplication) = some row) :
    stageCommit c objects enforce batch s =
      if row.requestHash = (c.requestHash batch).text ∧ row.chatId = batch.chatId ∧ row.branchId = batch.branchId then
        .ok (.existing row.receipt) else .error .deduplicationKeyReused := by
  unfold stageCommit existingReceipt
  rw [hvalid, hquarantine, hkeyed]
  show ((refuseIf _ _ >>= fun _ => _) >>= fun _ => _) = _
  by_cases hsame : row.requestHash = (c.requestHash batch).text ∧ row.chatId = batch.chatId ∧
      row.branchId = batch.branchId
  · obtain ⟨hhash, hchat, hbranch⟩ := hsame
    rw [if_pos ⟨hhash, hchat, hbranch⟩, hhash, hchat, hbranch]
    simp [refuseIf, bind, Except.bind, pure, Except.pure]
  · rw [if_neg hsame]
    have hdiffers : (row.requestHash != (c.requestHash batch).text || row.chatId != batch.chatId ||
        row.branchId != batch.branchId) = true := by
      by_contra hno
      simp only [Bool.not_eq_true, Bool.or_eq_false_iff, bne_eq_false_iff_eq] at hno
      exact hsame ⟨hno.1.1, hno.1.2, hno.2⟩
    rw [hdiffers]
    rfl

/-- A call with a batch is the commit of that batch. -/
theorem commit_inner (hbatch : request.batch = .ok batch) (ending : CommitEnding) :
    commit c objects request ending s = commitInner c objects request.enforces batch ending s := by
  rw [commit, hbatch]

/-- A committed batch repeated is answered with its receipt, another under its key is refused; nothing changes. -/
theorem Sound.repeated {l : Ledger} {batch : CommitBatchV1} (h : Sound c l)
    (hcommitted : .committed batch receipt ∈ l.happened) (hkey : batch.deduplication = some key)
    (hquarantine : l.tables.quarantine = none) (objects : String → Nat → Bool) (request : CommitRequest) :
    (request.batch = .ok batch →
      commit c objects request .confirmed l.tables = (.ok (.existing receipt), l.tables)) ∧
    ∀ other ending, ending.Atomic → request.batch = .ok other → other.deduplication = some key → other ≠ batch →
      (c.requestHash other = c.requestHash batch → other = batch) →
        ∃ e, commit c objects request ending l.tables = (.error e, l.tables) := by
  obtain ⟨hvalid, hload⟩ := h.remembered batch receipt key hcommitted hkey
  constructor
  · intro hbatch
    have hstage := stageCommit_keyed (c := c) objects request.enforces hvalid hquarantine
      (by rw [hkey]; exact hload)
    rw [if_pos ⟨rfl, rfl, rfl⟩] at hstage
    rw [commit_inner hbatch]
    unfold commitInner
    rw [hstage]
    rfl
  · intro other ending hatomic hbatch hother hne hhash
    rw [commit_inner hbatch]
    unfold commitInner
    cases hvalid' : validateBatch other with
    | error e =>
      unfold stageCommit
      rw [hvalid']
      exact ⟨e, rfl⟩
    | ok u =>
      have hstage := stageCommit_keyed (c := c) objects request.enforces hvalid' hquarantine
        (by rw [hother]; exact hload)
      rw [if_neg fun hsame => hne (hhash (Sha256Digest.text_injective hsame.1.symm))] at hstage
      rw [hstage]
      exact ⟨_, rfl⟩

namespace Ledger
variable {l : Ledger}

private theorem step_sound (h : Sound c l) (next : LedgerStep) (hatomic : next.Atomic) : Sound c (l.step c next) := by
  obtain ⟨s, happened⟩ := l
  have hquiet : Sound c ⟨s, happened ++ []⟩ := by
    rw [append_nil]
    exact h
  cases next with
  | commit objects request ending => exact (commit_result hatomic h.checkpoints).sound h
  | markOutboxDelivered outboxId =>
    refine hquiet.kept fun s' hs' => ?_
    unfold markOutboxDelivered at hs'
    simp only [bind_ok_iff] at hs'
    obtain ⟨_, _, _, _, _, _, hreturn⟩ := hs'
    cases hreturn
    exact hquiet.delivered _
  | markOutboxDeliveredV1 outboxId expectedCursor =>
    refine hquiet.kept fun s' hs' => ?_
    unfold markOutboxDeliveredV1 at hs'
    split at hs'
    case h_1 => cases hs'
    case h_2 =>
      obtain ⟨_, _, hs'⟩ := (bind_ok_iff _ _ _).mp hs'
      split at hs'
      case h_1 => cases hs'
      case h_2 =>
        obtain ⟨_, _, hreturn⟩ := (bind_ok_iff _ _ _).mp hs'
        cases hreturn
        exact hquiet.delivered _
  | prunePayloads updates => exact hquiet.pruned updates
  | purgeDeliveredOutbox keepNewest =>
    show Sound c ⟨purgeDeliveredOutbox keepNewest s, happened ++ []⟩
    unfold purgeDeliveredOutbox
    dsimp only
    split
    case isTrue => exact hquiet
    case isFalse => exact hquiet.quiet rfl rfl rfl hquiet.eventKeys fun _ _ => rfl
  | deleteStream chatId =>
    show Sound c ⟨keptOn s (deleteStream chatId s), happened ++ ((parse chatId).map .deleted).toList⟩
    cases hparse : parse chatId with
    | none =>
      rw [deleteStream, stable, hparse]
      exact hquiet
    | some deleted =>
      obtain rfl := val_of_parse hparse
      cases hdelete : deleteStream deleted.val s with
      | error e =>
        rw [deleteStream, stable, hparse] at hdelete
        cases hdelete
      | ok s' => exact h.deleted hdelete
  | stageArtifacts prepared artifacts references => exact hquiet.quiet rfl rfl rfl hquiet.eventKeys fun _ _ => rfl

theorem run_sound (h : Sound c l) (steps : List LedgerStep) (hatomic : ∀ next ∈ steps, next.Atomic) :
    Sound c (l.run c steps) := by
  induction steps generalizing l with
  | nil => exact h
  | cons next rest ih =>
    obtain ⟨hnext, hrest⟩ := forall_mem_cons.mp hatomic
    exact ih (step_sound h next hnext) hrest

theorem opened_sound : Sound c opened :=
  ⟨.nil, .nil, fun _ _ => rfl, fun _ _ => rfl, nofun, nofun⟩

/-- After every run over an atomic database: streams are dense and count their batches, event ids are unique, a batch
is committed only at the head of its stream and for its run, and in a store that is not quarantined a key stands for its
first batch. A failed call changes nothing, unless its batch was written and its COMMIT is misjudged. -/
theorem history_sound (c : LedgerCodec) (steps : List LedgerStep) (hatomic : ∀ next ∈ steps, next.Atomic) :
    let l := opened.run c steps
    (∀ row ∈ l.tables.streams,
      sequencesOf row.chatId row.branchId l.tables.events = range' 1 row.headSequence ∧
      row.aggregateVersion = (batchesOf row.chatId row.branchId l.happened).length) ∧
    (l.tables.events.map eventId).Nodup ∧
    (∀ objects request ending, ending.Atomic →
      (∀ receipt, (commit c objects request ending l.tables).1 = .ok (.committed receipt) →
        ∃ batch, .committed batch receipt ∈ request.happens c objects ending l.tables) ∧
      (∀ batch receipt, .committed batch receipt ∈ request.happens c objects ending l.tables →
        request.batch = .ok batch ∧ (headOf l.tables batch.chatId batch.branchId).1 = batch.expectedHead ∧
          ∀ row, streamState l.tables batch.chatId batch.branchId = some row → row.runId = batch.runId) ∧
      (∀ e, (commit c objects request ending l.tables).1 = .error e →
        (commit c objects request ending l.tables).2 = l.tables ∨
          ∃ batch next, request.batch = .ok batch ∧ Written c objects request.enforces batch l.tables next ∧
            request.Misjudged ending l.tables batch)) ∧
    (∀ batch receipt key, .committed batch receipt ∈ l.happened → batch.deduplication = some key →
      l.tables.quarantine = none → ∀ objects request,
      (request.batch = .ok batch → commit c objects request .confirmed l.tables = (.ok (.existing receipt), l.tables)) ∧
      ∀ other ending, ending.Atomic → request.batch = .ok other → other.deduplication = some key → other ≠ batch →
        (c.requestHash other = c.requestHash batch → other = batch) →
          ∃ e, commit c objects request ending l.tables = (.error e, l.tables)) := by
  intro l
  have h : Sound c l := run_sound opened_sound steps hatomic
  refine ⟨fun row hrow => ?_, ?_, fun objects request ending hending => ?_,
    fun batch receipt key hmem hkey hquarantine objects request => h.repeated hmem hkey hquarantine objects request⟩
  · have hhead : headOf l.tables row.chatId row.branchId = (row.headSequence, row.aggregateVersion) := by
      rw [headOf, h.found hrow]
    have hdense := h.dense row.chatId row.branchId
    have hcounted := h.counted row.chatId row.branchId
    rw [hhead] at hdense hcounted
    exact ⟨hdense, hcounted⟩
  · rw [List.Nodup, pairwise_map]
    refine h.eventKeys.imp fun {a b} hclear => ?_
    simp only [clashes, Bool.or_eq_false_iff, beq_eq_false_iff_ne] at hclear
    exact Ne.symm hclear.1
  · have hresult : CommitResult c objects request ending l.tables _ _ := commit_result hending h.checkpoints
    generalize commit c objects request ending l.tables = answer, request.happens c objects ending l.tables = did
      at hresult
    cases hresult with
    | refused e | existing receipt => exact ⟨nofun, nofun, fun _ _ => .inl rfl⟩
    | quarantined e reason batch next hbatch hw hmisjudged =>
      exact ⟨nofun, nofun, fun _ _ => .inr ⟨batch, next, hbatch, hw, hmisjudged⟩⟩
    | committed answer batch next hbatch hw hanswer =>
      refine ⟨fun receipt hok => ?_, fun other receipt hmem => ?_, fun e herror => ?_⟩
      · rcases hanswer with rfl | ⟨_, rfl⟩
        · cases hok
          exact ⟨batch, mem_singleton_self _⟩
        · cases hok
      · cases mem_singleton.mp hmem
        exact ⟨hbatch, hw.head, hw.run⟩
      · rcases hanswer with rfl | ⟨hmisjudged, rfl⟩
        · cases herror
        · exact .inr ⟨batch, next, hbatch, hw, hmisjudged⟩

end Ledger

section Sample

def sampleLegacy (key : String) (head : Nat) (events : List String) : CommitBatch where
  chatId := "chat.1"
  branchId := "main"
  expectedHead := head
  events := events.map fun id => ⟨id, "note", .object []⟩
  attempt := none
  checkpoint := none
  deduplication := some ⟨"command", key, "hash"⟩
  outbox := []

def sampleBatch (key : String) (head : Nat) (events : List String) : CommitBatchV1 where
  backend := .localSqlite
  chatId := .ofText "chat.1"
  runId := .ofText "chat.1"
  branchId := .ofText "main"
  expectedHead := head
  expectedAggregateVersion := head
  events := events.map fun id => ⟨.ofText id, 1, "note", .object []⟩
  attempts := []
  checkpoint := none
  deduplication := some ⟨"command", .ofText key⟩
  outbox := []
  preparedArtifacts := []

def sampleFirst : CommitBatchV1 := sampleBatch "key.1" 0 ["event.1", "event.2"]

def firstRequest : CommitRequest := .legacy (sampleLegacy "key.1" 0 ["event.1", "event.2"])

private theorem sample_stable : stable "chat.1" = .ok (.ofText "chat.1") ∧ stable "main" = .ok (.ofText "main") ∧
    payloadSchema (.object []) = .ok 1 := ⟨rfl, rfl, rfl⟩

theorem firstRequest_batch : firstRequest.batch = .ok sampleFirst := by
  have hids : stable "event.1" = .ok (.ofText "event.1") ∧ stable "event.2" = .ok (.ofText "event.2") ∧
    stable "key.1" = .ok (.ofText "key.1") := ⟨rfl, rfl, rfl⟩
  simp [firstRequest, sampleLegacy, batch, legacyBatch, sample_stable, hids, ok_bind, sampleFirst,
    sampleBatch]

def sampleStored (c : LedgerCodec) : Tables :=
  { Tables.empty with
    streams := upserted sampleFirst 2 1 []
    events := (rowsOf c sampleFirst .empty).events
    deduplication := (rowsOf c sampleFirst .empty).deduplication }

private theorem firstRequest_stored (c : LedgerCodec) (objects : String → Nat → Bool) :
    commit c objects firstRequest .confirmed .empty = (.ok (.committed (receiptOf c sampleFirst .empty)), sampleStored c) := by
  have hstage : stageCommit c objects false sampleFirst .empty =
      .ok (.fresh (receiptOf c sampleFirst .empty) [] (sampleStored c)) := rfl
  rw [commit_inner firstRequest_batch]
  unfold commitInner
  rw [firstRequest, enforces, hstage]

private theorem sample_run (c : LedgerCodec) (objects : String → Nat → Bool) :
    Ledger.opened.run c [.commit objects firstRequest .confirmed] =
      ⟨sampleStored c, [.committed sampleFirst (receiptOf c sampleFirst .empty)]⟩ := by
  show Ledger.mk (commit c objects firstRequest .confirmed .empty).2
    ([] ++ firstRequest.happens c objects .confirmed .empty) = _
  rw [firstRequest_stored, happens, firstRequest_batch]
  rfl

theorem sample_history_sound :
    (∀ c, sequencesOf (.ofText "chat.1") (.ofText "main") (sampleStored c).events = [1, 2]) ∧ ∀ c objects,
    commit c objects (.v1 sampleFirst) .confirmed (sampleStored c) =
      (.ok (.existing (receiptOf c sampleFirst .empty)), sampleStored c) := by
  have hsound (c : LedgerCodec) (objects : String → Nat → Bool) := Ledger.history_sound c
    [.commit objects firstRequest .confirmed] (forall_mem_singleton.mpr trivial)
  refine ⟨fun c => ((hsound c fun _ _ => true).1 _ (mem_singleton_self _)).1, fun c objects => ?_⟩
  obtain ⟨_, _, _, hrepeated⟩ := hsound c objects
  exact (hrepeated sampleFirst _ _ (mem_singleton_self _) rfl rfl objects (.v1 sampleFirst)).1 rfl

end Sample

section Uncertain

/-- A commit whose COMMIT failed, as it is settled from what is durable. -/
theorem commit_torn (hbatch : request.batch = .ok batch)
    (hstage : stageCommit c objects request.enforces batch s = .ok (.fresh receipt cursors next)) (durable : Tables)
    (aftermath : Aftermath) : commit c objects request (.torn durable aftermath) s =
      settleUncertain c objects batch (c.requestHash batch).text receipt cursors aftermath durable := by
  rw [commit_inner hbatch]
  unfold commitInner
  rw [hstage]

/-- In every run over an atomic database, whatever a failed COMMIT leaves: a batch that left nothing is reported lost if
the aggregate version is fenced or what follows fails without a trace, and quarantines the store in all other cases; one
that is there is committed exactly if its verification works; and with the fence what is quarantined is neither. -/
theorem Ledger.uncertain_commit (c : LedgerCodec) (steps : List LedgerStep) (hatomic : ∀ next ∈ steps, next.Atomic)
    (objects : String → Nat → Bool) (request : CommitRequest) (batch : CommitBatchV1)
    (hbatch : request.batch = .ok batch) (receipt : CommitReceiptV1) (cursors : List Nat) (next : Tables)
    (hstage : stageCommit c objects request.enforces batch (opened.run c steps).tables =
      .ok (.fresh receipt cursors next)) (durable : Tables) (aftermath : Aftermath) :
    let s := (opened.run c steps).tables
    let answer := commit c objects request (.torn durable aftermath) s
    (Lost batch s durable →
      (request.FencesAggregate s batch ∨ aftermath = .unreadable ∨ aftermath = .unwritable false →
        answer = (.error .sql, durable)) ∧
      (answer.2.quarantine = none →
        request.FencesAggregate s batch ∨ aftermath = .unreadable ∨ aftermath = .unwritable false)) ∧
    (Whole objects batch next durable →
      (answer = (.ok (.committed receipt), durable) ↔ aftermath ≠ .unreadable) ∧ answer.2 = durable) ∧
    (request.FencesAggregate s batch →
      (∃ reason, answer.1 = .error (.ambiguousCommitQuarantined reason)) ∨ answer.2 ≠ durable →
        ¬Lost batch s durable ∧ ¬Whole objects batch next durable) := by
  intro s answer
  have h : Sound c (opened.run c steps) := run_sound opened_sound steps hatomic
  have hsettled : answer = settleUncertain c objects batch (c.requestHash batch).text receipt cursors aftermath durable :=
    commit_torn hbatch hstage durable aftermath
  obtain ⟨rfl, rfl, hw⟩ := stageCommit_fresh hstage
  have hlost (hlost : Lost batch s durable) :
      (request.FencesAggregate s batch ∨ aftermath = .unreadable ∨ aftermath = .unwritable false →
        answer = (.error .sql, durable)) ∧ (answer.2.quarantine = none →
          request.FencesAggregate s batch ∨ aftermath = .unreadable ∨ aftermath = .unwritable false) := by
    rw [fencesAggregate_iff hbatch hw, hsettled]
    rcases settle_lost hw hlost aftermath with ⟨hwhy, hanswer⟩ | ⟨hunknown, herror, htables⟩
    · exact ⟨fun _ => hanswer, fun _ => hwhy⟩
    · refine ⟨?_, fun hnone => ?_⟩
      · rintro (hknown | rfl | rfl)
        · rw [hknown] at hunknown
          cases hunknown
        · simp at herror
        · simp at herror
      · rw [htables] at hnone
        cases hnone
  have hwhole (hwhole : Whole objects batch next durable) := settle_whole hw hwhole (hw.clear h.checkpoints) aftermath
  rw [← hsettled] at hwhole
  refine ⟨hlost, fun hpresent => ?_, fun hfences hquarantined => ⟨fun habsent => ?_, fun hpresent => ?_⟩⟩
  · rw [hwhole hpresent]
    by_cases hread : aftermath = .unreadable <;> simp [hread]
  · rw [(hlost habsent).1 (.inl hfences)] at hquarantined
    simp at hquarantined
  · rw [hwhole hpresent] at hquarantined
    by_cases hread : aftermath = .unreadable <;> simp [hread] at hquarantined

/-- One more event, after the two of the first batch. -/
def sampleSecond : CommitBatchV1 := sampleBatch "key.2" 2 ["event.3"]

def secondRequest : CommitRequest := .legacy (sampleLegacy "key.2" 2 ["event.3"])

theorem secondRequest_batch : secondRequest.batch = .ok sampleSecond := by
  have hids : stable "event.3" = .ok (.ofText "event.3") ∧ stable "key.2" = .ok (.ofText "key.2") := ⟨rfl, rfl⟩
  simp [secondRequest, sampleLegacy, batch, legacyBatch, sample_stable, hids, ok_bind, sampleSecond,
    sampleBatch]

private theorem sampleSecond_staged (c : LedgerCodec) (objects : String → Nat → Bool) : ∃ next,
    stageCommit c objects false sampleSecond (sampleStored c) =
      .ok (.fresh (receiptOf c sampleSecond (sampleStored c)) [] next) := ⟨_, rfl⟩

private theorem sampleSecond_settled (c : LedgerCodec) (objects : String → Nat → Bool) :
    settleUncertain c objects sampleSecond (c.requestHash sampleSecond).text
      (receiptOf c sampleSecond (sampleStored c)) [] .works (sampleStored c) =
      (.error (.ambiguousCommitQuarantined "partial or conflicting rows found after uncertain commit"),
        { sampleStored c with quarantine := some "partial or conflicting rows found after uncertain commit" }) := by
  obtain ⟨next, hstage⟩ := sampleSecond_staged c objects
  obtain ⟨_, _, hw⟩ := stageCommit_fresh hstage
  rcases settle_lost hw hw.lost .works with ⟨hwhy, _⟩ | ⟨_, ⟨_, herror⟩ | ⟨hno, _⟩, htables⟩
  · have hunknown : (streamState (sampleStored c) sampleSecond.chatId sampleSecond.branchId).all
        (·.aggregateVersion == sampleSecond.expectedAggregateVersion) = false := rfl
    rcases hwhy with hknown | hno | hno
    · rw [hunknown] at hknown
      cases hknown
    · cases hno
    · cases hno
  · exact Prod.ext herror htables
  · cases hno

/-- The stream has two events of one batch. The COMMIT of a third is lost without a trace, and the store is
quarantined. -/
theorem lost_legacy_quarantined : secondRequest.batch = .ok sampleSecond ∧ ∀ c objects,
    let stored := (Ledger.opened.run c [.commit objects firstRequest .confirmed]).tables
    ∃ reason, commit c objects secondRequest (.torn stored .works) stored =
      (.error (.ambiguousCommitQuarantined reason), { stored with quarantine := some reason }) := by
  refine ⟨secondRequest_batch, fun c objects => ?_⟩
  obtain ⟨next, hstage⟩ := sampleSecond_staged c objects
  rw [sample_run]
  exact ⟨_, (commit_torn secondRequest_batch hstage _ _).trans (sampleSecond_settled c objects)⟩

/-- The lost commit fails and changes a table, and then the first batch is not answered with its receipt any more. -/
theorem lost_legacy_refuses_repetition : secondRequest.batch = .ok sampleSecond ∧ ∀ c objects,
    let stored := (Ledger.opened.run c [.commit objects firstRequest .confirmed]).tables
    let answer := commit c objects secondRequest (.lost .works) stored
    (∃ e, answer.1 = .error e) ∧ answer.2 ≠ stored ∧
      ∃ reason, commit c objects firstRequest .confirmed answer.2 = (.error (.storeQuarantined reason), answer.2) := by
  refine ⟨secondRequest_batch, fun c objects => ?_⟩
  obtain ⟨next, hstage⟩ := sampleSecond_staged c objects
  have hanswer : commit c objects secondRequest (.lost .works) (sampleStored c) = _ :=
    (commit_torn secondRequest_batch hstage (sampleStored c) .works).trans (sampleSecond_settled c objects)
  rw [sample_run]
  dsimp only
  rw [hanswer]
  refine ⟨⟨_, rfl⟩, fun hsame => ?_, _, rfl⟩
  cases congrArg Tables.quarantine hsame

/-- The same event through the entry point that names the aggregate version. -/
def sampleFenced : CommitBatchV1 := { sampleSecond with expectedAggregateVersion := 1 }

private theorem sampleFenced_staged (c : LedgerCodec) (objects : String → Nat → Bool) : ∃ next,
    stageCommit c objects true sampleFenced (sampleStored c) =
      .ok (.fresh (receiptOf c sampleFenced (sampleStored c)) [] next) := ⟨_, rfl⟩

theorem sample_uncertain_commit :
    (∀ c objects, ∃ next, stageCommit c objects true sampleFenced (sampleStored c) =
      .ok (.fresh (receiptOf c sampleFenced (sampleStored c)) [] next)) ∧ ∀ c objects, ∃ next,
    commit c objects (.v1 sampleFenced) (.torn (sampleStored c) .works) (sampleStored c) =
      (.error .sql, sampleStored c) ∧
    commit c objects (.v1 sampleFenced) (.torn next .works) (sampleStored c) =
      (.ok (.committed (receiptOf c sampleFenced (sampleStored c))), next) := by
  refine ⟨sampleFenced_staged, fun c objects => ?_⟩
  obtain ⟨next, hstage⟩ := sampleFenced_staged c objects
  obtain ⟨_, _, hw⟩ := stageCommit_fresh hstage
  have hrun := sample_run c objects
  have huncertain (durable : Tables) := Ledger.uncertain_commit c
    [.commit objects firstRequest .confirmed] (forall_mem_singleton.mpr trivial) objects
    (.v1 sampleFenced) sampleFenced rfl (receiptOf c sampleFenced (sampleStored c)) [] next
    (by rw [hrun]; exact hstage) durable .works
  rw [hrun] at huncertain
  exact ⟨next, ((huncertain _).1 hw.lost).1 (.inl (.inl rfl)), ((huncertain _).2.1 Written.whole).1.mpr nofun⟩

end Uncertain

end Aworkit.LocalStore
