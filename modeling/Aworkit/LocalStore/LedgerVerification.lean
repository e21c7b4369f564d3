import Aworkit.LocalStore.LedgerCommit

/-! What an uncertain COMMIT is taken for, from what is found of the batch. -/
namespace Aworkit.LocalStore
open Protocol Fallible StreamRow OutboxRow PreparedArtifactRefV1 List
variable {c : LedgerCodec} {objects : String → Nat → Bool} {enforce : Bool} {batch : CommitBatchV1}
  {s next durable : Tables} {streams : List StreamRow} {α : Type}

section Validation

theorem validateDistinct_eq_ok {check : α → Except StoreError Unit} {id : α → StableId} {items : List α}
    (h : validateDistinct check id duplicate seen items = .ok u) :
    (items.map id).Nodup ∧ ∀ item ∈ items, id item ∉ seen := by
  induction items generalizing seen with
  | nil => exact ⟨.nil, nofun⟩
  | cons item rest ih =>
    simp only [validateDistinct, passes] at h
    obtain ⟨_, _, _, hunseen, hrest⟩ := h
    have hitem : id item ∉ seen := by simpa using hunseen
    obtain ⟨hnodup, hothers⟩ := ih hrest
    refine ⟨nodup_cons.mpr ⟨fun hmem => ?_, hnodup⟩, ?_⟩
    · obtain ⟨other, hother, hid⟩ := mem_map.mp hmem
      exact hothers other hother (hid ▸ mem_cons_self)
    · refine forall_mem_cons.mpr ⟨hitem, fun other hother hmem => ?_⟩
      exact hothers other hother (mem_cons_of_mem _ hmem)

/-- What a batch that passes its checks is known to have. -/
structure WellFormed (batch : CommitBatchV1) : Prop where
  nonempty : batch.events ≠ []
  eventIds : (batch.events.map EventV1.eventId).Nodup
  outboxIds : (batch.outbox.map OutboxV1.outboxId).Nodup
  tokenIds : (batch.preparedArtifacts.map tokenId).Nodup

theorem wellFormed_of_valid {u : Unit} (h : validateBatch batch = .ok u) : WellFormed batch := by
  unfold validateBatch at h
  simp only [passes] at h
  obtain ⟨_, _, _, _, _, _, _, hnonempty, _, hevents, _, _, _, _, _, _, _, houtbox, htokens⟩ := h
  refine ⟨?_, (validateDistinct_eq_ok hevents).1, (validateDistinct_eq_ok houtbox).1,
    (validateDistinct_eq_ok htokens).1⟩
  intro hnil
  rw [hnil] at hnonempty
  cases hnonempty

end Validation

theorem countPresentIds_eq_length {stored ids : List StableId} (h : ∀ id ∈ ids, id ∈ stored) :
    countPresentIds stored ids = ids.length := by
  unfold countPresentIds
  rw [filter_eq_self.mpr fun id hid => contains_iff_mem.mpr (h id hid)]

theorem countPresentIds_eq_zero : countPresentIds stored ids = 0 ↔ ∀ id ∈ ids, id ∉ stored := by
  unfold countPresentIds
  rw [length_eq_zero_iff, filter_eq_nil_iff]
  refine forall₂_congr fun id _ => ?_
  rw [contains_iff_mem]

theorem mapM_eq_some_map {β : Type} {items : List α} {f : α → Option β} {g : α → β}
    (h : ∀ item ∈ items, f item = some (g item)) : items.mapM f = some (items.map g) := by
  induction items with
  | nil => rfl
  | cons item rest ih =>
    obtain ⟨hitem, hrest⟩ := forall_mem_cons.mp h
    rw [mapM_cons, hitem, ih hrest]
    rfl

theorem exists_place {items : List α} {item : α} (h : item ∈ items) : ∃ place, (item, place) ∈ items.zipIdx := by
  obtain ⟨place, hplace, rfl⟩ := getElem_of_mem h
  exact ⟨place, mk_mem_zipIdx_iff_getElem?.mpr (getElem?_eq_getElem hplace)⟩

variable {reference : PreparedArtifactRefV1} {chatId branchId : StableId} {newHead newAggregate : Nat}

section Artifacts

/-- A reference whose artifact is admitted. -/
structure Admitted (objects : String → Nat → Bool) (s : Tables) (reference : PreparedArtifactRefV1) : Prop where
  prepared : ∃ row ∈ s.preparedArtifacts, row.tokenId = reference.tokenId ∧ row.artifactId = reference.artifactId ∧
    row.contentHash = reference.contentHash ∧ row.byteSize = reference.byteSize ∧
    row.stagingGeneration = reference.stagingGeneration ∧ row.finalizedEventId = some reference.originEventId
  artifact : ∃ row ∈ s.artifacts, row.artifactId = reference.artifactId ∧ row.contentHash = reference.contentHash ∧
    row.byteSize = reference.byteSize
  referred : (reference.artifactId, reference.originEventId) ∈ s.artifactReferences
  object : verifyObject objects reference.contentHash reference.byteSize = .ok ()

private theorem admitArtifact_eq_ok {prepared : PreparedArtifactRow} (h : admitArtifact reference prepared artifacts = .ok artifacts') :
    (∀ row ∈ artifacts, row ∈ artifacts') ∧ ∃ row ∈ artifacts', row.artifactId = prepared.artifactId ∧
      row.contentHash = prepared.contentHash ∧ row.byteSize = reference.byteSize := by
  unfold admitArtifact at h
  split at h
  case h_1 existing hfind =>
    obtain ⟨_, hsame, hreturn⟩ := (bind_ok_iff _ _ _).mp h
    cases hreturn
    simp only [refuseIf_eq_ok, unmet] at hsame
    have hid : existing.artifactId = prepared.artifactId := by simpa using find?_some hfind
    exact ⟨fun _ => id, existing, mem_of_find?_eq_some hfind, hid, hsame.1.1.1, hsame.1.1.2⟩
  case h_2 =>
    cases h
    exact ⟨fun _ => mem_append_left _, _, mem_append_right _ mem_cons_self, rfl, rfl, rfl⟩

private theorem finalizeArtifact_admits
    (h : finalizeArtifact objects batch s reference = .ok s') : Admitted objects s' reference ∧
      ∀ other, other.tokenId ≠ reference.tokenId → Admitted objects s other → Admitted objects s' other := by
  unfold finalizeArtifact at h
  simp only [passes, unmet] at h
  obtain ⟨_, _, prepared, hfind, _, ⟨⟨⟨hartifact, hhash⟩, hsize⟩, hgeneration⟩, _, _, _, hobject, artifacts, hadmit,
    hreturn⟩ := h
  cases hreturn
  obtain ⟨hkept, row, hrow, hid, hrowHash, hrowSize⟩ := admitArtifact_eq_ok hadmit
  have htoken : prepared.tokenId = reference.tokenId := by simpa using find?_some hfind
  constructor
  · refine ⟨⟨_, mem_map_of_mem (mem_of_find?_eq_some hfind), ?_⟩, ⟨row, hrow, hid.trans hartifact,
      hrowHash.trans hhash, hrowSize⟩, mem_insert_self, ?_⟩
    · rw [if_pos htoken]
      exact ⟨htoken, hartifact, hhash, hsize, hgeneration, rfl⟩
    · rwa [hhash] at hobject
  · intro other hother hadmitted
    obtain ⟨old, hold, hfields⟩ := hadmitted.prepared
    obtain ⟨artifact, hmem, hsame⟩ := hadmitted.artifact
    refine ⟨⟨_, mem_map_of_mem hold, ?_⟩, ⟨artifact, hkept _ hmem, hsame⟩,
      mem_insert_of_mem hadmitted.referred, hadmitted.object⟩
    rw [if_neg fun htoken => hother (hfields.1.symm.trans htoken)]
    exact hfields

theorem finalize_admits {references : List PreparedArtifactRefV1}
    (hnodup : (references.map tokenId).Nodup) (h : references.foldlM (finalizeArtifact objects batch) s = .ok s') :
    (∀ reference ∈ references, Admitted objects s' reference) ∧
      ∀ other, other.tokenId ∉ references.map tokenId → Admitted objects s other →
        Admitted objects s' other := by
  induction references generalizing s with
  | nil =>
    cases h
    exact ⟨nofun, fun _ _ hadmitted => hadmitted⟩
  | cons reference rest ih =>
    rw [foldlM_cons, bind_ok_iff] at h
    obtain ⟨t, hfirst, hrest⟩ := h
    obtain ⟨hnew, hnodup⟩ := nodup_cons.mp hnodup
    obtain ⟨hadmitted, hkept⟩ := finalizeArtifact_admits hfirst
    obtain ⟨hall, hbehind⟩ := ih hnodup hrest
    refine ⟨forall_mem_cons.mpr ⟨hbehind reference hnew hadmitted, hall⟩, fun other hother hold => ?_⟩
    obtain ⟨hne, hnotin⟩ := not_or.mp (mem_cons.not.mp hother)
    exact hbehind other hnotin (hkept other hne hold)

end Artifacts

/-- Nothing of the batch is there and its stream is as before. -/
structure Lost (batch : CommitBatchV1) (s durable : Tables) : Prop where
  stream : streamState durable batch.chatId batch.branchId = streamState s batch.chatId batch.branchId
  events : ∀ event ∈ batch.events, event.eventId ∉ durable.events.map EventRow.eventId
  outbox : ∀ entry ∈ batch.outbox, entry.outboxId ∉ durable.outbox.map outboxId
  unkeyed : batch.deduplication.bind (loadDeduplication · durable.deduplication) = none

private theorem rows_lost (hw : Written c objects enforce batch s next) (hlost : Lost batch s durable) :
    durableRows c objects batch (c.requestHash batch).text (receiptOf c batch s) (cursorsOf batch s) durable =
      if (streamState s batch.chatId batch.branchId).all
        (·.aggregateVersion == batch.expectedAggregateVersion) then .absent
      else .torn "partial or conflicting rows found after uncertain commit" := by
  have hwell := wellFormed_of_valid hw.valid
  have hevents : countPresentIds (durable.events.map EventRow.eventId) (receiptOf c batch s).eventIds = 0 :=
    countPresentIds_eq_zero.mpr (forall_mem_map.mpr hlost.events)
  have houtbox : countPresentIds (durable.outbox.map outboxId) (receiptOf c batch s).outboxIds = 0 :=
    countPresentIds_eq_zero.mpr (forall_mem_map.mpr hlost.outbox)
  have hsome : (0 == (receiptOf c batch s).eventIds.length) = false := by
    rw [beq_eq_false_iff_ne, ne_comm, Ne, length_eq_zero_iff]
    simpa [receiptOf, commitReceipt] using hwell.nonempty
  have hhead : (streamState s batch.chatId batch.branchId).all (fun row => row.headSequence == batch.expectedHead &&
      row.aggregateVersion == batch.expectedAggregateVersion) =
      (streamState s batch.chatId batch.branchId).all (·.aggregateVersion == batch.expectedAggregateVersion) := by
    have hhead := hw.head
    unfold headOf at hhead
    revert hhead
    cases streamState s batch.chatId batch.branchId with
    | none => exact fun _ => rfl
    | some row => simp +contextual
  unfold durableRows verifyDeduplication
  rw [hlost.unkeyed]
  simp only [hevents, houtbox, hlost.stream, hhead, hsome]
  simp

/-- The verification recognises a batch that is lost, or takes its untouched stream for a conflict. -/
theorem settle_lost (hw : Written c objects enforce batch s next) (hlost : Lost batch s durable)
    (aftermath : Aftermath) :
    let answer := settleUncertain c objects batch (c.requestHash batch).text (receiptOf c batch s) (cursorsOf batch s)
      aftermath durable
    let reason := "partial or conflicting rows found after uncertain commit"
    ((streamState s batch.chatId batch.branchId).all (·.aggregateVersion == batch.expectedAggregateVersion) = true ∨
        aftermath = .unreadable ∨ aftermath = .unwritable false) ∧ answer = (.error .sql, durable) ∨
      (streamState s batch.chatId batch.branchId).all (·.aggregateVersion == batch.expectedAggregateVersion) = false ∧
        (aftermath = .works ∧ answer.1 = .error (.ambiguousCommitQuarantined reason) ∨
          aftermath = .unwritable true ∧ answer.1 = .error .sql) ∧
        answer.2 = { durable with quarantine := some reason } := by
  intro answer reason
  have hrows := rows_lost hw hlost
  cases hknown : (streamState s batch.chatId batch.branchId).all
      (·.aggregateVersion == batch.expectedAggregateVersion) with
  | true =>
    rw [hknown] at hrows
    refine .inl ⟨.inl rfl, ?_⟩
    cases aftermath with
    | unreadable => rfl
    | works | unwritable written => simp [answer, settleUncertain, verifyDurableCommit, hrows]
  | false =>
    rw [hknown] at hrows
    cases aftermath with
    | unreadable => exact .inl ⟨.inr (.inl rfl), rfl⟩
    | works => exact .inr ⟨rfl, by simp [answer, reason, settleUncertain, verifyDurableCommit, hrows, quarantine]⟩
    | unwritable written =>
      cases written with
      | false =>
        exact .inl ⟨.inr (.inr rfl), by simp [answer, settleUncertain, verifyDurableCommit, hrows, quarantine]⟩
      | true => exact .inr ⟨rfl, by simp [answer, reason, settleUncertain, verifyDurableCommit, hrows, quarantine]⟩

/-- What the batch wrote is found as the transaction left it. -/
structure Whole (objects : String → Nat → Bool) (batch : CommitBatchV1) (next durable : Tables) : Prop where
  stream : streamState durable batch.chatId batch.branchId = streamState next batch.chatId batch.branchId
  events : ∀ row ∈ next.events, row.eventId ∈ batch.events.map EventV1.eventId → row ∈ durable.events
  attempts : ∀ row ∈ next.attempts, row.attemptId ∈ batch.attempts.map AttemptV1.attemptId → row ∈ durable.attempts
  checkpoint : (durable.checkpoints.find? fun row => row.chatId == batch.chatId && row.branchId == batch.branchId &&
      row.committedSequence == batch.expectedHead + batch.events.length) =
    next.checkpoints.find? fun row => row.chatId == batch.chatId && row.branchId == batch.branchId &&
      row.committedSequence == batch.expectedHead + batch.events.length
  outbox : ∀ entry ∈ batch.outbox, durable.outbox.find? (·.outboxId == entry.outboxId) =
    next.outbox.find? (·.outboxId == entry.outboxId)
  deduplication : batch.deduplication.bind (loadDeduplication · durable.deduplication) =
    batch.deduplication.bind (loadDeduplication · next.deduplication)
  artifacts : ∀ reference ∈ batch.preparedArtifacts, Admitted objects next reference →
    Admitted objects durable reference

theorem StreamRow.on_eq_true {row : StreamRow} :
    row.on chatId branchId = true ↔ row.chatId = chatId ∧ row.branchId = branchId := by
  simp [on]

theorem bumped_ids (row : StreamRow) :
    (if row.on batch.chatId batch.branchId then { row with headSequence := newHead, aggregateVersion := newAggregate }
      else row).chatId = row.chatId ∧
    (if row.on batch.chatId batch.branchId then { row with headSequence := newHead, aggregateVersion := newAggregate }
      else row).branchId = row.branchId := by
  split <;> exact ⟨rfl, rfl⟩

theorem on_bumped : ((·.on chatId branchId) ∘ fun old : StreamRow => if old.on batch.chatId batch.branchId then
    { old with headSequence := newHead, aggregateVersion := newAggregate } else old) = (·.on chatId branchId) := by
  funext row
  obtain ⟨hchat, hbranch⟩ := @bumped_ids batch newHead newAggregate row
  rw [Function.comp_apply, on, hchat, hbranch]
  rfl

theorem find_upserted : (upserted batch newHead newAggregate streams).find? (·.on batch.chatId batch.branchId) =
      some (match streams.find? (·.on batch.chatId batch.branchId) with
        | some old => { old with headSequence := newHead, aggregateVersion := newAggregate }
        | none => ⟨batch.chatId, batch.branchId, batch.runId, newHead, newAggregate⟩) := by
  unfold upserted
  split
  case isTrue hany =>
    obtain ⟨old, hold⟩ := Option.isSome_iff_exists.mp (find?_isSome.mpr (any_eq_true.mp hany))
    rw [find?_map, on_bumped, hold, Option.map_some, if_pos (find?_some hold)]
  case isFalse hany =>
    have hnone : streams.find? (·.on batch.chatId batch.branchId) = none := by
      rw [find?_eq_none]
      intro row hrow hon
      exact hany (any_eq_true.mpr ⟨row, hrow, hon⟩)
    rw [find?_append, hnone]
    simp [on]

theorem find_upserted_other (hother : ¬(batch.chatId = chatId ∧ batch.branchId = branchId)) :
    (upserted batch newHead newAggregate streams).find? (·.on chatId branchId) =
      streams.find? (·.on chatId branchId) := by
  have hnew : on chatId branchId ⟨batch.chatId, batch.branchId, batch.runId, newHead, newAggregate⟩ =
    false := by
    rw [Bool.eq_false_iff, Ne, on_eq_true]
    exact hother
  unfold upserted
  split
  case isTrue =>
    rw [find?_map, on_bumped]
    cases hold : streams.find? (·.on chatId branchId) with
    | none => rfl
    | some old =>
      obtain ⟨hchat, hbranch⟩ := on_eq_true.mp (find?_some hold)
      rw [Option.map_some, if_neg]
      rw [on_eq_true, hchat, hbranch]
      exact fun h => hother ⟨h.1.symm, h.2.symm⟩
  case isFalse =>
    rw [find?_append, find?_singleton, hnew]
    simp

section Next
variable (hw : Written c objects enforce batch s next)
include hw

/-- The tables that a transaction leaves, but for the artifacts. -/
structure Appended (c : LedgerCodec) (batch : CommitBatchV1) (s next : Tables) : Prop where
  streams : next.streams =
    upserted batch (receiptOf c batch s).headSequence (receiptOf c batch s).aggregateVersion s.streams
  events : next.events = s.events ++ (rowsOf c batch s).events
  attempts : next.attempts = s.attempts ++ (rowsOf c batch s).attempts
  checkpoints : next.checkpoints = s.checkpoints ++ (rowsOf c batch s).checkpoints
  deduplication : next.deduplication = s.deduplication ++ (rowsOf c batch s).deduplication
  outbox : next.outbox = s.outbox ++ (rowsOf c batch s).outbox

theorem Written.left : Appended c batch s next := by
  obtain ⟨finalized, hfinalized, rfl⟩ := hw.finalized
  obtain ⟨hsame, _⟩ := finalizeArtifacts_same hfinalized
  exact ⟨hsame.streams, hsame.events, hsame.attempts, hsame.checkpoints, rfl, hsame.outbox⟩

theorem Written.admitted (hreference : reference ∈ batch.preparedArtifacts) : Admitted objects next reference := by
  obtain ⟨finalized, hfinalized, rfl⟩ := hw.finalized
  have hadmitted := (finalize_admits (wellFormed_of_valid hw.valid).tokenIds hfinalized).1 reference hreference
  exact ⟨hadmitted.prepared, hadmitted.artifact, hadmitted.referred, hadmitted.object⟩

theorem Written.objects_match : artifactObjectsMatch objects batch = true := by
  unfold artifactObjectsMatch
  rw [all_eq_true]
  intro reference hreference
  rw [(hw.admitted hreference).object]
  rfl

theorem Written.stream_next : streamState next batch.chatId batch.branchId =
    some ⟨batch.chatId, batch.branchId, batch.runId, batch.expectedHead + batch.events.length,
      (receiptOf c batch s).aggregateVersion⟩ := by
  have hrun := hw.run
  unfold streamState at hrun ⊢
  rw [hw.left.streams, find_upserted]
  cases hold : s.streams.find? (·.on batch.chatId batch.branchId) with
  | none => rfl
  | some old =>
    obtain ⟨hchat, hbranch⟩ := on_eq_true.mp (find?_some hold)
    have hrun := hrun old hold
    cases old
    cases hchat
    cases hbranch
    cases hrun
    rfl

theorem Written.deduplicated : batch.deduplication.bind (loadDeduplication · next.deduplication) =
    batch.deduplication.map (deduplicationRow batch (c.requestHash batch).text (receiptOf c batch s)) := by
  have hunkeyed := hw.unkeyed
  rw [hw.left.deduplication, rowsOf]
  cases hkey : batch.deduplication with
  | none => rfl
  | some key =>
    rw [hkey] at hunkeyed
    show loadDeduplication key (s.deduplication ++ [_]) = _
    have hnone : s.deduplication.find? (fun row => row.keyType == key.keyType && row.key == key.key) = none := hunkeyed
    rw [loadDeduplication, find?_append, hnone]
    simp [deduplicationRow]

theorem Written.outbox_found (hentry : entry ∈ batch.outbox.zipIdx) :
    next.outbox.find? (·.outboxId == entry.1.outboxId) =
      some (outboxRow c batch (batch.expectedHead + batch.events.length) (maxCursor s.outbox) entry) := by
  have hfresh := hw.fresh.outbox
  have hkeyed := hw.fresh.outboxKeys
  rw [hw.left.outbox, find?_append]
  have hold : s.outbox.find? (·.outboxId == entry.1.outboxId) = none := by
    refine find?_eq_none.mpr fun other hother hid => ?_
    have hclash := hfresh _ (mem_map_of_mem hentry) other hother
    simp only [clashes, Bool.or_eq_false_iff, beq_eq_false_iff_ne] at hclash
    exact hclash.1 (eq_of_beq hid).symm
  rw [hold, Option.none_or]
  refine hkeyed.find (fun a b ha hb => ?_) (mem_map_of_mem hentry) (beq_self_eq_true _)
  rw [clashes, eq_of_beq ha, eq_of_beq hb, beq_self_eq_true, Bool.true_or]

theorem Written.cursors_loaded (hwhole : Whole objects batch next durable) :
    loadOutboxCursors durable.outbox (receiptOf c batch s).outboxIds = cursorsOf batch s := by
  have hfound (entry : OutboxV1 × Nat) (hentry : entry ∈ batch.outbox.zipIdx) :
      (durable.outbox.find? (·.outboxId == entry.1.outboxId)).map deliveryCursor =
        some (maxCursor s.outbox + entry.2 + 1) := by
    rw [hwhole.outbox _ (fst_mem_of_mem_zipIdx hentry), hw.outbox_found hentry]
    rfl
  have hids : (receiptOf c batch s).outboxIds = batch.outbox.zipIdx.map fun entry => entry.1.outboxId := by
    show batch.outbox.map OutboxV1.outboxId = _
    nth_rewrite 1 [← zipIdx_map_fst 0 batch.outbox]
    exact map_map
  unfold loadOutboxCursors cursorsOf
  rw [hids, mapM_map]
  exact congrArg (Option.getD · []) (mapM_eq_some_map hfound)

end Next

/-- No checkpoint stands where the one of the batch goes. -/
def CheckpointClear (batch : CommitBatchV1) (s : Tables) : Prop :=
  ∀ row ∈ s.checkpoints, row.chatId = batch.chatId → row.branchId = batch.branchId →
    row.committedSequence ≠ batch.expectedHead + batch.events.length

section Whole
variable (hw : Written c objects enforce batch s next) (hwhole : Whole objects batch next durable)
include hw hwhole

theorem whole_deduplication : verifyDeduplication batch (c.requestHash batch).text (receiptOf c batch s) durable =
    .ok batch.deduplication.isSome := by
  unfold verifyDeduplication
  rw [hwhole.deduplication, hw.deduplicated]
  cases batch.deduplication with
  | none => rfl
  | some key => simp [deduplicationRow, refuseIf, bind, Except.bind, pure, Except.pure]

theorem whole_event {event : EventV1 × Nat} (hevent : event ∈ batch.events.zipIdx) :
    eventRow c batch batch.expectedHead event ∈ durable.events := by
  refine hwhole.events _ ?_ (mem_map_of_mem (fst_mem_of_mem_zipIdx hevent))
  rw [hw.left.events]
  exact mem_append_right _ (mem_map_of_mem hevent)

theorem whole_attempt {attempt : AttemptV1} (hattempt : attempt ∈ batch.attempts) :
    attemptRow batch attempt ∈ durable.attempts := by
  refine hwhole.attempts _ ?_ (mem_map_of_mem hattempt)
  rw [hw.left.attempts]
  exact mem_append_right _ (mem_map_of_mem hattempt)

theorem whole_outbox {entry : OutboxV1 × Nat} (hentry : entry ∈ batch.outbox.zipIdx) :
    outboxRow c batch (batch.expectedHead + batch.events.length) (maxCursor s.outbox) entry ∈ durable.outbox := by
  apply mem_of_find?_eq_some
  rw [hwhole.outbox _ (fst_mem_of_mem_zipIdx hentry), hw.outbox_found hentry]

theorem whole_checkpoint (hclear : CheckpointClear batch s) :
    checkpointMatches batch (batch.expectedHead + batch.events.length) durable = true := by
  have hold : (s.checkpoints.find? fun row => row.chatId == batch.chatId && row.branchId == batch.branchId &&
      row.committedSequence == batch.expectedHead + batch.events.length) = none := by
    refine find?_eq_none.mpr fun row hrow hkey => ?_
    simp only [met] at hkey
    exact hclear row hrow hkey.1.1 hkey.1.2 hkey.2
  unfold checkpointMatches
  rw [hwhole.checkpoint, hw.left.checkpoints, find?_append, hold, rowsOf]
  cases batch.checkpoint with
  | none => rfl
  | some checkpoint => simp [checkpointRow]

private theorem whole_outboxRows : outboxRowsMatch c batch (cursorsOf batch s) durable = true := by
  have hrow (entry : OutboxV1 × Nat) (hentry : entry ∈ batch.outbox.zip (cursorsOf batch s)) :
      { outboxRow c batch (batch.expectedHead + batch.events.length) 0 (entry.1, 0) with
        deliveryCursor := entry.2 } ∈ durable.outbox := by
    obtain ⟨position, hposition, rfl⟩ := getElem_of_mem hentry
    have hlength : position < batch.outbox.length := by
      rw [length_zip] at hposition
      omega
    have hmem : (batch.outbox[position], position) ∈ batch.outbox.zipIdx := by
      rw [mk_mem_zipIdx_iff_getElem?]
      exact getElem?_eq_getElem hlength
    have hstored := whole_outbox hw hwhole hmem
    simpa [cursorsOf, outboxRow] using hstored
  unfold outboxRowsMatch
  rw [Bool.and_eq_true, all_eq_true]
  refine ⟨by simp [cursorsOf], fun entry hentry => any_eq_true.mpr ⟨_, hrow entry hentry, ?_⟩⟩
  simp [outboxRow]

private theorem whole_artifacts : artifactsMatch batch durable = true := by
  unfold artifactsMatch
  rw [all_eq_true]
  intro reference hreference
  obtain ⟨⟨row, hrow, htoken, hartifact, hhash, hsize, hgeneration, hevent⟩, ⟨artifact, hmem, hid, hashed, hsized⟩,
    hreferred, _⟩ := hwhole.artifacts reference hreference (hw.admitted hreference)
  simp only [met, any_eq_true, contains_iff_mem]
  exact ⟨⟨⟨row, hrow, ⟨⟨⟨⟨htoken, hartifact⟩, hhash⟩, hsize⟩, hgeneration⟩, hevent⟩,
    ⟨artifact, hmem, ⟨hid, hashed⟩, hsized⟩⟩, hreferred⟩

/-- A COMMIT that failed although everything of it is durable is recognised. -/
theorem rows_whole (hclear : CheckpointClear batch s) :
    durableRows c objects batch (c.requestHash batch).text (receiptOf c batch s) (cursorsOf batch s) durable =
      .exact := by
  have hevents : countPresentIds (durable.events.map EventRow.eventId) (receiptOf c batch s).eventIds =
      (receiptOf c batch s).eventIds.length := by
    refine countPresentIds_eq_length (forall_mem_map.mpr fun event hevent => ?_)
    obtain ⟨_, hmem⟩ := exists_place hevent
    exact mem_map.mpr ⟨_, whole_event hw hwhole hmem, rfl⟩
  have houtbox : countPresentIds (durable.outbox.map outboxId) (receiptOf c batch s).outboxIds =
      (receiptOf c batch s).outboxIds.length := by
    refine countPresentIds_eq_length (forall_mem_map.mpr fun entry hentry => ?_)
    obtain ⟨_, hmem⟩ := exists_place hentry
    exact mem_map.mpr ⟨_, whole_outbox hw hwhole hmem, rfl⟩
  have hsome : ((receiptOf c batch s).eventIds.length == 0) = false := by
    rw [beq_eq_false_iff_ne, Ne, length_eq_zero_iff]
    simpa [receiptOf, commitReceipt] using (wellFormed_of_valid hw.valid).nonempty
  have hmatch : eventsMatch c batch durable = true :=
    all_eq_true.mpr fun event hevent => contains_iff_mem.mpr (whole_event hw hwhole hevent)
  have hattempts : attemptsMatch batch durable = true :=
    all_eq_true.mpr fun attempt hattempt => contains_iff_mem.mpr (whole_attempt hw hwhole hattempt)
  have hdedup : (batch.deduplication.isNone || batch.deduplication.isSome) = true := by
    cases batch.deduplication <;> rfl
  have hcheckpoint : checkpointMatches batch (receiptOf c batch s).headSequence durable = true :=
    whole_checkpoint hw hwhole hclear
  unfold durableRows
  rw [whole_deduplication hw hwhole]
  simp only [hwhole.stream, hw.stream_next, hevents, houtbox, hsome, hmatch, hattempts, hdedup, hcheckpoint,
    hw.cursors_loaded hwhole, whole_outboxRows hw hwhole, whole_artifacts hw hwhole, hw.objects_match]
  simp [receiptOf, commitReceipt]

theorem settle_whole (hclear : CheckpointClear batch s) (aftermath : Aftermath) :
    settleUncertain c objects batch (c.requestHash batch).text (receiptOf c batch s) (cursorsOf batch s) aftermath
      durable =
      (if aftermath = .unreadable then .error .sql else .ok (.committed (receiptOf c batch s)), durable) := by
  unfold settleUncertain verifyDurableCommit
  rw [rows_whole hw hwhole hclear]
  by_cases hread : aftermath = .unreadable <;> simp [hread]

end Whole

end Aworkit.LocalStore
