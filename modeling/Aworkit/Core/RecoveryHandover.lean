import Aworkit.Core.FrozenPlan
import Aworkit.Core.LifecycleStep
import Aworkit.Core.Recovery

/-! A replacement takes what the core hands over, as far as the two sets of checks agree. -/
namespace Aworkit.Core
open Protocol Worker Fallible OrderedMap LocalRecovery RunAggregateV1

variable {envelope : RehydrationEnvelopeV1} {facts : RecoveryFactsV1} {enc : MessageEncoding}
  {outcomes : List CapabilityOutcomeV1} {generation : Nat}

/-- The checks of `RehydratorV1.restore`, the compilation apart. -/
def handoverChecks (enc : MessageEncoding) (envelope : RehydrationEnvelopeV1) : Except RecoveryErrorV1 Unit := do
  refuseIf (decide (10000 < envelope.committedDeltas.length) || decide (10000 < envelope.reconciledOutcomes.length))
    .payloadTooLarge
  let calculated ← (snapshotContentHash enc.toEncoding envelope.snapshot).mapError fun _ => .encoding
  refuseIf (envelope.snapshot.snapshotHash != calculated || envelope.checkpoint.snapshotHash != calculated)
    .snapshotMismatch
  refuseIf (decide (envelope.replacementGeneration ≤ envelope.checkpoint.priorGeneration)) .generationFence
  let hash ← checkpointHash enc envelope.checkpoint
  refuseIf (hash != envelope.checkpoint.checkpointHash) .checkpointHashMismatch
  validateDeltaCursors (saturatingAdd u64Max envelope.checkpoint.committedCursor 1) envelope.committedDeltas
  let _ ← envelope.reconciledOutcomes.foldlM reconcileOutcome ∅

/-- A worker takes an envelope that passes the checks and whose snapshot compiles to the checkpoint's plan. -/
theorem restore_ok_iff : (∃ state, RehydratorV1.restore enc envelope = .ok state) ↔ handoverChecks enc envelope = .ok () ∧
    ∃ plan, ExecutionPlanV1.compile enc.toEncoding envelope.snapshot envelope.snapshot.snapshotHash = .ok plan ∧
      envelope.checkpoint.planHash = plan.fingerprint := by
  simp only [RehydratorV1.restore, handoverChecks, passes, unmet, mapError_eq_ok]
  constructor
  · rintro ⟨_, _, hsizes, _, hhash, _, ⟨rfl, hsame⟩, plan, hplan, _, hprint, _, hfence, hash, hcheckpoint, _, hequal, _,
      hdeltas, table, houtcomes, _⟩
    exact ⟨⟨(), hsizes, _, hhash, (), ⟨rfl, hsame⟩, (), hfence, hash, hcheckpoint, (), hequal, (), hdeltas, table,
      houtcomes, rfl⟩, plan, hplan, hprint⟩
  · rintro ⟨⟨_, hsizes, _, hhash, _, ⟨rfl, hsame⟩, _, hfence, hash, hcheckpoint, _, hequal, _, hdeltas, table,
      houtcomes, _⟩, plan, hplan, hprint⟩
    exact ⟨_, (), hsizes, _, hhash, (), ⟨rfl, hsame⟩, plan, hplan, (), hprint, (), hfence, hash, hcheckpoint, (), hequal,
      (), hdeltas, table, houtcomes, rfl⟩

theorem deltas_agree (expected last : Nat) (deltas : List Value) (h : deltas.foldlM chainDelta expected = .ok last) :
    validateDeltaCursors expected deltas = .ok () := by
  induction deltas generalizing expected with
  | nil => rfl
  | cons delta rest ih =>
    simp only [List.foldlM_cons, chainDelta, passes, unmet] at h
    obtain ⟨next, ⟨_, hcursor, hnext⟩, hrest⟩ := h
    cases hnext
    simp only [validateDeltaCursors, passes, unmet]
    exact ⟨expected, hcursor, (), rfl, ih _ hrest⟩

theorem outcomes_nodup (h : outcomes.foldlM admitOutcome (∅, ∅) = .ok seen) :
    (outcomes.map fun outcome => outcome.invocationId.val).Nodup := by
  have hkept := foldlM_keeps admitOutcome (fun done seen =>
    (done.map fun outcome => outcome.invocationId.val).Nodup ∧
      ∀ id, id ∈ seen.1 ↔ id ∈ done.map fun outcome => outcome.invocationId.val) ?_ outcomes [] (∅, ∅) seen
    ⟨List.nodup_nil, by simp⟩ h
  · exact hkept.1
  · rintro done seen outcome next ⟨hnodup, hseen⟩ hnext
    simp only [admitOutcome, passes, unmet] at hnext
    obtain ⟨_, ⟨hnew, _⟩, hnext⟩ := hnext
    cases hnext
    have hfresh : outcome.invocationId.val ∉ done.map fun outcome => outcome.invocationId.val := by
      rw [← hseen, ← Std.ExtTreeSet.contains_iff_mem, hnew]
      exact Bool.false_ne_true
    rw [List.map_append, List.map_singleton]
    refine ⟨hnodup.append (List.nodup_singleton _) (by simpa using hfresh), ?_⟩
    intro id
    rw [mem_insert_set, hseen, List.mem_append, List.mem_singleton, or_comm]

theorem outcomes_reconcile (h : (outcomes.map fun outcome => outcome.invocationId.val).Nodup) :
    ∃ table, outcomes.foldlM reconcileOutcome ∅ = .ok table := by
  have hloop := foldlM_succeeds reconcileOutcome (fun done table =>
    ∀ id : String, id ∈ table ↔ id ∈ done.map fun outcome => outcome.invocationId.val) outcomes [] ?_ ∅ (by simp)
  · obtain ⟨table, htable, _⟩ := hloop
    exact ⟨table, htable⟩
  · intro before table outcome after hsplit hkeys
    rw [List.nil_append] at hsplit
    rw [hsplit, List.map_append, List.map_cons] at h
    have hfresh : table[outcome.invocationId.val]? = none := by
      apply Std.ExtTreeMap.getElem?_eq_none
      rw [hkeys]
      intro hbefore
      exact List.disjoint_of_nodup_append h hbefore List.mem_cons_self
    refine ⟨_, by rw [reconcileOutcome, hfresh]; rfl, ?_⟩
    intro id
    rw [Std.ExtTreeMap.mem_insert, Std.LawfulEqOrd.compare_eq_iff_eq, hkeys, List.map_append, List.mem_append,
      List.map_singleton, List.mem_singleton, or_comm, @eq_comm _ id]

/-- The facts a replacement takes: at most 10000 deltas and outcomes, and a prior generation not behind the one in the
run's events. -/
structure Deliverable (facts : RecoveryFactsV1) : Prop where
  deltas : facts.committedDeltas.length ≤ 10000
  outcomes : facts.reconciledOutcomes.length ≤ 10000
  generation : ∀ aggregate g, foldFacts facts = .ok aggregate → aggregate.generation = some g →
    g ≤ facts.priorGeneration

/-- What a recovery has checked before it hands over. -/
structure HandedOver (enc : MessageEncoding) (facts : RecoveryFactsV1) (aggregate : RunAggregateV1)
    (envelope : RehydrationEnvelopeV1) : Prop where
  folded : foldFacts facts = .ok aggregate
  checkpoint : validateCheckpoint enc facts.snapshot envelope.checkpoint facts.priorGeneration = .ok ()
  deltas : validateDeltas envelope.checkpoint.committedCursor facts.committedDeltas = .ok ()
  outcomes : ∃ seen, facts.reconciledOutcomes.foldlM admitOutcome (∅, ∅) = .ok seen
  envelope : envelope = ⟨facts.snapshot, envelope.checkpoint, facts.priorGeneration + 1, facts.committedDeltas,
    facts.reconciledOutcomes⟩

private theorem replace_handsOver (hfolded : foldFacts facts = .ok found)
    (h : replace enc facts found = .ok (.spawnReplacement aggregate envelope pending)) :
    HandedOver enc facts aggregate envelope := by
  simp only [replace, passes] at h
  obtain ⟨checkpoint, _, _, hcheckpoint, _, hdeltas, seen, houtcomes, generation, hgeneration, hresult⟩ := h
  obtain ⟨rfl, rfl, rfl⟩ := RecoveryDecisionV1.spawnReplacement.inj (Except.ok.inj hresult)
  unfold checkedSucc at hgeneration
  split at hgeneration
  · cases hgeneration
    exact ⟨hfolded, hcheckpoint, hdeltas, ⟨seen, houtcomes⟩, rfl⟩
  · cases hgeneration

private theorem recoverV1_handsOver {port : RecoveryHistoryPort} {chatId branchId : StableId} {aggregate : RunAggregateV1}
    {pending : Nat} (hfacts : port chatId branchId = .ok facts)
    (h : recoverV1 enc port chatId branchId = .ok (.spawnReplacement aggregate envelope pending)) :
    HandedOver enc facts aggregate envelope := by
  simp only [recoverV1, hfacts, Except.mapError, ok_bind, bind_ok_iff] at h
  obtain ⟨_, _, _, _, found, hfolded, _, _, h⟩ := h
  split at h
  · cases h
  · rw [bind_ok_iff] at h
    obtain ⟨_, _, h⟩ := h
    rw [bind_ok_iff] at h
    obtain ⟨_, _, h⟩ := h
    split at h
    · cases h
    · exact replace_handsOver hfolded h

theorem HandedOver.checks (h : HandedOver enc facts aggregate envelope) :
    handoverChecks enc envelope = .ok () ↔
      facts.committedDeltas.length ≤ 10000 ∧ facts.reconciledOutcomes.length ≤ 10000 := by
  obtain ⟨_, hcheckpoint, hdeltas, ⟨seen, houtcomes⟩, henvelope⟩ := h
  rw [henvelope]
  simp only [handoverChecks, passes, unmet, not_lt, mapError_eq_ok]
  constructor
  · rintro ⟨_, hsizes, _⟩
    exact hsizes
  · intro hsizes
    simp only [validateCheckpoint, passes, mapError_eq_ok, unmet, snapshotHashV1_eq] at hcheckpoint
    obtain ⟨calculated, hcalculated, _, ⟨⟨⟨⟨hsnapshot, hsame⟩, hprior⟩, _⟩, _⟩, digest, hdigest, hhash⟩ := hcheckpoint
    simp only [validateDeltas, bind_ok_iff] at hdeltas
    obtain ⟨_, _, last, hchain, _⟩ := hdeltas
    obtain ⟨table, htable⟩ := outcomes_reconcile (outcomes_nodup houtcomes)
    refine ⟨(), hsizes, calculated, hcalculated, (), ⟨hsnapshot, hsame.trans hsnapshot⟩, (), ?_, digest.text, ?_, (),
      hhash,
      (), deltas_agree _ _ _ hchain, table, htable, rfl⟩
    · rw [hprior]
      exact Nat.not_succ_le_self _
    · simp only [checkpointHash, passes]
      exact ⟨digest, hdigest, rfl⟩

/-- The worker takes what the core hands over, under a newer generation, exactly when the facts are within bounds and
their prior generation is not behind. -/
theorem handover_accepted_iff (enc : MessageEncoding) (port : RecoveryHistoryPort) (chatId branchId : StableId)
    (facts : RecoveryFactsV1) (aggregate : RunAggregateV1) (envelope : RehydrationEnvelopeV1) (pending : Nat)
    (hfacts : port chatId branchId = .ok facts)
    (h : recoverV1 enc port chatId branchId = .ok (.spawnReplacement aggregate envelope pending)) :
    (handoverChecks enc envelope = .ok () ∧ ∀ g, aggregate.generation = some g → g < envelope.replacementGeneration) ↔
      Deliverable facts := by
  have hover := recoverV1_handsOver hfacts h
  have hgeneration : envelope.replacementGeneration = facts.priorGeneration + 1 := by rw [hover.envelope]
  rw [hover.checks, hgeneration]
  constructor
  · rintro ⟨⟨hdeltas, houtcomes⟩, hnewer⟩
    refine ⟨hdeltas, houtcomes, ?_⟩
    intro found g hfound hg
    rw [hover.folded] at hfound
    cases hfound
    exact Nat.lt_succ_iff.mp (hnewer g hg)
  · rintro ⟨hdeltas, houtcomes, hnewer⟩
    refine ⟨⟨hdeltas, houtcomes⟩, ?_⟩
    intro g hg
    exact Nat.lt_succ_iff.mpr (hnewer aggregate g hover.folded hg)

section Sample

/-- Any digests of snapshots and of checkpoints. -/
structure HandoverDigests where
  snapshot : WorkerFrozenRunSnapshotV1 → Sha256Digest
  checkpoint : WorkerCheckpointV1 → Sha256Digest

def handoverEncoding (d : HandoverDigests) : MessageEncoding where
  sha256 := .ofText
  snapshotLength _ := 1000
  valueLength _ := 4
  snapshotDigest := d.snapshot
  planDigest := d.snapshot
  controlDigest _ := none
  checkpointDigest checkpoint := some (d.checkpoint checkpoint)
  proposalLength _ := none

def zeroHash : String := "0000000000000000000000000000000000000000000000000000000000000000"

def handoverSnapshot (snapshotHash : String) : WorkerFrozenRunSnapshotV1 :=
  { emptySnapshot snapshotHash with
    snapshotId := .ofText "snapshot.1", chatId := .ofText "chat.1", runId := .ofText "run.1" }

def handoverCheckpoint (snapshotHash checkpointHash : String) : WorkerCheckpointV1 where
  checkpointId := .ofText "checkpoint.1"
  snapshotHash := snapshotHash
  planHash := zeroHash
  checkpointHash := checkpointHash
  priorGeneration := 1
  committedCursor := 0
  proposalSequence := 0
  tokenFrontier := .null
  contextHeads := .null
  contextRevisionDag := .null
  branchFrames := .null
  loopFrames := .null
  budgetState := .null
  attemptState := .null
  noResendState := .null
  suspensionState := .null
  childFrames := .null

/-- The run starts; its worker gets ready and crashes. -/
def crashedRun (snapshotHash : String) (generation : Nat) : List CommittedRunEventV1 :=
  [⟨1, ⟨"command.1", by decide⟩, .chatStarted (.ofText "input.1") (.ofText "snapshot.1") snapshotHash⟩,
   ⟨2, ⟨"command.2", by decide⟩, .workerGenerationReady generation⟩,
   ⟨3, ⟨"command.3", by decide⟩, .workerGenerationCrashed generation (some zeroHash) []⟩]

def deltaAt (cursor : Nat) : Value := .object [("cursor", .number (.posInt cursor))]

def handoverHash (d : HandoverDigests) : String := (d.snapshot (canonicalizeSnapshot (handoverSnapshot ""))).text

section Facts
variable (d : HandoverDigests) (generation deltas : Nat)

/-- A run whose last worker had the given generation and left that many deltas behind its checkpoint. -/
def handoverFacts : RecoveryFactsV1 where
  snapshot := handoverSnapshot (handoverHash d)
  checkpoint := some (handoverCheckpoint (handoverHash d) (d.checkpoint (handoverCheckpoint (handoverHash d) "")).text)
  lifecycleEvents := crashedRun (handoverHash d) generation
  events := []
  committedDeltas := (List.range' 1 deltas).map deltaAt
  reconciledOutcomes := []
  uncertainInvocationIds := []
  pendingDeliveryCount := 0
  priorGeneration := 1

def handoverPort : RecoveryHistoryPort := fun _ _ => .ok (handoverFacts d generation deltas)

end Facts

def crashedAggregate (snapshotHash : String) (generation : Nat) : RunAggregateV1 :=
  (crashedRun snapshotHash generation).foldl replay (.new (.ofText "chat.1") (.ofText "run.1"))

theorem replays {a : RunAggregateV1} {event : CommittedRunEventV1} {rest : List CommittedRunEventV1}
    (hsequence : event.sequence = saturatingAdd u64Max a.version 1)
    (hnew : a.commandDigests.contains event.commandId.val = false) (happlies : a.canApply event.event = true) :
    (event :: rest).foldlM foldEvent a = rest.foldlM foldEvent (a.replay event) := by
  rw [List.foldlM_cons, (foldEvent_eq_ok_iff _ _ _).mpr ⟨hsequence, hnew, happlies, rfl⟩, ok_bind]

private theorem crashedRun_folds (hash : Sha256Digest) (hpositive : 0 < generation) :
    fold (.ofText "chat.1") (.ofText "run.1") (crashedRun hash.text generation) =
      .ok (crashedAggregate hash.text generation) := by
  have hblt : Nat.blt 0 generation = true := Nat.blt_eq.mpr hpositive
  have hzero : isSha256 zeroHash = true := by decide +kernel
  rw [fold, crashedRun, replays, replays, replays]
  · rfl
  all_goals
    simp [replay, reduce, new, canApply, hash.isSha256_text,
      hblt, hzero, crashable, distinctIds, saturatingAdd, u64Max]

private theorem crashedAggregate_fields (snapshotHash : String) (generation : Nat) :
    (crashedAggregate snapshotHash generation).snapshotHash = some snapshotHash ∧
      (crashedAggregate snapshotHash generation).state = .rehydrating ∧
      (crashedAggregate snapshotHash generation).uncertainInvocations = ∅ ∧
      (crashedAggregate snapshotHash generation).generation = some generation :=
  ⟨rfl, rfl, rfl, rfl⟩

private theorem deltaCursor_deltaAt (cursor : Nat) : deltaCursor (deltaAt cursor) = some cursor := by
  simp [deltaCursor, deltaAt, Value.asObject]

private theorem chain_range (start count : Nat) (h : start + count ≤ u64Max) :
    ((List.range' start count).map deltaAt).foldlM chainDelta start = .ok (start + count) := by
  induction count generalizing start with
  | zero => rfl
  | succ count ih =>
    have hstep : chainDelta start (deltaAt start) = .ok (start + 1) := by
      rw [chainDelta, deltaCursor_deltaAt, bne_self_eq_false, saturatingAdd_of_le (by omega)]
      rfl
    rw [List.range'_succ, List.map_cons, List.foldlM_cons, hstep, ok_bind, ih _ (by omega)]
    congr 1
    omega

section Recovered
variable (d : HandoverDigests)

def handoverEnvelope (deltas : Nat) : RehydrationEnvelopeV1 :=
  ⟨handoverSnapshot (handoverHash d),
    handoverCheckpoint (handoverHash d) (d.checkpoint (handoverCheckpoint (handoverHash d) "")).text, 2,
    (List.range' 1 deltas).map deltaAt, []⟩

private theorem handover_checkpoint (generation deltas : Nat) :
    validateCheckpoint (handoverEncoding d) (handoverFacts d generation deltas).snapshot
      (handoverEnvelope d deltas).checkpoint 1 = .ok () := by
  have hzero : isSha256 zeroHash = true := by decide +kernel
  have hsnapshot : snapshotHashV1 (handoverEncoding d).toEncoding (handoverFacts d generation deltas).snapshot =
    .ok (handoverHash d) := rfl
  simp only [validateCheckpoint, passes, mapError_eq_ok, unmet]
  exact ⟨_, hsnapshot, (), ⟨⟨⟨⟨rfl, rfl⟩, rfl⟩, hzero⟩, Sha256Digest.isSha256_text _⟩, _, rfl, rfl⟩

private theorem handoverFacts_fold (generation deltas : Nat) (hpositive : 0 < generation) :
    foldFacts (handoverFacts d generation deltas) = .ok (crashedAggregate (handoverHash d) generation) :=
  (mapError_eq_ok _ _ _).mpr (crashedRun_folds _ hpositive)

private theorem sample_recovers {deltas : Nat} (hpositive : 0 < generation) (hdeltas : deltas ≤ 100000) :
    recoverV1 (handoverEncoding d) (handoverPort d generation deltas) (.ofText "chat.1") (.ofText "branch.1") =
      .ok (.spawnReplacement (crashedAggregate (handoverHash d) generation) (handoverEnvelope d deltas) 0) := by
  let facts := handoverFacts d generation deltas
  let aggregate := crashedAggregate (handoverHash d) generation
  have hfolds : foldFacts facts = .ok aggregate := handoverFacts_fold _ _ _ hpositive
  have hchain : validateDeltas 0 ((List.range' 1 deltas).map deltaAt) = .ok () := by
    have hlast := chain_range 1 deltas (by unfold u64Max; omega)
    simp only [validateDeltas, passes, unmet, List.length_map, List.length_range']
    exact ⟨(), by omega, _, hlast, rfl⟩
  have hreplace : replace (handoverEncoding d) facts aggregate =
      .ok (.spawnReplacement aggregate (handoverEnvelope d deltas) 0) := by
    simp only [replace, passes]
    exact ⟨_, rfl, (), handover_checkpoint _ generation deltas, (), hchain, (∅, ∅), rfl, 2,
      (by decide : checkedSucc 1 = some 2), rfl⟩
  have hport : (handoverPort d generation deltas (.ofText "chat.1")
      (.ofText "branch.1")).mapError RecoveryPortErrorV1.toError = .ok facts := rfl
  obtain ⟨hhash, hstate, huncertain, _⟩ : aggregate.snapshotHash = _ ∧ aggregate.state = _ ∧
    aggregate.uncertainInvocations = _ ∧ _ := crashedAggregate_fields _ generation
  have hchat : (facts.snapshot.chatId != .ofText "chat.1") = false := bne_self_eq_false _
  have hevents : validateEventHistory facts.events = .ok () := rfl
  have hids : facts.uncertainInvocationIds = [] := rfl
  have hsame : facts.snapshot.snapshotHash = handoverHash d := rfl
  rw [recoverV1, hport, ok_bind, hchat]
  simp [refuseIf, ok_bind, hfolds, hhash, hstate, huncertain, hevents, hids, hsame, RunStateV1.isTerminal, hreplace]
  rfl

end Recovered

/-- The worker refuses one delta too many, and nothing compares the prior generation with the run's: a replacement may
be older than the crashed worker. -/
theorem handover_refused : (∀ d, ∃ aggregate envelope,
      recoverV1 (handoverEncoding d) (handoverPort d 1 10001) (.ofText "chat.1") (.ofText "branch.1") =
        .ok (.spawnReplacement aggregate envelope 0) ∧
      RehydratorV1.restore (handoverEncoding d) envelope = .error .payloadTooLarge) ∧
    ∀ d, ∃ aggregate envelope,
      recoverV1 (handoverEncoding d) (handoverPort d 5 0) (.ofText "chat.1") (.ofText "branch.1") =
        .ok (.spawnReplacement aggregate envelope 0) ∧
      aggregate.generation = some 5 ∧ envelope.replacementGeneration = 2 := by
  constructor
  · intro d
    refine ⟨_, _, sample_recovers d (by decide) (by decide), ?_⟩
    have hlength : (handoverEnvelope d 10001).committedDeltas.length = 10001 := by
      rw [handoverEnvelope, List.length_map, List.length_range']
    rw [RehydratorV1.restore, hlength]
    rfl
  · intro d
    exact ⟨_, _, sample_recovers d (by decide) (by decide), rfl, rfl⟩

/-- Facts with one delta and the crashed generation are handed over and taken. -/
theorem sample_handover : (∀ d, Deliverable (handoverFacts d 1 1)) ∧
    ∀ d, handoverChecks (handoverEncoding d) (handoverEnvelope d 1) = .ok () := by
  have hdeliverable (d : HandoverDigests) : Deliverable (handoverFacts d 1 1) := by
    refine ⟨(by decide : 1 ≤ 10000), (by decide : 0 ≤ 10000), ?_⟩
    intro aggregate g hfolded hg
    rw [handoverFacts_fold _ _ _ Nat.one_pos] at hfolded
    cases hfolded
    cases hg
    exact Nat.le_refl 1
  refine ⟨hdeliverable, fun d => ?_⟩
  have hiff := handover_accepted_iff (handoverEncoding d) (handoverPort d 1 1) (.ofText "chat.1") (.ofText "branch.1")
    (handoverFacts d 1 1) _ _ 0 rfl (sample_recovers d Nat.one_pos (by decide))
  exact (hiff.mpr (hdeliverable d)).1

end Sample
end Aworkit.Core
