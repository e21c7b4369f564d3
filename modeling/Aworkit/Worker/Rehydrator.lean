import Aworkit.Protocol.Control
import Aworkit.Worker.Plan

/-! The checks of a rehydration envelope before a takeover (`suspension.rs`). -/
namespace Aworkit.Worker
open Protocol Fallible

inductive RecoveryErrorV1 where
  | snapshotMismatch
  | planMismatch
  | checkpointHashMismatch
  | generationFence
  | deltaGap
  | outcomeConflict
  | payloadTooLarge
  | encoding
  deriving DecidableEq

structure RehydratedStateV1 where
  checkpoint : WorkerCheckpointV1
  committedDeltas : List Value
  reconciledOutcomeIds : List StableId

/-- The encoders of worker messages: SHA-256 of canonical control messages and checkpoints, and the length of a
proposal's plain JSON. -/
structure MessageEncoding extends Encoding where
  controlDigest : WorkerControlEnvelopeV1 → Option Sha256Digest
  checkpointDigest : WorkerCheckpointV1 → Option Sha256Digest
  proposalLength : WorkerProposalEnvelopeV1 → Option Nat

def checkpointHash (enc : MessageEncoding) (checkpoint : WorkerCheckpointV1) : Except RecoveryErrorV1 String := do
  let digest ← require (enc.checkpointDigest { checkpoint with checkpointHash := "" }) .encoding
  return digest.text

/-- `delta.get("cursor").and_then(Value::as_u64)`. -/
def deltaCursor (delta : Value) : Option Nat :=
  match delta.asObject.bind (·.lookup "cursor") with
  | some (.number (.posInt cursor)) => some cursor
  | _ => none

def validateDeltaCursors : Nat → List Value → Except RecoveryErrorV1 Unit
  | _, [] => .ok ()
  | expected, delta :: rest => do
    let cursor ← require (deltaCursor delta) .deltaGap
    refuseIf (cursor != expected) .deltaGap
    validateDeltaCursors (saturatingAdd u64Max expected 1) rest

/-- The deltas follow the start one by one, each cursor a `u64`. -/
def GapFree (start : Nat) (deltas : List Value) : Prop :=
  ∀ (i : Nat) (delta : Value), deltas[i]? = some delta → deltaCursor delta = some (start + 1 + i) ∧ start + 1 + i ≤ u64Max

private theorem validateDeltaCursors_eq_ok {expected : Nat} (h : expected ≤ u64Max) (deltas : List Value) :
    validateDeltaCursors expected deltas = .ok () ↔ ∀ i delta, deltas[i]? = some delta →
      deltaCursor delta = some (min (expected + i) u64Max) := by
  induction deltas generalizing expected with
  | nil => simp [validateDeltaCursors]
  | cons delta rest ih =>
    simp only [validateDeltaCursors, passes, unmet,
      ih (show saturatingAdd u64Max expected 1 ≤ u64Max from Nat.min_le_right ..)]
    -- The cursor expected next is one more, unless the largest is reached already.
    have hnext : ∀ i, min (saturatingAdd u64Max expected 1 + i) u64Max = min (expected + (i + 1)) u64Max := by
      intro i
      unfold saturatingAdd
      omega
    simp only [hnext]
    constructor
    · rintro ⟨_, hcursor, _, rfl, hrest⟩ (_ | i) other hother
      · cases hother
        rwa [Nat.add_zero, Nat.min_eq_left h]
      · exact hrest i other hother
    · intro hall
      have hfirst := hall 0 delta rfl
      rw [Nat.add_zero, Nat.min_eq_left h] at hfirst
      exact ⟨expected, hfirst, (), rfl, fun i other hother => hall (i + 1) other hother⟩

/-- The check accepts the deltas that follow the start without a gap, no cursor twice, exactly when that many cursors
are left. -/
theorem deltas_contiguous_iff (start : UInt64) (count : Nat) :
    (∀ deltas : List Value, deltas.length = count →
      (validateDeltaCursors (saturatingAdd u64Max start.toNat 1) deltas = .ok () ↔ GapFree start.toNat deltas) ∧
      (validateDeltaCursors (saturatingAdd u64Max start.toNat 1) deltas = .ok () → (deltas.map deltaCursor).Nodup)) ↔
        start.toNat + count ≤ u64Max := by
  have hstart : start.toNat ≤ u64Max := Nat.lt_succ_iff.mp start.toNat_lt
  have hcursor : ∀ i, min (saturatingAdd u64Max start.toNat 1 + i) u64Max = min (start.toNat + 1 + i) u64Max := by
    intro i
    unfold saturatingAdd
    omega
  simp only [validateDeltaCursors_eq_ok (show saturatingAdd u64Max start.toNat 1 ≤ u64Max from Nat.min_le_right ..),
    hcursor]
  constructor
  · -- The deltas with the cursors that the check expects, the last of them the largest.
    intro h
    by_contra hfew
    have hgap := (h ((List.range count).map fun i =>
      .object [("cursor", .number (.posInt (min (start.toNat + 1 + i) u64Max)))]) (by simp)).1.mp (by
        intro i delta hdelta
        obtain ⟨_, rfl⟩ := List.getElem?_eq_some_iff.mp hdelta
        simp [deltaCursor, Value.asObject])
    obtain ⟨last, rfl⟩ : ∃ last, count = last + 1 := Nat.exists_eq_add_one.mpr (by omega)
    have hlast := (hgap last _ (List.getElem?_eq_getElem (by simp))).2
    omega
  · rintro h deltas rfl
    have hsame : ∀ i < deltas.length, min (start.toNat + 1 + i) u64Max = start.toNat + 1 + i := fun i hi => by omega
    have hexact : (∀ i delta, deltas[i]? = some delta →
        deltaCursor delta = some (min (start.toNat + 1 + i) u64Max)) ↔ GapFree start.toNat deltas := by
      refine forall₂_congr fun i delta => imp_congr_right fun hdelta => ?_
      obtain ⟨hi, _⟩ := List.getElem?_eq_some_iff.mp hdelta
      rw [hsame i hi]
      exact (and_iff_left (by omega)).symm
    refine ⟨hexact, fun hall => List.nodup_iff_getElem?_ne_getElem?.mpr fun i j hij hj => ?_⟩
    rw [List.length_map] at hj
    rw [List.getElem?_map, List.getElem?_map, List.getElem?_eq_getElem hj, List.getElem?_eq_getElem (hij.trans hj)]
    simp only [Option.map_some, hall i _ (List.getElem?_eq_getElem (hij.trans hj)),
      hall j _ (List.getElem?_eq_getElem hj), hsame j hj, hsame i (hij.trans hj), ne_eq, Option.some.injEq]
    omega

/-- Behind the last cursor but one, the last one is accepted twice. -/
theorem last_cursor_twice : validateDeltaCursors (saturatingAdd u64Max (u64Max - 1) 1)
    [.object [("cursor", .number (.posInt u64Max))], .object [("cursor", .number (.posInt u64Max))]] = .ok () := by
  decide +kernel

/-- One round of the outcome loop: an invocation has one outcome. -/
def reconcileOutcome (table : Std.ExtTreeMap String (String × Value)) (outcome : CapabilityOutcomeV1) :
    Except RecoveryErrorV1 (Std.ExtTreeMap String (String × Value)) := do
  match table[outcome.invocationId.val]? with
  | none => pure ()
  | some previous =>
    refuseIf (!(previous.1 == outcome.outcomeId.val && previous.2.beq outcome.toValue)) .outcomeConflict
  return table.insert outcome.invocationId.val (outcome.outcomeId.val, outcome.toValue)

def RehydratorV1.restore (enc : MessageEncoding) (envelope : RehydrationEnvelopeV1) :
    Except RecoveryErrorV1 RehydratedStateV1 := do
  refuseIf (decide (10000 < envelope.committedDeltas.length) || decide (10000 < envelope.reconciledOutcomes.length))
    .payloadTooLarge
  let calculated ← (snapshotContentHash enc.toEncoding envelope.snapshot).mapError fun _ => .encoding
  refuseIf (envelope.snapshot.snapshotHash != calculated || envelope.checkpoint.snapshotHash != calculated)
    .snapshotMismatch
  let plan ← (ExecutionPlanV1.compile enc.toEncoding envelope.snapshot calculated).mapError fun _ => .planMismatch
  refuseIf (envelope.checkpoint.planHash != plan.fingerprint) .planMismatch
  refuseIf (decide (envelope.replacementGeneration ≤ envelope.checkpoint.priorGeneration)) .generationFence
  let hash ← checkpointHash enc envelope.checkpoint
  refuseIf (hash != envelope.checkpoint.checkpointHash) .checkpointHashMismatch
  validateDeltaCursors (saturatingAdd u64Max envelope.checkpoint.committedCursor 1) envelope.committedDeltas
  let _ ← envelope.reconciledOutcomes.foldlM reconcileOutcome ∅
  return { checkpoint := envelope.checkpoint, committedDeltas := envelope.committedDeltas,
           reconciledOutcomeIds := envelope.reconciledOutcomes.map CapabilityOutcomeV1.outcomeId }

end Aworkit.Worker
