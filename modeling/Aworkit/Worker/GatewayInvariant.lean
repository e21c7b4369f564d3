import Aworkit.Worker.GatewayEffect
import Aworkit.Worker.SchedulerBound

/-! The gateway over whole runs: its byte count, tables, sequence numbers, identity and cursor stay in step. -/
namespace Aworkit.Worker
open Protocol Fallible Hoare OrderedMap Std CoreGatewayV1 SchedulerV1 List

variable {identity : ActiveIdentity} {t' : GatewayTrace} {proposalId : StableId} {proposal : WorkerProposalEnvelopeV1}

inductive GatewayCall where
  | admitControl (envelope : WorkerControlEnvelopeV1)
  | emit (proposal : WorkerProposalKindV1)
  | emitReserved (proposal : WorkerProposalKindV1)

/-- A gateway with the proposals it emitted and the starts and restores it took. -/
structure GatewayTrace where
  gateway : CoreGatewayV1
  emitted : List WorkerProposalEnvelopeV1
  founders : List WorkerControlEnvelopeV1

namespace GatewayTrace

def initial (gateway : CoreGatewayV1) : GatewayTrace := ⟨gateway, [], []⟩

def afterEmit (t : GatewayTrace) : Except GatewayError WorkerProposalEnvelopeV1 × CoreGatewayV1 → GatewayTrace
  | (.ok envelope, g) => { t with gateway := g, emitted := t.emitted ++ [envelope] }
  | (.error _, g) => { t with gateway := g }

def afterAdmission (t : GatewayTrace) (envelope : WorkerControlEnvelopeV1) :
    Except GatewayError AdmissionV1 × CoreGatewayV1 → GatewayTrace
  | (.ok .new, g) =>
    { t with gateway := g, founders := t.founders ++ if establishing envelope.control then [envelope] else [] }
  | (.ok .duplicate, g) => { t with gateway := g }
  | (.error _, g) => { t with gateway := g }

def step (enc : MessageEncoding) (t : GatewayTrace) : GatewayCall → GatewayTrace
  | .admitControl envelope => t.afterAdmission envelope (admitControl enc envelope t.gateway)
  | .emit proposal => t.afterEmit (emit enc proposal t.gateway)
  | .emitReserved proposal => t.afterEmit (emitReserved enc proposal t.gateway)

def run (enc : MessageEncoding) (t : GatewayTrace) (calls : List GatewayCall) : GatewayTrace := calls.foldl (step enc) t

end GatewayTrace

def lengthOf (enc : MessageEncoding) (proposal : WorkerProposalEnvelopeV1) : Nat := (enc.proposalLength proposal).getD 0

structure Carries (identity : ActiveIdentity) (proposal : WorkerProposalEnvelopeV1) : Prop where
  chatId : proposal.chatId = identity.chatId
  runId : proposal.runId = identity.runId
  generation : proposal.generation = identity.generation
  snapshotHash : proposal.snapshotHash = identity.snapshotHash

/-- No two of the first proposals of an identity have the same id. -/
def CollisionFree (enc : MessageEncoding) (identity : ActiveIdentity) (last : Nat) : Prop :=
  ∀ i j, i ≤ last → j ≤ last → ∀ id, gatewayStableId enc (proposalMaterial identity i) = .ok id →
    gatewayStableId enc (proposalMaterial identity j) = .ok id → i = j

namespace GatewayTrace
open CoreGatewayV1
variable {enc : MessageEncoding} {m b : Nat} {t : GatewayTrace}

/-- What one call does to a trace. -/
inductive Effect (enc : MessageEncoding) (t : GatewayTrace) : GatewayTrace → Prop
  | idle : Effect enc t t
  | admitted {envelope : WorkerControlEnvelopeV1} {digest : Sha256Digest} {g' : CoreGatewayV1}
      (h : Admitted enc t.gateway envelope digest g') :
      Effect enc t { t with
        gateway := g', founders := t.founders ++ if establishing envelope.control then [envelope] else [] }
  | emitted {proposal : WorkerProposalKindV1} {reserved : Bool} {identity : ActiveIdentity} {proposalId : StableId}
      {length : Nat} (hroom : Room enc t.gateway reserved proposal identity proposalId length) :
      Effect enc t { t with
        gateway := t.gateway.buffered (nextProposal identity t.gateway proposalId proposal) length
        emitted := t.emitted ++ [nextProposal identity t.gateway proposalId proposal] }

theorem emit_effect (t : GatewayTrace) (proposal : WorkerProposalKindV1) (reserved : Bool) :
    Effect enc t (t.afterEmit (emitInner enc proposal reserved t.gateway)) := by
  refine (emitInner_outcome t.gateway proposal reserved).elim ?_ ?_
  · rintro envelope _ ⟨identity, length, hroom, henvelope, rfl⟩
    rw [afterEmit, henvelope]
    exact .emitted hroom
  · rintro e _ ⟨rfl, _⟩
    exact .idle

private theorem admission_effect (hencodes : Encodes enc t.gateway) (envelope : WorkerControlEnvelopeV1) :
    Effect enc t (t.afterAdmission envelope (admitControl enc envelope t.gateway)) := by
  refine (admitControl_outcome hencodes envelope).elim (fun admission g' => ?_) ?_
  · cases admission with
    | new =>
      rintro ⟨_, _, digest, _, hadmitted⟩
      exact .admitted hadmitted
    | duplicate =>
      rintro ⟨rfl, _⟩
      exact .idle
  · rintro e _ ⟨rfl, _⟩
    exact .idle

theorem step_effect (hencodes : Encodes enc t.gateway) (call : GatewayCall) : Effect enc t (t.step enc call) := by
  cases call with
  | admitControl envelope => exact admission_effect hencodes envelope
  | emit proposal => exact emit_effect t proposal false
  | emitReserved proposal => exact emit_effect t proposal true

/-- The identity is fixed once, sequence numbers and the cursor only grow, and every buffered proposal encodes. -/
structure Later (enc : MessageEncoding) (g g' : CoreGatewayV1) : Prop where
  encodes : Encodes enc g'
  identity : ∀ identity, g.identity = some identity → g'.identity = some identity
  sequence : g.workerSequence ≤ g'.workerSequence
  cursor : g.identity.isSome = true → g.committedCursor ≤ g'.committedCursor

theorem Effect.later (hencodes : Encodes enc t.gateway) (h : Effect enc t t') : Later enc t.gateway t'.gateway := by
  cases h with
  | idle => exact ⟨hencodes, fun _ h => h, Nat.le_refl _, fun _ => Nat.le_refl _⟩
  | admitted h =>
    cases h with
    | established hkind hfirst =>
      refine ⟨hencodes, fun identity h => ?_, Nat.le_refl _, fun h => ?_⟩
      · rw [hfirst] at h
        cases h
      · rw [hfirst] at h
        cases h
    | repeated hkind hidentity hknown hcursor => exact ⟨hencodes, fun _ h => h, Nat.le_refl _, fun _ => hcursor⟩
    | acknowledged hkind hidentity hnew hcursor hremoved hbytes =>
      exact ⟨fun id proposal h => hencodes id proposal (found_erase h).2, fun _ h => h, Nat.le_refl _,
        fun _ => Nat.le_of_lt hcursor⟩
    | noted hkind hidentity hcursor => exact ⟨hencodes, fun _ h => h, Nat.le_refl _, fun _ => Nat.le_refl _⟩
  | emitted hroom =>
    refine ⟨?_, fun _ h => h, Nat.le_succ _, fun _ => Nat.le_refl _⟩
    exact all_insert hencodes ⟨_, hroom.encoded⟩

theorem Later.trans (h : Later enc g g') (h' : Later enc g' g'') : Later enc g g'' := by
  refine ⟨h'.encodes, fun identity hid => h'.identity identity (h.identity identity hid),
    Nat.le_trans h.sequence h'.sequence, fun hid => ?_⟩
  obtain ⟨identity, hidentity⟩ := Option.isSome_iff_exists.mp hid
  exact Nat.le_trans (h.cursor hid) (h'.cursor (by rw [h.identity identity hidentity]; rfl))

theorem run_later (hencodes : Encodes enc t.gateway) (calls : List GatewayCall) :
    Later enc t.gateway (t.run enc calls).gateway := by
  induction calls generalizing t with
  | nil => exact Effect.later hencodes .idle
  | cons call rest ih =>
    have hstep := (step_effect hencodes call).later hencodes
    exact hstep.trans (ih hstep.encodes)

/-- What every run of the gateway keeps. -/
structure Sound (enc : MessageEncoding) (m b : Nat) (t : GatewayTrace) : Prop where
  proposalBound : t.gateway.maxPendingProposals = m
  byteBound : t.gateway.maxPendingBytes = b
  encodes : Encodes enc t.gateway
  bytes : t.gateway.pendingBytes = sumValues (lengthOf enc) t.gateway.pending
  crowd : t.gateway.pending.size ≤ m + maxReservedControlProposals
  weight : t.gateway.pendingBytes ≤ b + reservedControlBytes
  founded : (t.founders = [] ∧ t.gateway.identity = none) ∨
    ∃ founder, t.founders = [founder] ∧ t.gateway.identity = some (identityOf founder)
  sequences : t.emitted.map WorkerProposalEnvelopeV1.workerSequence = range' 1 t.gateway.workerSequence
  carried : ∀ proposal ∈ t.emitted, ∃ identity, t.gateway.identity = some identity ∧ Carries identity proposal ∧
    gatewayStableId enc (proposalMaterial identity proposal.workerSequence) = .ok proposal.proposalId
  waiting : ∀ (id : String) (proposal : WorkerProposalEnvelopeV1), t.gateway.pending[id]? = some proposal →
    proposal ∈ t.emitted ∧ proposal.proposalId.val = id
  settled : ∀ id ∈ t.gateway.acknowledged, t.gateway.pending[id]? = none ∧
    ∃ proposal ∈ t.emitted, proposal.proposalId.val = id

theorem Sound.sequence_le (h : Sound enc m b t) (hmem : proposal ∈ t.emitted) :
    proposal.workerSequence ≤ t.gateway.workerSequence := by
  have hrange : proposal.workerSequence ∈ range' 1 t.gateway.workerSequence := by
    rw [← h.sequences]
    exact mem_map_of_mem hmem
  rw [mem_range'_1] at hrange
  omega

theorem Sound.fresh (h : Sound enc m b t)
    (hidentity : t.gateway.identity = some identity) (hfree : CollisionFree enc identity (t.gateway.workerSequence + 1))
    (hnamed : gatewayStableId enc (proposalMaterial identity (t.gateway.workerSequence + 1)) = .ok proposalId)
    (hmem : proposal ∈ t.emitted) : proposal.proposalId ≠ proposalId := by
  rintro rfl
  obtain ⟨other, hother, _, hid⟩ := h.carried proposal hmem
  obtain rfl := Option.some.inj (hother.symm.trans hidentity)
  have hle := h.sequence_le hmem
  have heq := hfree _ _ (Nat.le_succ_of_le hle) (Nat.le_refl _) _ hid hnamed
  omega

/-- An admitted message keeps the invariant. -/
theorem Sound.admitted {envelope : WorkerControlEnvelopeV1} {digest : Sha256Digest} {g' : CoreGatewayV1}
    (h : Sound enc m b t) (hadmitted : Admitted enc t.gateway envelope digest g') :
    Sound enc m b { t with
      gateway := g', founders := t.founders ++ if establishing envelope.control then [envelope] else [] } := by
  have hencodes := (Effect.later h.encodes (.admitted hadmitted)).encodes
  have hkept : establishing envelope.control = false →
      t.founders ++ (if establishing envelope.control then [envelope] else []) = t.founders := by
    intro hkind
    rw [hkind]
    exact append_nil _
  have hack : ∀ {proposalId : StableId} {cursor : Nat}, envelope.control = .committedAck proposalId cursor →
      establishing envelope.control = false := by
    intro proposalId cursor hkind
    rw [hkind]
    rfl
  cases hadmitted with
  | established hkind hfirst =>
    have hnone : t.emitted = [] := by
      rw [eq_nil_iff_forall_not_mem]
      intro proposal hmem
      obtain ⟨identity, hidentity, _⟩ := h.carried proposal hmem
      rw [hfirst] at hidentity
      cases hidentity
    have hfounders : t.founders = [] := by
      rcases h.founded with ⟨hempty, _⟩ | ⟨founder, _, hidentity⟩
      · exact hempty
      · rw [hfirst] at hidentity
        cases hidentity
    refine ⟨h.proposalBound, h.byteBound, hencodes, h.bytes, h.crowd, h.weight, ?_, h.sequences, ?_, h.waiting, h.settled⟩
    · refine .inr ⟨envelope, ?_, rfl⟩
      rw [hfounders, hkind]
      rfl
    · intro proposal hmem
      rw [hnone] at hmem
      cases hmem
  | repeated hkind hidentity hknown hcursor =>
    exact ⟨h.proposalBound, h.byteBound, hencodes, h.bytes, h.crowd, h.weight, by rw [hkept (hack hkind)]; exact h.founded,
      h.sequences, h.carried, h.waiting, h.settled⟩
  | noted hkind hidentity hcursor =>
    exact ⟨h.proposalBound, h.byteBound, hencodes, h.bytes, h.crowd, h.weight, by rw [hkept hkind]; exact h.founded,
      h.sequences, h.carried, h.waiting, h.settled⟩
  | @acknowledged proposalId cursor removed bytes hkind hidentity hnew hcursor hremoved hbytes =>
    have hsum := sumValues_erase (lengthOf enc) hremoved
    have hlength : lengthOf enc removed = bytes := by rw [lengthOf, hbytes]; rfl
    have hsize : (t.gateway.pending.erase proposalId.val).size ≤ t.gateway.pending.size := ExtTreeMap.size_erase_le
    have hbound := h.bytes
    refine ⟨h.proposalBound, h.byteBound, hencodes, ?_, Nat.le_trans hsize h.crowd,
      Nat.le_trans (Nat.sub_le _ _) h.weight, by rw [hkept (hack hkind)]; exact h.founded, h.sequences, h.carried, ?_, ?_⟩
    · show t.gateway.pendingBytes - bytes = sumValues (lengthOf enc) (t.gateway.pending.erase proposalId.val)
      omega
    · exact fun id proposal hfound => h.waiting id proposal (found_erase hfound).2
    · intro id hmem
      rcases ExtTreeSet.mem_insert.mp hmem with hequal | hold
      · obtain rfl := LawfulEqOrd.eq_of_compare hequal
        obtain ⟨hemitted, hid⟩ := h.waiting _ _ hremoved
        exact ⟨ExtTreeMap.getElem?_erase_self, removed, hemitted, hid⟩
      · obtain ⟨hgone, hproposal⟩ := h.settled id hold
        refine ⟨?_, hproposal⟩
        have hne : proposalId.val ≠ id := by
          rintro rfl
          exact hnew hold
        exact (erase_ne _ hne).trans hgone

/-- So does a proposal that found room. -/
theorem Sound.emitted {proposal : WorkerProposalKindV1} {reserved : Bool} {length : Nat} (h : Sound enc m b t)
    (hroom : Room enc t.gateway reserved proposal identity proposalId length)
    (hfree : CollisionFree enc identity (t.gateway.workerSequence + 1)) :
    Sound enc m b { t with
      gateway := t.gateway.buffered (nextProposal identity t.gateway proposalId proposal) length
      emitted := t.emitted ++ [nextProposal identity t.gateway proposalId proposal] } := by
  have hencodes := (Effect.later h.encodes (.emitted hroom)).encodes
  have hfresh : ∀ proposal ∈ t.emitted, proposal.proposalId ≠ proposalId :=
    fun proposal hmem => h.fresh hroom.active hfree hroom.named hmem
  have hunused : t.gateway.pending[proposalId.val]? = none := by
    rw [Option.eq_none_iff_forall_ne_some]
    intro found hfound
    obtain ⟨hmem, hid⟩ := h.waiting _ _ hfound
    exact hfresh found hmem (StableId.val_injective hid)
  have hlength : lengthOf enc (nextProposal identity t.gateway proposalId proposal) = length := by
    rw [lengthOf, hroom.encoded]
    rfl
  have hsum := sumValues_insert (lengthOf enc) t.gateway.pending proposalId.val
    (nextProposal identity t.gateway proposalId proposal)
  rw [hunused, hlength] at hsum
  refine ⟨h.proposalBound, h.byteBound, hencodes, ?_, ?_, ?_, h.founded, ?_, ?_, ?_, ?_⟩
  · show t.gateway.pendingBytes + length = sumValues (lengthOf enc) (t.gateway.pending.insert proposalId.val _)
    rw [h.bytes]
    exact hsum.symm
  · have hsize : (t.gateway.pending.insert proposalId.val (nextProposal identity t.gateway proposalId proposal)).size ≤
        t.gateway.pending.size + 1 := ExtTreeMap.size_insert_le
    have hcrowd := hroom.uncrowded
    simp only [crowded, Bool.or_eq_false_iff, decide_eq_false_iff_not, saturatingAdd, h.proposalBound] at hcrowd
    have hlt := hcrowd.2
    show (t.gateway.pending.insert proposalId.val _).size ≤ _
    omega
  · have hfits := hroom.fits
    simp only [oversized, Bool.or_eq_false_iff, decide_eq_false_iff_not, saturatingAdd, h.byteBound] at hfits
    have hlt := hfits.2
    show t.gateway.pendingBytes + length ≤ _
    omega
  · show (t.emitted ++ [_]).map _ = range' 1 (t.gateway.workerSequence + 1)
    rw [map_append, h.sequences, range'_1_concat]
    rw [Nat.add_comm 1]
    rfl
  · intro found hmem
    rcases mem_append.mp hmem with hold | hnew
    · exact h.carried found hold
    · rw [mem_singleton.mp hnew]
      exact ⟨identity, hroom.active, ⟨rfl, rfl, rfl, rfl⟩, hroom.named⟩
  · intro id found hfound
    rcases found_insert hfound with ⟨hid, rfl⟩ | ⟨_, hold⟩
    · exact ⟨mem_append_right _ (mem_singleton_self _), hid⟩
    · obtain ⟨hmem, hid⟩ := h.waiting id found hold
      exact ⟨mem_append_left _ hmem, hid⟩
  · intro id hmem
    obtain ⟨hgone, found, hfound, hid⟩ := h.settled id hmem
    refine ⟨?_, found, mem_append_left _ hfound, hid⟩
    have hne : proposalId.val ≠ id := by
      rintro rfl
      exact hfresh found hfound (StableId.val_injective hid)
    exact (insert_ne _ _ hne).trans hgone

theorem initial_sound (enc : MessageEncoding) (m b : Nat) : Sound enc m b (initial (withBounds m b)) := by
  refine ⟨rfl, rfl, ?_, ?_, Nat.zero_le _, Nat.zero_le _, .inl ⟨rfl, rfl⟩, rfl, ?_, ?_, ?_⟩
  · intro id proposal hfound
    simp [initial, withBounds] at hfound
  · exact (sumValues_empty _).symm
  · intro proposal hmem
    cases hmem
  · intro id proposal hfound
    simp [initial, withBounds] at hfound
  · intro id hmem
    simp [initial, withBounds] at hmem

/-- No two proposals of a run have the same id. -/
def Distinct (enc : MessageEncoding) (g : CoreGatewayV1) : Prop :=
  ∀ identity, g.identity = some identity → CollisionFree enc identity g.workerSequence

theorem Distinct.earlier (h : Distinct enc g') (hlater : Later enc g g') : Distinct enc g :=
  fun identity hidentity i j hi hj => h identity (hlater.identity identity hidentity) i j
    (Nat.le_trans hi hlater.sequence) (Nat.le_trans hj hlater.sequence)

theorem Sound.step (h : Sound enc m b t) (heffect : Effect enc t t')
    (hdistinct : Distinct enc t'.gateway) : Sound enc m b t' := by
  cases heffect with
  | idle => exact h
  | admitted hadmitted => exact h.admitted hadmitted
  | emitted hroom => exact h.emitted hroom (hdistinct _ hroom.active)

theorem run_sound (h : Sound enc m b t) (calls : List GatewayCall)
    (hdistinct : Distinct enc (t.run enc calls).gateway) : Sound enc m b (t.run enc calls) := by
  induction calls generalizing t with
  | nil => exact h
  | cons call rest ih =>
    have heffect := step_effect h.encodes call
    have hlater := heffect.later h.encodes
    refine ih (h.step heffect ?_) hdistinct
    exact hdistinct.earlier (run_later hlater.encodes rest)

theorem Sound.pending_sequences (h : Sound enc m b t) :
    (values t.gateway.pending).Pairwise fun p q => p.workerSequence ≠ q.workerSequence := by
  have hnodup : (t.emitted.map WorkerProposalEnvelopeV1.workerSequence).Nodup := by
    rw [h.sequences]
    exact nodup_range'
  rw [values, pairwise_map]
  refine t.gateway.pending.distinct_keys_toList.imp_of_mem ?_
  rintro ⟨id, p⟩ ⟨other, q⟩ hp hq hkeys hsame
  obtain ⟨hpmem, hpid⟩ := h.waiting id p (ExtTreeMap.mem_toList_iff_getElem?_eq_some.mp hp)
  obtain ⟨hqmem, hqid⟩ := h.waiting other q (ExtTreeMap.mem_toList_iff_getElem?_eq_some.mp hq)
  obtain rfl := inj_on_of_nodup_map hnodup hpmem hqmem hsame
  rw [← hpid, ← hqid] at hkeys
  exact hkeys ReflOrd.compare_self

/-- Retransmission sends the buffer in the order of its sequence numbers. -/
theorem Sound.retransmission (h : Sound enc m b t) :
    t.gateway.retransmitPending.Perm (values t.gateway.pending) ∧
      t.gateway.retransmitPending.Pairwise fun p q => p.workerSequence < q.workerSequence := by
  have hperm := perm_insertionSort (fun p q : WorkerProposalEnvelopeV1 => p.workerSequence ≤ q.workerSequence)
    (values t.gateway.pending)
  have hsorted := pairwise_insertionSort
    (fun p q : WorkerProposalEnvelopeV1 => p.workerSequence ≤ q.workerSequence) (values t.gateway.pending)
  have hdifferent := (hperm.pairwise_iff fun hne => Ne.symm hne).mpr h.pending_sequences
  refine ⟨hperm, (hsorted.and hdifferent).imp ?_⟩
  intro p q hboth
  exact Nat.lt_of_le_of_ne hboth.1 hboth.2

/-- In every run with distinct proposal ids: the byte count sums the buffered sizes, buffer and acknowledgements are
apart and bounded, sequence numbers count the proposals, the identity is fixed once, the cursor does not fall, and
retransmission is the buffer in sequence order. -/
theorem gateway_invariant (enc : MessageEncoding) (m b : Nat) (calls : List GatewayCall)
    (hdistinct : Distinct enc ((initial (withBounds m b)).run enc calls).gateway) :
    let t := (initial (withBounds m b)).run enc calls
    t.gateway.pendingBytes = sumValues (lengthOf enc) t.gateway.pending ∧
    (∀ id ∈ t.gateway.acknowledged, t.gateway.pending[id]? = none) ∧
    t.gateway.pending.size ≤ m + 64 ∧ t.gateway.pendingBytes ≤ b + 256 * 1024 ∧
    t.emitted.map WorkerProposalEnvelopeV1.workerSequence = range' 1 t.gateway.workerSequence ∧
    t.founders.length ≤ 1 ∧
    (∀ (id : String) (proposal : WorkerProposalEnvelopeV1), t.gateway.pending[id]? = some proposal →
      proposal ∈ t.emitted ∧ ∃ founder, t.founders = [founder] ∧ Carries (identityOf founder) proposal) ∧
    (∀ more, t.gateway.identity.isSome = true → t.gateway.committedCursor ≤ (t.run enc more).gateway.committedCursor) ∧
    t.gateway.retransmitPending.Perm (values t.gateway.pending) ∧
    t.gateway.retransmitPending.Pairwise fun p q => p.workerSequence < q.workerSequence := by
  intro t
  have h : Sound enc m b t := run_sound (initial_sound enc m b) calls hdistinct
  refine ⟨h.bytes, fun id hid => (h.settled id hid).1, h.crowd, h.weight, h.sequences, ?_, ?_, ?_, h.retransmission⟩
  · rcases h.founded with ⟨hnone, _⟩ | ⟨founder, hone, _⟩
    · rw [hnone]
      exact Nat.zero_le _
    · rw [hone]
      exact Nat.le_refl _
  · intro id proposal hfound
    obtain ⟨hmem, _⟩ := h.waiting id proposal hfound
    obtain ⟨identity, hidentity, hcarries, _⟩ := h.carried proposal hmem
    refine ⟨hmem, ?_⟩
    rcases h.founded with ⟨_, hnone⟩ | ⟨founder, hone, hfixed⟩
    · rw [hnone] at hidentity
      cases hidentity
    · obtain rfl := Option.some.inj (hfixed.symm.trans hidentity)
      exact ⟨founder, hone, hcarries⟩
  · exact fun more hstarted => (run_later h.encodes more).cursor hstarted

end GatewayTrace

/-- The SHA-256 digests of the texts that the sample proposals are named by. -/
def sampleNames : List (String × Sha256Digest) :=
  [("proposal:chat.v1:run.v1:1:0", ⟨"e7486e29cec30a6ff1c97d5a90b9ab51310e82d73ac8beea767c04af39b47cce", by decide +kernel, by decide +kernel⟩),
   ("proposal:chat.v1:run.v1:1:1", ⟨"6981691a2fef86caf918653993025687d018aa7c35b4281619f5d0a16ad5a9dd", by decide +kernel, by decide +kernel⟩),
   ("proposal:chat.v1:run.v1:1:2", ⟨"4d626bdbe9d085228cd84f040999272dfb4d8e98e7fb7a7c7a8dc446fae2243a", by decide +kernel, by decide +kernel⟩)]

/-- The digests of the sample messages, by message id. -/
def sampleControls : List (String × Sha256Digest) :=
  [("m1", ⟨"ee63862516e79546860b449cf98099f982fe5757f52c63f4ab84fb7e089a303e", by decide +kernel, by decide +kernel⟩),
   ("m2", ⟨"40a08daa34d735da96de8aa030c0b8d78211fdb08451464fc1e698874eb94e1c", by decide +kernel, by decide +kernel⟩),
   ("m3", ⟨"2abdb7ff2dccafdbe2f9c376378958f04d859a9310a763ff0810b719bd3cf3cb", by decide +kernel, by decide +kernel⟩)]

/-- On the sample messages: a `ready` proposal has 372 bytes, a suspension 349 and its scope. -/
def sampleMessages : MessageEncoding where
  toEncoding := { sampleEncoding with
    sha256 := fun material => (sampleNames.lookup material).getD (sampleEncoding.sha256 material) }
  controlDigest envelope := sampleControls.lookup envelope.messageId.val
  checkpointDigest _ := none
  proposalLength proposal :=
    match proposal.proposal with
    | .ready _ => some 372
    | .suspension _ (.object [(_, .string scope), _]) => some (349 + scope.length)
    | _ => none

def sampleControl (messageId : StableId) (control : WorkerControlKindV1) : WorkerControlEnvelopeV1 where
  messageId := messageId
  chatId := sampleSnapshot.chatId
  runId := sampleSnapshot.runId
  generation := 1
  snapshotHash := sampleSnapshot.snapshotHash
  committedCursor := 0
  control := control

def sampleStart : WorkerControlEnvelopeV1 := sampleControl ⟨"m1", by decide +kernel⟩ (.start sampleSnapshot)

/-- A start, its answer, a suspension on the reserved lane, the acknowledgement of the answer. -/
def sampleGatewayCalls : List GatewayCall :=
  [.admitControl sampleStart, .emit (.ready sampleFingerprint),
   .emitReserved (.suspension ⟨"p", by decide +kernel⟩ (.object [("scope", .string "run"), ("state", .string "paused")])),
   .admitControl (sampleControl ⟨"m3", by decide +kernel⟩
     (.committedAck ⟨"gateway.6981691a2fef86caf918653993025687d018aa7c35b42816", by decide +kernel⟩ 1))]

def sampleTrace : GatewayTrace := (GatewayTrace.initial .new).run sampleMessages sampleGatewayCalls

private theorem sampleTrace_distinct : GatewayTrace.Distinct sampleMessages sampleTrace.gateway := by
  have hidentity : sampleTrace.gateway.identity = some (identityOf sampleStart) := by decide +kernel
  have hsequence : sampleTrace.gateway.workerSequence = 2 := by decide +kernel
  have hnames : ∀ i ∈ range 3, ∀ j ∈ range 3,
      gatewayStableId sampleMessages (proposalMaterial (identityOf sampleStart) i) =
        gatewayStableId sampleMessages (proposalMaterial (identityOf sampleStart) j) → i = j := by
    decide +kernel
  intro identity hfound i j hi hj id hnamei hnamej
  obtain rfl := Option.some.inj (hidentity.symm.trans hfound)
  rw [hsequence] at hi hj
  exact hnames i (mem_range.mpr (by omega)) j (mem_range.mpr (by omega)) (hnamei.trans hnamej.symm)

theorem sample_gateway_invariant : sampleTrace.gateway.pendingBytes = 352 ∧
    sampleTrace.gateway.pendingBytes = sumValues (lengthOf sampleMessages) sampleTrace.gateway.pending :=
  ⟨by decide +kernel, (GatewayTrace.gateway_invariant sampleMessages _ _ sampleGatewayCalls sampleTrace_distinct).1⟩

end Aworkit.Worker
