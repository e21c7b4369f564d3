import Aworkit.Worker.Gateway

/-! What the gateway does with one control message and with one proposal. -/
namespace Aworkit.Worker
open Protocol Fallible Hoare

namespace CoreGatewayV1
variable {envelope : WorkerControlEnvelopeV1}

variable {enc : MessageEncoding} {g g' : CoreGatewayV1}

/-- The messages that fix the identity of a worker. -/
def establishing : WorkerControlKindV1 → Bool
  | .start _ => true
  | .restore _ => true
  | _ => false

/-- The message is on record under its digest. -/
def witnessed (g : CoreGatewayV1) (envelope : WorkerControlEnvelopeV1) (digest : Sha256Digest) : CoreGatewayV1 :=
  { g with seenMessages := g.seenMessages.insert envelope.messageId.val digest.text }

/-- The gateway after it admitted a message as new. -/
inductive Admitted (enc : MessageEncoding) (g : CoreGatewayV1) (envelope : WorkerControlEnvelopeV1)
    (digest : Sha256Digest) : CoreGatewayV1 → Prop
  | established (hkind : establishing envelope.control = true) (hfirst : g.identity = none) :
      Admitted enc g envelope digest (({ g with
        identity := some (identityOf envelope), committedCursor := envelope.committedCursor } : CoreGatewayV1).witnessed
          envelope digest)
  | repeated (hkind : envelope.control = .committedAck proposalId cursor)
      (hidentity : g.validateIdentity envelope = .ok ()) (hknown : proposalId.val ∈ g.acknowledged)
      (hcursor : g.committedCursor ≤ cursor) :
      Admitted enc g envelope digest (({ g with committedCursor := cursor } : CoreGatewayV1).witnessed envelope digest)
  | acknowledged (hkind : envelope.control = .committedAck proposalId cursor) (hidentity : g.validateIdentity envelope = .ok ())
      (hnew : proposalId.val ∉ g.acknowledged) (hcursor : g.committedCursor < cursor)
      (hremoved : g.pending[proposalId.val]? = some removed) (hbytes : enc.proposalLength removed = some bytes) :
      Admitted enc g envelope digest (({ g with
        pending := g.pending.erase proposalId.val, pendingBytes := g.pendingBytes - bytes,
        acknowledged := g.acknowledged.insert proposalId.val, committedCursor := cursor } : CoreGatewayV1).witnessed
          envelope digest)
  | noted (hkind : establishing envelope.control = false) (hidentity : g.validateIdentity envelope = .ok ())
      (hcursor : envelope.committedCursor = g.committedCursor) :
      Admitted enc g envelope digest (g.witnessed envelope digest)

/-- Every buffered proposal was encoded once, so it encodes again. -/
def Encodes (enc : MessageEncoding) (g : CoreGatewayV1) : Prop :=
  ∀ (id : String) (proposal : WorkerProposalEnvelopeV1), g.pending[id]? = some proposal →
    ∃ bytes, enc.proposalLength proposal = some bytes

/-- A start or restore names the snapshot it brings. -/
def addressed (envelope : WorkerControlEnvelopeV1) : Bool :=
  match envelope.control with
  | .start snapshot => snapshotMatches snapshot envelope
  | .restore rehydration =>
    snapshotMatches rehydration.snapshot envelope && rehydration.replacementGeneration == envelope.generation
  | _ => true

/-- The message may fix the worker's identity, or carries the fixed one. -/
def Entitled (g : CoreGatewayV1) (envelope : WorkerControlEnvelopeV1) : Prop :=
  if establishing envelope.control then g.identity = none ∧ addressed envelope = true
  else g.validateIdentity envelope = .ok ()

/-- The gateway once the message fixed or was found to carry the identity. -/
def opened (g : CoreGatewayV1) (envelope : WorkerControlEnvelopeV1) : CoreGatewayV1 :=
  if establishing envelope.control then
    { g with identity := some (identityOf envelope), committedCursor := envelope.committedCursor }
  else g

/-- A message other than an acknowledgement is taken as new. -/
structure Fresh (enc : MessageEncoding) (g : CoreGatewayV1) (envelope : WorkerControlEnvelopeV1) : Prop where
  digested : ∃ digest, enc.controlDigest envelope = some digest
  unseen : g.seenMessages[envelope.messageId.val]? = none
  entitled : Entitled g envelope
  current : establishing envelope.control = false → envelope.committedCursor = g.committedCursor

/-- An admission answers `new`, having recorded the message, or it answers `duplicate` or refuses and changes
nothing. -/
def AdmissionEffect (enc : MessageEncoding) (g : CoreGatewayV1) (envelope : WorkerControlEnvelopeV1) :
    AdmissionV1 → CoreGatewayV1 → Prop
  | .new, g' => g.seenMessages[envelope.messageId.val]? = none ∧ Entitled g envelope ∧
      ∃ digest, enc.controlDigest envelope = some digest ∧ Admitted enc g envelope digest g'
  | .duplicate, g' => g' = g ∧ ∃ digest, enc.controlDigest envelope = some digest ∧
      g.seenMessages[envelope.messageId.val]? = some digest.text

/-- The messages that need more than the identity fence and the cursor check. -/
def acknowledging : WorkerControlKindV1 → Bool
  | .committedAck _ _ => true
  | _ => false

private theorem establish_checked (h : establishing envelope.control = false) :
    establish envelope = Prog.read >>= fun g => Prog.lift (g.validateIdentity envelope) := by
  unfold establish
  cases hcontrol : envelope.control with
  | start snapshot | restore rehydration =>
    rw [hcontrol] at h
    cases h
  | _ => rfl

private theorem establish_fixed (h : establishing envelope.control = true) :
    establish envelope = Prog.read >>= fun g =>
      Prog.lift (refuseIf g.identity.isSome .alreadyInitialized) >>= fun _ =>
      Prog.lift (refuseIf (!addressed envelope) .identityMismatch) >>= fun _ =>
      Prog.update fun g =>
        { g with identity := some (identityOf envelope), committedCursor := envelope.committedCursor } := by
  unfold establish addressed
  cases hcontrol : envelope.control with
  | start snapshot => rfl
  | restore rehydration =>
    simp only [Bool.not_and]
    rfl
  | _ =>
    rw [hcontrol] at h
    cases h

theorem establish_outcome (g : CoreGatewayV1) (envelope : WorkerControlEnvelopeV1) :
    Outcome (establish envelope) g (fun _ g' => Entitled g envelope ∧ g' = opened g envelope)
      (fun _ g' => g' = g ∧ ¬Entitled g envelope) := by
  unfold Entitled opened
  cases hkind : establishing envelope.control with
  | false =>
    rw [establish_checked hkind]
    refine read_bind (.lift (fun e he => ⟨rfl, fun hok => ?_⟩) fun _ hidentity => ⟨hidentity, rfl⟩)
    rw [hok] at he
    cases he
  | true =>
    rw [establish_fixed hkind]
    refine read_bind (lift_bind (fun e he => ⟨rfl, fun hok => ?_⟩) fun _ hfirst =>
      lift_bind (fun e he => ⟨rfl, fun hok => ?_⟩) fun _ haddressed => ?_)
    · rw [hok.1] at he
      cases he
    · rw [hok.2] at he
      cases he
    · rw [refuseIf_eq_ok, Option.isSome_eq_false_iff, Option.isNone_iff_eq_none] at hfirst
      rw [refuseIf_eq_ok, Bool.not_eq_false'] at haddressed
      exact ⟨⟨hfirst, haddressed⟩, rfl⟩

private theorem acknowledge_outcome (hencodes : Encodes enc g) (hkind : envelope.control = .committedAck proposalId cursor)
    (hidentity : g.validateIdentity envelope = .ok ()) :
    Outcome (acknowledge enc proposalId cursor) g
      (fun _ g' => Admitted enc g envelope digest (g'.witnessed envelope digest)) (fun _ g' => g' = g) := by
  refine read_bind ?_
  by_cases hknown : g.acknowledged.contains proposalId.val = true
  · rw [if_pos hknown]
    refine lift_bind (fun e _ => rfl) fun _ hcursor => ?_
    rw [refuseIf_eq_ok, decide_eq_false_iff_not, Nat.not_lt] at hcursor
    exact .repeated hkind hidentity (Std.ExtTreeSet.contains_iff_mem.mp hknown) hcursor
  · rw [if_neg hknown]
    refine lift_bind (fun e _ => rfl) fun _ hcursor => lift_bind (fun e _ => rfl) fun removed hremoved => ?_
    rw [refuseIf_eq_ok, decide_eq_false_iff_not, Nat.not_le] at hcursor
    rw [require_eq_ok] at hremoved
    obtain ⟨bytes, hbytes⟩ := hencodes _ _ hremoved
    rw [hbytes]
    -- the removal is not undone by the encoding error below it, which therefore must not occur
    refine update_bind (lift_bind (fun e he => by cases he) fun found hfound => ?_)
    cases hfound
    exact .acknowledged hkind hidentity
      (fun hmem => hknown (Std.ExtTreeSet.contains_iff_mem.mpr hmem)) hcursor hremoved hbytes

theorem advanceCursor_plain (h : acknowledging envelope.control = false) :
    advanceCursor enc envelope =
      Prog.read >>= fun g => Prog.lift (refuseIf (envelope.committedCursor != g.committedCursor) .cursorMismatch) := by
  unfold advanceCursor
  cases hcontrol : envelope.control with
  | committedAck proposalId cursor =>
    rw [hcontrol] at h
    cases h
  | _ => rfl

private theorem advanceCursor_outcome (hencodes : Encodes enc g) (h : Entitled g envelope) (digest : Sha256Digest) :
    Outcome (advanceCursor enc envelope) (opened g envelope)
      (fun _ g' => Admitted enc g envelope digest (g'.witnessed envelope digest))
      (fun _ g' => g' = g ∧ (acknowledging envelope.control = false → ¬Fresh enc g envelope)) := by
  unfold Entitled at h
  unfold opened
  cases hkind : establishing envelope.control with
  | true =>
    rw [hkind] at h
    have hplain : acknowledging envelope.control = false := by
      revert hkind
      cases envelope.control <;> intro hkind <;> first | rfl | cases hkind
    rw [advanceCursor_plain hplain]
    refine read_bind (.lift (fun e he => ?_) fun _ _ => .established hkind h.1)
    simp [refuseIf] at he
  | false =>
    rw [hkind] at h
    by_cases hack : ∃ proposalId cursor, envelope.control = .committedAck proposalId cursor
    · obtain ⟨proposalId, cursor, hcontrol⟩ := hack
      simp only [advanceCursor, hcontrol]
      refine (acknowledge_outcome hencodes hcontrol h).refail fun e g' hsame => ⟨hsame, ?_⟩
      intro hnot
      cases hnot
    · have hplain : acknowledging envelope.control = false := by
        revert hack
        cases envelope.control with
        | committedAck proposalId cursor => exact fun hack => absurd ⟨proposalId, cursor, rfl⟩ hack
        | _ => exact fun _ => rfl
      rw [advanceCursor_plain hplain]
      refine read_bind (.lift (fun e he => ⟨rfl, fun _ hfresh => ?_⟩) fun _ hcursor => ?_)
      · have hcurrent := hfresh.current hkind
        simp [refuseIf, hcurrent] at he
      · rw [refuseIf_eq_ok, bne_eq_false_iff_eq] at hcursor
        exact .noted hkind h hcursor

theorem admitControl_outcome (hencodes : Encodes enc g) (envelope : WorkerControlEnvelopeV1) :
    Outcome (admitControl enc envelope) g (AdmissionEffect enc g envelope)
      (fun _ g' => g' = g ∧ (acknowledging envelope.control = false → ¬Fresh enc g envelope)) := by
  refine lift_bind (fun e he => ⟨rfl, fun _ hfresh => ?_⟩) fun digest hdigest => read_bind ?_
  · obtain ⟨digest, hdigest⟩ := hfresh.digested
    rw [hdigest] at he
    cases he
  rw [require_eq_ok] at hdigest
  cases hseen : g.seenMessages[envelope.messageId.val]? with
  | some existing =>
    have hstale : ¬Fresh enc g envelope := by
      intro hfresh
      have hunseen := hfresh.unseen
      rw [hseen] at hunseen
      cases hunseen
    refine lift_bind (fun e _ => ⟨rfl, fun _ => hstale⟩) fun _ hsame => lift_bind
      (fun e _ => ⟨rfl, fun _ => hstale⟩) fun _ _ => ?_
    rw [refuseIf_eq_ok, bne_eq_false_iff_eq] at hsame
    exact ⟨rfl, digest, hdigest, by rw [hseen, hsame]⟩
  | none =>
    refine .bind ((establish_outcome g envelope).refail fun e g' hrefused =>
      ⟨hrefused.1, fun _ hfresh => hrefused.2 hfresh.entitled⟩) ?_
    rintro _ _ ⟨hentitled, rfl⟩
    refine .bind (advanceCursor_outcome hencodes hentitled digest) fun _ g₂ hadmitted => ?_
    exact ⟨hseen, hentitled, digest, hdigest, hadmitted⟩

theorem admitControl_repeated {digest : Sha256Digest} (hdigest : enc.controlDigest envelope = some digest)
    (hseen : g.seenMessages[envelope.messageId.val]? = some digest.text)
    (hidentity : g.validateIdentity envelope = .ok ()) : admitControl enc envelope g = (.ok .duplicate, g) := by
  apply Outcome.certain
  refine lift_bind (fun e he => ?_) fun found hfound => read_bind ?_
  · rw [hdigest] at he
    cases he
  rw [hdigest, require_eq_ok] at hfound
  cases hfound
  rw [hseen, hidentity]
  refine lift_bind (fun e he => ?_) fun _ _ => lift_bind (fun e he => by cases he) fun _ _ => ⟨rfl, rfl⟩
  simp [refuseIf] at he

/-- The message that fixed or was found to carry the identity carries it. -/
theorem Entitled.validated (h : Entitled g envelope) : (opened g envelope).validateIdentity envelope = .ok () := by
  unfold Entitled at h
  unfold opened
  cases hkind : establishing envelope.control with
  | false =>
    rw [hkind] at h
    exact h
  | true => simp [validateIdentity, identityOf, require, refuseIf, bind, Except.bind]

/-- The proposal that the gateway would send next. -/
def nextProposal (identity : ActiveIdentity) (g : CoreGatewayV1) (proposalId : StableId)
    (proposal : WorkerProposalKindV1) : WorkerProposalEnvelopeV1 where
  proposalId := proposalId
  chatId := identity.chatId
  runId := identity.runId
  generation := identity.generation
  snapshotHash := identity.snapshotHash
  workerSequence := g.workerSequence + 1
  baseCommittedCursor := g.committedCursor
  proposal := proposal

/-- A proposal has its place in the buffer, as `emit` checks. -/
structure Room (enc : MessageEncoding) (g : CoreGatewayV1) (reserved : Bool) (proposal : WorkerProposalKindV1)
    (identity : ActiveIdentity) (proposalId : StableId) (length : Nat) : Prop where
  active : g.identity = some identity
  uncrowded : g.crowded reserved = false
  unexhausted : g.workerSequence < u64Max
  named : gatewayStableId enc (proposalMaterial identity (g.workerSequence + 1)) = .ok proposalId
  encoded : enc.proposalLength (nextProposal identity g proposalId proposal) = some length
  countable : g.pendingBytes + length ≤ u64Max
  fits : g.oversized reserved (g.pendingBytes + length) = false

/-- The gateway after it took a proposal. -/
def buffered (g : CoreGatewayV1) (envelope : WorkerProposalEnvelopeV1) (length : Nat) : CoreGatewayV1 :=
  { g with
    pendingBytes := g.pendingBytes + length
    workerSequence := g.workerSequence + 1
    pending := g.pending.insert envelope.proposalId.val envelope }

/-- A proposal is taken exactly when there is room; a refusal changes nothing. -/
theorem emitInner_outcome (g : CoreGatewayV1) (proposal : WorkerProposalKindV1) (reserved : Bool) :
    Outcome (emitInner enc proposal reserved) g
      (fun envelope g' => ∃ identity length, Room enc g reserved proposal identity envelope.proposalId length ∧
        envelope = nextProposal identity g envelope.proposalId proposal ∧ g' = g.buffered envelope length)
      (fun _ g' => g' = g ∧ ∀ identity proposalId length,
        ¬Room enc g reserved proposal identity proposalId length) := by
  refine read_bind (lift_bind (fun e he => ⟨rfl, fun _ _ _ hroom => ?_⟩) fun identity hidentity => ?_)
  · rw [hroom.active] at he
    cases he
  rw [require_eq_ok] at hidentity
  have hunique : ∀ {other : ActiveIdentity}, g.identity = some other → other = identity :=
    fun hother => Option.some.inj (hother.symm.trans hidentity)
  refine lift_bind (fun e he => ⟨rfl, fun _ _ _ hroom => ?_⟩) fun _ huncrowded => ?_
  · rw [hroom.uncrowded] at he
    cases he
  rw [refuseIf_eq_ok] at huncrowded
  refine lift_bind (fun e he => ⟨rfl, fun _ _ _ hroom => ?_⟩) fun sequence hsequence => ?_
  · rw [checkedSucc, if_pos hroom.unexhausted] at he
    cases he
  rw [require_eq_ok, checkedSucc] at hsequence
  split at hsequence
  next hunexhausted =>
    cases hsequence
    refine lift_bind (fun e he => ⟨rfl, fun _ _ _ hroom => ?_⟩) fun proposalId hnamed => ?_
    · have hok := hroom.named
      rw [hunique hroom.active, he] at hok
      cases hok
    refine lift_bind (fun e he => ⟨rfl, fun _ other _ hroom => ?_⟩) fun length hlength => ?_
    · have hok := hroom.encoded
      obtain rfl := hunique hroom.active
      obtain rfl := Except.ok.inj (hnamed.symm.trans hroom.named)
      change require (enc.proposalLength (nextProposal _ g _ proposal)) _ = _ at he
      rw [hok] at he
      cases he
    rw [require_eq_ok] at hlength
    have hsame : ∀ {i : ActiveIdentity} {p : StableId} {n : Nat}, Room enc g reserved proposal i p n → n = length := by
      intro i p n hroom
      obtain rfl := hunique hroom.active
      obtain rfl := Except.ok.inj (hnamed.symm.trans hroom.named)
      exact Option.some.inj (hroom.encoded.symm.trans hlength)
    refine lift_bind (fun e he => ⟨rfl, fun _ _ _ hroom => ?_⟩) fun _ hcountable => ?_
    · have hle := hroom.countable
      rw [hsame hroom] at hle
      rw [decide_eq_false (Nat.not_lt.mpr hle)] at he
      cases he
    refine lift_bind (fun e he => ⟨rfl, fun _ _ _ hroom => ?_⟩) fun _ hfits => ?_
    · have hfit := hroom.fits
      rw [hsame hroom] at hfit
      rw [hfit] at he
      cases he
    rw [refuseIf_eq_ok] at hcountable hfits
    rw [decide_eq_false_iff_not, Nat.not_lt] at hcountable
    exact ⟨identity, length, ⟨hidentity, huncrowded, hunexhausted, hnamed, hlength, hcountable, hfits⟩, rfl, rfl⟩
  next => cases hsequence

end CoreGatewayV1

end Aworkit.Worker
