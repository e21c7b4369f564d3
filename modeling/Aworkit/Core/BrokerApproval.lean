import Aworkit.Core.BrokerDispatch

/-! The approval gate: what was decided about an invocation, and on whose word, in any run. -/
namespace Aworkit.Core
open Protocol OrderedMap Hoare Fallible MemoryLedgerState InvocationLedgerEventV1 CapabilityBinding List

variable {proposal : WorkerInvocationProposalV1} {ledger : MemoryLedgerState}
  {dispatch : ApprovedDispatchV1} {invocationId manifestId : StableId} {content : StableId → List CapabilityBinding}

/-- The calls of a run: from outside, and by the host before it answers. -/
def callsMade (calls : List Call) (turns : List HostTurn) : List Call := calls ++ turns.flatMap HostTurn.nested

/-- The manifest a call carries is the frozen one of its id. -/
def Call.Frozen (content : StableId → List CapabilityBinding) : Call → Prop
  | .propose manifest _ _ => manifest.capabilityBindings = content manifest.manifestId
  | .resolveApproval manifest _ => manifest.capabilityBindings = content manifest.manifestId
  | _ => True

section Events
variable {events : List InvocationLedgerEventV1}

theorem mem_eventsOf {event : InvocationLedgerEventV1} :
    event ∈ ledger.eventsOf invocationId ↔ event ∈ ledger.events ∧ event.invocationId = invocationId := by
  simp [MemoryLedgerState.eventsOf]

theorem proposedIdentity_mem (h : proposedIdentity events = .ok (proposal, manifestId)) :
    ∃ invocationId, .proposed invocationId proposal manifestId ∈ events := by
  rw [proposedIdentity, require_eq_ok] at h
  obtain ⟨event, hmem, hevent⟩ := exists_of_findSome?_eq_some h
  cases event with
  | proposed id p m =>
    obtain ⟨rfl, rfl⟩ := Prod.mk.inj (Option.some.inj hevent)
    exact ⟨id, hmem⟩
  | _ => cases hevent

theorem challenge_mem (h : events.findSome? challenge? = some challenge) : .approvalRequested challenge ∈ events := by
  obtain ⟨event, hmem, hevent⟩ := exists_of_findSome?_eq_some h
  cases event with
  | approvalRequested found =>
    rw [← Option.some.inj hevent]
    exact hmem
  | _ => cases hevent

/-- A ledger without a decision has no authorization or rejection. -/
structure Open (events : List InvocationLedgerEventV1) : Prop where
  unsettled : events.findSome? settlement? = none
  unauthorized : events.findSome? dispatch? = none
  unrejected : events.any isRejected = false

theorem replayDecision_open (h : replayDecision events = .error .incompleteState ∨
    ∃ challenge, replayDecision events = .ok (.awaitingApproval challenge)) : Open events := by
  unfold replayDecision at h
  cases hsettled : events.findSome? settlement? with
  | some settlement => simp [hsettled] at h
  | none =>
    cases hauthorized : events.findSome? dispatch? with
    | some dispatch => simp [hsettled, hauthorized] at h
    | none =>
      cases hrejected : events.any isRejected with
      | true => simp [hsettled, hauthorized, hrejected] at h
      | false => exact ⟨hsettled, hauthorized, hrejected⟩

private theorem replayDecision_error (h : replayDecision events = .error e) : e = .incompleteState := by
  unfold replayDecision at h
  repeat' split at h
  all_goals cases h
  rfl

theorem repeatedResponse_open
    (h : DurableInvocationBroker.repeatedResponse events approved = .ok none) : Open events := by
  apply replayDecision_open
  unfold DurableInvocationBroker.repeatedResponse at h
  cases hdecision : replayDecision events with
  | error e =>
    rw [replayDecision_error hdecision]
    exact .inl rfl
  | ok decision =>
    rw [hdecision] at h
    cases decision with
    | awaitingApproval challenge => exact .inr ⟨challenge, rfl⟩
    | denied | dispatchReady dispatch | alreadySettled outcomeHash => cases approved <;> cases h

theorem Open.not_authorized (h : Open (ledger.eventsOf invocationId)) (hmem : .authorized dispatch ∈ ledger.events) :
    dispatch.invocationId ≠ invocationId := by
  intro hsame
  have hnone := findSome?_eq_none_iff.mp h.unauthorized _ (mem_eventsOf.mpr ⟨hmem, hsame⟩)
  cases hnone

theorem Open.not_rejected (h : Open (ledger.eventsOf invocationId)) (hmem : .approvalRejected rejected reason ∈ ledger.events) :
    rejected ≠ invocationId := by
  intro hsame
  have hnone := any_eq_false.mp h.unrejected _ (mem_eventsOf.mpr ⟨hmem, hsame⟩)
  exact hnone rfl

end Events

namespace DurableInvocationBroker
variable {b : DurableInvocationBroker} {r : Call → Prop} {j : Journal} {events : List InvocationLedgerEventV1}

private theorem recorded_proposed (h : Justified (b.Recorded r) events)
    (hmem : .proposed invocationId proposal manifestId ∈ events) :
    invocationId = b.invocationId proposal.proposalId := by
  obtain ⟨_, _, _, _, _, hadmits⟩ := h.mem hmem
  cases hadmits
  rfl

theorem stored_proposal (h : Justified (b.Recorded r) j.ledger.events)
    (hidentity : proposedIdentity (j.eventsOf invocationId) = .ok (proposal, manifestId)) :
    invocationId = b.invocationId proposal.proposalId ∧
      .proposed invocationId proposal manifestId ∈ j.ledger.events := by
  obtain ⟨id, hmem⟩ := proposedIdentity_mem hidentity
  obtain ⟨hstored, hsame⟩ := mem_eventsOf.mp hmem
  obtain rfl : id = invocationId := hsame
  exact ⟨recorded_proposed h hstored, hstored⟩

theorem granted_open (h : Justified (b.Recorded r) j.ledger.events) (hgranted : b.Granted r j manifest proposal) :
    Open (j.eventsOf (b.invocationId proposal.proposalId)) := by
  cases hgranted with
  | unattended binding now hmade hundecided hbinding hnever => exact replayDecision_open (.inl hundecided.undecided)
  | approved response challenge hmade hanswers htime hyes =>
    rw [← (stored_proposal h hanswers.identity).1]
    exact repeatedResponse_open hanswers.first

/-- No invocation is both authorized and rejected. -/
def Exclusive (events : List InvocationLedgerEventV1) : Prop :=
  ∀ dispatch invocationId reason, .authorized dispatch ∈ events → .approvalRejected invocationId reason ∈ events →
    dispatch.invocationId ≠ invocationId

theorem recorded_exclusive (h : Justified (b.Recorded r) events) : Exclusive events := by
  refine h.induction ?_ ?_
  · intro dispatch invocationId reason hauthorized
    cases hauthorized
  · rintro log last hlog ⟨j, rfl, hadmits⟩ ih dispatch invocationId reason hauthorized hrejected
    rw [mem_append, mem_singleton] at hauthorized hrejected
    rcases hauthorized with hauthorized | rfl
    · rcases hrejected with hrejected | rfl
      · exact ih dispatch invocationId reason hauthorized hrejected
      · cases hadmits with
        | denied manifest proposal _ _ hundecided _ =>
          exact (replayDecision_open (.inl hundecided.undecided)).not_authorized hauthorized
        | refused manifest response proposal challenge _ _ hanswers _ =>
          exact (repeatedResponse_open hanswers.first).not_authorized hauthorized
    · rcases hrejected with hrejected | hrejected
      · cases hadmits with
        | authorized manifest proposal leaseIds hgranted =>
          exact ((granted_open hlog hgranted).not_rejected hrejected).symm
      · cases hrejected

/-- A recorded challenge, and a call that met it in time with its nonce. -/
def Approved (made : Call → Prop) (before : List InvocationLedgerEventV1) (invocationId : StableId) : Prop :=
  ∃ challenge manifest response, .approvalRequested challenge ∈ before ∧ challenge.invocationId = invocationId ∧
    made (.resolveApproval manifest response) ∧ response.invocationId = invocationId ∧
    response.nonce = challenge.nonce ∧ response.approved = true ∧
    response.nowEpochMillis < challenge.expiresEpochMillis

private theorem approved_of_answers (h : Justified (b.Recorded r) j.ledger.events)
    {response : ApprovalResponseV1} {challenge : ApprovalChallengeV1}
    (hmade : r (.resolveApproval manifest response)) (hanswers : Answers j manifest response proposal challenge)
    (htime : response.nowEpochMillis < challenge.expiresEpochMillis) (hyes : response.approved = true) :
    Approved r j.ledger.events (b.invocationId proposal.proposalId) := by
  obtain ⟨hid, _⟩ := stored_proposal h hanswers.identity
  obtain ⟨hchallenge, hsame⟩ := mem_eventsOf.mp (challenge_mem hanswers.challenged)
  exact ⟨challenge, manifest, response, hchallenge, hsame.trans hid, hmade, hid, hanswers.nonce.symm, hyes, htime⟩

section
variable (hunique : ∀ manifestId, ((content manifestId).map capabilityId).Nodup)
include hunique

/-- In a frozen manifest the admitting binding is its capability's only one. -/
theorem admitting_unique
    {manifest : AuthorityManifest} {proposal : WorkerInvocationProposalV1} {found binding : CapabilityBinding}
    (hfrozen : manifest.capabilityBindings = content manifest.manifestId)
    (hfound : admitting manifest proposal = some found) (hbinding : binding ∈ content manifest.manifestId)
    (hsame : binding.capabilityId = proposal.capabilityId) : found = binding := by
  rw [admitting, hfrozen] at hfound
  have hkey := find?_some hfound
  simp only [met] at hkey
  exact inj_on_of_nodup_map (hunique _) (mem_of_find?_eq_some hfound) hbinding (hkey.1.1.trans hsame.symm)

/-- A proposal stands before its authorization, and an approval where its binding asks for one. -/
theorem authorized_justified
    (hfrozen : ∀ call, r call → call.Frozen content) (h : Justified (b.Recorded r) events)
    {before after : List InvocationLedgerEventV1} (hsplit : events = before ++ .authorized dispatch :: after) :
    ∃ proposal, .proposed dispatch.invocationId proposal dispatch.manifestId ∈ before ∧
      proposal.capabilityId = dispatch.capabilityId ∧
      ∀ binding ∈ content dispatch.manifestId, binding.capabilityId = dispatch.capabilityId →
        binding.approval = .perInvocation → Approved r before dispatch.invocationId := by
  obtain ⟨j, hj, hadmits⟩ := h before _ after hsplit
  subst hj
  have hbefore : Justified (b.Recorded r) j.ledger.events := (hsplit ▸ h).initial
  cases hadmits with
  | authorized manifest proposal leaseIds hgranted =>
    cases hgranted with
    | unattended found now hmade hundecided hfound hnever =>
      refine ⟨proposal, (stored_proposal hbefore hundecided.identity).2, rfl, ?_⟩
      intro binding hbinding hsame hper
      obtain rfl := admitting_unique hunique (hfrozen _ hmade) hfound hbinding hsame
      exact absurd hper hnever
    | approved response challenge hmade hanswers htime hyes =>
      obtain ⟨hid, hmem⟩ := stored_proposal hbefore hanswers.identity
      refine ⟨proposal, hid ▸ hmem, rfl, ?_⟩
      intro binding _ _ _
      exact approved_of_answers hbefore hmade hanswers htime hyes

end

/-- A run from the empty ledger takes guarded steps of the calls made in it. -/
theorem runCalls_made (depth : Nat) (calls : List Call) (faults : List Fault) (turns : List HostTurn)
    (leases : List (Answer (List StableId))) (revocations : List (Answer Unit))
    (workers : List (Answer DeliveryAcceptanceV1)) :
    b.Steps (fun call => call ∈ callsMade calls turns) ⟨.empty, []⟩
      (b.runCalls depth calls (.start faults turns leases revocations workers)).journal := by
  refine runCalls_steps depth calls ?_ (.start faults turns leases revocations workers) ?_
  · intro call hcall
    exact mem_append_left _ hcall
  · intro turn hturn call hcall
    exact mem_append_right _ (mem_flatMap.mpr ⟨turn, hturn, hcall⟩)

/-- Whatever is called and whatever fails, an invocation that asks for approval is authorized only after its challenge
and an approving answer in time, its outbox entry is backed by that authorization, and none is both authorized and
rejected. -/
theorem approval_gate (b : DurableInvocationBroker) (content : StableId → List CapabilityBinding)
    (hunique : ∀ manifestId, ((content manifestId).map capabilityId).Nodup) (depth : Nat)
    (calls : List Call) (faults : List Fault) (turns : List HostTurn) (leases : List (Answer (List StableId)))
    (revocations : List (Answer Unit)) (workers : List (Answer DeliveryAcceptanceV1))
    (hfrozen : ∀ call ∈ callsMade calls turns, call.Frozen content) :
    let j := (b.runCalls depth calls (.start faults turns leases revocations workers)).journal
    (∀ before dispatch after, j.ledger.events = before ++ .authorized dispatch :: after →
      ∃ proposal, .proposed dispatch.invocationId proposal dispatch.manifestId ∈ before ∧
        proposal.capabilityId = dispatch.capabilityId ∧
        ∀ binding ∈ content dispatch.manifestId, binding.capabilityId = dispatch.capabilityId →
          binding.approval = .perInvocation →
          Approved (fun call => call ∈ callsMade calls turns) before dispatch.invocationId) ∧
      (∀ outbox, j.Holds outbox → .authorized outbox.dispatch ∈ j.ledger.events) ∧ Exclusive j.ledger.events := by
  intro j
  have hsteps := runCalls_made (b := b) depth calls faults turns leases revocations workers
  have hrecorded := steps_recorded hsteps rfl
  refine ⟨?_, (steps_dispatchInvariant hsteps empty_dispatchInvariant).backed, recorded_exclusive hrecorded⟩
  intro before dispatch after hsplit
  exact authorized_justified hunique hfrozen hrecorded hsplit

/-- The sample broker, with SHA-256 also at the text of the sample nonce. -/
def gateBroker : DurableInvocationBroker :=
  .new (fun text => .ofText (((("test:manifest.2", "664dbd5c915e46f47add5530bd2b2b887a76f3c88d4d55493b248a6da7bb67a8") ::
    sampleBrokerDigests).lookup text).getD "")) 60000

def gateBindings : List CapabilityBinding := [⟨.ofText "capability.read", true, true, .perInvocation⟩]

def gateManifest : AuthorityManifest := ⟨.ofText "manifest.2", gateBindings⟩

def gateCalls : List Call :=
  [.propose gateManifest sampleProposal 0,
   .resolveApproval gateManifest ⟨gateBroker.invocationId sampleProposal.proposalId,
     gateBroker.approvalNonce sampleProposal.proposalId gateManifest.manifestId, true, 1⟩]

/-- A proposal that needs approval, and the answer that approves it. -/
theorem sample_approval_gate :
    let events := (gateBroker.runCalls 0 gateCalls (.start [] [] [] [] [])).journal.ledger.events
    events.any isAuthorized = true ∧ Exclusive events :=
  ⟨by decide +kernel, (approval_gate gateBroker (fun _ => gateBindings) (fun _ => nodup_singleton _) 0 gateCalls
    [] [] [] [] [] (by
      intro call hcall
      simp only [callsMade, gateCalls, flatMap_nil, append_nil, mem_cons, not_mem_nil,
        or_false] at hcall
      rcases hcall with rfl | rfl <;> rfl)).2.2⟩

end DurableInvocationBroker
end Aworkit.Core
