import Aworkit.Core.Broker
import Aworkit.Logic.Justified

/-! Everything a broker call can do to the journal, stated once as steps whose guards speak of the ledger at the
write. -/
namespace Aworkit.Core
open Protocol OrderedMap Hoare Fallible MemoryLedgerState InvocationLedgerEventV1

namespace Journal

variable {write : MemoryLedgerState → Except BrokerError MemoryLedgerState} {post : β → World → Prop}
  {event : InvocationLedgerEventV1} {m : BrokerM α} {k : Unit → BrokerM β}

def append (j : Journal) (event : InvocationLedgerEventV1) : Journal :=
  { j with ledger := { j.ledger with events := j.ledger.events ++ [event] } }

abbrev eventsOf (j : Journal) (invocationId : StableId) : List InvocationLedgerEventV1 :=
  j.ledger.eventsOf invocationId

/-- An outbox entry the ledger holds, delivered or not. -/
def Holds (j : Journal) (outbox : DispatchOutboxV1) : Prop :=
  ∃ (key : String) (delivered : Bool), j.ledger.outbox[key]? = some (outbox, delivered)

end Journal

namespace DurableInvocationBroker
-- `r` says which calls are made
variable (b : DurableInvocationBroker) (r : Call → Prop)

/-- A proposal that is recorded and not decided. -/
structure Undecided (j : Journal) (manifest : AuthorityManifest) (proposal : WorkerInvocationProposalV1) : Prop where
  identity : proposedIdentity (j.eventsOf (b.invocationId proposal.proposalId)) = .ok (proposal, manifest.manifestId)
  undecided : replayDecision (j.eventsOf (b.invocationId proposal.proposalId)) = .error .incompleteState

/-- A response to an open challenge of a recorded proposal, with its nonce. -/
structure Answers (j : Journal) (manifest : AuthorityManifest) (response : ApprovalResponseV1)
    (proposal : WorkerInvocationProposalV1) (challenge : ApprovalChallengeV1) : Prop where
  identity : proposedIdentity (j.eventsOf response.invocationId) = .ok (proposal, manifest.manifestId)
  challenged : (j.eventsOf response.invocationId).findSome? challenge? = some challenge
  first : repeatedResponse (j.eventsOf response.invocationId) response.approved = .ok none
  nonce : challenge.nonce = response.nonce

/-- The binding of a manifest that admits a proposal. -/
def admitting (manifest : AuthorityManifest) (proposal : WorkerInvocationProposalV1) : Option CapabilityBinding :=
  manifest.capabilityBindings.find? fun binding =>
    binding.capabilityId == proposal.capabilityId && binding.enabled && binding.compatible

/-- The two ways to an authorization. -/
inductive Granted (j : Journal) (manifest : AuthorityManifest) (proposal : WorkerInvocationProposalV1) : Prop
  | unattended (binding : CapabilityBinding) (now : Nat) (hmade : r (.propose manifest proposal now))
      (h : b.Undecided j manifest proposal) (hbinding : admitting manifest proposal = some binding)
      (hnever : binding.approval ≠ .perInvocation)
  | approved (response : ApprovalResponseV1) (challenge : ApprovalChallengeV1)
      (hmade : r (.resolveApproval manifest response)) (h : Answers j manifest response proposal challenge)
      (htime : response.nowEpochMillis < challenge.expiresEpochMillis) (hyes : response.approved = true)

/-- An outbox entry whose dispatch was never attempted. -/
structure Untried (j : Journal) (outbox : DispatchOutboxV1) : Prop where
  held : j.Holds outbox
  open_ : ((j.eventsOf outbox.dispatch.invocationId).any fun event => event.isSettled || event.isAccepted) = false
  untried : (j.eventsOf outbox.dispatch.invocationId).any isAttempted = false

/-- What the broker has checked of the ledger when it appends an event. -/
inductive Admits (j : Journal) : InvocationLedgerEventV1 → Prop
  | proposed (manifest : AuthorityManifest) (proposal : WorkerInvocationProposalV1) (now : Nat)
      (hmade : r (.propose manifest proposal now)) (h : j.eventsOf (b.invocationId proposal.proposalId) = []) :
      Admits j (.proposed (b.invocationId proposal.proposalId) proposal manifest.manifestId)
  | denied (manifest : AuthorityManifest) (proposal : WorkerInvocationProposalV1) (now : Nat)
      (hmade : r (.propose manifest proposal now)) (h : b.Undecided j manifest proposal)
      (hnone : admitting manifest proposal = none) :
      Admits j (.approvalRejected (b.invocationId proposal.proposalId) "authority_denied")
  | challenged (manifest : AuthorityManifest) (proposal : WorkerInvocationProposalV1)
      (binding : CapabilityBinding) (now : Nat) (hmade : r (.propose manifest proposal now))
      (h : b.Undecided j manifest proposal) (hbinding : admitting manifest proposal = some binding)
      (hper : binding.approval = .perInvocation) (htime : now + b.approvalTtlMillis ≤ u64Max) :
      Admits j (.approvalRequested ⟨b.invocationId proposal.proposalId,
        b.approvalNonce proposal.proposalId manifest.manifestId, now + b.approvalTtlMillis, proposal.capabilityId⟩)
  | refused (manifest : AuthorityManifest) (response : ApprovalResponseV1)
      (proposal : WorkerInvocationProposalV1) (challenge : ApprovalChallengeV1) (reason : String)
      (hmade : r (.resolveApproval manifest response)) (h : Answers j manifest response proposal challenge)
      (hwhy : if challenge.expiresEpochMillis ≤ response.nowEpochMillis then reason = "approval_expired"
        else reason = "user_rejected" ∧ response.approved = false) :
      Admits j (.approvalRejected response.invocationId reason)
  | authorized (manifest : AuthorityManifest) (proposal : WorkerInvocationProposalV1) (leaseIds : List StableId)
      (h : b.Granted r j manifest proposal) :
      Admits j (.authorized ⟨b.invocationId proposal.proposalId, proposal.proposalId, proposal.capabilityId,
        proposal.payloadHash, manifest.manifestId, leaseIds⟩)
  | attempted (outbox : DispatchOutboxV1) (h : Untried j outbox) :
      Admits j (.dispatchAttempted outbox.dispatch.invocationId)
  | accepted (invocationId : StableId)
      (hauthorized : (j.eventsOf invocationId).any isAuthorized = true)
      (hattempted : (j.eventsOf invocationId).any isAttempted = true)
      (hnew : (j.eventsOf invocationId).any isAccepted = false) :
      Admits j (.dispatchAccepted invocationId)
  | progressed (invocationId : StableId) (sequence : Nat) (payloadHash : String)
      (haccepted : (j.eventsOf invocationId).any isAccepted = true)
      (hopen : (j.eventsOf invocationId).any isSettled = false)
      (hnext : checkedSucc ((((j.eventsOf invocationId).filterMap progress?).map
        Prod.fst).max?.getD 0) = some sequence) :
      Admits j (.progressCommitted invocationId sequence payloadHash)
  | settled (invocationId : StableId) (outcomeHash : String) (uncertain : Bool)
      (hauthorized : (j.eventsOf invocationId).any isAuthorized = true)
      (hfirst : (j.eventsOf invocationId).findSome? settlement? = none) :
      Admits j (.settled invocationId outcomeHash uncertain)

/-- One write of the ledger, or a host's call right after its attempt. -/
inductive Step : Journal → Journal → Prop
  | appended {j : Journal} (event : InvocationLedgerEventV1) (h : b.Admits r j event)
      (halone : (event.isAuthorized || event.isSettled) = false) : Step j (j.append event)
  | authorized {j : Journal} {ledger : MemoryLedgerState} (dispatch : ApprovedDispatchV1)
      (h : b.Admits r j (.authorized dispatch))
      (hwrite : appendAtomic [.authorized dispatch]
        (some ⟨b.stableDigestId .dispatch dispatch.invocationId.val, dispatch⟩) j.ledger = .ok ledger) :
      Step j { j with ledger }
  | dispatched {j : Journal} (outbox : DispatchOutboxV1) (h : Untried j outbox) :
      Step j { j.append (.dispatchAttempted outbox.dispatch.invocationId) with
        dispatched := j.dispatched ++ [⟨outbox.dispatch,
          j.ledger.events ++ [.dispatchAttempted outbox.dispatch.invocationId]⟩] }
  | settled {j : Journal} {ledger : MemoryLedgerState} (invocationId : StableId) (outcomeHash : String)
      (uncertain : Bool) (h : b.Admits r j (.settled invocationId outcomeHash uncertain))
      (hwrite : appendSettlementAtomic (.settled invocationId outcomeHash uncertain)
        ⟨b.stableDigestId .result invocationId.val, invocationId, outcomeHash, uncertain⟩ j.ledger = .ok ledger) :
      Step j { j with ledger }
  | delivered {j : Journal} {ledger : MemoryLedgerState} (outboxId : StableId)
      (hwrite : markDispatchDelivered outboxId j.ledger = .ok ledger) : Step j { j with ledger }
  | resultDelivered {j : Journal} {ledger : MemoryLedgerState} (outboxId : StableId)
      (hwrite : markWorkerResultDelivered outboxId j.ledger = .ok ledger) : Step j { j with ledger }

abbrev Steps : Journal → Journal → Prop := Relation.ReflTransGen (b.Step r)

section Effects
variable {b r} {j j' : Journal} {outbox : DispatchOutboxV1}

theorem step_log (h : b.Step r j j') : j'.ledger.events = j.ledger.events ∨
    ∃ event, b.Admits r j event ∧ j'.ledger.events = j.ledger.events ++ [event] := by
  cases h with
  | appended event hevent => exact .inr ⟨event, hevent, rfl⟩
  | authorized dispatch hevent hwrite => exact .inr ⟨_, hevent, (appendAtomic_entry hwrite).1⟩
  | dispatched outbox huntried => exact .inr ⟨_, .attempted outbox huntried, rfl⟩
  | settled invocationId outcomeHash uncertain hevent hwrite =>
    rcases (appendSettlementAtomic_ok hwrite).2 with rfl | ⟨_, hevents⟩
    · exact .inl rfl
    · exact .inr ⟨_, hevent, hevents⟩
  | delivered outboxId hwrite =>
    obtain ⟨entry, flag, _, rfl⟩ := markDispatchDelivered_ok hwrite
    exact .inl rfl
  | resultDelivered outboxId hwrite => exact .inl (markWorkerResultDelivered_ok hwrite).1

theorem step_events (h : b.Step r j j') (hevent : event ∈ j.ledger.events) : event ∈ j'.ledger.events := by
  rcases step_log h with hsame | ⟨last, _, hevents⟩
  · rw [hsame]
    exact hevent
  · rw [hevents]
    exact List.mem_append_left _ hevent

/-- What a step does to the dispatch outbox. -/
inductive OutboxChange (ledger ledger' : MemoryLedgerState) : Prop
  | same (h : ledger'.outbox = ledger.outbox)
  | added (key : String) (entry : DispatchOutboxV1) (hnew : ledger.outbox[key]? = none)
      (h : ledger'.outbox = ledger.outbox.insert key (entry, false))
      (hauthorized : .authorized entry.dispatch ∈ ledger'.events)
  | marked (key : String) (entry : DispatchOutboxV1) (delivered : Bool)
      (hold : ledger.outbox[key]? = some (entry, delivered))
      (h : ledger'.outbox = ledger.outbox.insert key (entry, true))

theorem step_outbox (h : b.Step r j j') : OutboxChange j.ledger j'.ledger := by
  cases h with
  | appended event hevent | dispatched outbox huntried => exact .same rfl
  | authorized dispatch hevent hwrite =>
    obtain ⟨hevents, _, ⟨hnew, hinsert⟩ | ⟨_, _, hsame⟩⟩ := appendAtomic_entry hwrite
    · refine .added _ _ hnew hinsert ?_
      rw [hevents]
      exact List.mem_append_right _ List.mem_cons_self
    · exact .same hsame
  | settled invocationId outcomeHash uncertain hevent hwrite => exact .same (appendSettlementAtomic_ok hwrite).1
  | delivered outboxId hwrite =>
    obtain ⟨entry, flag, hold, rfl⟩ := markDispatchDelivered_ok hwrite
    exact .marked outboxId.val entry flag hold rfl
  | resultDelivered outboxId hwrite => exact .same (markWorkerResultDelivered_ok hwrite).2

private theorem step_holds (h : b.Step r j j') (hheld : j.Holds outbox) : j'.Holds outbox := by
  obtain ⟨key, flag, hkey⟩ := hheld
  cases step_outbox h with
  | same hsame => exact ⟨key, flag, by rw [hsame, hkey]⟩
  | added newKey entry hnew hinsert _ =>
    exact ⟨key, flag, by rw [hinsert, insert_fresh _ hnew hkey]⟩
  | marked markedKey entry delivered hold hinsert =>
    by_cases hk : markedKey = key
    · subst hk
      rw [hkey] at hold
      obtain ⟨rfl, _⟩ := Prod.mk.inj (Option.some.inj hold)
      exact ⟨markedKey, true, by rw [hinsert, Std.ExtTreeMap.getElem?_insert_self]⟩
    · exact ⟨key, flag, by rw [hinsert, insert_ne _ _ hk, hkey]⟩

theorem holds_of_step (h : b.Step r j j') (hheld : j'.Holds outbox) :
    j.Holds outbox ∨ .authorized outbox.dispatch ∈ j'.ledger.events := by
  obtain ⟨key, flag, hkey⟩ := hheld
  cases step_outbox h with
  | same hsame =>
    rw [hsame] at hkey
    exact .inl ⟨key, flag, hkey⟩
  | added newKey entry _ hinsert hauthorized =>
    rw [hinsert] at hkey
    rcases found_insert hkey with ⟨_, hentry⟩ | ⟨_, hold⟩
    · obtain ⟨rfl, _⟩ := Prod.mk.inj hentry
      exact .inr hauthorized
    · exact .inl ⟨key, flag, hold⟩
  | marked markedKey entry delivered hold hinsert =>
    rw [hinsert] at hkey
    rcases found_insert hkey with ⟨_, hentry⟩ | ⟨_, hkept⟩
    · obtain ⟨rfl, _⟩ := Prod.mk.inj hentry
      exact .inl ⟨markedKey, delivered, hold⟩
    · exact .inl ⟨key, flag, hkept⟩

theorem steps_holds (h : b.Steps r j j') (hheld : j.Holds outbox) : j'.Holds outbox := by
  induction h with
  | refl => exact hheld
  | tail _ hstep ih => exact step_holds hstep ih

/-- An event that was admitted on a journal on the way between two, which held the given events. -/
def Passed (b : DurableInvocationBroker) (r : Call → Prop) (j j' : Journal) (before : List InvocationLedgerEventV1)
    (event : InvocationLedgerEventV1) : Prop :=
  ∃ i, b.Steps r j i ∧ b.Steps r i j' ∧ i.ledger.events = before ∧ b.Admits r i event

theorem steps_passed (h : b.Steps r j j') (hstart : j.ledger.events = []) :
    Justified (b.Passed r j j') j'.ledger.events := by
  induction h with
  | refl =>
    rw [hstart]
    exact .nil
  | @tail i j' hsteps hstep ih =>
    have hpassed : Justified (b.Passed r j j') i.ledger.events := by
      refine ih.imp ?_
      rintro before event ⟨i', hto, hfrom, hadmits⟩
      exact ⟨i', hto, hfrom.tail hstep, hadmits⟩
    rcases step_log hstep with hsame | ⟨event, hevent, hevents⟩
    · rw [hsame]
      exact hpassed
    · rw [hevents]
      exact hpassed.snoc ⟨i, hsteps, .single hstep, rfl, hevent⟩

/-- An event that was admitted on a ledger with the given events. -/
def Recorded (b : DurableInvocationBroker) (r : Call → Prop) (before : List InvocationLedgerEventV1)
    (event : InvocationLedgerEventV1) : Prop :=
  ∃ j : Journal, j.ledger.events = before ∧ b.Admits r j event

theorem steps_recorded (h : b.Steps r j j') (hstart : j.ledger.events = []) :
    Justified (b.Recorded r) j'.ledger.events :=
  (steps_passed h hstart).imp fun _ _ ⟨i, _, _, hadmits⟩ => ⟨i, hadmits⟩

end Effects

/-- Of the journal of a world whose host makes only calls of the regime. -/
def On (p : Journal → Prop) (w : World) : Prop :=
  p w.journal ∧ ∀ turn ∈ w.turns, ∀ call ∈ turn.nested, r call

section Rules
variable {r} {α : Type} {p q : Journal → Prop} {w : World}
open BrokerM

theorem On.imp (hpq : ∀ j, p j → q j) (hw : On r p w) : On r q w := ⟨hpq w.journal hw.1, hw.2⟩

theorem nextFault_rule : Triple (On r p) nextFault (fun _ => On r p) (On r p) := by
  intro w hw
  unfold nextFault
  cases w.faults with
  | nil => exact hw
  | cons fault rest => exact hw

theorem ledgerRead_rule (view : MemoryLedgerState → α) :
    Triple (On r p) (ledgerRead view) (fun a => On r fun j => a = view j.ledger ∧ p j) (On r p) := by
  refine .bind nextFault_rule fun fault => ?_
  cases fault with
  | works => exact fun w hw => ⟨⟨rfl, hw.1⟩, hw.2⟩
  | fails e | unreported e | crashes written => exact .fail fun _ hw => hw

theorem commit_rule (h : ∀ j ledger, p j → write j.ledger = .ok ledger → q { j with ledger }) :
    Triple (On r p) (commit write) (fun _ => On r q) (On r fun j => p j ∨ q j) := by
  intro w hw
  unfold commit
  cases hwrite : write w.journal.ledger with
  | error e => exact hw.imp fun _ => .inl
  | ok ledger => exact ⟨h w.journal ledger hw.1 hwrite, hw.2⟩

/-- A write is made whole or not at all, whatever is reported of it. -/
theorem ledgerWrite_rule (h : ∀ j ledger, p j → write j.ledger = .ok ledger → q { j with ledger }) :
    Triple (On r p) (ledgerWrite write) (fun _ => On r q) (On r fun j => p j ∨ q j) := by
  have hfault : Triple (On r p) nextFault (fun _ => On r p) (On r fun j => p j ∨ q j) :=
    nextFault_rule.refail fun _ => On.imp fun _ => .inl
  refine .bind hfault fun fault => ?_
  cases fault with
  | works => exact commit_rule h
  | fails e => exact .fail fun _ => On.imp fun _ => .inl
  | unreported e => exact .bind (commit_rule h) fun _ => .fail fun _ => On.imp fun _ => .inr
  | crashes written =>
    cases written with
    | false =>
      have hskip : Triple (On r p) (pure () : BrokerM Unit) (fun _ => On r p) (On r fun j => p j ∨ q j) :=
        .pure fun _ hw => hw
      exact .bind hskip fun _ => .fail fun _ => On.imp fun _ => .inl
    | true => exact .bind (commit_rule h) fun _ => .fail fun _ => On.imp fun _ => .inr

theorem check_rule (x : Except BrokerError α) :
    Triple (On r p) (check x) (fun a w => x = .ok a ∧ On r p w) (On r p) := by
  cases x with
  | error e => exact .fail fun _ hw => hw
  | ok a => exact .pure fun _ hw => ⟨rfl, hw⟩

theorem observe_rule {pre failed : World → Prop} {post : World → Prop} (h : Triple pre m (fun _ => post) failed)
    (hfailed : ∀ w, failed w → post w) : Triple pre (observe m) (fun _ => post) failed := by
  intro w hw
  have hrun := h w hw
  unfold observe
  revert hrun
  cases m w with
  | mk answer w' =>
    cases answer with
    | ok a => exact id
    | error halt =>
      cases halt with
      | error e => exact hfailed w'
      | crash => exact id

theorem answered_rule (answer : Answer α) : Triple (On r p) (answered answer) (fun _ => On r p) (On r p) := by
  cases answer with
  | crashes => exact .fail fun _ hw => hw
  | returns result =>
    cases result with
    | error e => exact .fail fun _ hw => hw
    | ok a => exact .pure fun _ hw => hw

theorem issueForDispatch_rule : Triple (On r p) issueForDispatch (fun _ => On r p) (On r p) := by
  intro w hw
  unfold issueForDispatch
  cases w.leases with
  | nil => exact hw
  | cons answer rest => exact answered_rule answer { w with leases := rest } hw

theorem revokeUncommitted_rule : Triple (On r p) revokeUncommitted (fun _ => On r p) (On r p) := by
  intro w hw
  unfold revokeUncommitted
  cases w.revocations with
  | nil => exact hw
  | cons answer rest => exact answered_rule answer { w with revocations := rest } hw

theorem deliverResult_rule : Triple (On r p) deliverResult (fun _ => On r p) (On r p) := by
  intro w hw
  unfold deliverResult
  cases w.workers with
  | nil => exact hw
  | cons answer rest => exact answered_rule answer { w with workers := rest } hw

/-- The host is called, and the calls it will make are calls of the regime. -/
theorem startDispatch_rule (h : ∀ j, p j → q { j with dispatched := j.dispatched ++ [⟨dispatch, j.ledger.events⟩] }) :
    Triple (On r p) (startDispatch dispatch) (fun turn w => (∀ call ∈ turn.nested, r call) ∧ On r q w)
      (On r q) := by
  intro w hw
  obtain ⟨hj, hturns⟩ := hw
  unfold startDispatch
  cases hw : w.turns with
  | nil => exact ⟨h w.journal hj, by simp⟩
  | cons turn rest =>
    rw [hw, List.forall_mem_cons] at hturns
    exact ⟨hturns.1, h w.journal hj, hturns.2⟩

end Rules

/-- From a journal with the condition a program only takes steps, even in failure. -/
def Guarded {α : Type} (condition : Journal → Prop) (m : BrokerM α) : Prop :=
  ∀ j, Triple (On r fun j' => b.Steps r j j' ∧ condition j') m (fun _ => On r (b.Steps r j)) (On r (b.Steps r j))

/-- Wherever steps led, a program takes only further steps, even in failure. -/
abbrev Stepping {α : Type} (j : Journal) (p : Journal → Prop) (m : BrokerM α) : Prop :=
  Triple (On r p) m (fun _ => On r (b.Steps r j)) (On r (b.Steps r j))

section Guarded
variable {b r} {α β : Type} {p c : Journal → Prop} {j : Journal}
open BrokerM

theorem write_steps (hp : ∀ j', p j' → b.Steps r j j')
    (hstep : ∀ j' ledger, p j' → write j'.ledger = .ok ledger → b.Step r j' { j' with ledger }) :
    b.Stepping r j p (ledgerWrite write) := by
  have hwrite : ∀ j' ledger, p j' → write j'.ledger = .ok ledger → b.Steps r j { j' with ledger } :=
    fun j' ledger hj' hok => (hp j' hj').tail (hstep j' ledger hj' hok)
  refine (ledgerWrite_rule hwrite).refail fun _ => On.imp ?_
  rintro j' (hj' | hj')
  · exact hp j' hj'
  · exact hj'

theorem append_steps (halone : (event.isAuthorized || event.isSettled) = false) (hp : ∀ j', p j' → b.Steps r j j')
    (hevent : ∀ j', p j' → b.Admits r j' event) : b.Stepping r j p (ledgerWrite (appendAtomic [event] none)) := by
  refine write_steps hp ?_
  intro j' ledger hj' hwrite
  cases hwrite
  exact .appended event (hevent j' hj') halone

theorem Guarded.keeps (h : b.Guarded r c m) {kept : Journal → Prop}
    (hkept : ∀ j j', b.Steps r j j' → kept j → kept j') (j : Journal) :
    Triple (On r fun j' => b.Steps r j j' ∧ c j' ∧ kept j') m (fun _ => On r fun j' => b.Steps r j j' ∧ kept j')
      (On r fun j' => b.Steps r j j' ∧ kept j') := by
  rintro w ⟨⟨hsteps, hc, hk⟩, hturns⟩
  have hrun := h w.journal w ⟨⟨.refl, hc⟩, hturns⟩
  revert hrun
  cases m w with
  | mk answer w' =>
    cases answer with
    | ok a | error e => exact On.imp fun j' hrun => ⟨hsteps.trans hrun, hkept _ _ hrun hk⟩

section
variable (hp : ∀ j', p j' → b.Steps r j j')
include hp

theorem readThen {view : MemoryLedgerState → α} {k : α → BrokerM β}
    (hk : ∀ a, Triple (On r fun j' => a = view j'.ledger ∧ p j') (k a) post (On r (b.Steps r j))) :
    Triple (On r p) (ledgerRead view >>= k) post (On r (b.Steps r j)) :=
  .bind ((ledgerRead_rule view).refail fun _ => On.imp hp) hk

theorem checkThen {k : α → BrokerM β} (hk : ∀ a, x = .ok a → Triple (On r p) (k a) post (On r (b.Steps r j))) :
    Triple (On r p) (check x >>= k) post (On r (b.Steps r j)) := by
  refine .bind ((check_rule x).refail fun _ => On.imp hp) fun a => ?_
  exact Triple.given (hk a)

theorem checkSteps : b.Stepping r j p (check x) :=
  (check_rule x).conseq (fun _ hw => hw) (fun _ _ hw => hw.2.imp hp) fun _ => On.imp hp

theorem writeThen (hstep : ∀ j' ledger, p j' → write j'.ledger = .ok ledger → b.Step r j' { j' with ledger })
    (hk : Triple (On r (b.Steps r j)) (k ()) post (On r (b.Steps r j))) :
    Triple (On r p) (ledgerWrite write >>= k) post (On r (b.Steps r j)) :=
  .bind (write_steps hp hstep) fun _ => hk

end

theorem appendThen (halone : (event.isAuthorized || event.isSettled) = false) (hp : ∀ j', p j' → b.Steps r j j')
    (hevent : ∀ j', p j' → b.Admits r j' event) (hk : Triple (On r (b.Steps r j)) (k ()) post (On r (b.Steps r j))) :
    Triple (On r p) (ledgerWrite (appendAtomic [event] none) >>= k) post (On r (b.Steps r j)) :=
  .bind (append_steps halone hp hevent) fun _ => hk

theorem pureSteps (hp : ∀ j', p j' → b.Steps r j j') : b.Stepping r j p (pure a : BrokerM α) :=
  .pure fun _ => On.imp hp

theorem throwSteps {post : α → World → Prop} (hp : ∀ j', p j' → b.Steps r j j') :
    Triple (On r p) (throw e : BrokerM α) post (On r (b.Steps r j)) :=
  .fail fun _ => On.imp hp

theorem Guarded.run (h : b.Guarded r c m) (hp : ∀ j', p j' → b.Steps r j j' ∧ c j') : b.Stepping r j p m :=
  fun w hw => h j w (hw.imp hp)

theorem Guarded.steps (h : b.Guarded r (fun _ => True) m) : b.Stepping r j (b.Steps r j) m :=
  h.run fun _ hj => ⟨hj, trivial⟩

end Guarded

end DurableInvocationBroker
end Aworkit.Core
