import Aworkit.Core.BrokerStep

/-! Every broker call, and so every run, takes only guarded steps. -/
namespace Aworkit.Core
open Protocol OrderedMap Hoare Fallible MemoryLedgerState BrokerM

namespace DurableInvocationBroker
variable {b : DurableInvocationBroker} {r : Call → Prop} {α : Type} {p : Journal → Prop} {j : Journal}
  {outbox : DispatchOutboxV1}

theorem portThen {β : Type} {k : α → BrokerM β} {post : β → World → Prop}
    (hm : Triple (On r p) m (fun _ => On r p) (On r p)) (hp : ∀ j', p j' → b.Steps r j j')
    (hk : ∀ a, Triple (On r p) (k a) post (On r (b.Steps r j))) :
    Triple (On r p) (m >>= k) post (On r (b.Steps r j)) :=
  .bind (hm.refail fun _ => .imp hp) hk

private theorem issueLeases_rule : Triple (On r p) b.issueLeases (fun _ => On r p) (On r p) := by
  unfold issueLeases
  split
  · exact issueForDispatch_rule
  · exact .pure fun _ hw => hw

theorem revokeLeases_rule : Triple (On r p) b.revokeLeases (fun _ => On r p) (On r p) := by
  unfold revokeLeases
  split
  · exact observe_rule revokeUncommitted_rule fun _ hw => hw
  · exact .pure fun _ hw => hw

variable (manifest : AuthorityManifest)

variable (proposal : WorkerInvocationProposalV1)

theorem authorize_guarded :
    b.Guarded r (fun j' => b.Granted r j' manifest proposal) (b.authorize manifest proposal) := by
  intro j
  refine checkThen (fun _ h => h.1) fun binding _ => ?_
  refine checkThen (fun _ h => h.1) fun _ _ => ?_
  refine portThen issueLeases_rule (fun _ h => h.1) fun issued => ?_
  dsimp only
  split
  · exact portThen revokeLeases_rule (fun _ h => h.1) fun _ => throwSteps fun _ h => h.1
  · refine .bind (observe_rule (write_steps (fun _ h => h.1) ?_) fun _ hw => hw) fun answer => ?_
    · intro j' ledger hj' hwrite
      exact .authorized _ (.authorized manifest proposal _ hj'.2) hwrite
    · cases answer with
      | ok u => exact pureSteps fun _ h => h
      | error e =>
        refine portThen revokeLeases_rule (fun _ h => h) fun revoked => ?_
        cases revoked with
        | ok u | error e' => exact throwSteps fun _ h => h

theorem decideAfterProposed_guarded (now : Nat) (hmade : r (.propose manifest proposal now)) :
    b.Guarded r (fun j' => b.Undecided j' manifest proposal) (b.decideAfterProposed manifest proposal now) := by
  intro j
  unfold decideAfterProposed
  split
  · rename_i hnone
    refine appendThen rfl (fun _ h => h.1) ?_ (pureSteps fun _ h => h)
    intro j' hj'
    exact .denied manifest proposal now hmade hj'.2 hnone
  · rename_i binding hbinding
    split
    · rename_i hper
      refine checkThen (fun _ h => h.1) fun expires hexpires => ?_
      rw [require_eq_ok, Option.ite_none_right_eq_some] at hexpires
      obtain ⟨htime, hexpires⟩ := hexpires
      obtain rfl := Option.some.inj hexpires
      refine appendThen rfl (fun _ h => h.1) ?_ (pureSteps fun _ h => h)
      intro j' hj'
      exact .challenged manifest proposal binding now hmade hj'.2 hbinding hper htime
    · rename_i hnever
      refine (authorize_guarded manifest proposal).run ?_
      intro j' hj'
      exact ⟨hj'.1, .unattended binding now hmade hj'.2 hbinding hnever⟩

private theorem proposed_undecided (manifest : AuthorityManifest) (proposal : WorkerInvocationProposalV1)
    (h : j.eventsOf (b.invocationId proposal.proposalId) = []) :
    b.Undecided (j.append (.proposed (b.invocationId proposal.proposalId) proposal manifest.manifestId)) manifest
      proposal := by
  have hevents : (j.append (.proposed (b.invocationId proposal.proposalId) proposal manifest.manifestId)).eventsOf
      (b.invocationId proposal.proposalId) =
        [.proposed (b.invocationId proposal.proposalId) proposal manifest.manifestId] := by
    rw [Journal.eventsOf, MemoryLedgerState.eventsOf] at h ⊢
    rw [Journal.append, List.filter_append, h]
    simp [InvocationLedgerEventV1.invocationId]
  refine ⟨?_, ?_⟩
  · rw [hevents]
    rfl
  · rw [hevents]
    rfl

theorem propose_guarded (now : Nat) (hmade : r (.propose manifest proposal now)) :
    b.Guarded r (fun _ => True) (b.propose manifest proposal now) := by
  intro j
  refine readThen (fun _ h => h.1) fun existing => ?_
  split
  · rename_i hempty
    have hwrite : ∀ j' ledger, existing = eventsOf (b.invocationId proposal.proposalId) j'.ledger ∧ b.Steps r j j' ∧ True →
        appendAtomic [.proposed (b.invocationId proposal.proposalId) proposal manifest.manifestId] none j'.ledger =
          .ok ledger →
        b.Steps r j { j' with ledger } ∧ b.Undecided { j' with ledger } manifest proposal := by
      rintro j' ledger ⟨rfl, hsteps, _⟩ hok
      cases hok
      have hnew := List.isEmpty_iff.mp hempty
      exact ⟨hsteps.tail (.appended _ (.proposed manifest proposal now hmade hnew) rfl),
        proposed_undecided manifest proposal hnew⟩
    refine .bind ((ledgerWrite_rule hwrite).refail fun _ => .imp ?_) fun _ =>
      decideAfterProposed_guarded manifest proposal now hmade j
    rintro j' (hj' | hj')
    · exact hj'.2.1
    · exact hj'.1
  · refine checkThen (fun _ h => h.2.1) fun _ hidentity => ?_
    simp only [verifyProposalIdentity, passes, unmet] at hidentity
    obtain ⟨stored, hstored, rfl⟩ := hidentity
    split
    · exact pureSteps fun _ h => h.2.1
    · rename_i hundecided
      refine (decideAfterProposed_guarded manifest proposal now hmade).run ?_
      rintro j' ⟨rfl, hsteps, _⟩
      exact ⟨hsteps, hstored, hundecided⟩
    · exact throwSteps fun _ h => h.2.1

theorem resolveApproval_guarded (response : ApprovalResponseV1) (hmade : r (.resolveApproval manifest response)) :
    b.Guarded r (fun _ => True) (b.resolveApproval manifest response) := by
  intro j
  refine readThen (fun _ h => h.1) fun events => ?_
  refine checkThen (fun _ h => h.2.1) fun identity hidentity => ?_
  obtain ⟨proposal, storedManifest⟩ := identity
  refine checkThen (fun _ h => h.2.1) fun _ hmanifest => ?_
  have hsame : storedManifest = manifest.manifestId := by simpa using hmanifest
  subst hsame
  refine checkThen (fun _ h => h.2.1) fun challenge hchallenge => ?_
  rw [require_eq_ok] at hchallenge
  refine checkThen (fun _ h => h.2.1) fun repeated hrepeated => ?_
  cases repeated with
  | some decision => exact pureSteps fun _ h => h.2.1
  | none =>
    refine checkThen (fun _ h => h.2.1) fun _ hnonce => ?_
    have hnonce' : challenge.nonce = response.nonce := by simpa using hnonce
    have hanswers : ∀ j', events = eventsOf response.invocationId j'.ledger →
        Answers j' manifest response proposal challenge := by
      rintro j' rfl
      exact ⟨hidentity, hchallenge, hrepeated, hnonce'⟩
    split
    · rename_i hexpired
      refine appendThen rfl (fun _ h => h.2.1) ?_ (pureSteps fun _ h => h)
      intro j' hj'
      exact .refused manifest response proposal challenge _ hmade (hanswers j' hj'.1) (by simp [hexpired])
    · rename_i htime
      split
      · rename_i hno
        refine appendThen rfl (fun _ h => h.2.1) ?_ (pureSteps fun _ h => h)
        intro j' hj'
        exact .refused manifest response proposal challenge _ hmade (hanswers j' hj'.1)
          (by simpa [htime] using hno)
      · rename_i hyes
        refine (authorize_guarded manifest proposal).run ?_
        intro j' hj'
        exact ⟨hj'.2.1, .approved response challenge hmade (hanswers j' hj'.1) (Nat.lt_of_not_le htime)
          (by simpa using hyes)⟩

theorem acceptDispatch_guarded (invocationId : StableId) :
    b.Guarded r (fun _ => True) (acceptDispatch invocationId) := by
  intro j
  refine readThen (fun _ h => h.1) fun events => ?_
  refine checkThen (fun _ h => h.2.1) fun _ hauthorized => ?_
  refine checkThen (fun _ h => h.2.1) fun _ hattempted => ?_
  split
  · exact pureSteps fun _ h => h.2.1
  · rename_i hnew
    refine append_steps rfl (fun _ h => h.2.1) ?_
    rintro j' ⟨rfl, _⟩
    exact .accepted invocationId (by simpa [requireAuthorized] using hauthorized) (by simpa using hattempted)
      (by simpa using hnew)

variable (invocationId : StableId)

theorem commitProgress_guarded (sequence : Nat) (payloadHash : String) :
    b.Guarded r (fun _ => True) (commitProgress invocationId sequence payloadHash) := by
  intro j
  refine readThen (fun _ h => h.1) fun events => ?_
  refine checkThen (fun _ h => h.2.1) fun _ hauthorized => ?_
  refine checkThen (fun _ h => h.2.1) fun _ haccepted => ?_
  refine checkThen (fun _ h => h.2.1) fun _ hopen => ?_
  split
  · exact checkSteps fun _ h => h.2.1
  · refine checkThen (fun _ h => h.2.1) fun next hnext => ?_
    refine checkThen (fun _ h => h.2.1) fun _ hsequence => ?_
    refine append_steps rfl (fun _ h => h.2.1) ?_
    rintro j' ⟨rfl, _⟩
    have hsame : sequence = next := by simpa using hsequence
    rw [hsame]
    exact .progressed invocationId next payloadHash (by simpa using haccepted) (by simpa using hopen)
      ((require_eq_ok _ _ _).mp hnext)

theorem settleOnce_steps {events : List InvocationLedgerEventV1} {invocationId : StableId} (outcomeHash : String)
    (uncertain : Bool) (hp : ∀ j', p j' → b.Steps r j j' ∧ events = j'.eventsOf invocationId)
    (hauthorized : requireAuthorized events = .ok ()) :
    b.Stepping r j p (b.settleOnce events invocationId outcomeHash uncertain) := by
  unfold settleOnce
  split
  · exact checkSteps fun j' h => (hp j' h).1
  · rename_i hnone
    refine write_steps (fun j' h => (hp j' h).1) ?_
    intro j' ledger hj' hwrite
    obtain ⟨_, rfl⟩ := hp j' hj'
    exact .settled invocationId outcomeHash uncertain
      (.settled _ _ _ (by simpa [requireAuthorized] using hauthorized) hnone) hwrite

theorem settle_guarded (outcomeHash : String) (uncertain : Bool) :
    b.Guarded r (fun _ => True) (b.settle invocationId outcomeHash uncertain) := by
  intro j
  refine readThen (fun _ h => h.1) fun events => ?_
  refine checkThen (fun _ h => h.2.1) fun _ hauthorized => ?_
  refine checkThen (fun _ h => h.2.1) fun _ _ => ?_
  exact settleOnce_steps outcomeHash uncertain (fun _ h => ⟨h.2.1, h.1⟩) hauthorized

private theorem settleUnacceptedDispatch_guarded (reason : String) (uncertain : Bool) :
    b.Guarded r (fun _ => True) (b.settleUnacceptedDispatch invocationId reason uncertain) := by
  intro j
  refine readThen (fun _ h => h.1) fun events => ?_
  refine checkThen (fun _ h => h.2.1) fun _ hauthorized => ?_
  exact settleOnce_steps _ uncertain (fun _ h => ⟨h.2.1, h.1⟩) hauthorized

theorem markDispatchDelivered_steps (outboxId : StableId) :
    b.Stepping r j (b.Steps r j) (ledgerWrite (markDispatchDelivered outboxId)) :=
  write_steps (fun _ h => h) fun _ _ _ hwrite => .delivered outboxId hwrite

theorem abandonDispatch_steps (outbox : DispatchOutboxV1) (reason : String) (uncertain : Bool) (e : BrokerError) :
    b.Stepping r j (b.Steps r j) (b.abandonDispatch outbox reason uncertain e) := by
  refine .bind (settleUnacceptedDispatch_guarded _ reason uncertain).steps fun _ => ?_
  refine .bind (markDispatchDelivered_steps outbox.outboxId) fun _ => ?_
  exact throwSteps fun _ h => h

/-- The attempt of an untried entry is written, and nothing since. -/
def Attempting (b : DurableInvocationBroker) (r : Call → Prop) (outbox : DispatchOutboxV1) (j j' : Journal) : Prop :=
  ∃ before, b.Steps r j before ∧ Untried before outbox ∧
    j' = before.append (.dispatchAttempted outbox.dispatch.invocationId)

/-- A host that is called right after an attempt and takes only broker steps. -/
def HostGuarded (b : DurableInvocationBroker) (r : Call → Prop)
    (host : ApprovedDispatchV1 → BrokerM DeliveryAcceptanceV1) : Prop :=
  ∀ outbox j, Triple (On r (b.Attempting r outbox j)) (host outbox.dispatch) (fun _ => On r (b.Steps r j))
    (On r (b.Steps r j))

theorem attempting_steps {j' : Journal} (h : b.Attempting r outbox j j') : b.Steps r j j' := by
  obtain ⟨before, hsteps, huntried, rfl⟩ := h
  exact hsteps.tail (.appended _ (.attempted outbox huntried) rfl)

theorem pending_holds (h : outbox ∈ pendingDispatches j.ledger) : j.Holds outbox := by
  obtain ⟨entry, hentry, rfl⟩ := List.mem_map.mp h
  obtain ⟨key, hkey⟩ := (mem_values _ entry).mp (List.mem_filter.mp hentry).1
  exact ⟨key, entry.2, hkey⟩

private theorem markWorkerResultDelivered_steps (outboxId : StableId) :
    b.Stepping r j (b.Steps r j) (do
      ledgerWrite (markWorkerResultDelivered outboxId)
      pure 1) :=
  writeThen (fun _ h => h) (fun _ _ _ hwrite => .resultDelivered outboxId hwrite) (pureSteps fun _ h => h)

theorem deliverWorkerResults_guarded : b.Guarded r (fun _ => True) deliverWorkerResults := by
  intro j
  refine readThen (fun _ h => h.1) fun pending => ?_
  refine .conseq ?_ (fun _ hw => (show On r (b.Steps r j) _ from hw.imp fun _ h => h.2.1))
    (fun _ _ hw => hw) fun _ hw => hw
  refine .sumOver pending fun result _ => ?_
  refine .bind deliverResult_rule fun acceptance => ?_
  cases acceptance with
  | accepted | alreadyAccepted => exact markWorkerResultDelivered_steps result.outboxId
  | rejectedDefinitelyNotStarted | ambiguous => exact throwSteps fun _ h => h

theorem Guarded.dropped (h : b.Guarded r (fun _ => True) m) : b.Guarded r (fun _ => True) (do let _ ← m) := by
  intro j
  exact .bind (h j) fun _ => pureSteps fun _ h => h

theorem startDispatch_steps (outbox : DispatchOutboxV1) :
    Triple (On r (b.Attempting r outbox j)) (startDispatch outbox.dispatch)
      (fun turn w => (∀ call ∈ turn.nested, r call) ∧ On r (b.Steps r j) w) (On r (b.Steps r j)) := by
  refine startDispatch_rule ?_
  rintro j' ⟨before, hsteps, huntried, rfl⟩
  exact hsteps.tail (.dispatched outbox huntried)

private theorem acceptAndMark_steps (outbox : DispatchOutboxV1) :
    b.Stepping r j (b.Steps r j) (do
      acceptDispatch outbox.dispatch.invocationId
      ledgerWrite (markDispatchDelivered outbox.outboxId)
      pure true) := by
  refine .bind (acceptDispatch_guarded _).steps fun _ => ?_
  exact .bind (markDispatchDelivered_steps outbox.outboxId) fun _ => pureSteps fun _ h => h

section Host
variable {host : ApprovedDispatchV1 → BrokerM DeliveryAcceptanceV1} (hhost : b.HostGuarded r host)
include hhost

theorem deliverOutbox_guarded
    (outbox : DispatchOutboxV1) : b.Guarded r (fun j' => j'.Holds outbox) (b.deliverOutbox host outbox) := by
  intro j
  refine readThen (fun _ h => h.1) fun events => ?_
  split
  · refine writeThen (fun _ h => h.2.1) ?_ (pureSteps fun _ h => h)
    intro j' ledger _ hwrite
    exact .delivered outbox.outboxId hwrite
  · rename_i hopen
    split
    · exact fun _ hw => abandonDispatch_steps outbox _ _ _ _ (hw.imp fun _ h => h.2.1)
    · rename_i huntried
      have hattempt : ∀ j' ledger,
          events = eventsOf outbox.dispatch.invocationId j'.ledger ∧ b.Steps r j j' ∧ j'.Holds outbox →
          appendAtomic [.dispatchAttempted outbox.dispatch.invocationId] none j'.ledger = .ok ledger →
          b.Attempting r outbox j { j' with ledger } := by
        rintro j' ledger ⟨rfl, hsteps, hheld⟩ hwrite
        cases hwrite
        exact ⟨j', hsteps, ⟨hheld, by simpa using hopen, by simpa using huntried⟩, rfl⟩
      refine .bind ((ledgerWrite_rule hattempt).refail fun _ => .imp ?_)
        fun _ => ?_
      · rintro j' (hj' | hj')
        · exact hj'.2.1
        · exact attempting_steps hj'
      · refine .bind (observe_rule (hhost outbox j) fun _ hw => hw) fun answer => ?_
        cases answer with
        | error e => exact abandonDispatch_steps outbox _ _ e
        | ok acceptance =>
          cases acceptance with
          | accepted | alreadyAccepted => exact acceptAndMark_steps outbox
          | rejectedDefinitelyNotStarted | ambiguous => exact abandonDispatch_steps outbox _ _ _

private theorem deliverDispatches_guarded : b.Guarded r (fun _ => True) (b.deliverDispatches host) := by
  intro j
  refine readThen (fun _ h => h.1) fun pending => ?_
  -- entries read as pending stay in the outbox while earlier ones are delivered
  have hheld : ∀ j₁ j₂, b.Steps r j₁ j₂ → (∀ o ∈ pending, j₁.Holds o) → ∀ o ∈ pending, j₂.Holds o :=
    fun _ _ hsteps hall o ho => steps_holds hsteps (hall o ho)
  have hround : ∀ outbox ∈ pending,
      Triple (On r fun j' => b.Steps r j j' ∧ ∀ o ∈ pending, j'.Holds o) (do
        let delivered ← b.deliverOutbox host outbox
        pure (if delivered then 1 else 0)) (fun _ => On r fun j' => b.Steps r j j' ∧ ∀ o ∈ pending, j'.Holds o)
        (On r fun j' => b.Steps r j j' ∧ ∀ o ∈ pending, j'.Holds o) := by
    intro outbox houtbox
    have hkeeps := (deliverOutbox_guarded hhost outbox).keeps hheld j
    refine .bind (hkeeps.conseq (fun _ => .imp ?_) (fun _ _ hw => hw) fun _ hw => hw) fun _ => .pure fun _ hw => hw
    intro j' hj'
    exact ⟨hj'.1, hj'.2 outbox houtbox, hj'.2⟩
  refine (Triple.sumOver pending hround).conseq (fun _ => On.imp ?_) (fun _ _ => On.imp fun _ h => h.1)
    fun _ => On.imp fun _ h => h.1
  rintro j' ⟨rfl, hsteps, _⟩
  exact ⟨hsteps, fun outbox houtbox => pending_holds houtbox⟩

private theorem deliverPendingDispatchFor_guarded (invocationId : StableId) :
    b.Guarded r (fun _ => True) (b.deliverPendingDispatchFor host invocationId) := by
  intro j
  refine readThen (fun _ h => h.1) fun pending => ?_
  cases hfind : pending.find? fun entry => entry.dispatch.invocationId == invocationId with
  | none => exact pureSteps fun _ h => h.2.1
  | some outbox =>
    refine (deliverOutbox_guarded hhost outbox).run ?_
    rintro j' ⟨rfl, hsteps, _⟩
    exact ⟨hsteps, pending_holds (List.mem_of_find?_eq_some hfind)⟩

theorem perform_guarded
    (call : Call) (hmade : r call) : b.Guarded r (fun _ => True) (b.perform host call) := by
  cases call with
  | propose manifest proposal now => exact (propose_guarded manifest proposal now hmade).dropped
  | resolveApproval manifest response => exact (resolveApproval_guarded manifest response hmade).dropped
  | acceptDispatch invocationId => exact acceptDispatch_guarded invocationId
  | commitProgress invocationId sequence payloadHash => exact commitProgress_guarded invocationId sequence payloadHash
  | settle invocationId outcomeHash uncertain => exact settle_guarded invocationId outcomeHash uncertain
  | pendingDispatches =>
    intro j
    exact readThen (fun _ h => h.1) fun _ => pureSteps fun _ h => h.2.1
  | markDispatchDelivered outboxId =>
    intro j
    exact write_steps (fun _ h => h.1) fun _ _ _ hwrite => .delivered outboxId hwrite
  | deliverDispatches => exact (deliverDispatches_guarded hhost).dropped
  | deliverPendingDispatchFor invocationId =>
    exact (deliverPendingDispatchFor_guarded hhost invocationId).dropped
  | deliverWorkerResults => exact deliverWorkerResults_guarded.dropped

private theorem performEach_steps (calls : List Call) (hmade : ∀ call ∈ calls, r call) :
    b.Stepping r j (b.Steps r j) (b.performEach host calls) := by
  induction calls with
  | nil => exact pureSteps fun _ h => h
  | cons call rest ih =>
    rw [List.forall_mem_cons] at hmade
    refine .bind (observe_rule (perform_guarded hhost call hmade.1).steps fun _ hw => hw) fun _ => ?_
    exact ih hmade.2

end Host

private theorem hostDispatch_guarded (depth : Nat) : b.HostGuarded r (b.hostDispatch depth) := by
  induction depth with
  | zero =>
    intro outbox j
    exact .bind (startDispatch_steps outbox) fun turn => .given fun _ => answered_rule turn.answer
  | succ depth ih =>
    intro outbox j
    refine .bind (startDispatch_steps outbox) fun turn => .given fun hmade => ?_
    exact .bind (performEach_steps ih turn.nested hmade) fun _ => answered_rule turn.answer

theorem runCalls_steps (depth : Nat) (calls : List Call)
    (hmade : ∀ call ∈ calls, r call) (w : World) (hturns : ∀ turn ∈ w.turns, ∀ call ∈ turn.nested, r call) :
    b.Steps r w.journal (b.runCalls depth calls w).journal := by
  induction calls generalizing w with
  | nil => exact .refl
  | cons call rest ih =>
    rw [List.forall_mem_cons] at hmade
    have hcall : On r (b.Steps r w.journal) (b.perform (b.hostDispatch depth) call w).2 :=
      Triple.state (perform_guarded (hostDispatch_guarded depth) call hmade.1).steps ⟨.refl, hturns⟩
    exact hcall.1.trans (ih hmade.2 _ hcall.2)

end DurableInvocationBroker
end Aworkit.Core
