import Aworkit.Core.BrokerRun

/-! At-most-once dispatch: no invocation reaches the host twice, and none before its authorization and attempt are
durable. -/
namespace Aworkit.Core
open Protocol OrderedMap MemoryLedgerState List

namespace DurableInvocationBroker
variable {b : DurableInvocationBroker} {r : Call → Prop} {j j' : Journal}

private theorem step_dispatched (h : b.Step r j j') :
    j'.dispatched = j.dispatched ∨
      ∃ outbox, Untried j outbox ∧
        j'.ledger.events = j.ledger.events ++ [.dispatchAttempted outbox.dispatch.invocationId] ∧
        j'.dispatched = j.dispatched ++ [⟨outbox.dispatch, j'.ledger.events⟩] := by
  cases h with
  | dispatched outbox huntried => exact .inr ⟨outbox, huntried, rfl, rfl⟩
  | _ => exact .inl rfl

/-- What holds of the outbox and all host calls so far, throughout a run. -/
structure DispatchInvariant (j : Journal) : Prop where
  backed : ∀ outbox, j.Holds outbox → .authorized outbox.dispatch ∈ j.ledger.events
  attempted : ∀ record ∈ j.dispatched, .dispatchAttempted record.dispatch.invocationId ∈ j.ledger.events
  once : (j.dispatched.map fun record => record.dispatch.invocationId).Nodup
  cleared : ∀ record ∈ j.dispatched, .authorized record.dispatch ∈ record.seen ∧
    .dispatchAttempted record.dispatch.invocationId ∈ record.seen

theorem DispatchInvariant.fresh (h : DispatchInvariant j) {outbox : DispatchOutboxV1} (huntried : Untried j outbox) :
    outbox.dispatch.invocationId ∉ j.dispatched.map fun record => record.dispatch.invocationId := by
  intro hmem
  obtain ⟨record, hrecord, hsame⟩ := mem_map.mp hmem
  have hattempt := h.attempted record hrecord
  rw [hsame] at hattempt
  have hnone := any_eq_false.mp huntried.untried (.dispatchAttempted outbox.dispatch.invocationId)
    (mem_filter.mpr ⟨hattempt, by simp [InvocationLedgerEventV1.invocationId]⟩)
  exact hnone rfl

private theorem step_dispatchInvariant (h : b.Step r j j') (hinv : DispatchInvariant j) : DispatchInvariant j' := by
  have hbacked : ∀ outbox, j'.Holds outbox → .authorized outbox.dispatch ∈ j'.ledger.events := by
    intro outbox hheld
    rcases holds_of_step h hheld with hbefore | hnew
    · exact step_events h (hinv.backed outbox hbefore)
    · exact hnew
  rcases step_dispatched h with hsame | ⟨outbox, huntried, hevents, hdispatched⟩
  · refine ⟨hbacked, ?_, ?_, ?_⟩
    · rw [hsame]
      exact fun record hrecord => step_events h (hinv.attempted record hrecord)
    · rw [hsame]
      exact hinv.once
    · rw [hsame]
      exact hinv.cleared
  · have hattempt : .dispatchAttempted outbox.dispatch.invocationId ∈ j'.ledger.events := by
      rw [hevents]
      exact mem_append_right _ mem_cons_self
    have hauthorized := step_events h (hinv.backed outbox huntried.held)
    refine ⟨hbacked, ?_, ?_, ?_⟩
    · intro record hrecord
      rw [hdispatched, mem_append, mem_singleton] at hrecord
      rcases hrecord with hold | rfl
      · exact step_events h (hinv.attempted record hold)
      · exact hattempt
    · rw [hdispatched, map_append]
      exact nodup_append.mpr ⟨hinv.once, nodup_singleton _, by
        intro id hid other hother
        rw [map_singleton, mem_singleton] at hother
        rintro rfl
        exact hinv.fresh huntried (hother ▸ hid)⟩
    · intro record hrecord
      rw [hdispatched, mem_append, mem_singleton] at hrecord
      rcases hrecord with hold | rfl
      · exact hinv.cleared record hold
      · exact ⟨hauthorized, hattempt⟩

theorem steps_dispatchInvariant (h : b.Steps r j j') (hinv : DispatchInvariant j) : DispatchInvariant j' := by
  induction h with
  | refl => exact hinv
  | tail _ hstep ih => exact step_dispatchInvariant hstep ih

theorem empty_dispatchInvariant : DispatchInvariant ⟨empty, []⟩ := by
  refine ⟨?_, ?_, nodup_nil, ?_⟩
  · rintro outbox ⟨key, flag, hkey⟩
    simp [empty] at hkey
  · intro record hrecord
    cases hrecord
  · intro record hrecord
    cases hrecord

/-- Whatever is called, fails or crashes, and whatever the host does, each invocation is dispatched at most once,
behind its authorization and attempt. -/
theorem host_dispatch_at_most_once (b : DurableInvocationBroker) (depth : Nat) (calls : List Call)
    (faults : List Fault) (turns : List HostTurn) (leases : List (Answer (List StableId)))
    (revocations : List (Answer Unit)) (workers : List (Answer DeliveryAcceptanceV1)) :
    let j := (b.runCalls depth calls (World.start faults turns leases revocations workers)).journal
    (j.dispatched.map fun record => record.dispatch.invocationId).Nodup ∧
      ∀ record ∈ j.dispatched, .authorized record.dispatch ∈ record.seen ∧
        .dispatchAttempted record.dispatch.invocationId ∈ record.seen := by
  intro j
  have hsteps : b.Steps (fun _ => True) ⟨empty, []⟩ j :=
    runCalls_steps depth calls (fun _ _ => trivial) (World.start faults turns leases revocations workers)
      fun _ _ _ _ => trivial
  have hinv : DispatchInvariant j := steps_dispatchInvariant hsteps empty_dispatchInvariant
  exact ⟨hinv.once, hinv.cleared⟩

/-- SHA-256 at the texts the sample run digests. -/
def sampleBrokerDigests : List (String × String) :=
  [("test", "9f86d081884c7d659a2feaa0c55ad015a3bf4f1b2b0b822cd15d6c15b0f00a08"),
   ("invoke.9f86d081884c7d659a2feaa0c55ad015", "9d8db68c173c7678a59ab566f290b6b936abbdc59a2d65acd0080393c9dbbf0f"),
   ("host_dispatch_recovery_uncertain", "f2359a7cf340f2cbdbdeff945f172eb73dcd7e58d85f7d50568a9b5ae1f35808"),
   ("host_dispatch_transport_uncertain", "0548fb4ccde565c5517ed1d0b272d6e3a53cce0d0e78671a6e6aa0fd46250c53")]

def sampleBroker : DurableInvocationBroker :=
  .new (fun text => .ofText ((sampleBrokerDigests.lookup text).getD "")) 60000

def sampleManifest : AuthorityManifest :=
  ⟨.ofText "manifest.1", [⟨.ofText "capability.read", true, true, .never⟩]⟩

def sampleProposal : WorkerInvocationProposalV1 :=
  ⟨.ofText "test", .ofText "run.1", .ofText "node.1", 1, .ofText "capability.read", "sha256:00"⟩

/-- A host that asks for delivery again before its answer is lost. -/
theorem sample_dispatched_once :
    let j := (sampleBroker.runCalls 1 [.propose sampleManifest sampleProposal 0, .deliverDispatches, .deliverDispatches]
      (World.start [] [⟨[.deliverDispatches], .returns (.error .unavailable)⟩] [] [] [])).journal
    j.dispatched.length = 1 ∧ (j.dispatched.map fun record => record.dispatch.invocationId).Nodup :=
  ⟨by decide +kernel, (host_dispatch_at_most_once sampleBroker 1
    [.propose sampleManifest sampleProposal 0, .deliverDispatches, .deliverDispatches] []
    [⟨[.deliverDispatches], .returns (.error .unavailable)⟩] [] [] []).1⟩

end DurableInvocationBroker
end Aworkit.Core
