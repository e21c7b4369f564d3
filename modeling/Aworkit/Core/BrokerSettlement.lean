import Aworkit.Core.BrokerApproval

/-! Settlement: one settlement and one result for each invocation, progress without gaps, and nothing afterwards as
long as no acceptance comes late. -/
namespace Aworkit.Core
open Protocol OrderedMap Hoare Fallible MemoryLedgerState InvocationLedgerEventV1 List

section Events
variable {events : List InvocationLedgerEventV1}

theorem settlement_none_iff : events.findSome? settlement? = none ↔ events.any isSettled = false := by
  rw [findSome?_eq_none_iff, any_eq_false]
  refine forall₂_congr fun event _ => ?_
  cases event <;> simp [settlement?, isSettled]

variable (invocationId : StableId)

def settlementsOf (events : List InvocationLedgerEventV1) : List InvocationLedgerEventV1 :=
  events.filter fun event => event.isSettled && event.invocationId == invocationId

def progressOf (events : List InvocationLedgerEventV1) : List Nat :=
  ((events.filter fun event => event.invocationId == invocationId).filterMap
    progress?).map Prod.fst

theorem settlementsOf_eq_nil (ledger : MemoryLedgerState) :
    settlementsOf invocationId ledger.events = [] ↔ (ledger.eventsOf invocationId).any isSettled = false := by
  rw [settlementsOf, filter_eq_nil_iff, any_eq_false]
  simp only [mem_eventsOf, Bool.and_eq_true, beq_iff_eq]
  exact forall_congr' fun event => by tauto

private theorem max_range' (n : Nat) : (range' 1 n).max?.getD 0 = n := by
  cases n with
  | zero => rfl
  | succ n =>
    have hmax : (range' 1 (n + 1)).max? = some (n + 1) := by
      rw [max?_eq_some_iff]
      refine ⟨mem_range'_1.mpr ⟨by omega, by omega⟩, ?_⟩
      intro k hk
      have hbound := (mem_range'_1.mp hk).2
      omega
    rw [hmax, Option.getD_some]

end Events

namespace DurableInvocationBroker
variable {b : DurableInvocationBroker} {r : Call → Prop} {j j' : Journal} {events : List InvocationLedgerEventV1}

theorem recorded_settled_once (h : Justified (b.Recorded r) events) (invocationId : StableId) :
    (settlementsOf invocationId events).length ≤ 1 := by
  refine h.induction (motive := fun log => (settlementsOf invocationId log).length ≤ 1) (Nat.zero_le 1) ?_
  rintro log last hlog ⟨j, rfl, hadmits⟩ ih
  rw [settlementsOf, filter_append, length_append]
  by_cases hlast : (last.isSettled && last.invocationId == invocationId) = true
  · simp only [filter_cons, hlast, if_true, filter_nil, length_singleton]
    rw [Bool.and_eq_true, beq_iff_eq] at hlast
    obtain ⟨hsettled, rfl⟩ := hlast
    cases hadmits with
    | settled i outcomeHash uncertain hauthorized hfirst =>
      have hnone := (settlementsOf_eq_nil i j.ledger).mpr (settlement_none_iff.mp hfirst)
      rw [settlementsOf] at hnone
      exact Nat.le_of_eq (congrArg (fun settlements => settlements.length + 1) hnone)
    | _ => cases hsettled
  · simp only [filter_cons, hlast, filter_nil]
    exact ih

theorem recorded_progress (h : Justified (b.Recorded r) events) (invocationId : StableId) :
    ∃ n, progressOf invocationId events = range' 1 n := by
  refine h.induction (motive := fun log => ∃ n, progressOf invocationId log = range' 1 n) ⟨0, rfl⟩ ?_
  rintro log last hlog ⟨j, rfl, hadmits⟩ ⟨n, hn⟩
  have hsnoc : progressOf invocationId (j.ledger.events ++ [last]) =
      progressOf invocationId j.ledger.events ++ progressOf invocationId [last] := by
    simp [progressOf, filter_append, filterMap_append, map_append]
  rw [hsnoc, hn]
  by_cases hlast : last.invocationId = invocationId
  · subst hlast
    cases hadmits with
    | progressed i sequence payloadHash haccepted hopen hnext =>
      have hmax : (progressOf i j.ledger.events).max?.getD 0 = n := by
        rw [show progressOf i j.ledger.events = _ from hn, max_range']
      refine ⟨n + 1, ?_⟩
      have hsequence : n + 1 = sequence := by
        rw [show (((j.eventsOf i).filterMap progress?).map Prod.fst).max?.getD 0 = n from hmax]
          at hnext
        unfold checkedSucc at hnext
        split at hnext
        · exact Option.some.inj hnext
        · cases hnext
      subst hsequence
      rw [range'_1_concat, Nat.add_comm 1 n]
      simp [progressOf, progress?]
    | _ => exact ⟨n, by simp [progressOf, progress?]⟩
  · exact ⟨n, by simp [progressOf, hlast]⟩

/-- Acceptances apart, no guard admits an event of a settled invocation. -/
theorem admits_unsettled (h : Justified (b.Recorded r) j.ledger.events) {event : InvocationLedgerEventV1}
    (haccepts : ∀ i, event = .dispatchAccepted i → (j.eventsOf i).any isSettled = false)
    (hadmits : b.Admits r j event) : (j.eventsOf event.invocationId).any isSettled = false := by
  cases hadmits with
  | proposed manifest proposal now hmade hempty =>
    show (j.eventsOf (b.invocationId proposal.proposalId)).any _ = false
    rw [hempty]
    rfl
  | denied _ _ _ _ hundecided | challenged _ _ _ _ _ hundecided =>
    exact settlement_none_iff.mp (replayDecision_open (.inl hundecided.undecided)).unsettled
  | refused manifest response proposal challenge reason hmade hanswers hwhy =>
    exact settlement_none_iff.mp (repeatedResponse_open hanswers.first).unsettled
  | authorized manifest proposal leaseIds hgranted => exact settlement_none_iff.mp (granted_open h hgranted).unsettled
  | attempted outbox huntried =>
    refine any_eq_false.mpr fun event hevent hsettled => ?_
    exact any_eq_false.mp huntried.open_ event hevent (by rw [hsettled, Bool.true_or])
  | accepted invocationId hauthorized hattempted hnew => exact haccepts invocationId rfl
  | progressed invocationId sequence payloadHash haccepted hopen hnext => exact hopen
  | settled invocationId outcomeHash uncertain hauthorized hfirst => exact settlement_none_iff.mp hfirst

/-- No event follows the settlement of its invocation. -/
def Terminal (events : List InvocationLedgerEventV1) : Prop :=
  ∀ before event after, events = before ++ event :: after →
    ∀ earlier ∈ before, earlier.isSettled = true → earlier.invocationId ≠ event.invocationId

/-- Each acceptance that reached its write found its invocation unsettled. -/
abbrev Timely (events : List InvocationLedgerEventV1) : Prop :=
  Justified (fun before event => event.isAccepted = true → settlementsOf event.invocationId before = []) events

theorem recorded_terminal_iff (h : Justified (b.Recorded r) events) : Terminal events ↔ Timely events := by
  constructor
  · intro hterminal before event after hsplit _
    refine filter_eq_nil_iff.mpr fun earlier hearlier hsettled => ?_
    rw [Bool.and_eq_true, beq_iff_eq] at hsettled
    exact hterminal before _ after hsplit earlier hearlier hsettled.1 hsettled.2
  · intro htimely before event after hsplit earlier hearlier hsettled hsame
    obtain ⟨j, rfl, hadmits⟩ := h before event after hsplit
    have hbefore : Justified (b.Recorded r) j.ledger.events := (hsplit ▸ h).initial
    have haccepts : ∀ i, event = .dispatchAccepted i → (j.eventsOf i).any isSettled = false := by
      rintro i rfl
      exact (settlementsOf_eq_nil i j.ledger).mp (htimely _ _ after hsplit rfl)
    have hopen := admits_unsettled hbefore haccepts hadmits
    exact any_eq_false.mp hopen earlier (mem_eventsOf.mpr ⟨hearlier, hsame⟩) hsettled

/-- A result stands under the digest of its own invocation. -/
def ResultsKeyed (b : DurableInvocationBroker) (ledger : MemoryLedgerState) : Prop :=
  ∀ (key : String) (entry : WorkerResultOutboxV1 × Bool), ledger.workerResults[key]? = some entry →
    key = (b.stableDigestId .result entry.1.invocationId.val).val

private theorem step_resultsKeyed (h : b.Step r j j') (hkeyed : b.ResultsKeyed j.ledger) : b.ResultsKeyed j'.ledger := by
  intro key entry hentry
  cases h with
  | appended event hevent | dispatched outbox huntried => exact hkeyed key entry hentry
  | authorized dispatch hevent hwrite =>
    rw [(appendAtomic_entry hwrite).2.1] at hentry
    exact hkeyed key entry hentry
  | settled invocationId outcomeHash uncertain hevent hwrite =>
    unfold appendSettlementAtomic at hwrite
    split at hwrite
    · split at hwrite
      · cases hwrite
      · cases hwrite
        exact hkeyed key entry hentry
    · cases hwrite
      rcases found_insert hentry with ⟨rfl, rfl⟩ | ⟨_, hold⟩
      · rfl
      · exact hkeyed key entry hold
  | delivered outboxId hwrite =>
    obtain ⟨_, _, _, rfl⟩ := markDispatchDelivered_ok hwrite
    exact hkeyed key entry hentry
  | resultDelivered outboxId hwrite =>
    unfold markWorkerResultDelivered at hwrite
    split at hwrite
    · cases hwrite
    · rename_i result flag hresult
      cases hwrite
      rcases found_insert hentry with ⟨rfl, rfl⟩ | ⟨_, hold⟩
      · exact hkeyed outboxId.val (result, flag) hresult
      · exact hkeyed key entry hold

private theorem steps_resultsKeyed (h : b.Steps r j j') (hkeyed : b.ResultsKeyed j.ledger) : b.ResultsKeyed j'.ledger := by
  induction h with
  | refl => exact hkeyed
  | tail _ hstep ih => exact step_resultsKeyed hstep ih

/-- In every run each invocation has at most one settlement and one result, and its progress counts up from one.
Nothing follows a settlement if and only if each acceptance found its invocation unsettled when it was written. -/
theorem settlement_terminal (b : DurableInvocationBroker) (depth : Nat) (calls : List Call) (faults : List Fault)
    (turns : List HostTurn) (leases : List (Answer (List StableId))) (revocations : List (Answer Unit))
    (workers : List (Answer DeliveryAcceptanceV1)) :
    let start := World.start faults turns leases revocations workers
    let ledger := (b.runCalls depth calls start).journal.ledger
    (∀ invocationId, (settlementsOf invocationId ledger.events).length ≤ 1) ∧
      (∀ (key key' : String) (entry entry' : WorkerResultOutboxV1 × Bool), ledger.workerResults[key]? = some entry →
        ledger.workerResults[key']? = some entry' → entry.1.invocationId = entry'.1.invocationId → key = key') ∧
      (∀ invocationId, ∃ n, progressOf invocationId ledger.events = range' 1 n) ∧
      (Terminal ledger.events ↔ Timely ledger.events) := by
  intro start ledger
  have hsteps := runCalls_made (b := b) depth calls faults turns leases revocations workers
  have hrecorded := steps_recorded hsteps rfl
  have hkeyed : b.ResultsKeyed ledger := by
    refine steps_resultsKeyed hsteps ?_
    intro key entry hentry
    simp [empty] at hentry
  refine ⟨recorded_settled_once hrecorded, ?_, recorded_progress hrecorded, recorded_terminal_iff hrecorded⟩
  intro key key' entry entry' hentry hentry' hsame
  rw [hkeyed key entry hentry, hkeyed key' entry' hentry', hsame]

def sampleInvocationId : StableId := sampleBroker.invocationId sampleProposal.proposalId

def settledCalls : List Call :=
  [.propose sampleManifest sampleProposal 0, .deliverDispatches, .settle sampleInvocationId "sha256:00" false]

def acceptingHost : World := World.start [] [⟨[], .returns (.ok .accepted)⟩] [] [] []

/-- A dispatch that is accepted, then settled. -/
theorem sample_settlement_terminal :
    let events := (sampleBroker.runCalls 0 settledCalls acceptingHost).journal.ledger.events
    events.any isSettled = true ∧ Terminal events :=
  ⟨by decide +kernel, (settlement_terminal sampleBroker 0 settledCalls [] [⟨[], .returns (.ok .accepted)⟩] [] []
    []).2.2.2.mpr (by decide +kernel)⟩

def lostCalls : List Call := [.propose sampleManifest sampleProposal 0, .deliverDispatches]

def lostHost : World := World.start [] [⟨[], .returns (.error .unavailable)⟩] [] [] []

/-- A lost host's dispatch is settled as uncertain; the acceptance then recorded comes after the settlement. -/
theorem late_acceptance_after_settlement :
    ¬ Terminal
      (sampleBroker.runCalls 0 (lostCalls ++ [.acceptDispatch sampleInvocationId]) lostHost).journal.ledger.events := by
  intro hterminal
  have hevents : (sampleBroker.runCalls 0 (lostCalls ++ [.acceptDispatch sampleInvocationId]) lostHost).journal.ledger.events =
      (sampleBroker.runCalls 0 lostCalls lostHost).journal.ledger.events ++ [.dispatchAccepted sampleInvocationId] := by
    decide +kernel
  have hmem : .settled sampleInvocationId (sampleBroker.outcomeHash "host_dispatch_transport_uncertain") true ∈
      (sampleBroker.runCalls 0 lostCalls lostHost).journal.ledger.events := by
    decide +kernel
  exact hterminal _ _ [] hevents _ hmem rfl rfl

end DurableInvocationBroker
end Aworkit.Core
