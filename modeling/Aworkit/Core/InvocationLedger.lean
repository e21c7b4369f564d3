import Aworkit.Collections.OrderedMap
import Aworkit.Logic.Hoare
import Aworkit.Protocol.Identity

/-! The durable invocation ledger of the core: its events, its two outboxes and the port of the broker to them. -/
namespace Aworkit.Core
open Protocol OrderedMap Hoare

inductive ApprovalRequirement where
  | never | perInvocation
  deriving DecidableEq

structure CapabilityBinding where
  capabilityId : StableId
  (enabled compatible : Bool)
  approval : ApprovalRequirement

structure AuthorityManifest where
  manifestId : StableId
  capabilityBindings : List CapabilityBinding

structure WorkerInvocationProposalV1 where
  (proposalId runId nodeId : StableId)
  attempt : Nat
  capabilityId : StableId
  payloadHash : String
  deriving DecidableEq

structure ApprovalChallengeV1 where
  (invocationId nonce : StableId)
  expiresEpochMillis : Nat
  capabilityId : StableId
  deriving DecidableEq

structure ApprovalResponseV1 where
  (invocationId nonce : StableId)
  approved : Bool
  nowEpochMillis : Nat

structure ApprovedDispatchV1 where
  (invocationId proposalId capabilityId : StableId)
  payloadHash : String
  manifestId : StableId
  leaseIds : List StableId
  deriving DecidableEq

inductive BrokerDecisionV1 where
  | denied
  | awaitingApproval (challenge : ApprovalChallengeV1)
  | dispatchReady (dispatch : ApprovedDispatchV1)
  | alreadySettled (outcomeHash : String)
  deriving DecidableEq

inductive InvocationLedgerEventV1 where
  | proposed (invocationId : StableId) (proposal : WorkerInvocationProposalV1) (manifestId : StableId)
  | approvalRequested (challenge : ApprovalChallengeV1)
  | approvalRejected (invocationId : StableId) (reason : String)
  | authorized (dispatch : ApprovedDispatchV1)
  | dispatchAttempted (invocationId : StableId)
  | dispatchAccepted (invocationId : StableId)
  | progressCommitted (invocationId : StableId) (sequence : Nat) (payloadHash : String)
  | settled (invocationId : StableId) (outcomeHash : String) (uncertain : Bool)
  deriving DecidableEq

structure DispatchOutboxV1 where
  outboxId : StableId
  dispatch : ApprovedDispatchV1
  deriving DecidableEq

structure WorkerResultOutboxV1 where
  (outboxId invocationId : StableId)
  outcomeHash : String
  uncertain : Bool
  deriving DecidableEq

inductive DeliveryAcceptanceV1 where
  | accepted | alreadyAccepted | rejectedDefinitelyNotStarted | ambiguous
  deriving DecidableEq

inductive BrokerError where
  | unavailable | commitFailed | identityConflict | unknownInvocation | invalidApproval | staleManifest
  | notAuthorized | alreadySettled | notAccepted | notAttempted | progressSequence | incompleteState
  | dispatchRejected | ambiguousDispatch | workerDeliveryRejected | ambiguousWorkerDelivery
  | duplicateLease | leaseRollbackFailed
  deriving DecidableEq

namespace InvocationLedgerEventV1

def invocationId : InvocationLedgerEventV1 → StableId
  | .proposed id _ _ | .approvalRejected id _ | .dispatchAttempted id | .dispatchAccepted id
  | .progressCommitted id _ _ | .settled id _ _ => id
  | .approvalRequested challenge => challenge.invocationId
  | .authorized dispatch => dispatch.invocationId

def isAuthorized : InvocationLedgerEventV1 → Bool
  | .authorized _ => true
  | _ => false

def isRejected : InvocationLedgerEventV1 → Bool
  | .approvalRejected _ _ => true
  | _ => false

def isAttempted : InvocationLedgerEventV1 → Bool
  | .dispatchAttempted _ => true
  | _ => false

def isAccepted : InvocationLedgerEventV1 → Bool
  | .dispatchAccepted _ => true
  | _ => false

def isSettled : InvocationLedgerEventV1 → Bool
  | .settled _ _ _ => true
  | _ => false

def proposal? : InvocationLedgerEventV1 → Option (WorkerInvocationProposalV1 × StableId)
  | .proposed _ proposal manifestId => some (proposal, manifestId)
  | _ => none

def challenge? : InvocationLedgerEventV1 → Option ApprovalChallengeV1
  | .approvalRequested challenge => some challenge
  | _ => none

def dispatch? : InvocationLedgerEventV1 → Option ApprovedDispatchV1
  | .authorized dispatch => some dispatch
  | _ => none

def settlement? : InvocationLedgerEventV1 → Option (String × Bool)
  | .settled _ outcomeHash uncertain => some (outcomeHash, uncertain)
  | _ => none

def progress? : InvocationLedgerEventV1 → Option (Nat × String)
  | .progressCommitted _ sequence payloadHash => some (sequence, payloadHash)
  | _ => none

end InvocationLedgerEventV1

/-- The ledger in memory; an outbox entry carries whether it was delivered. -/
structure MemoryLedgerState where
  events : List InvocationLedgerEventV1
  outbox : Std.ExtTreeMap String (DispatchOutboxV1 × Bool)
  workerResults : Std.ExtTreeMap String (WorkerResultOutboxV1 × Bool)

namespace MemoryLedgerState

def empty : MemoryLedgerState := ⟨[], ∅, ∅⟩

def appendAtomic (events : List InvocationLedgerEventV1) (outbox : Option DispatchOutboxV1) (ledger : MemoryLedgerState) :
    Except BrokerError MemoryLedgerState :=
  match outbox with
  | none => .ok { ledger with events := ledger.events ++ events }
  | some entry =>
    match ledger.outbox[entry.outboxId.val]? with
    | some (existing, _) =>
      if existing ≠ entry then .error .identityConflict else .ok { ledger with events := ledger.events ++ events }
    | none => .ok { ledger with
        events := ledger.events ++ events, outbox := ledger.outbox.insert entry.outboxId.val (entry, false) }

def eventsOf (invocationId : StableId) (ledger : MemoryLedgerState) : List InvocationLedgerEventV1 :=
  ledger.events.filter fun event => event.invocationId == invocationId

def pendingDispatches (ledger : MemoryLedgerState) : List DispatchOutboxV1 :=
  ((values ledger.outbox).filter fun entry => !entry.2).map Prod.fst

def markDispatchDelivered (outboxId : StableId) (ledger : MemoryLedgerState) : Except BrokerError MemoryLedgerState :=
  match ledger.outbox[outboxId.val]? with
  | none => .error .unknownInvocation
  | some (entry, _) => .ok { ledger with outbox := ledger.outbox.insert outboxId.val (entry, true) }

/-- A settlement that is already in the result outbox is not written again. -/
def appendSettlementAtomic (event : InvocationLedgerEventV1) (result : WorkerResultOutboxV1)
    (ledger : MemoryLedgerState) : Except BrokerError MemoryLedgerState :=
  match ledger.workerResults[result.outboxId.val]? with
  | some (existing, _) => if existing ≠ result then .error .identityConflict else .ok ledger
  | none => .ok { ledger with
      events := ledger.events ++ [event]
      workerResults := ledger.workerResults.insert result.outboxId.val (result, false) }

def pendingWorkerResults (ledger : MemoryLedgerState) : List WorkerResultOutboxV1 :=
  ((values ledger.workerResults).filter fun entry => !entry.2).map Prod.fst

def markWorkerResultDelivered (outboxId : StableId) (ledger : MemoryLedgerState) : Except BrokerError MemoryLedgerState :=
  match ledger.workerResults[outboxId.val]? with
  | none => .error .unknownInvocation
  | some (result, _) => .ok { ledger with workerResults := ledger.workerResults.insert outboxId.val (result, true) }

section
variable {ledger ledger' : MemoryLedgerState}
include ledger ledger'

theorem appendAtomic_entry {events : List InvocationLedgerEventV1} {entry : DispatchOutboxV1}
    (h : appendAtomic events (some entry) ledger = .ok ledger') :
    ledger'.events = ledger.events ++ events ∧ ledger'.workerResults = ledger.workerResults ∧
      (ledger.outbox[entry.outboxId.val]? = none ∧
          ledger'.outbox = ledger.outbox.insert entry.outboxId.val (entry, false) ∨
        ∃ delivered, ledger.outbox[entry.outboxId.val]? = some (entry, delivered) ∧ ledger'.outbox = ledger.outbox) := by
  unfold appendAtomic at h
  cases hentry : ledger.outbox[entry.outboxId.val]? with
  | none =>
    simp only [hentry] at h
    cases h
    exact ⟨rfl, rfl, .inl ⟨rfl, rfl⟩⟩
  | some found =>
    obtain ⟨existing, delivered⟩ := found
    simp only [hentry] at h
    split at h
    · cases h
    · rename_i hsame
      cases h
      obtain rfl : existing = entry := not_not.mp hsame
      exact ⟨rfl, rfl, .inr ⟨delivered, rfl, rfl⟩⟩

theorem appendSettlementAtomic_ok {result : WorkerResultOutboxV1} (h : appendSettlementAtomic event result ledger = .ok ledger') :
    ledger'.outbox = ledger.outbox ∧
      (ledger' = ledger ∨ ledger.workerResults[result.outboxId.val]? = none ∧
        ledger'.events = ledger.events ++ [event]) := by
  unfold appendSettlementAtomic at h
  cases hresult : ledger.workerResults[result.outboxId.val]? with
  | none =>
    simp only [hresult] at h
    cases h
    exact ⟨rfl, .inr ⟨rfl, rfl⟩⟩
  | some found =>
    simp only [hresult] at h
    split at h
    · cases h
    · cases h
      exact ⟨rfl, .inl rfl⟩

theorem markDispatchDelivered_ok {outboxId : StableId} (h : markDispatchDelivered outboxId ledger = .ok ledger') :
    ∃ entry delivered, ledger.outbox[outboxId.val]? = some (entry, delivered) ∧
      ledger' = { ledger with outbox := ledger.outbox.insert outboxId.val (entry, true) } := by
  unfold markDispatchDelivered at h
  split at h
  · cases h
  · rename_i entry delivered hentry
    exact ⟨entry, delivered, hentry, (Except.ok.inj h).symm⟩

theorem markWorkerResultDelivered_ok (h : markWorkerResultDelivered outboxId ledger = .ok ledger') :
    ledger'.events = ledger.events ∧ ledger'.outbox = ledger.outbox := by
  unfold markWorkerResultDelivered at h
  split at h
  · cases h
  · cases h
    exact ⟨rfl, rfl⟩

end

end MemoryLedgerState
end Aworkit.Core
