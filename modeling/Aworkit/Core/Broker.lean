import Aworkit.Core.InvocationLedger

/-! The durable invocation broker: proposal, approval, dispatch and settlement over a ledger that may fail or crash at
any operation. -/
namespace Aworkit.Core
open Protocol OrderedMap Hoare Fallible InvocationLedgerEventV1

/-- The kinds of identifiers the broker derives from a digest. -/
inductive DigestKind where
  | invoke | approval | dispatch | result

def DigestKind.text : DigestKind → String
  | .invoke => "invoke."
  | .approval => "approval."
  | .dispatch => "dispatch."
  | .result => "result."

theorem digestId_text (kind : DigestKind) (digest : Sha256Digest) :
    stableIdText (kind.text ++ String.ofList (digest.text.toList.take 32)) = true := by
  apply stableIdText_digest
  · cases kind <;> decide
  · cases kind <;> decide

/-- The answer of a called port: a result, or the process crashes in it. -/
inductive Answer (α : Type) where
  | returns (result : Except BrokerError α)
  | crashes

/-- What a ledger operation meets. A write reported as failed may have been made, and so may one a crash
interrupts. -/
inductive Fault where
  | works
  | fails (error : BrokerError)
  | unreported (error : BrokerError)
  | crashes (written : Bool)

/-- The public calls of a broker. -/
inductive Call where
  | propose (manifest : AuthorityManifest) (proposal : WorkerInvocationProposalV1) (nowEpochMillis : Nat)
  | resolveApproval (manifest : AuthorityManifest) (response : ApprovalResponseV1)
  | acceptDispatch (invocationId : StableId)
  | commitProgress (invocationId : StableId) (sequence : Nat) (payloadHash : String)
  | settle (invocationId : StableId) (outcomeHash : String) (uncertain : Bool)
  | pendingDispatches
  | markDispatchDelivered (outboxId : StableId)
  | deliverDispatches
  | deliverPendingDispatchFor (invocationId : StableId)
  | deliverWorkerResults

/-- What a host does with a dispatch: its own broker calls, then its answer. -/
structure HostTurn where
  nested : List Call
  answer : Answer DeliveryAcceptanceV1

/-- One call of `host.dispatch`, with the ledger events at that moment. -/
structure DispatchRecord where
  dispatch : ApprovedDispatchV1
  seen : List InvocationLedgerEventV1

/-- What is durable or seen from outside: the ledger and the calls of the host. -/
structure Journal where
  ledger : MemoryLedgerState
  dispatched : List DispatchRecord

/-- The journal with all the environment will still do. A port without an answer left never comes back; a ledger
without a fault left works. -/
structure World where
  journal : Journal
  faults : List Fault
  turns : List HostTurn
  leases : List (Answer (List StableId))
  revocations : List (Answer Unit)
  workers : List (Answer DeliveryAcceptanceV1)

/-- A new ledger in any environment. -/
def World.start (faults : List Fault) (turns : List HostTurn) (leases : List (Answer (List StableId)))
    (revocations : List (Answer Unit)) (workers : List (Answer DeliveryAcceptanceV1)) : World :=
  ⟨⟨MemoryLedgerState.empty, []⟩, faults, turns, leases, revocations, workers⟩

/-- How a call ends without a result. -/
inductive Halt where
  | error (error : BrokerError)
  | crash

abbrev BrokerM := Prog Halt World

namespace BrokerM

def throw {α : Type} (e : BrokerError) : BrokerM α := Prog.fail (.error e)

/-- A check of the broker on what it read. -/
def check {α : Type} (x : Except BrokerError α) : BrokerM α := Prog.lift (x.mapError .error)

/-- Runs a program and hands its error on as a value; a crash stays a crash. -/
def observe {α : Type} (m : BrokerM α) : BrokerM (Except BrokerError α) := fun w =>
  match m w with
  | (.ok a, w') => (.ok (.ok a), w')
  | (.error (.error e), w') => (.ok (.error e), w')
  | (.error .crash, w') => (.error .crash, w')

def nextFault : BrokerM Fault := fun w =>
  match w.faults with
  | [] => (.ok .works, w)
  | fault :: rest => (.ok fault, { w with faults := rest })

def ledgerRead {α : Type} (view : MemoryLedgerState → α) : BrokerM α := do
  match ← nextFault with
  | .works => fun w => (.ok (view w.journal.ledger), w)
  | .fails e | .unreported e => throw e
  | .crashes _ => Prog.fail .crash

variable (write : MemoryLedgerState → Except BrokerError MemoryLedgerState)

/-- Makes a write whole or not at all. -/
def commit : BrokerM Unit := fun w =>
  match write w.journal.ledger with
  | .error e => (.error (.error e), w)
  | .ok ledger => (.ok (), { w with journal := { w.journal with ledger } })

def ledgerWrite : BrokerM Unit := do
  match ← nextFault with
  | .works => commit write
  | .fails e => throw e
  | .unreported e => do
    commit write
    throw e
  | .crashes written => do
    if written then commit write
    Prog.fail .crash

/-- The answer of a port, taken from what the environment has in store. -/
def answered {α : Type} : Answer α → BrokerM α
  | .returns (.ok a) => pure a
  | .returns (.error e) => throw e
  | .crashes => Prog.fail .crash

def issueForDispatch : BrokerM (List StableId) := fun w =>
  match w.leases with
  | [] => (.error .crash, w)
  | answer :: rest => answered answer { w with leases := rest }

def revokeUncommitted : BrokerM Unit := fun w =>
  match w.revocations with
  | [] => (.error .crash, w)
  | answer :: rest => answered answer { w with revocations := rest }

def deliverResult : BrokerM DeliveryAcceptanceV1 := fun w =>
  match w.workers with
  | [] => (.error .crash, w)
  | answer :: rest => answered answer { w with workers := rest }

/-- The call of the host, as recorded, and what the host will do. -/
def startDispatch (dispatch : ApprovedDispatchV1) : BrokerM HostTurn := fun w =>
  let record : DispatchRecord := ⟨dispatch, w.journal.ledger.events⟩
  let started := { w with journal := { w.journal with dispatched := w.journal.dispatched ++ [record] } }
  match w.turns with
  | [] => (.error .crash, started)
  | turn :: rest => (.ok turn, { started with turns := rest })

end BrokerM

structure DurableInvocationBroker where
  sha256 : String → Sha256Digest
  hasLeasePort : Bool
  approvalTtlMillis : Nat

namespace DurableInvocationBroker
variable (b : DurableInvocationBroker)

def new (sha256 : String → Sha256Digest) (approvalTtlMillis : Nat) : DurableInvocationBroker :=
  ⟨sha256, false, max approvalTtlMillis 1⟩

def stableDigestId (kind : DigestKind) (input : String) : StableId :=
  ⟨kind.text ++ String.ofList ((b.sha256 input).text.toList.take 32), digestId_text kind (b.sha256 input)⟩

def invocationId (proposalId : StableId) : StableId := b.stableDigestId .invoke proposalId.val

def approvalNonce (proposalId manifestId : StableId) : StableId :=
  b.stableDigestId .approval (proposalId.val ++ ":" ++ manifestId.val)

def outcomeHash (reason : String) : String := "sha256:" ++ (b.sha256 reason).text

end DurableInvocationBroker

variable (events : List InvocationLedgerEventV1)

def proposedIdentity : Except BrokerError (WorkerInvocationProposalV1 × StableId) :=
  require (events.findSome? proposal?) .unknownInvocation

def verifyProposalIdentity (proposal : WorkerInvocationProposalV1)
    (manifestId : StableId) : Except BrokerError Unit := do
  let stored ← proposedIdentity events
  refuseIf (stored != (proposal, manifestId)) .identityConflict

def replayDecision : Except BrokerError BrokerDecisionV1 :=
  match events.findSome? settlement? with
  | some (outcomeHash, _) => .ok (.alreadySettled outcomeHash)
  | none =>
    match events.findSome? dispatch? with
    | some dispatch => .ok (.dispatchReady dispatch)
    | none =>
      if events.any isRejected then .ok .denied
      else
        match events.findSome? challenge? with
        | some challenge => .ok (.awaitingApproval challenge)
        | none => .error .incompleteState

def requireAuthorized : Except BrokerError Unit :=
  refuseIf (!events.any isAuthorized) .notAuthorized

/-- Lease identities in the order of their texts. -/
def sortLeases (leases : List StableId) : List StableId := leases.insertionSort fun left right => left.val ≤ right.val

/-- Whether two neighbours of a list are equal. -/
def hasNeighbours (leases : List StableId) : Bool := (leases.zip leases.tail).any fun pair => pair.1 == pair.2

namespace DurableInvocationBroker
variable (b : DurableInvocationBroker)
open BrokerM MemoryLedgerState

/-- Leases from the port, when the broker has one. -/
def issueLeases : BrokerM (List StableId) := if b.hasLeasePort then issueForDispatch else pure []

def revokeLeases : BrokerM (Except BrokerError Unit) :=
  if b.hasLeasePort then observe revokeUncommitted else pure (.ok ())

/-- Commits an authorization with its outbox entry; a failure revokes the leases. -/
def recordDispatch (dispatch : ApprovedDispatchV1) : BrokerM BrokerDecisionV1 := do
  let outbox : DispatchOutboxV1 := ⟨b.stableDigestId .dispatch dispatch.invocationId.val, dispatch⟩
  match ← observe (ledgerWrite (appendAtomic [.authorized dispatch] (some outbox))) with
  | .ok () => pure (.dispatchReady dispatch)
  | .error e =>
    match ← b.revokeLeases with
    | .ok () => throw e
    | .error _ => throw .leaseRollbackFailed

variable (manifest : AuthorityManifest)

variable (proposal : WorkerInvocationProposalV1)

def authorize : BrokerM BrokerDecisionV1 := do
  let binding ← check (require
    (manifest.capabilityBindings.find? fun binding => binding.capabilityId == proposal.capabilityId) .notAuthorized)
  check (refuseIf (!binding.enabled || !binding.compatible) .notAuthorized)
  let issued ← b.issueLeases
  let leaseIds := sortLeases issued
  if hasNeighbours leaseIds then
    let _ ← b.revokeLeases
    throw .duplicateLease
  else
    b.recordDispatch {
      invocationId := b.invocationId proposal.proposalId, proposalId := proposal.proposalId,
      capabilityId := proposal.capabilityId, payloadHash := proposal.payloadHash, manifestId := manifest.manifestId,
      leaseIds }

def decideAfterProposed (nowEpochMillis : Nat) : BrokerM BrokerDecisionV1 := do
  let invocationId := b.invocationId proposal.proposalId
  match manifest.capabilityBindings.find? fun binding =>
      binding.capabilityId == proposal.capabilityId && binding.enabled && binding.compatible with
  | none =>
    ledgerWrite (appendAtomic [.approvalRejected invocationId "authority_denied"] none)
    pure .denied
  | some binding =>
    if binding.approval = .perInvocation then
      let expires ← check (require
        (if nowEpochMillis + b.approvalTtlMillis ≤ u64Max then some (nowEpochMillis + b.approvalTtlMillis) else none)
        .invalidApproval)
      let challenge : ApprovalChallengeV1 :=
        ⟨invocationId, b.approvalNonce proposal.proposalId manifest.manifestId, expires, proposal.capabilityId⟩
      ledgerWrite (appendAtomic [.approvalRequested challenge] none)
      pure (.awaitingApproval challenge)
    else b.authorize manifest proposal

def propose (nowEpochMillis : Nat) : BrokerM BrokerDecisionV1 := do
  let invocationId := b.invocationId proposal.proposalId
  let existing ← ledgerRead (eventsOf invocationId)
  if existing.isEmpty then
    ledgerWrite (appendAtomic [.proposed invocationId proposal manifest.manifestId] none)
    b.decideAfterProposed manifest proposal nowEpochMillis
  else
    check (verifyProposalIdentity existing proposal manifest.manifestId)
    match replayDecision existing with
    | .ok decision => pure decision
    | .error .incompleteState => b.decideAfterProposed manifest proposal nowEpochMillis
    | .error e => throw e

/-- What a repeated response meets: an answer, a refusal, or no decision. -/
def repeatedResponse (events : List InvocationLedgerEventV1) (approved : Bool) :
    Except BrokerError (Option BrokerDecisionV1) :=
  match replayDecision events, approved with
  | .ok (.dispatchReady dispatch), true => .ok (some (.dispatchReady dispatch))
  | .ok (.alreadySettled outcomeHash), true => .ok (some (.alreadySettled outcomeHash))
  | .ok .denied, false => .ok (some .denied)
  | .ok (.awaitingApproval _), _ => .ok none
  | .ok _, _ => .error .identityConflict
  | .error _, _ => .ok none

def resolveApproval (response : ApprovalResponseV1) : BrokerM BrokerDecisionV1 := do
  let events ← ledgerRead (eventsOf response.invocationId)
  let (proposal, storedManifest) ← check (proposedIdentity events)
  check (refuseIf (storedManifest != manifest.manifestId) .staleManifest)
  let challenge ← check (require (events.findSome? challenge?) .invalidApproval)
  match ← check (repeatedResponse events response.approved) with
  | some decision => pure decision
  | none =>
    check (refuseIf (challenge.nonce != response.nonce) .invalidApproval)
    if challenge.expiresEpochMillis ≤ response.nowEpochMillis then
      ledgerWrite (appendAtomic [.approvalRejected response.invocationId "approval_expired"] none)
      pure .denied
    else if !response.approved then
      ledgerWrite (appendAtomic [.approvalRejected response.invocationId "user_rejected"] none)
      pure .denied
    else b.authorize manifest proposal

variable (invocationId : StableId)

def acceptDispatch : BrokerM Unit := do
  let events ← ledgerRead (eventsOf invocationId)
  check (requireAuthorized events)
  check (refuseIf (!events.any isAttempted) .notAttempted)
  if events.any isAccepted then pure ()
  else ledgerWrite (appendAtomic [.dispatchAccepted invocationId] none)

def commitProgress (sequence : Nat) (payloadHash : String) : BrokerM Unit := do
  let events ← ledgerRead (eventsOf invocationId)
  check (requireAuthorized events)
  check (refuseIf (!events.any isAccepted) .notAccepted)
  check (refuseIf (events.any isSettled) .alreadySettled)
  match (events.filterMap progress?).find? fun progress => progress.1 == sequence with
  | some existing => check (refuseIf (existing.2 != payloadHash) .identityConflict)
  | none =>
    let last := ((events.filterMap progress?).map Prod.fst).max?.getD 0
    let next ← check (require (checkedSucc last) .progressSequence)
    check (refuseIf (sequence != next) .progressSequence)
    ledgerWrite (appendAtomic [.progressCommitted invocationId sequence payloadHash] none)

/-- Writes a settlement with its result, or compares it with the one there. -/
def settleOnce (events : List InvocationLedgerEventV1) (invocationId : StableId) (outcomeHash : String)
    (uncertain : Bool) : BrokerM Unit :=
  match events.findSome? settlement? with
  | some existing => check (refuseIf (existing != (outcomeHash, uncertain)) .identityConflict)
  | none =>
    ledgerWrite (appendSettlementAtomic (.settled invocationId outcomeHash uncertain)
      ⟨b.stableDigestId .result invocationId.val, invocationId, outcomeHash, uncertain⟩)

def settle (outcomeHash : String) (uncertain : Bool) : BrokerM Unit := do
  let events ← ledgerRead (eventsOf invocationId)
  check (requireAuthorized events)
  check (refuseIf (!events.any isAccepted) .notAccepted)
  b.settleOnce events invocationId outcomeHash uncertain

def settleUnacceptedDispatch (reason : String) (uncertain : Bool) : BrokerM Unit := do
  let events ← ledgerRead (eventsOf invocationId)
  check (requireAuthorized events)
  b.settleOnce events invocationId (b.outcomeHash reason) uncertain

/-- Closes an outbox entry whose dispatch was not accepted, and fails. -/
def abandonDispatch (outbox : DispatchOutboxV1) (reason : String) (uncertain : Bool) (e : BrokerError) :
    BrokerM Bool := do
  b.settleUnacceptedDispatch outbox.dispatch.invocationId reason uncertain
  ledgerWrite (markDispatchDelivered outbox.outboxId)
  throw e

variable (host : ApprovedDispatchV1 → BrokerM DeliveryAcceptanceV1)

/-- Delivers one outbox entry; the attempt is durable before the host's call. -/
def deliverOutbox (outbox : DispatchOutboxV1) : BrokerM Bool := do
  let invocationId := outbox.dispatch.invocationId
  let events ← ledgerRead (eventsOf invocationId)
  if events.any fun event => event.isSettled || event.isAccepted then
    ledgerWrite (markDispatchDelivered outbox.outboxId)
    pure true
  else if events.any isAttempted then
    b.abandonDispatch outbox "host_dispatch_recovery_uncertain" true .ambiguousDispatch
  else
    ledgerWrite (appendAtomic [.dispatchAttempted invocationId] none)
    match ← observe (host outbox.dispatch) with
    | .error e => b.abandonDispatch outbox "host_dispatch_transport_uncertain" true e
    | .ok .accepted | .ok .alreadyAccepted =>
      acceptDispatch invocationId
      ledgerWrite (markDispatchDelivered outbox.outboxId)
      pure true
    | .ok .rejectedDefinitelyNotStarted =>
      b.abandonDispatch outbox "host_dispatch_definitely_not_started" false .dispatchRejected
    | .ok .ambiguous => b.abandonDispatch outbox "host_dispatch_acceptance_uncertain" true .ambiguousDispatch

def deliverDispatches : BrokerM Nat := do
  let pending ← ledgerRead pendingDispatches
  Prog.sumOver (fun outbox => do
    let delivered ← b.deliverOutbox host outbox
    pure (if delivered then 1 else 0)) pending

def deliverPendingDispatchFor (invocationId : StableId) : BrokerM Bool := do
  let pending ← ledgerRead pendingDispatches
  match pending.find? fun entry => entry.dispatch.invocationId == invocationId with
  | none => pure false
  | some outbox => b.deliverOutbox host outbox

def deliverWorkerResults : BrokerM Nat := do
  let pending ← ledgerRead pendingWorkerResults
  Prog.sumOver (fun result => do
    match ← deliverResult with
    | .accepted | .alreadyAccepted =>
      ledgerWrite (markWorkerResultDelivered result.outboxId)
      pure 1
    | .rejectedDefinitelyNotStarted => throw .workerDeliveryRejected
    | .ambiguous => throw .ambiguousWorkerDelivery) pending

/-- One public call, with the result left out. -/
def perform : Call → BrokerM Unit
  | .propose manifest proposal nowEpochMillis => do let _ ← b.propose manifest proposal nowEpochMillis
  | .resolveApproval manifest response => do let _ ← b.resolveApproval manifest response
  | .acceptDispatch invocationId => acceptDispatch invocationId
  | .commitProgress invocationId sequence payloadHash => commitProgress invocationId sequence payloadHash
  | .settle invocationId outcomeHash uncertain => b.settle invocationId outcomeHash uncertain
  | .pendingDispatches => do let _ ← ledgerRead pendingDispatches
  | .markDispatchDelivered outboxId => ledgerWrite (markDispatchDelivered outboxId)
  | .deliverDispatches => do let _ ← b.deliverDispatches host
  | .deliverPendingDispatchFor invocationId => do let _ ← b.deliverPendingDispatchFor host invocationId
  | .deliverWorkerResults => do let _ ← deliverWorkerResults

/-- Calls one after another; an error ends its own call only. -/
def performEach (host : ApprovedDispatchV1 → BrokerM DeliveryAcceptanceV1) : List Call → BrokerM Unit
  | [] => pure ()
  | call :: rest => do
    let _ ← observe (b.perform host call)
    performEach host rest

/-- The host, which may call the broker before it answers, down to a depth. -/
def hostDispatch : Nat → ApprovedDispatchV1 → BrokerM DeliveryAcceptanceV1
  | 0, dispatch => do
    let turn ← startDispatch dispatch
    answered turn.answer
  | depth + 1, dispatch => do
    let turn ← startDispatch dispatch
    b.performEach (hostDispatch depth) turn.nested
    answered turn.answer

/-- Any sequence of calls; after an error or crash the next finds the ledger as it was left. -/
def runCalls (depth : Nat) (calls : List Call) (w : World) : World :=
  calls.foldl (fun w call => (b.perform (b.hostDispatch depth) call w).2) w

end DurableInvocationBroker
end Aworkit.Core
