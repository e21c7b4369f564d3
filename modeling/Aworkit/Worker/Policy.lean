import Aworkit.Collections.Rebuild
import Aworkit.Protocol.Identity

/-! Attempt policies and the ledger of attempt decisions (`policy.rs`): what follows each outcome, which invocations
are barred, and the checkpoint of both. -/
namespace Aworkit.Worker
open Protocol Fallible OrderedMap Std

inductive OutcomeClass where
  | succeeded | definiteNotStarted | contractFailure | failedKnownStarted | cancelledWithEvidence | outcomeUncertain
  | denied
  deriving DecidableEq

structure RetryProof where
  invocationId : String
  (descriptorIdempotent sameIdDeduplicated effectAbsenceProven : Bool)

structure AttemptPolicyV1 where
  policyId : String
  maxAttempts : UInt32
  (fallbackNodeId feedbackTransitionId evaluatorTransitionId approvalGateId : Option String)

structure AttemptInputV1 where
  (operationId attemptId : String)
  attemptOrdinal : UInt32
  outcome : OutcomeClass
  retryProof : Option RetryProof
  (evaluatorPassed gatePassed : Option Bool)
  cancelled : Bool

inductive AttemptDecisionV1 where
  | complete
  | retryWithNewAttempt (nextOrdinal : UInt32)
  | reconcileSameInvocation (invocationId : String)
  | followExistingEdge (transitionId : String)
  | selectExistingFallback (nodeId : String)
  | awaitApproval (gateId : String)
  | requireUserDecision
  | fail (reason : String)
  deriving DecidableEq

structure AttemptRecordV1 where
  (operationId attemptId : String)
  attemptOrdinal : UInt32
  outcome : OutcomeClass
  decision : AttemptDecisionV1
  deriving DecidableEq

inductive PolicyError where
  | attemptIdentityConflict
  | attemptOrdinalGap
  | malformedOutcome
  | invalidCheckpoint
  deriving DecidableEq

structure AttemptLedger where
  records : ExtTreeMap String AttemptRecordV1
  lastOrdinal : ExtTreeMap String UInt32
  noResendInvocations : ExtTreeSet String

/-- `u32::saturating_add(1)`. -/
def saturatingSucc (n : UInt32) : UInt32 := if n.toNat = u32Max then n else n + 1

theorem toNat_saturatingSucc (n : UInt32) : (saturatingSucc n).toNat = min (n.toNat + 1) u32Max := by
  have hlt := n.toNat_lt
  unfold saturatingSucc u32Max
  split
  · omega
  · rw [UInt32.toNat_add, UInt32.toNat_one, Nat.mod_eq_of_lt (by omega)]
    omega

/-- An outcome of an effect that is known to have started, or may have. -/
def OutcomeClass.started : OutcomeClass → Bool
  | .failedKnownStarted | .cancelledWithEvidence | .outcomeUncertain => true
  | _ => false

def AttemptDecisionV1.reconciles : AttemptDecisionV1 → Bool
  | .reconcileSameInvocation _ => true
  | _ => false

def decisionMatchesOutcome (record : AttemptRecordV1) : Bool :=
  match record.outcome, record.decision with
  | .succeeded, .complete => true
  | .outcomeUncertain, .requireUserDecision => true
  | .definiteNotStarted, .retryWithNewAttempt next => next == saturatingSucc record.attemptOrdinal
  | .contractFailure, .retryWithNewAttempt next => next == saturatingSucc record.attemptOrdinal
  | .failedKnownStarted, .reconcileSameInvocation _ => true
  | .cancelledWithEvidence, .reconcileSameInvocation _ => true
  | _, .followExistingEdge _ => true
  | _, .selectExistingFallback _ => true
  | _, .awaitApproval _ => true
  | _, .fail _ => true
  | _, _ => false

namespace AttemptLedger

def nonRepeatingExit (policy : AttemptPolicyV1) (reason : String) : Except PolicyError AttemptDecisionV1 :=
  match policy.feedbackTransitionId, policy.fallbackNodeId with
  | some transitionId, _ => .ok (.followExistingEdge transitionId)
  | none, some nodeId => .ok (.selectExistingFallback nodeId)
  | none, none => .ok (.fail reason)

/-- The decision by the outcome alone, past evaluator and gate. -/
def evaluateOutcome (policy : AttemptPolicyV1) (input : AttemptInputV1) : Except PolicyError AttemptDecisionV1 :=
  match input.outcome with
  | .succeeded => .ok .complete
  | .definiteNotStarted | .contractFailure =>
    if input.attemptOrdinal < policy.maxAttempts then .ok (.retryWithNewAttempt (input.attemptOrdinal + 1))
    else nonRepeatingExit policy "attempts_exhausted"
  | .failedKnownStarted | .cancelledWithEvidence =>
    match input.retryProof with
    | some proof =>
      if proof.descriptorIdempotent && proof.sameIdDeduplicated then .ok (.reconcileSameInvocation proof.invocationId)
      else nonRepeatingExit policy "known_started"
    | none => nonRepeatingExit policy "known_started"
  | .outcomeUncertain => .ok .requireUserDecision
  | .denied => nonRepeatingExit policy "denied"

def evaluate (policy : AttemptPolicyV1) (input : AttemptInputV1) : Except PolicyError AttemptDecisionV1 :=
  if input.cancelled then .ok (.fail "cancelled")
  else
    match (if input.evaluatorPassed = some false then policy.evaluatorTransitionId else none) with
    | some transitionId => .ok (.followExistingEdge transitionId)
    | none =>
      match (if input.gatePassed = some false then policy.approvalGateId else none) with
      | some gateId => .ok (.awaitApproval gateId)
      | none => evaluateOutcome policy input

def empty : AttemptLedger := ⟨∅, ∅, ∅⟩

/-- The ledger with one more decided attempt. A started effect that is not reconciled bars its invocation. -/
def record (l : AttemptLedger) (input : AttemptInputV1) (decision : AttemptDecisionV1) : AttemptLedger where
  records := l.records.insert input.attemptId
    ⟨input.operationId, input.attemptId, input.attemptOrdinal, input.outcome, decision⟩
  lastOrdinal := l.lastOrdinal.insert input.operationId input.attemptOrdinal
  noResendInvocations :=
    match input.retryProof with
    | some proof =>
      if input.outcome.started && !decision.reconciles then l.noResendInvocations.insert proof.invocationId
      else l.noResendInvocations
    | none => l.noResendInvocations

def decide (l : AttemptLedger) (policy : AttemptPolicyV1) (input : AttemptInputV1) :
    Except PolicyError AttemptDecisionV1 × AttemptLedger :=
  match l.records[input.attemptId]? with
  | some existing =>
    if existing.operationId = input.operationId ∧ existing.attemptOrdinal = input.attemptOrdinal ∧
        existing.outcome = input.outcome then (.ok existing.decision, l)
    else (.error .attemptIdentityConflict, l)
  | none =>
    if input.attemptOrdinal ≠ saturatingSucc (l.lastOrdinal[input.operationId]?.getD 0) then
      (.error .attemptOrdinalGap, l)
    else
      match evaluate policy input with
      | .error e => (.error e, l)
      | .ok decision => (.ok decision, l.record input decision)

def maySendInvocation (l : AttemptLedger) (invocationId : String) : Bool := !l.noResendInvocations.contains invocationId

def checkpoint (l : AttemptLedger) : List AttemptRecordV1 × List String :=
  (values l.records, l.noResendInvocations.toList)

/-- The id rule of a restored ledger: not blank, at most 512 bytes. -/
def invalidId (id : String) : Bool := trimIsEmpty id || Decidable.decide (512 < id.utf8ByteSize)

abbrev OrdinalTable := ExtTreeMap String (ExtTreeSet UInt32)

/-- Admits one record and files its ordinal under its operation. -/
def restoreRecord (read : ExtTreeMap String AttemptRecordV1 × OrdinalTable) (record : AttemptRecordV1) :
    Except PolicyError (ExtTreeMap String AttemptRecordV1 × OrdinalTable) := do
  refuseIf (invalidId record.operationId || invalidId record.attemptId || record.attemptOrdinal == 0 ||
    !decisionMatchesOutcome record || read.1.contains record.attemptId) .invalidCheckpoint
  .ok (read.1.insert record.attemptId record,
    read.2.insert record.operationId ((read.2[record.operationId]?.getD ∅).insert record.attemptOrdinal))

/-- An operation's ordinals run from one without a gap; the last is kept. -/
def restoreOrdinals (last : ExtTreeMap String UInt32) (entry : String × ExtTreeSet UInt32) :
    Except PolicyError (ExtTreeMap String UInt32) := do
  let maximum := entry.2.toList.getLast?.getD 0
  refuseIf (entry.2.size != maximum.toNat || entry.2.toList.map UInt32.toNat != List.range' 1 maximum.toNat)
    .invalidCheckpoint
  .ok (last.insert entry.1 maximum)

def restoreInvocation (barred : ExtTreeSet String) (invocation : String) : Except PolicyError (ExtTreeSet String) := do
  refuseIf (invalidId invocation || barred.contains invocation) .invalidCheckpoint
  .ok (barred.insert invocation)

/-- A decision to reconcile an invocation that may not be sent again. -/
def contradicts (barred : ExtTreeSet String) (record : AttemptRecordV1) : Bool :=
  match record.decision with
  | .reconcileSameInvocation invocationId => barred.contains invocationId
  | _ => false

def restore (saved : List AttemptRecordV1 × List String) : Except PolicyError AttemptLedger := do
  let (records, ordinals) ← saved.1.foldlM restoreRecord (∅, ∅)
  let lastOrdinal ← ordinals.toList.foldlM restoreOrdinals ∅
  let barred ← saved.2.foldlM restoreInvocation ∅
  refuseIf ((values records).any (contradicts barred)) .invalidCheckpoint
  .ok ⟨records, lastOrdinal, barred⟩

end AttemptLedger
end Aworkit.Worker
