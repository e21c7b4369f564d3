import Aworkit.Protocol.Control
import Aworkit.Worker.Limits
import Aworkit.Worker.Policy

/-! The model loop of an agent (`agent.rs`): it reserves a budget for each turn and charges it when the outcome is
committed. -/
namespace Aworkit.Worker
open Protocol Fallible Hoare Prog

structure AgentLoopConfigV1 where
  (loopId nodeId modelCapabilityRef authorityManifestRef budgetRef : StableId)
  scopeId : String
  turnReservation : Usage
  contextPointers : List String
  allowedToolCapabilityRefs : List StableId

structure AgentLoopCheckpointV1 where
  config : AgentLoopConfigV1
  nextTurn : UInt32
  pendingInvocationId : Option StableId
  pendingReservationId : Option String
  completedOutcomeIds : List StableId
  cancelled : Bool

inductive AgentErrorV1 where
  | invalidState
  | invocationPending
  | capabilityDenied
  | outcomeMismatch
  | cancelled
  | contextProjection
  | budget (reason : String)
  | invalidIdentifier
  deriving DecidableEq

def LimitError.text : LimitError → String
  | .exhausted => "budget exhausted"
  | .deadlineExceeded => "deadline exceeded"
  | .invalidReservation => "invalid reservation"
  | .unknownScope id => "unknown budget scope " ++ id
  | .duplicateId id => "duplicate budget scope, reservation, or charge id " ++ id
  | .unknownReservation id => "reservation " ++ id ++ " is unknown or already settled"
  | .reservationExceeded => "usage exceeds the amount reserved"
  | .structuralLimit => "nested depth, fan-out, or parallelism limit exceeded"
  | .overflow => "budget arithmetic overflow"
  | .deadlineExtension => "checkpoint would extend a frozen deadline"

structure AgentLoopV1 where
  config : AgentLoopConfigV1
  nextTurn : UInt32
  pendingInvocationId : Option StableId
  pendingReservationId : Option String
  completedOutcomeIds : Std.ExtTreeSet String
  cancelled : Bool

/-- The loop and the ledger that its operations are handed. -/
structure AgentStores where
  loop : AgentLoopV1
  limits : LimitLedger

abbrev AgentProg := Prog AgentErrorV1 AgentStores

/-- Tokens and cost are reserved and charged; the counts are not. -/
def resourceUsage (usage : Usage) : Usage :=
  { turns := 0, attempts := 0, toolCalls := 0, tokens := usage.tokens, costMicros := usage.costMicros, actions := 0 }

def projectContext (context : Value) (pointers : List String) : Except AgentErrorV1 Value :=
  if pointers.isEmpty then .ok context
  else do
    let projected ← pointers.foldlM (fun projected pointer => do
      refuseIf (pointer.isEmpty || decide (512 < pointer.utf8ByteSize) || pointer.toList.head? != some '/')
        .contextProjection
      let value ← require (context.pointer pointer) .contextProjection
      .ok (Value.insertMember pointer value projected)) []
    .ok (.object projected)

/-- The first 48 digits of the digest make the identifier. -/
def agentStableId (sha256 : String → Sha256Digest) (material : String) : Except AgentErrorV1 StableId :=
  require (StableId.parse ("agent." ++ String.ofList ((sha256 material).text.toList.take 48))) .invalidIdentifier

namespace AgentLoopV1

def new (config : AgentLoopConfigV1) : Except AgentErrorV1 AgentLoopV1 := do
  refuseIf (config.scopeId.isEmpty || (resourceUsage config.turnReservation).isZero ||
    decide (256 < config.contextPointers.length) || decide (256 < config.allowedToolCapabilityRefs.length)) .invalidState
  .ok ⟨config, 0, none, none, ∅, false⟩

def reservationName (config : AgentLoopConfigV1) (turn : Nat) : String :=
  "agent." ++ config.loopId.val ++ "." ++ toString turn

variable (l : AgentLoopV1)

/-- An outcome that was settled before, or one of the pending invocation. -/
def outcomeIsDuplicateOrMatching (outcome : CapabilityOutcomeV1) : Except AgentErrorV1 Bool :=
  if l.completedOutcomeIds.contains outcome.outcomeId.val then .ok true
  else if l.pendingInvocationId ≠ some outcome.invocationId then .error .outcomeMismatch
  else .ok false

/-- The loop after the outcome of its pending invocation. -/
def settle (outcome : CapabilityOutcomeV1) : AgentLoopV1 :=
  { l with
    completedOutcomeIds := l.completedOutcomeIds.insert outcome.outcomeId.val
    pendingInvocationId := none
    pendingReservationId := none
    nextTurn := saturatingSucc l.nextTurn
    cancelled := l.cancelled || outcome.outcomeClass == .cancelledEvidence || outcome.outcomeClass == .denied }

def checkpoint : AgentLoopCheckpointV1 :=
  ⟨l.config, l.nextTurn, l.pendingInvocationId, l.pendingReservationId,
    l.completedOutcomeIds.toList.filterMap StableId.parse, l.cancelled⟩

def restore (saved : AgentLoopCheckpointV1) : Except AgentErrorV1 AgentLoopV1 := do
  let completed : Std.ExtTreeSet String := Std.ExtTreeSet.ofList (saved.completedOutcomeIds.map StableId.val)
  refuseIf (saved.pendingInvocationId.isSome != saved.pendingReservationId.isSome ||
    decide (completed.size ≠ saved.completedOutcomeIds.length) || decide (saved.nextTurn.toNat ≠ completed.size))
    .invalidState
  let restored ← new saved.config
  .ok { restored with
    nextTurn := saved.nextTurn
    pendingInvocationId := saved.pendingInvocationId
    pendingReservationId := saved.pendingReservationId
    completedOutcomeIds := completed
    cancelled := saved.cancelled }

end AgentLoopV1

namespace AgentStores

def onLimits {α : Type} (m : LimitM α) : AgentProg α :=
  zoom AgentStores.limits (fun s limits => { s with limits }) (fun error => .budget error.text) m

/-- The budget is reserved before the projection and returned if that fails. -/
def proposeModelTurn (sha256 : String → Sha256Digest) (context : Value) : AgentProg WorkerInvocationProposalV1 := do
  let s ← read
  let config := s.loop.config
  let turn := toString s.loop.nextTurn.toNat
  lift (refuseIf s.loop.cancelled .cancelled)
  lift (refuseIf s.loop.pendingInvocationId.isSome .invocationPending)
  let invocationId ← lift (agentStableId sha256 ("agent:" ++ config.loopId.val ++ ":" ++ turn))
  let reservationId := AgentLoopV1.reservationName config s.loop.nextTurn.toNat
  onLimits (LimitLedger.reserve config.scopeId reservationId (resourceUsage config.turnReservation))
  match projectContext context config.contextPointers with
  | .error error => do
    onLimits (LimitLedger.release reservationId)
    fail error
  | .ok projected => do
    update fun s => { s with loop := { s.loop with
      pendingInvocationId := some invocationId
      pendingReservationId := some reservationId } }
    let attemptId ← lift (agentStableId sha256 ("attempt:" ++ config.loopId.val ++ ":" ++ turn))
    pure {
      invocationId, attemptId
      nodeId := config.nodeId
      capabilityRef := config.modelCapabilityRef
      authorityManifestRef := config.authorityManifestRef
      budgetRef := config.budgetRef
      payload := .object (Value.overlay [] [("turn", .number (.posInt s.loop.nextTurn.toNat)), ("context", projected),
        ("allowedToolCapabilityRefs", .array (config.allowedToolCapabilityRefs.map fun ref => .string ref.val))]) }

variable (outcome : CapabilityOutcomeV1)

variable (actualUsage : Usage)

def settleReservedOutcome : AgentProg Bool := do
  let s ← read
  let reservationId ← lift (require s.loop.pendingReservationId .outcomeMismatch)
  onLimits (LimitLedger.charge reservationId outcome.outcomeId.val actualUsage)
  update fun s => { s with loop := s.loop.settle outcome }
  pure true

def settleCommittedOutcome : AgentProg Bool := do
  let s ← read
  let duplicate ← lift (s.loop.outcomeIsDuplicateOrMatching outcome)
  if duplicate then pure false
  else
    lift (refuseIf (actualUsage.turns != 1 || actualUsage.attempts != 1)
      (.budget "a committed model turn must charge exactly one turn and attempt"))
    settleReservedOutcome outcome (resourceUsage actualUsage)

def permitsZeroTurns : Bool :=
  outcome.outcomeClass == .definiteNotStarted || outcome.outcomeClass == .denied

def settleCommittedRunOutcome : AgentProg Bool := do
  let s ← read
  let duplicate ← lift (s.loop.outcomeIsDuplicateOrMatching outcome)
  if duplicate then pure false
  else
    lift (refuseIf (actualUsage.turns != actualUsage.attempts ||
      (actualUsage.turns == 0 && !permitsZeroTurns outcome))
      (.budget "a committed Agent run must charge its actual provider turns and attempts"))
    settleReservedOutcome outcome (resourceUsage actualUsage)

def cancel : AgentProg Bool := do
  let s ← read
  if s.loop.cancelled then pure false
  else
    lift (refuseIf s.loop.pendingInvocationId.isSome .invocationPending)
    update fun s => { s with loop := { s.loop with cancelled := true } }
    pure true

/-- The loop is saved, and goes on from what it saved. -/
def resume : AgentProg Unit := do
  let s ← read
  let restored ← lift (AgentLoopV1.restore s.loop.checkpoint)
  update fun s => { s with loop := restored }

end AgentStores

inductive AgentCall where
  | propose (context : Value)
  | settle (outcome : CapabilityOutcomeV1) (actualUsage : Usage)
  | settleRun (outcome : CapabilityOutcomeV1) (actualUsage : Usage)
  | cancel
  | resume

def AgentCall.isSettlement : AgentCall → Bool
  | .settle .. => true
  | .settleRun .. => true
  | _ => false

namespace AgentStores

variable (sha256 : String → Sha256Digest)

def perform : AgentCall → AgentProg Unit
  | .propose context => do
    let _ ← proposeModelTurn sha256 context
  | .settle outcome actualUsage => do
    let _ ← settleCommittedOutcome outcome actualUsage
  | .settleRun outcome actualUsage => do
    let _ ← settleCommittedRunOutcome outcome actualUsage
  | .cancel => do
    let _ ← cancel
  | .resume => resume

variable (s : AgentStores)

/-- The loop and the ledger after a call, whether it answered or failed. -/
def step (call : AgentCall) : AgentStores := (perform sha256 call s).2

def run (calls : List AgentCall) : AgentStores :=
  calls.foldl (step sha256) s

/-- The invocation that a call puts in flight. -/
def proposals : AgentCall → List StableId
  | .propose context =>
    match (proposeModelTurn sha256 context s).1 with
    | .ok proposal => [proposal.invocationId]
    | .error _ => []
  | _ => []

/-- The outcome that a settlement charges: it answered `true`. -/
def charged (outcome : CapabilityOutcomeV1) (answer : Except AgentErrorV1 Bool) : List String :=
  match answer with
  | .ok true => [outcome.outcomeId.val]
  | _ => []

/-- The outcome that a call settles. -/
def settlements : AgentCall → List String
  | .settle outcome actualUsage => charged outcome (settleCommittedOutcome outcome actualUsage s).1
  | .settleRun outcome actualUsage => charged outcome (settleCommittedRunOutcome outcome actualUsage s).1
  | _ => []

end AgentStores
end Aworkit.Worker
