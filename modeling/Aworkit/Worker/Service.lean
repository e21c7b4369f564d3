import Aworkit.Protocol.Frame
import Aworkit.Worker.Gateway

/-! The worker service (`runtime.rs`): a control message is checked, admitted by the gateway and answered. -/
namespace Aworkit.Worker
open Protocol Fallible Hoare

inductive WorkerRuntimeError where
  | gateway (error : GatewayError)
  | plan (error : PlanError)
  | recovery (error : RecoveryErrorV1)
  | protocol (error : ProtocolError)
  | notStarted
  | truncatedFrame
  deriving DecidableEq

structure WorkerHandshakeV1 where
  protocolVersion : Nat
  workerVersion : String
  (chatId runId : StableId)
  generation : Nat
  (snapshotHash planFingerprint executableIdentity : String)

structure WorkerHeartbeatV1 where
  (sequence monotonicTimeMs : Nat)
  (active quiescent : Bool)

structure ServiceResultV1 where
  handshake : Option WorkerHandshakeV1 := none
  proposals : List WorkerProposalEnvelopeV1 := []
  heartbeat : Option WorkerHeartbeatV1 := none
  shutdownAck : Option StableId := none
  shutdown : Bool := false

structure WorkerServiceV1 where
  gateway : CoreGatewayV1
  plan : Option ExecutionPlanV1
  heartbeatSequence : Nat

abbrev ServiceM := Prog WorkerRuntimeError WorkerServiceV1

/-- What the process was built with: encoders, version and executable. -/
structure WorkerBuild where
  enc : MessageEncoding
  (version executable : String)

namespace WorkerServiceV1

def new : WorkerServiceV1 := ⟨.new, none, 0⟩

/-- A gateway call, with its error wrapped (`?` through `From<GatewayError>`). -/
def onGateway {α : Type} (call : GatewayM α) : ServiceM α := fun s =>
  match call s.gateway with
  | (.ok a, g) => (.ok a, { s with gateway := g })
  | (.error e, g) => (.error (.gateway e), { s with gateway := g })

section Build
variable (build : WorkerBuild)

variable (envelope : WorkerControlEnvelopeV1)

/-- The plan, and a restore's checkpoint hash, made before the gateway moves. -/
def prepare : Except WorkerRuntimeError (Option (ExecutionPlanV1 × Option String)) :=
  match envelope.control with
  | .start snapshot => do
    let plan ← (ExecutionPlanV1.compile build.enc.toEncoding snapshot envelope.snapshotHash).mapError .plan
    return some (plan, none)
  | .restore rehydration => do
    let restored ← (RehydratorV1.restore build.enc rehydration).mapError .recovery
    let plan ← (ExecutionPlanV1.compile build.enc.toEncoding rehydration.snapshot envelope.snapshotHash).mapError .plan
    return some (plan, some restored.checkpoint.checkpointHash)
  | _ => .ok none

def handshake (planFingerprint : String) : WorkerHandshakeV1 where
  protocolVersion := 1
  workerVersion := build.version
  chatId := envelope.chatId
  runId := envelope.runId
  generation := envelope.generation
  snapshotHash := envelope.snapshotHash
  planFingerprint := planFingerprint
  executableIdentity := build.executable

/-- The proposal that answers a message, and whether it takes the reserved lane; an acknowledgement or shutdown has
none. -/
def replyTo (prepared : Option (ExecutionPlanV1 × Option String)) : WorkerControlKindV1 →
    Option (WorkerProposalKindV1 × Bool)
  | .start _ => prepared.map fun made => (.ready made.1.fingerprint, false)
  | .restore _ => prepared.bind fun made => made.2.map fun hash => (.rehydrationReady hash, false)
  | .input inputId _ => some (.health (.object [("acceptedInputId", .string inputId.val)]), false)
  | .approval approvalId outcome =>
    some (.health (.object [("acceptedApprovalId", .string approvalId.val), ("outcome", .string outcome.wireName)]), false)
  | .pause controlId scope =>
    some (.suspension controlId (.object [("scope", .string scope), ("state", .string "paused")]), true)
  | .resume controlId scope =>
    some (.health (.object [("resumedControlId", .string controlId.val), ("scope", .string scope)]), true)
  | .cancel controlId scope =>
    some (.terminal "cancelled" (.object [("controlId", .string controlId.val), ("scope", .string scope)]), true)
  | .capabilityOutcome outcome =>
    some (.health (.object [("acceptedOutcomeId", .string outcome.outcomeId.val),
      ("class", .string outcome.outcomeClass.wireName), ("invocationId", .string outcome.invocationId.val)]), false)
  | .committedAck _ _ => none
  | .shutdown _ => none

/-- The messages that `require_plan` guards. -/
def needsPlan : WorkerControlKindV1 → Bool
  | .start _ => false
  | .restore _ => false
  | .committedAck _ _ => false
  | .shutdown _ => false
  | _ => true

def shutdownOf : WorkerControlKindV1 → Option StableId
  | .shutdown controlId => some controlId
  | _ => none

def handle : ServiceM ServiceResultV1 := do
  let prepared ← Prog.lift (prepare build envelope)
  let admission ← onGateway (CoreGatewayV1.admitControl build.enc envelope)
  if admission = .duplicate then pure {}
  else
    let s ← Prog.read
    Prog.lift (refuseIf (needsPlan envelope.control && s.plan.isNone) .notStarted)
    -- a start or restore stores its plan before it answers
    Prog.update fun s => { s with plan := (prepared.map Prod.fst).or s.plan }
    let proposals ← match replyTo prepared envelope.control with
      | none => pure []
      | some (proposal, reserved) => do
        let sent ← onGateway (CoreGatewayV1.emitInner build.enc proposal reserved)
        pure [sent]
    Prog.update fun s => { s with heartbeatSequence := saturatingAdd u64Max s.heartbeatSequence 1 }
    let s ← Prog.read
    let shutdownAck := shutdownOf envelope.control
    pure { handshake := prepared.map fun made => handshake build envelope made.1.fingerprint
           proposals
           heartbeat := some ⟨s.heartbeatSequence, s.heartbeatSequence, shutdownAck.isNone, proposals.isEmpty⟩
           shutdownAck
           shutdown := shutdownAck.isSome }

end Build

end WorkerServiceV1

end Aworkit.Worker
