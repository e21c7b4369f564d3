import Aworkit.Worker.PlanSound

/-! The deterministic token scheduler. Every operation returns the scheduler it leaves, so an error keeps what was
changed before it. -/
namespace Aworkit.Worker
open Protocol Fallible OrderedMap Std

inductive TokenStateV1 where
  | ready | inFlight | awaitingCommit | completed | suspended | cancelled
  deriving DecidableEq

inductive ExternalCompletionV1 where
  | waitInputReceived
  deriving DecidableEq

structure TokenV1 where
  (tokenId nodeId : StableId)
  (contextRevision logicalTick : Nat)
  branchLineage : String
  state : TokenStateV1
  (awaitingProposalId selectedTransitionId selectedLoopId : Option StableId)
  externalCompletion : Option ExternalCompletionV1
  deriving DecidableEq

@[ext] structure ReadyKeyV1 where
  logicalTick : Nat
  nodeOrdinal : Nat
  branchLineage : String
  tokenId : String
  deriving DecidableEq

/-- Field by field, in the order of the fields. -/
instance : Ord ReadyKeyV1 where
  compare := compareLex (compareOn ReadyKeyV1.logicalTick) (compareLex (compareOn ReadyKeyV1.nodeOrdinal)
    (compareLex (compareOn ReadyKeyV1.branchLineage) (compareOn ReadyKeyV1.tokenId)))

instance : TransOrd ReadyKeyV1 := by
  exact (inferInstance : TransCmp (compareLex (compareOn ReadyKeyV1.logicalTick)
    (compareLex (compareOn ReadyKeyV1.nodeOrdinal)
      (compareLex (compareOn ReadyKeyV1.branchLineage) (compareOn ReadyKeyV1.tokenId)))))

instance : LawfulEqOrd ReadyKeyV1 where
  eq_of_compare {a b} h := by
    have hlex : compareLex (compareOn ReadyKeyV1.logicalTick) (compareLex (compareOn ReadyKeyV1.nodeOrdinal)
        (compareLex (compareOn ReadyKeyV1.branchLineage) (compareOn ReadyKeyV1.tokenId))) a b = .eq := h
    simp only [compareLex_eq_eq, compareOn, LawfulEqOrd.compare_eq_iff_eq] at hlex
    exact ReadyKeyV1.ext hlex.1 hlex.2.1 hlex.2.2.1 hlex.2.2.2

structure TransitionProposalV1 where
  (proposalId tokenId transitionId : StableId)
  facts : Value

structure TerminalProposalV1 where
  (proposalId tokenId : StableId)
  outcome : String
  facts : Value

structure WaitInputProposalV1 where
  (proposalId tokenId : StableId)
  facts : Value

structure AckAdmissionV1 where
  duplicate : Bool
  admittedToken : Option TokenV1

structure SchedulerCheckpointV1 where
  (logicalTick nextTokenOrdinal committedCursor : Nat)
  tokens : List TokenV1
  ready : List (Nat × Nat × String × String)
  loopCounts : ExtTreeMap String Nat
  acknowledgedProposals : ExtTreeMap String (Option String)

inductive SchedulerErrorV1 where
  | unknownNode (node : String)
  | unknownToken (token : String)
  | invalidTokenState (token : String)
  | noTransition (node : String)
  | invalidPredicate (reason : String)
  | loopExhausted (loop : String)
  | ackMismatch
  | notTerminal (token : String)
  | notWait (token : String)
  | cursorRegression
  | invalidCheckpoint
  | invalidIdentifier
  deriving DecidableEq

structure SchedulerV1 where
  plan : ExecutionPlanV1
  nodeOrdinals : ExtTreeMap String Nat
  ready : ExtTreeSet ReadyKeyV1
  tokens : ExtTreeMap String TokenV1
  (nextTokenOrdinal logicalTick committedCursor : Nat)
  loopCounts : ExtTreeMap String Nat
  acknowledgedProposals : ExtTreeMap String (Option String)

/-- What a scheduler operation answers and leaves behind. -/
abbrev Stepped (α : Type) := Except SchedulerErrorV1 α × SchedulerV1

variable (fingerprint : String)

def tokenMaterial (ordinal : Nat) (node : StableId) (lineage : String) : String :=
  "token:" ++ fingerprint ++ ":" ++ toString ordinal ++ ":" ++ node.val ++ ":" ++ lineage

def transitionMaterial (token transition : StableId) : String :=
  "transition:" ++ fingerprint ++ ":" ++ token.val ++ ":" ++ transition.val

def terminalMaterial (token : StableId) (outcome : String) : String :=
  "terminal:" ++ fingerprint ++ ":" ++ token.val ++ ":" ++ outcome

def waitInputMaterial (token : StableId) : String :=
  "wait-input:" ++ fingerprint ++ ":" ++ token.val

def lineageMatches (candidate cancelled : String) : Bool :=
  candidate == cancelled ||
    (cancelled.toList.isPrefixOf candidate.toList && (candidate.toList.drop cancelled.length).head? == some '/')

def validLineage (lineage : String) : Bool := !lineage.isEmpty && decide (lineage.utf8ByteSize ≤ 512)

/-- A token with an uncommitted pass through the loop. -/
def TokenV1.pendingIn (loop : StableId) (token : TokenV1) : Bool :=
  token.state == .awaitingCommit && token.selectedLoopId == some loop

def countTokens (p : TokenV1 → Bool) (tokens : ExtTreeMap String TokenV1) : Nat :=
  sumValues (fun token => if p token then 1 else 0) tokens

def stableId (enc : Encoding) (material : String) : Except SchedulerErrorV1 StableId :=
  require (StableId.parse ("worker." ++ String.ofList ((enc.sha256 material).text.toList.take 48))) .invalidIdentifier

namespace SchedulerV1

/-- The position of each node in the snapshot. -/
def ordinalTable (nodes : List WorkerNodeV1) : ExtTreeMap String Nat :=
  nodes.zipIdx.foldl (fun table entry => table.insert entry.1.nodeId.val entry.2) ∅

def new (plan : ExecutionPlanV1) : SchedulerV1 where
  plan := plan
  nodeOrdinals := ordinalTable plan.snapshot.nodes
  ready := ∅
  tokens := ∅
  nextTokenOrdinal := 1
  logicalTick := 0
  committedCursor := 0
  loopCounts := ∅
  acknowledgedProposals := ∅

def enqueue (enc : Encoding) (s : SchedulerV1) (nodeId : StableId) (contextRevision : Nat) (branchLineage : String) :
    Stepped TokenV1 :=
  match s.nodeOrdinals[nodeId.val]? with
  | none => (.error (.unknownNode nodeId.val), s)
  | some ordinal =>
    if !validLineage branchLineage then (.error .invalidCheckpoint, s)
    else
      match stableId enc (tokenMaterial s.plan.fingerprint s.nextTokenOrdinal nodeId branchLineage) with
      | .error e => (.error e, s)
      | .ok tokenId =>
        match checkedSucc s.nextTokenOrdinal with
        | none => (.error .invalidCheckpoint, s)
        | some next =>
          let token : TokenV1 := {
            tokenId, nodeId, contextRevision, logicalTick := s.logicalTick,
            branchLineage, state := .ready, awaitingProposalId := none,
            selectedTransitionId := none, selectedLoopId := none, externalCompletion := none }
          (.ok token, { s with
            nextTokenOrdinal := next
            ready := s.ready.insert ⟨s.logicalTick, ordinal, branchLineage, tokenId.val⟩
            tokens := s.tokens.insert tokenId.val token })

/-- Enqueues nodes in turn on the root lineage and stops at the first error. -/
def seedFrom (enc : Encoding) (contextRevision : Nat) : List StableId → SchedulerV1 → Stepped (List TokenV1)
  | [], s => (.ok [], s)
  | node :: rest, s =>
    match s.enqueue enc node contextRevision "root" with
    | (.error e, s') => (.error e, s')
    | (.ok token, s') =>
      match seedFrom enc contextRevision rest s' with
      | (.error e, s'') => (.error e, s'')
      | (.ok tokens, s'') => (.ok (token :: tokens), s'')

def seedEntries (enc : Encoding) (s : SchedulerV1) (contextRevision : Nat) : Stepped (List TokenV1) :=
  seedFrom enc contextRevision s.plan.snapshot.entryNodes s

variable (s : SchedulerV1)

/-- Takes the first ready key, even when it names no ready token. -/
def claimNext : Option TokenV1 × SchedulerV1 :=
  match s.ready.toList.head? with
  | none => (none, s)
  | some key =>
    let s' := { s with ready := s.ready.erase key }
    match s.tokens[key.tokenId]? with
    | none => (none, s')
    | some token =>
      if token.state ≠ .ready then (none, s')
      else
        let claimed := { token with state := .inFlight }
        (some claimed, { s' with tokens := s.tokens.insert key.tokenId claimed })

/-- The first outgoing transition whose predicate, if any, holds. -/
def firstMatching (facts : Value) (nodeId : StableId) :
    List WorkerTransitionV1 → Except SchedulerErrorV1 WorkerTransitionV1
  | [] => .error (.noTransition nodeId.val)
  | transition :: rest =>
    match transition.predicate with
    | none => .ok transition
    | some predicate =>
      match evaluatePredicate predicate facts with
      | .error e => .error (.invalidPredicate e.display)
      | .ok true => .ok transition
      | .ok false => firstMatching facts nodeId rest

def selectTransition (nodeId : StableId) (facts : Value) : Except SchedulerErrorV1 WorkerTransitionV1 :=
  let routes := s.plan.routeRules nodeId
  if routes.isEmpty then firstMatching facts nodeId (s.plan.outgoingOf nodeId)
  else
    match chooseRoute nodeId routes facts with
    | .error e => .error (.invalidPredicate e.display)
    | .ok decision => require (s.plan.transition decision.transitionId) (.noTransition nodeId.val)

/-- Refuses a pass through a loop whose counted and pending passes use it up. -/
def admitLoop : Option StableId → Except SchedulerErrorV1 Unit
  | none => .ok ()
  | some loopId => do
    let descriptor ← require (s.plan.loopDescriptor loopId) (.loopExhausted loopId.val)
    let committed := s.loopCounts[loopId.val]?.getD 0
    let pending := countTokens (TokenV1.pendingIn loopId) s.tokens
    refuseIf (decide (u32Max < pending)) (.loopExhausted loopId.val)
    refuseIf (decide (descriptor.maximumIterations.toNat ≤ saturatingAdd u32Max committed pending))
      (.loopExhausted loopId.val)

/-- The claimed token of an id, which every proposal starts from. -/
def claimedToken (tokenId : StableId) : Except SchedulerErrorV1 TokenV1 := do
  let token ← require s.tokens[tokenId.val]? (.unknownToken tokenId.val)
  refuseIf (token.state != .inFlight) (.invalidTokenState tokenId.val)
  .ok token

/-- Blocks a claimed token on a proposal. -/
def awaitCommit (tokenId : StableId) (token : TokenV1) (proposalId : StableId)
    (transition loop : Option StableId) (completion : Option ExternalCompletionV1) : SchedulerV1 :=
  { s with tokens := s.tokens.insert tokenId.val { token with
      state := .awaitingCommit, awaitingProposalId := some proposalId, selectedTransitionId := transition,
      selectedLoopId := loop, externalCompletion := completion } }

variable (enc : Encoding)

/-- The checks of a transition proposal: token, transition and proposal id. -/
def checkTransition (s : SchedulerV1) (tokenId : StableId) (facts : Value) :
    Except SchedulerErrorV1 (TokenV1 × WorkerTransitionV1 × StableId) := do
  let token ← s.claimedToken tokenId
  let transition ← s.selectTransition token.nodeId facts
  s.admitLoop transition.declaredLoopId
  let proposalId ← stableId enc (transitionMaterial s.plan.fingerprint tokenId transition.transitionId)
  .ok (token, transition, proposalId)

def proposeTransition (s : SchedulerV1) (tokenId : StableId) (facts : Value) : Stepped TransitionProposalV1 :=
  match s.checkTransition enc tokenId facts with
  | .error e => (.error e, s)
  | .ok (token, transition, proposalId) =>
    (.ok ⟨proposalId, tokenId, transition.transitionId, facts⟩,
      s.awaitCommit tokenId token proposalId (some transition.transitionId) transition.declaredLoopId none)

def hasExecutor (nodeId : StableId) (executor : WorkerExecutorKindV1) : Bool :=
  (s.plan.node nodeId).any fun node => node.executor == executor

def checkTerminal (s : SchedulerV1) (tokenId : StableId) (outcome : String) :
    Except SchedulerErrorV1 (TokenV1 × StableId) := do
  let token ← s.claimedToken tokenId
  refuseIf (!s.hasExecutor token.nodeId .terminal) (.notTerminal tokenId.val)
  refuseIf (trimIsEmpty outcome || decide (256 < outcome.utf8ByteSize)) .invalidCheckpoint
  let proposalId ← stableId enc (terminalMaterial s.plan.fingerprint tokenId outcome)
  .ok (token, proposalId)

def proposeTerminal (s : SchedulerV1) (tokenId : StableId) (outcome : String) (facts : Value) :
    Stepped TerminalProposalV1 :=
  match s.checkTerminal enc tokenId outcome with
  | .error e => (.error e, s)
  | .ok (token, proposalId) =>
    (.ok ⟨proposalId, tokenId, outcome, facts⟩, s.awaitCommit tokenId token proposalId none none none)

def checkWaitInput (s : SchedulerV1) (tokenId : StableId) : Except SchedulerErrorV1 (TokenV1 × StableId) := do
  let token ← s.claimedToken tokenId
  refuseIf (!s.hasExecutor token.nodeId .wait) (.notWait tokenId.val)
  let proposalId ← stableId enc (waitInputMaterial s.plan.fingerprint tokenId)
  .ok (token, proposalId)

def proposeWaitInput (s : SchedulerV1) (tokenId : StableId) (facts : Value) : Stepped WaitInputProposalV1 :=
  match s.checkWaitInput enc tokenId with
  | .error e => (.error e, s)
  | .ok (token, proposalId) =>
    (.ok ⟨proposalId, tokenId, facts⟩, s.awaitCommit tokenId token proposalId none none (some .waitInputReceived))

variable (proposalId : StableId)

/-- The first token that waits, or waited, on a proposal. -/
def sourceOf : Option TokenV1 :=
  (values s.tokens).find? fun token => token.awaitingProposalId == some proposalId

/-- The token a transition acknowledgement completes, its key and transition. -/
def checkSource : Except SchedulerErrorV1 (StableId × TokenV1 × WorkerTransitionV1) := do
  let found ← require (s.sourceOf proposalId) .ackMismatch
  let source ← require s.tokens[found.tokenId.val]? .ackMismatch
  refuseIf (source.state != .awaitingCommit || source.externalCompletion.isSome) .ackMismatch
  let transitionId ← require source.selectedTransitionId .ackMismatch
  let transition ← require (s.plan.transition transitionId) .ackMismatch
  .ok (found.tokenId, source, transition)

/-- One more committed pass through a loop, on a 32-bit counter. -/
def countLoop (counts : ExtTreeMap String Nat) : Option StableId → ExtTreeMap String Nat
  | none => counts
  | some loopId => counts.insert loopId.val ((counts[loopId.val]?.getD 0 + 1) % 2 ^ 32)

/-- The scheduler after a source token is completed at a committed cursor. -/
def complete (sourceId : StableId) (source : TokenV1) (committedCursor : Nat) : SchedulerV1 :=
  { s with
    tokens := s.tokens.insert sourceId.val { source with state := .completed }
    logicalTick := saturatingAdd u64Max s.logicalTick 1
    committedCursor }

/-- Completes a source and commits its pass, before the child is enqueued. -/
def advance (sourceId : StableId) (source : TokenV1) (committedCursor : Nat) : SchedulerV1 :=
  { s.complete sourceId source committedCursor with loopCounts := countLoop s.loopCounts source.selectedLoopId }

def acknowledgeTransition (s : SchedulerV1) (proposalId : StableId) (committedCursor : Nat)
    (contextRevision : Nat) : Stepped AckAdmissionV1 :=
  if committedCursor < s.committedCursor then (.error .cursorRegression, s)
  else
    match s.acknowledgedProposals[proposalId.val]? with
    | some child => (.ok ⟨true, child.bind fun id => s.tokens[id]?⟩, s)
    | none =>
      if committedCursor ≤ s.committedCursor then (.error .cursorRegression, s)
      else
        match s.checkSource proposalId with
        | .error e => (.error e, s)
        | .ok (sourceId, source, transition) =>
          let advanced := s.advance sourceId source committedCursor
          match advanced.enqueue enc transition.toNode contextRevision source.branchLineage with
          | (.error e, s') => (.error e, s')
          | (.ok child, s') =>
            (.ok ⟨false, some child⟩, { s' with
              acknowledgedProposals := s'.acknowledgedProposals.insert proposalId.val (some child.tokenId.val) })

variable (executor : WorkerExecutorKindV1)

variable (completion : Option ExternalCompletionV1)

/-- A source completed by an event of its executor, not by a transition. -/
def completesBy (source : TokenV1) : Bool :=
  source.selectedTransitionId.isNone && source.externalCompletion == completion &&
    s.hasExecutor source.nodeId executor

def checkCompletion (proposalId : StableId) : Except SchedulerErrorV1 (StableId × TokenV1) := do
  let found ← require (s.sourceOf proposalId) .ackMismatch
  let source ← require s.tokens[found.tokenId.val]? .ackMismatch
  refuseIf (source.state != .awaitingCommit || !s.completesBy executor completion source) .ackMismatch
  .ok (found.tokenId, source)

/-- Acknowledges a completion that admits no further token. -/
def acknowledgeCompletion (s : SchedulerV1) (proposalId : StableId) (committedCursor : Nat) : Stepped AckAdmissionV1 :=
  if committedCursor < s.committedCursor then (.error .cursorRegression, s)
  else if s.acknowledgedProposals.contains proposalId.val then
    match s.sourceOf proposalId with
    | none => (.error .ackMismatch, s)
    | some source =>
      if s.completesBy executor completion source then (.ok ⟨true, none⟩, s) else (.error .ackMismatch, s)
  else if committedCursor ≤ s.committedCursor then (.error .cursorRegression, s)
  else
    match s.checkCompletion executor completion proposalId with
    | .error e => (.error e, s)
    | .ok (sourceId, source) =>
      (.ok ⟨false, none⟩, { s.complete sourceId source committedCursor with
        acknowledgedProposals := s.acknowledgedProposals.insert proposalId.val none })

def acknowledgeTerminal (committedCursor : Nat) : Stepped AckAdmissionV1 :=
  acknowledgeCompletion .terminal none s proposalId committedCursor

def acknowledgeWaitInput (committedCursor : Nat) : Stepped AckAdmissionV1 :=
  acknowledgeCompletion .wait (some .waitInputReceived) s proposalId committedCursor

def suspend (tokenId : StableId) : Stepped Unit :=
  match s.tokens[tokenId.val]? with
  | none => (.error (.unknownToken tokenId.val), s)
  | some token =>
    if token.state ≠ .inFlight then (.error (.invalidTokenState tokenId.val), s)
    else (.ok (), { s with tokens := s.tokens.insert tokenId.val { token with state := .suspended } })

def resume (tokenId : StableId) : Stepped Unit :=
  match s.tokens[tokenId.val]? with
  | none => (.error (.unknownToken tokenId.val), s)
  | some token =>
    if token.state ≠ .suspended then (.error (.invalidTokenState tokenId.val), s)
    else
      let s' := { s with tokens := s.tokens.insert tokenId.val { token with state := .ready } }
      match s.nodeOrdinals[token.nodeId.val]? with
      | none => (.error (.unknownNode token.nodeId.val), s')
      | some ordinal => (.ok (), { s' with
          ready := s.ready.insert ⟨token.logicalTick, ordinal, token.branchLineage, token.tokenId.val⟩ })

/-- A token that cancelling a lineage takes out of the run; a proposal the core has seen stays. -/
def cancellable (lineage : String) (token : TokenV1) : Bool :=
  lineageMatches token.branchLineage lineage &&
    !(token.state == .awaitingCommit || token.state == .completed || token.state == .cancelled)

def cancelLineage (lineage : String) : Nat × SchedulerV1 :=
  (countTokens (cancellable lineage) s.tokens, { s with
    ready := s.ready.filter fun key => !lineageMatches key.branchLineage lineage
    tokens := s.tokens.map fun _ token => if cancellable lineage token then { token with state := .cancelled } else token })

/-- The public operations of a scheduler, with their arguments. -/
inductive Operation where
  | seedEntries (contextRevision : Nat)
  | enqueue (nodeId : StableId) (contextRevision : Nat) (branchLineage : String)
  | claimNext
  | proposeTransition (tokenId : StableId) (facts : Value)
  | proposeTerminal (tokenId : StableId) (outcome : String) (facts : Value)
  | proposeWaitInput (tokenId : StableId) (facts : Value)
  | acknowledgeTransition (proposalId : StableId) (committedCursor contextRevision : Nat)
  | acknowledgeTerminal (proposalId : StableId) (committedCursor : Nat)
  | acknowledgeWaitInput (proposalId : StableId) (committedCursor : Nat)
  | suspend (tokenId : StableId)
  | resume (tokenId : StableId)
  | cancelLineage (lineage : String)

/-- The scheduler an operation leaves behind, whatever it answers. -/
def perform (s : SchedulerV1) : Operation → SchedulerV1
  | .seedEntries contextRevision => (s.seedEntries enc contextRevision).2
  | .enqueue nodeId contextRevision branchLineage => (s.enqueue enc nodeId contextRevision branchLineage).2
  | .claimNext => s.claimNext.2
  | .proposeTransition tokenId facts => (s.proposeTransition enc tokenId facts).2
  | .proposeTerminal tokenId outcome facts => (s.proposeTerminal enc tokenId outcome facts).2
  | .proposeWaitInput tokenId facts => (s.proposeWaitInput enc tokenId facts).2
  | .acknowledgeTransition proposalId committedCursor contextRevision =>
    (s.acknowledgeTransition enc proposalId committedCursor contextRevision).2
  | .acknowledgeTerminal proposalId committedCursor => (s.acknowledgeTerminal proposalId committedCursor).2
  | .acknowledgeWaitInput proposalId committedCursor => (s.acknowledgeWaitInput proposalId committedCursor).2
  | .suspend tokenId => (s.suspend tokenId).2
  | .resume tokenId => (s.resume tokenId).2
  | .cancelLineage lineage => (s.cancelLineage lineage).2

/-- Any sequence of operations, the failing ones included. -/
def run (s : SchedulerV1) (operations : List Operation) : SchedulerV1 :=
  operations.foldl (perform enc) s

end SchedulerV1
end Aworkit.Worker
