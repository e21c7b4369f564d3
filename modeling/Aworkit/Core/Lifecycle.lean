import Aworkit.Protocol.Identity

/-! The event-sourced one-Chat/one-Run aggregate: commands, events, the command guard `decide`, the reducer guard
`canApply`, the reducer and the fold of a log. -/
namespace Aworkit.Core
open Protocol

inductive RunStateV1 where
  | draft | blockedDraft | resolving | starting | active | waitingInput | waitingApproval
  | pausing | paused | cancelling | rehydrating | blocked | cancelled | completed | failed
  deriving DecidableEq, Repr

def RunStateV1.isTerminal : RunStateV1 → Bool
  | .cancelled | .completed | .failed => true
  | _ => false

inductive WaitReason where
  | input | approval
  deriving DecidableEq, Repr

inductive RunCommandKindV1 where
  | startResolved (inputId snapshotId : StableId) (snapshotHash : String)
  | rejectStart (code : String)
  | acceptFirstInput (inputId : StableId)
  | freezeSnapshot (snapshotId : StableId) (snapshotHash : String)
  | workerReady (generation : Nat)
  | queueInput (inputId : StableId)
  | deliverInput (inputId : StableId)
  | beginAttempt (attemptId operationId : StableId)
  | finishAttempt (attemptId : StableId) (outcome : String)
  | wait (reason : WaitReason)
  | resolveApproval (approvalId : StableId) (approved : Bool)
  | requestPause
  | workerQuiesced (checkpointHash : String)
  | resume
  | requestCancel
  | workerStopped
  | workerCrashed (generation : Nat) (checkpointHash : Option String) (uncertainInvocations : List StableId)
  | rehydrationReady (generation : Nat)
  | resolveBlockedInvocation (invocationId : StableId)
  | complete
  | fail (code : String) (retryable : Bool)
  | retry
  | fork (childChatId : StableId)
  | continueFrom (parentChatId : StableId)
  deriving DecidableEq

structure RunCommandV1 where
  commandId : StableId
  expectedVersion : Nat
  command : RunCommandKindV1
  deriving DecidableEq

inductive RunEventKindV1 where
  | chatStarted (inputId snapshotId : StableId) (snapshotHash : String)
  | startRejected (code : String)
  | firstInputAccepted (inputId : StableId)
  | snapshotFrozen (snapshotId : StableId) (snapshotHash : String)
  | workerGenerationReady (generation : Nat)
  | inputQueued (inputId : StableId)
  | inputDelivered (inputId : StableId)
  | attemptBegan (attemptId operationId : StableId)
  | attemptFinished (attemptId : StableId) (outcome : String)
  | waited (reason : WaitReason)
  | approvalResolved (approvalId : StableId) (approved : Bool)
  | pauseRequested
  | paused (checkpointHash : String)
  | resumed
  | cancellationRequested
  | cancelled
  | workerGenerationCrashed (generation : Nat) (checkpointHash : Option String)
      (uncertainInvocations : List StableId)
  | rehydrationReady (generation : Nat)
  | blockedInvocationResolved (invocationId : StableId)
  | completed
  | failed (code : String) (retryable : Bool)
  | retried
  | forked (childChatId : StableId)
  | continued (parentChatId : StableId)
  deriving DecidableEq

structure CommittedRunEventV1 where
  sequence : Nat
  commandId : StableId
  event : RunEventKindV1
  deriving DecidableEq

inductive RunCommandOutcomeV1 where
  | applied (event : CommittedRunEventV1)
  | duplicate (event : CommittedRunEventV1)
  deriving DecidableEq

inductive LifecycleErrorV1 where
  | illegalTransition (state : RunStateV1)
  | versionConflict (expected actual : Nat)
  | commandIdentityConflict
  | corruptHistory
  | versionExhausted
  | encoding
  deriving DecidableEq

structure AttemptStateV1 where
  operationId : StableId
  outcome : Option String
  deriving DecidableEq

/-- Lifecycle truth for exactly one Chat and one Run. -/
structure RunAggregateV1 where
  (chatId runId : StableId)
  version : Nat
  state : RunStateV1
  snapshotId : Option StableId
  snapshotHash : Option String
  generation : Option Nat
  queuedInputs : List StableId
  activeAttempts : Std.ExtTreeMap String AttemptStateV1
  lastCheckpointHash : Option String
  uncertainInvocations : Std.ExtTreeSet String
  retryableFailure : Bool
  parentChatId : Option StableId
  childChatIds : List StableId
  startRejection : Option String
  rehydrationTarget : Option RunStateV1
  events : List CommittedRunEventV1
  commandDigests : Std.ExtTreeMap String String

def validLabel (value : String) : Bool :=
  !trimIsEmpty value && decide (value.utf8ByteSize ≤ 256) && !value.toList.any controlChar

def acceptsQueuedInput : RunStateV1 → Bool
  | .starting | .active | .waitingInput | .waitingApproval | .pausing | .paused | .rehydrating => true
  | _ => false

/-- The states in which a worker generation can be reported as crashed. -/
def crashable : RunStateV1 → Bool
  | .active | .waitingInput | .waitingApproval | .pausing | .paused | .cancelling => true
  | _ => false

/-- Collecting the texts into a set keeps as many as there are. -/
def distinctIds (ids : List StableId) : Bool :=
  (Std.ExtTreeSet.ofList (ids.map StableId.val)).size == ids.length

/-- A command whose generation leaves the exact wire range has no encoding. -/
def RunCommandKindV1.encodes : RunCommandKindV1 → Bool
  | .workerReady generation | .rehydrationReady generation => decide (generation ≤ maxSafeWireInteger)
  | .workerCrashed generation _ _ => decide (generation ≤ maxSafeWireInteger)
  | _ => true

namespace RunAggregateV1

def new (chatId runId : StableId) : RunAggregateV1 where
  chatId := chatId
  runId := runId
  version := 0
  state := .draft
  snapshotId := none
  snapshotHash := none
  generation := none
  queuedInputs := []
  activeAttempts := ∅
  lastCheckpointHash := none
  uncertainInvocations := ∅
  retryableFailure := false
  parentChatId := none
  childChatIds := []
  startRejection := none
  rehydrationTarget := none
  events := []
  commandDigests := ∅

variable (a : RunAggregateV1)

/-- An attempt that began and has no outcome yet. -/
def attemptOpen (attemptId : StableId) : Bool :=
  a.activeAttempts[attemptId.val]?.any (fun attempt => attempt.outcome.isNone)

/-- The command guard: the event a command asks for, if the state admits it. -/
def decide (command : RunCommandKindV1) : Except LifecycleErrorV1 RunEventKindV1 :=
  let allow (guard : Bool) (event : RunEventKindV1) : Except LifecycleErrorV1 RunEventKindV1 :=
    if guard then .ok event else .error (.illegalTransition a.state)
  match command with
  | .startResolved inputId snapshotId snapshotHash =>
    allow ((a.state == .draft || a.state == .blockedDraft) && a.snapshotHash.isNone && isSha256 snapshotHash)
      (.chatStarted inputId snapshotId snapshotHash)
  | .rejectStart code =>
    allow ((a.state == .draft || a.state == .blockedDraft || a.state == .resolving) &&
      a.snapshotHash.isNone && validLabel code) (.startRejected code)
  | .acceptFirstInput inputId =>
    allow (a.state == .draft || a.state == .blockedDraft) (.firstInputAccepted inputId)
  | .freezeSnapshot snapshotId snapshotHash =>
    allow (a.state == .resolving && isSha256 snapshotHash && a.snapshotHash.isNone)
      (.snapshotFrozen snapshotId snapshotHash)
  | .workerReady generation =>
    allow (a.state == .starting && Nat.blt 0 generation) (.workerGenerationReady generation)
  | .queueInput inputId =>
    allow (acceptsQueuedInput a.state && !a.queuedInputs.contains inputId) (.inputQueued inputId)
  | .deliverInput inputId =>
    allow ((a.state == .active || a.state == .waitingInput) && a.queuedInputs.head? == some inputId)
      (.inputDelivered inputId)
  | .beginAttempt attemptId operationId =>
    allow (a.state == .active && !a.activeAttempts.contains attemptId.val) (.attemptBegan attemptId operationId)
  | .finishAttempt attemptId outcome =>
    allow (a.state == .active && a.attemptOpen attemptId && validLabel outcome)
      (.attemptFinished attemptId outcome)
  | .wait reason => allow (a.state == .active) (.waited reason)
  | .resolveApproval approvalId approved =>
    allow (a.state == .waitingApproval) (.approvalResolved approvalId approved)
  | .requestPause =>
    allow (a.state == .active || a.state == .waitingInput || a.state == .waitingApproval) .pauseRequested
  | .workerQuiesced checkpointHash =>
    allow (a.state == .pausing && isSha256 checkpointHash) (.paused checkpointHash)
  | .resume => allow (a.state == .paused) .resumed
  | .requestCancel => allow (!a.state.isTerminal) .cancellationRequested
  | .workerStopped => allow (a.state == .cancelling) .cancelled
  | .workerCrashed generation checkpointHash uncertainInvocations =>
    allow (crashable a.state && a.generation == some generation && checkpointHash.all isSha256 &&
      distinctIds uncertainInvocations)
      (.workerGenerationCrashed generation checkpointHash uncertainInvocations)
  | .rehydrationReady generation =>
    allow (a.state == .rehydrating && a.generation.all (fun current => Nat.blt current generation))
      (.rehydrationReady generation)
  | .resolveBlockedInvocation invocationId =>
    allow (a.state == .blocked && a.uncertainInvocations.contains invocationId.val)
      (.blockedInvocationResolved invocationId)
  | .complete => allow (a.state == .active) .completed
  | .fail code retryable => allow (!a.state.isTerminal && validLabel code) (.failed code retryable)
  | .retry => allow (a.state == .failed && a.retryableFailure) .retried
  | .fork childChatId => allow a.state.isTerminal (.forked childChatId)
  | .continueFrom parentChatId =>
    allow (a.state == .draft && a.parentChatId.isNone) (.continued parentChatId)

/-- The reducer guard, written separately from `decide` in the source. -/
def canApply : RunEventKindV1 → Bool
  | .chatStarted _ _ snapshotHash =>
    (a.state == .draft || a.state == .blockedDraft) && a.snapshotHash.isNone && isSha256 snapshotHash
  | .startRejected code =>
    (a.state == .draft || a.state == .blockedDraft || a.state == .resolving) &&
      a.snapshotHash.isNone && validLabel code
  | .firstInputAccepted inputId =>
    (a.state == .draft || a.state == .blockedDraft) && !a.queuedInputs.contains inputId
  | .snapshotFrozen _ snapshotHash =>
    a.state == .resolving && a.snapshotHash.isNone && isSha256 snapshotHash
  | .workerGenerationReady generation => a.state == .starting && Nat.blt 0 generation
  | .inputQueued inputId => acceptsQueuedInput a.state && !a.queuedInputs.contains inputId
  | .inputDelivered inputId =>
    (a.state == .active || a.state == .waitingInput) && a.queuedInputs.head? == some inputId
  | .attemptBegan attemptId _ => a.state == .active && !a.activeAttempts.contains attemptId.val
  | .attemptFinished attemptId outcome => a.state == .active && validLabel outcome && a.attemptOpen attemptId
  | .waited _ => a.state == .active
  | .approvalResolved _ _ => a.state == .waitingApproval
  | .pauseRequested => a.state == .active || a.state == .waitingInput || a.state == .waitingApproval
  | .paused checkpointHash => a.state == .pausing && isSha256 checkpointHash
  | .resumed => a.state == .paused
  | .cancellationRequested => !a.state.isTerminal
  | .cancelled => a.state == .cancelling
  | .workerGenerationCrashed generation checkpointHash uncertainInvocations =>
    crashable a.state && a.generation == some generation && checkpointHash.all isSha256 &&
      distinctIds uncertainInvocations
  | .rehydrationReady generation =>
    a.state == .rehydrating && a.generation.all (fun current => Nat.blt current generation)
  | .blockedInvocationResolved invocationId =>
    a.state == .blocked && a.uncertainInvocations.contains invocationId.val
  | .completed => a.state == .active
  | .failed code _ => !a.state.isTerminal && validLabel code
  | .retried => a.state == .failed && a.retryableFailure
  | .forked childChatId => a.state.isTerminal && !a.childChatIds.contains childChatId
  | .continued _ => a.state == .draft && a.parentChatId.isNone

/-- The position a replacement generation resumes at after a crash. -/
def crashTarget : RunStateV1 → RunStateV1
  | .waitingInput => .waitingInput
  | .waitingApproval => .waitingApproval
  | .paused | .pausing => .paused
  | .cancelling => .cancelling
  | _ => .active

/-- The field updates of one event, before the version is advanced. -/
def reduce : RunEventKindV1 → Except LifecycleErrorV1 Unit × RunAggregateV1
  | .chatStarted inputId snapshotId snapshotHash =>
    (.ok (), { a with
      queuedInputs := a.queuedInputs ++ [inputId], snapshotId := some snapshotId,
      snapshotHash := some snapshotHash, startRejection := none, state := .starting })
  | .startRejected code =>
    (.ok (), { a with startRejection := some code, queuedInputs := [], state := .blockedDraft })
  | .firstInputAccepted inputId =>
    (.ok (), { a with
      state := .resolving, startRejection := none, queuedInputs := a.queuedInputs ++ [inputId] })
  | .snapshotFrozen snapshotId snapshotHash =>
    (.ok (), { a with
      snapshotId := some snapshotId, snapshotHash := some snapshotHash, state := .starting })
  | .workerGenerationReady generation | .rehydrationReady generation =>
    (.ok (), { a with
      generation := some generation, rehydrationTarget := none,
      state := a.rehydrationTarget.getD .active })
  | .inputQueued inputId => (.ok (), { a with queuedInputs := a.queuedInputs ++ [inputId] })
  | .inputDelivered inputId =>
    if a.queuedInputs.head? == some inputId then
      (.ok (), { a with queuedInputs := a.queuedInputs.tail, state := .active })
    else (.error .corruptHistory, a)
  | .attemptBegan attemptId operationId =>
    (.ok (), { a with activeAttempts := a.activeAttempts.insert attemptId.val ⟨operationId, none⟩ })
  | .attemptFinished attemptId outcome =>
    match a.activeAttempts[attemptId.val]? with
    | none => (.error .corruptHistory, a)
    | some attempt =>
      (.ok (), { a with
        activeAttempts := a.activeAttempts.insert attemptId.val { attempt with outcome := some outcome } })
  | .waited reason =>
    (.ok (), { a with
      state := match reason with
        | .input => .waitingInput
        | .approval => .waitingApproval })
  | .approvalResolved _ _ => (.ok (), { a with state := .active })
  | .pauseRequested => (.ok (), { a with state := .pausing })
  | .paused checkpointHash =>
    (.ok (), { a with lastCheckpointHash := some checkpointHash, state := .paused })
  | .resumed => (.ok (), { a with state := .active })
  | .cancellationRequested => (.ok (), { a with state := .cancelling })
  | .cancelled => (.ok (), { a with state := .cancelled })
  | .workerGenerationCrashed _ checkpointHash uncertainInvocations =>
    let uncertain := Std.ExtTreeSet.ofList (uncertainInvocations.map StableId.val)
    (.ok (), { a with
      rehydrationTarget := some (crashTarget a.state), lastCheckpointHash := checkpointHash,
      uncertainInvocations := uncertain,
      state := if uncertain.isEmpty && checkpointHash.isSome then .rehydrating else .blocked })
  | .blockedInvocationResolved invocationId =>
    let uncertain := a.uncertainInvocations.erase invocationId.val
    (.ok (), { a with
      uncertainInvocations := uncertain,
      state := if uncertain.isEmpty && a.lastCheckpointHash.isSome then .rehydrating else a.state })
  | .completed => (.ok (), { a with state := .completed })
  | .failed _ retryable => (.ok (), { a with retryableFailure := retryable, state := .failed })
  | .retried =>
    (.ok (), { a with
      retryableFailure := false, rehydrationTarget := some .active, state := .rehydrating })
  | .forked childChatId => (.ok (), { a with childChatIds := a.childChatIds ++ [childChatId] })
  | .continued parentChatId => (.ok (), { a with parentChatId := some parentChatId })

def applyEvent (committed : CommittedRunEventV1) : Except LifecycleErrorV1 Unit × RunAggregateV1 :=
  if committed.sequence ≠ saturatingAdd u64Max a.version 1 then (.error .corruptHistory, a)
  else if !a.canApply committed.event then (.error .corruptHistory, a)
  else
    match a.reduce committed.event with
    | (.error e, a') => (.error e, a')
    | (.ok (), a') => (.ok (), { a' with version := committed.sequence })

section Handle
variable (digest : RunCommandV1 → Sha256Digest)

/-- SHA-256 of the canonical JSON, which fails only on the wire range. -/
def commandDigest (command : RunCommandV1) : Except LifecycleErrorV1 String :=
  if command.command.encodes then .ok (digest command).text else .error .encoding

/-- The part of `handle` for a command id not seen before. -/
def handleFresh (a : RunAggregateV1) (command : RunCommandV1) (text : String) :
    Except LifecycleErrorV1 RunCommandOutcomeV1 × RunAggregateV1 :=
  if command.expectedVersion ≠ a.version then
    (.error (.versionConflict command.expectedVersion a.version), a)
  else
    match a.decide command.command with
    | .error e => (.error e, a)
    | .ok kind =>
      match checkedSucc a.version with
      | none => (.error .versionExhausted, a)
      | some sequence =>
        let event : CommittedRunEventV1 := ⟨sequence, command.commandId, kind⟩
        match a.applyEvent event with
        | (.error e, a') => (.error e, a')
        | (.ok (), a') =>
          (.ok (.applied event), { a' with
            commandDigests := a'.commandDigests.insert command.commandId.val text,
            events := a'.events ++ [event] })

def handle (a : RunAggregateV1) (command : RunCommandV1) :
    Except LifecycleErrorV1 RunCommandOutcomeV1 × RunAggregateV1 :=
  match commandDigest digest command with
  | .error e => (.error e, a)
  | .ok text =>
    match a.commandDigests[command.commandId.val]? with
    | some previous =>
      if previous ≠ text then (.error .commandIdentityConflict, a)
      else
        match a.events.find? (fun event => event.commandId == command.commandId) with
        | none => (.error .corruptHistory, a)
        | some event => (.ok (.duplicate event), a)
    | none => a.handleFresh command text

/-- The aggregate after a sequence of commands, whatever they returned. -/
def run (a : RunAggregateV1) (commands : List RunCommandV1) : RunAggregateV1 :=
  commands.foldl (fun b command => (b.handle digest command).2) a

end Handle

/-- One event of a stored log, re-validated, under a placeholder digest. -/
def foldEvent (a : RunAggregateV1) (event : CommittedRunEventV1) : Except LifecycleErrorV1 RunAggregateV1 :=
  if event.sequence ≠ saturatingAdd u64Max a.version 1 || a.commandDigests.contains event.commandId.val then
    .error .corruptHistory
  else
    match a.applyEvent event with
    | (.error e, _) => .error e
    | (.ok (), a') => .ok { a' with
        commandDigests := a'.commandDigests.insert event.commandId.val ("folded:" ++ toString event.sequence),
        events := a'.events ++ [event] }

def fold (chatId runId : StableId) (events : List CommittedRunEventV1) : Except LifecycleErrorV1 RunAggregateV1 :=
  events.foldlM foldEvent (new chatId runId)

end RunAggregateV1
end Aworkit.Core
