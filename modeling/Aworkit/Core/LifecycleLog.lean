import Aworkit.Core.LifecycleControl

/-! What the committed log tells of a Run, and the induction over the states of a run whose commands all meet a
condition. -/
namespace Aworkit.Core
open Protocol StableId List

/-- Invocations a crash recorded as uncertain, less those resolved since. -/
def recordUncertainty (open_ : List StableId) (event : CommittedRunEventV1) : List StableId :=
  match event.event with
  | .workerGenerationCrashed _ _ ids => open_ ++ ids
  | .blockedInvocationResolved id => open_.filter (fun other => other != id)
  | _ => open_

variable (events : List CommittedRunEventV1)

def unresolvedInvocations : List StableId :=
  events.foldl recordUncertainty []

/-- Whether the last cancellation request came after the last retry. -/
def recordCancellation (requested : Bool) (event : CommittedRunEventV1) : Bool :=
  match event.event with
  | .cancellationRequested => true
  | .retried => false
  | _ => requested

def cancellationPending : Bool :=
  events.foldl recordCancellation false

theorem unresolvedInvocations_snoc (event : CommittedRunEventV1) :
    unresolvedInvocations (events ++ [event]) = recordUncertainty (unresolvedInvocations events) event := by
  simp [unresolvedInvocations]

theorem cancellationPending_snoc (event : CommittedRunEventV1) :
    cancellationPending (events ++ [event]) = recordCancellation (cancellationPending events) event := by
  simp [cancellationPending]

private theorem cancellation_kept
    (h : ∀ event ∈ events, event.event ≠ .retried) : events.foldl recordCancellation true = true := by
  induction events with
  | nil => rfl
  | cons event rest ih =>
    have he : recordCancellation true event = true := by
      unfold recordCancellation
      split
      · rfl
      · exact absurd ‹_› (h event mem_cons_self)
      · rfl
    rw [foldl_cons, he]
    exact ih fun other ho => h other (mem_cons_of_mem _ ho)

theorem cancellationPending_of_request (before after : List CommittedRunEventV1) (request : CommittedRunEventV1)
    (hr : request.event = .cancellationRequested) (h : ∀ event ∈ after, event.event ≠ .retried) :
    cancellationPending (before ++ request :: after) = true := by
  have he : recordCancellation (before.foldl recordCancellation false) request = true := by
    simp [recordCancellation, hr]
  rw [cancellationPending, foldl_append, foldl_cons, he]
  exact cancellation_kept after h

private theorem uncertainty_kept (id : StableId) (ids : List StableId)
    (hid : id ∈ ids) (h : ∀ event ∈ events, event.event ≠ .blockedInvocationResolved id) :
    id ∈ events.foldl recordUncertainty ids := by
  induction events generalizing ids with
  | nil => exact hid
  | cons event rest ih =>
    rw [foldl_cons]
    refine ih _ ?_ fun other ho => h other (mem_cons_of_mem _ ho)
    unfold recordUncertainty
    split
    · exact mem_append_left _ hid
    · rename_i other he
      refine mem_filter.mpr ⟨hid, ?_⟩
      have hne : id ≠ other := by
        rintro rfl
        exact h event mem_cons_self he
      simpa using hne
    · exact hid

/-- With nothing unresolved, each invocation of a crash was resolved after it. -/
theorem resolved_after_crash (before after : List CommittedRunEventV1) (crash : CommittedRunEventV1) (g : Nat)
    (checkpoint : Option String) (ids : List StableId) (hc : crash.event = .workerGenerationCrashed g checkpoint ids)
    (hu : unresolvedInvocations (before ++ crash :: after) = []) :
    ∀ id ∈ ids, ∃ event ∈ after, event.event = .blockedInvocationResolved id := by
  intro id hid
  by_contra hn
  push Not at hn
  have hm : id ∈ recordUncertainty (before.foldl recordUncertainty []) crash := by
    simp [recordUncertainty, hc, hid]
  have hk := uncertainty_kept after id _ hm hn
  rw [unresolvedInvocations, foldl_append, foldl_cons] at hu
  rw [hu] at hk
  exact absurd hk (by simp)

/-- A crash recorded `id` and nothing behind it resolves `id`. -/
def Outstanding (id : StableId) : Prop :=
  ∃ before crash after g checkpoint ids, events = before ++ crash :: after ∧
    crash.event = .workerGenerationCrashed g checkpoint ids ∧ id ∈ ids ∧
    ∀ event ∈ after, event.event ≠ .blockedInvocationResolved id

theorem Outstanding.snoc {events : List CommittedRunEventV1} {id : StableId} (h : Outstanding events id)
    (last : CommittedRunEventV1) (hlast : last.event ≠ .blockedInvocationResolved id) :
    Outstanding (events ++ [last]) id := by
  obtain ⟨before, crash, after, g, checkpoint, ids, rfl, hc, hid, hn⟩ := h
  refine ⟨before, crash, after ++ [last], g, checkpoint, ids, by simp, hc, hid, ?_⟩
  intro event he
  rcases mem_append.mp he with he | he
  · exact hn event he
  · rw [mem_singleton.mp he]
    exact hlast

theorem outstanding_of_unresolved (id : StableId) (h : id ∈ unresolvedInvocations events) : Outstanding events id := by
  induction events using reverseRecOn with
  | nil => simp [unresolvedInvocations] at h
  | append_singleton events last ih =>
    rw [unresolvedInvocations_snoc] at h
    unfold recordUncertainty at h
    split at h
    · rename_i g checkpoint ids he
      rcases mem_append.mp h with hmem | hmem
      · exact (ih hmem).snoc last (by simp [he])
      · exact ⟨events, last, [], g, checkpoint, ids, rfl, he, hmem, by simp⟩
    · rename_i other he
      obtain ⟨hmem, hne⟩ := mem_filter.mp h
      refine (ih hmem).snoc last ?_
      rw [he]
      intro heq
      simp [RunEventKindV1.blockedInvocationResolved.inj heq] at hne
    · rename_i hne
      exact (ih h).snoc last (hne id)

namespace RunAggregateV1
variable (digest : RunCommandV1 → Sha256Digest)

/-- `P` holds of each command of a run and the aggregate that handles it. -/
def EveryStep (P : RunAggregateV1 → RunCommandV1 → Prop) (a : RunAggregateV1) (commands : List RunCommandV1) : Prop :=
  ∀ handled command rest, commands = handled ++ command :: rest → P (a.run digest handled) command

/-- `P` holds of every aggregate of a run, first and last included. -/
def EveryState (P : RunAggregateV1 → Prop) (a : RunAggregateV1) (commands : List RunCommandV1) : Prop :=
  ∀ handled rest, commands = handled ++ rest → P (a.run digest handled)

/-- An invariant that admitted events keep, if their commands meet a condition, holds in every state of a run whose
commands all do. -/
theorem everyState_of_everyStep {Inv : RunAggregateV1 → Prop} {Cond : RunAggregateV1 → RunCommandV1 → Prop}
    (a : RunAggregateV1) (h0 : Inv a) (step : ∀ b command kind, Inv b → Cond b command → b.Fresh command →
      b.decide command.command = .ok kind → b.canApply kind = true →
      Inv (b.commit kind command.commandId (digest command).text))
    (commands : List RunCommandV1) (hc : EveryStep digest Cond a commands) :
    EveryState digest Inv a commands := by
  intro handled
  induction handled using reverseRecOn with
  | nil => intro _ _; exact h0
  | append_singleton handled command ih =>
    intro rest hsplit
    have hsplit' : commands = handled ++ command :: rest := by simpa using hsplit
    have hb := ih (command :: rest) hsplit'
    rw [run_snoc]
    rcases handle_cases digest (a.run digest handled) command with ⟨hs, _⟩ | ⟨kind, hf, hd, hk, hs⟩
    · rw [hs]
      exact hb
    · rw [hs]
      exact step _ command kind hb (hc handled command rest hsplit') hf hd hk

end RunAggregateV1

/-! Commands for the fixed runs, with the SHA-256 of their canonical encodings. -/

def sampleChat : StableId := ofText "chat.sample"
def sampleRun : StableId := ofText "run.sample"
def sampleInvocation : StableId := ofText "invoke.one"
def sampleHash : String := "cccccccccccccccccccccccccccccccccccccccccccccccccccccccccccccccc"
def sampleCheckpoint : String := "dddddddddddddddddddddddddddddddddddddddddddddddddddddddddddddddd"

def startCommand : RunCommandV1 :=
  ⟨ofText "run.start", 0, .startResolved (ofText "input.first") (ofText "snapshot.one") sampleHash⟩
def readyCommand : RunCommandV1 := ⟨ofText "run.ready", 1, .workerReady 1⟩
def crashCommand : RunCommandV1 :=
  ⟨ofText "run.crash", 2, .workerCrashed 1 (some sampleCheckpoint) [sampleInvocation]⟩

def sampleDigests : List (String × String) :=
  [("draft.fail", "3a7de559c2116d3bf2c16d4e043521c3f554a0dd6fc730f81e124e1247f89e21"),
   ("draft.retry", "ef891490b356fb4feb8582ed7297105bd118f85296df455095e8b6b6c61bb50c"),
   ("draft.fork", "8aaca871ebbf5598604688811484500fb03fc266fa5be53fa404d616e0f2706f"),
   ("draft.refork", "63d93e6e695b4d7b90bb0bdcc583cf0ac4224b5efe3dc89b045f970313418ff8"),
   ("draft.ready", "64ea16edb91118819e1bfc4e10d82c0877706b78c144ece8f8996f066e11fd05"),
   ("run.start", "cde9403ad147a0c832a4ebd6e9712ce653e180a6cd2d8f1d12b0ce0b4f60f651"),
   ("run.ready", "79406f538aaa95ebd70906b354b0a7b5f961fcb380c8d158700494cd45a7ebee"),
   ("run.crash", "f744d64f36a7f0df4d63e8e7e33e4113b29381767891834309af266689d557f4"),
   ("run.fail", "c776c5d806835ac5877973283803e675758361b79a783b4f4b352d8bec443d7f"),
   ("run.retry", "a2088ae5fd66167e849abf52bc74a818120c99474fedfdbfa37ef459d3910689"),
   ("run.rehydrate", "a18f8dbbbd97ca6d0fc20db809300bf0fb0df2e046359b9dfca41b7345ff04dc"),
   ("run.cancel", "182e6e6af59c991b63843c5d27f11cff68a1a25a35c6369cb77771cebac188c3"),
   ("run.cancel.crash", "de230212954f6d814b070e6eecec7c8b756d37e4d558b6d61baa068fcbbc516a"),
   ("run.cancel.rehydrate", "15d4520ba74beb6bfd62abb26a8677c7da31c45b24a28b7d84713e980b123273")]

def sampleDigest (command : RunCommandV1) : Sha256Digest :=
  Sha256Digest.ofText ((sampleDigests.lookup command.commandId.val).getD "")

end Aworkit.Core
