import Aworkit.Core.LifecycleLog

/-! Frozen identity of a live Run: in which runs every live state has a snapshot and a worker generation. -/
namespace Aworkit.Core
open Protocol RunStateV1 RunAggregateV1

/-- The command that asks for an event. -/
def RunEventKindV1.command : RunEventKindV1 → RunCommandKindV1
  | .chatStarted input id hash => .startResolved input id hash
  | .startRejected code => .rejectStart code
  | .firstInputAccepted input => .acceptFirstInput input
  | .snapshotFrozen id hash => .freezeSnapshot id hash
  | .workerGenerationReady g => .workerReady g
  | .inputQueued input => .queueInput input
  | .inputDelivered input => .deliverInput input
  | .attemptBegan attempt operation => .beginAttempt attempt operation
  | .attemptFinished attempt outcome => .finishAttempt attempt outcome
  | .waited reason => .wait reason
  | .approvalResolved approval approved => .resolveApproval approval approved
  | .pauseRequested => .requestPause
  | .paused checkpoint => .workerQuiesced checkpoint
  | .resumed => .resume
  | .cancellationRequested => .requestCancel
  | .cancelled => .workerStopped
  | .workerGenerationCrashed g checkpoint ids => .workerCrashed g checkpoint ids
  | .rehydrationReady g => .rehydrationReady g
  | .blockedInvocationResolved id => .resolveBlockedInvocation id
  | .completed => .complete
  | .failed code retryable => .fail code retryable
  | .retried => .retry
  | .forked child => .fork child
  | .continued parent => .continueFrom parent

theorem RunAggregateV1.decide_command (a : RunAggregateV1) (command : RunCommandKindV1)
    (kind : RunEventKindV1) (h : a.decide command = .ok kind) : command = kind.command := by
  cases command <;> simp only [decide] at h <;> split at h <;> cases h <;> rfl

/-- A live generation implies a frozen snapshot, and a remembered crash of a cancelling Run a live generation. -/
structure Grounded (c : Control) : Prop where
  generation : ∀ g, c.generation = some g → 0 < g ∧ c.snapshotHash.isSome = true
  engaged : c.state.engaged = true → c.generation.isSome = true
  starting : c.state = .starting → c.snapshotHash.isSome = true
  identity : c.snapshotHash.isSome = true → c.snapshotId.isSome = true
  target : ∀ t, c.rehydrationTarget = some t →
    t.engaged = true ∨ t = .cancelling ∧ c.generation.isSome = true

theorem crashTarget_range (s : RunStateV1) : (crashTarget s).engaged = true ∨ crashTarget s = .cancelling := by
  cases s <;> simp [crashTarget, engaged]

/-- One step keeps `Grounded` unless it rehydrates without a snapshot or to generation zero. -/
theorem move_grounded {c d : Control} (h : Move c kind d) (hc : Grounded c)
    (hr : ∀ g, kind = .rehydrationReady g → c.snapshotHash.isSome = true ∧ 0 < g) : Grounded d := by
  cases h with
  | quiet _ => exact hc
  | chatStarted input id hash hs hn | snapshotFrozen id hash hs hn =>
    exact ⟨fun g hg => ⟨(hc.generation g hg).1, rfl⟩, by simp [engaged], fun _ => rfl,
      fun _ => rfl, hc.target⟩
  | startRejected code hs | cancelRequested hs | cancelled hs | completed hs =>
    exact ⟨hc.generation, by simp [engaged], by simp, hc.identity, hc.target⟩
  | firstInputAccepted input hs | failed code retryable hs =>
    exact ⟨hc.generation, by simp [engaged], by simp, hc.identity, hc.target⟩
  | workerReady g hs hg =>
    refine ⟨?_, fun _ => rfl, fun _ => hc.starting hs, hc.identity, by simp⟩
    intro g' hg'
    obtain rfl := Option.some.inj hg'
    exact ⟨hg, hc.starting hs⟩
  | rehydrated g hs hg =>
    obtain ⟨hsnap, hpos⟩ := hr g rfl
    refine ⟨?_, fun _ => rfl, fun _ => hsnap, hc.identity, by simp⟩
    intro g' hg'
    obtain rfl := Option.some.inj hg'
    exact ⟨hpos, hsnap⟩
  | internal s hk hcs hs =>
    refine ⟨hc.generation, fun _ => hc.engaged hcs, ?_, hc.identity, hc.target⟩
    rintro rfl
    cases hs
  | crashed g checkpoint ids s hcs hg hs =>
    refine ⟨hc.generation, ?_, ?_, hc.identity, ?_⟩
    · rcases hs with rfl | ⟨rfl, _⟩ <;> simp [engaged]
    · rcases hs with rfl | ⟨rfl, _⟩ <;> simp
    · intro t ht
      cases ht
      rcases crashTarget_range c.state with h | h
      · exact .inl h
      · exact .inr ⟨h, by simp [hg]⟩
  | resolved id s hcs hs =>
    refine ⟨hc.generation, ?_, ?_, hc.identity, hc.target⟩
    · rcases hs with rfl | ⟨rfl, _⟩ <;> simp [engaged]
    · rcases hs with rfl | ⟨rfl, _⟩ <;> simp
  | retried hs =>
    refine ⟨hc.generation, by simp [engaged], by simp, hc.identity, ?_⟩
    intro t ht
    cases ht
    exact .inl rfl

namespace RunAggregateV1
variable (digest : RunCommandV1 → Sha256Digest)

/-- A frozen snapshot and a worker generation above zero. -/
structure Frozen (a : RunAggregateV1) : Prop where
  hash : a.snapshotHash.isSome = true
  id : a.snapshotId.isSome = true
  generation : ∃ g, a.generation = some g ∧ 0 < g

variable (a : RunAggregateV1)

def LifecycleSafe : Prop := a.state.engaged = true → a.Frozen

/-- The report meets a frozen snapshot and names a generation above zero. -/
def RehydratesFrozen (command : RunCommandV1) : Prop :=
  ∀ g, command.command = .rehydrationReady g → a.Fresh command → a.state = .rehydrating →
    (∀ current, a.generation = some current → current < g) → a.snapshotHash.isSome = true ∧ 0 < g

private theorem new_grounded (chatId runId : StableId) : Grounded (new chatId runId).control :=
  ⟨by simp [control, new], by simp [control, new, engaged], by simp [control, new],
    by simp [control, new], by simp [control, new]⟩

theorem Frozen.of_grounded (h : Grounded a.control) : a.LifecycleSafe := by
  intro he
  obtain ⟨g, hg⟩ := Option.isSome_iff_exists.mp (h.engaged he)
  obtain ⟨hpos, hhash⟩ := h.generation g hg
  exact ⟨hhash, h.identity hhash, g, hg, hpos⟩

theorem everyState_grounded (chatId runId : StableId) (commands : List RunCommandV1)
    (hc : EveryStep digest RehydratesFrozen (new chatId runId) commands) :
    EveryState digest (fun a => Grounded a.control) (new chatId runId) commands := by
  refine everyState_of_everyStep digest _ (new_grounded chatId runId) ?_ commands hc
  intro b command kind hb hcond hf hd hk
  have hm := commit_move b kind command.commandId (digest command).text hk
  refine move_grounded hm hb ?_
  rintro g rfl
  have hcmd := decide_command b command.command _ hd
  simp only [canApply, Fallible.met] at hk
  refine hcond g hcmd hf hk.1 ?_
  intro current hg
  simpa [hg] using hk.2

theorem handle_rehydration (command : RunCommandV1) (g : Nat) (hcmd : command.command = .rehydrationReady g)
    (hf : a.Fresh command) (hs : a.state = .rehydrating) (hg : ∀ current, a.generation = some current → current < g) :
    (a.handle digest command).2 = a.commit (.rehydrationReady g) command.commandId (digest command).text := by
  have hguard : a.generation.all (fun current => Nat.blt current g) = true := by
    cases he : a.generation with
    | none => rfl
    | some current => simpa using hg current he
  have hd : a.decide command.command = .ok (.rehydrationReady g) := by
    simp [decide, hcmd, hs, hguard]
  have hk : a.canApply (.rehydrationReady g) = true := by
    simp [canApply, hs, hguard]
  rw [handle_fresh digest a command hf, hd]
  simp [hk]

/-- Every live state has a frozen snapshot and a positive generation exactly in the runs whose rehydration reports all
meet the one and name the other. -/
theorem lifecycle_safe_iff_rehydrates_frozen (chatId runId : StableId) (commands : List RunCommandV1) :
    EveryState digest LifecycleSafe (new chatId runId) commands ↔
      EveryStep digest RehydratesFrozen (new chatId runId) commands := by
  constructor
  · intro hsafe handled
    induction hn : handled.length using Nat.strong_induction_on generalizing handled with
    | _ n ih =>
      intro command rest hsplit g hcmd hf hs hg
      have hearlier : EveryStep digest RehydratesFrozen (new chatId runId) handled := by
        intro before c after hb
        refine ih before.length (by rw [← hn, hb]; simp) before rfl c (after ++ command :: rest) ?_
        rw [hsplit, hb]
        simp
      have hground : Grounded (run digest (new chatId runId) handled).control :=
        everyState_grounded digest chatId runId handled hearlier handled [] (by simp)
      have hnext : LifecycleSafe (run digest (new chatId runId) (handled ++ [command])) :=
        hsafe (handled ++ [command]) rest (by rw [hsplit]; simp)
      rw [run_snoc, handle_rehydration digest _ command g hcmd hf hs hg] at hnext
      by_cases he : ((run digest (new chatId runId) handled).rehydrationTarget.getD .active).engaged = true
      · obtain ⟨hhash, _, g', hg', hpos⟩ := hnext he
        obtain rfl := Option.some.inj hg'
        exact ⟨hhash, hpos⟩
      · cases ht : (run digest (new chatId runId) handled).rehydrationTarget with
        | none => simp [ht, engaged] at he
        | some t =>
          rw [ht] at he
          rcases hground.target t ht with h | ⟨_, h⟩
          · exact absurd h he
          · obtain ⟨current, hcur⟩ := Option.isSome_iff_exists.mp h
            obtain ⟨hpos, hhash⟩ := hground.generation current hcur
            exact ⟨hhash, hpos.trans (hg current hcur)⟩
  · intro hcond handled rest hsplit
    exact Frozen.of_grounded _ (everyState_grounded digest chatId runId commands hcond handled rest hsplit)

/-- A Draft fails, is retried and rehydrated: three admitted commands and no snapshot. -/
def draftRetry : List RunCommandV1 :=
  [⟨StableId.ofText "draft.fail", 0, .fail "transient" true⟩, ⟨StableId.ofText "draft.retry", 1, .retry⟩,
    ⟨StableId.ofText "draft.ready", 2, .rehydrationReady 1⟩]

theorem draft_retry_active_without_snapshot :
    ¬ LifecycleSafe (run sampleDigest (new sampleChat sampleRun) draftRetry) := by
  intro h
  have hhash := (h (by decide +kernel)).hash
  revert hhash
  decide +kernel

end RunAggregateV1
end Aworkit.Core
