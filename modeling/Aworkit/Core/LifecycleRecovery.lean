import Aworkit.Core.LifecycleSafety

/-! What survives a crash of a Run: unknown effects hold it back until they are resolved, and a requested cancellation
is never forgotten. -/
namespace Aworkit.Core
open Protocol RunAggregateV1 RunStateV1

/-- Which states may hold invocations whose effect is still unknown. -/
structure Accounted (c : Control) (ids : List StableId) : Prop where
  live : c.state.engaged = true ∨ c.state.unstarted = true ∨ c.state = .starting → ids = []
  rehydrating : c.state = .rehydrating →
    c.rehydrationTarget = some .cancelling ∨ c.rehydrationTarget = some .active ∨ ids = []
  blocked : c.state = .blocked →
    c.rehydrationTarget = some .cancelling ∨ ∀ id ∈ ids, id.val ∈ c.uncertainInvocations

private theorem accounted_nil (c : Control) : Accounted c [] :=
  ⟨fun _ => rfl, fun _ => .inr (.inr rfl), fun _ => .inr (by simp)⟩

private theorem accounted_idle {c : Control} {ids : List StableId} (s : RunStateV1)
    (hs : s = .cancelling ∨ s = .cancelled ∨ s = .completed ∨ s = .failed) :
    Accounted { c with state := s } ids := by
  rcases hs with rfl | rfl | rfl | rfl <;>
    exact ⟨by simp [engaged, unstarted], by simp, by simp⟩

/-- A crash in a live state starts from an empty account, one while cancelling aims there. Only a rehydration into
`active` could drop what is unresolved. -/
theorem move_accounted {c d : Control} (n : Nat) (commandId : StableId) (h : Move c kind d) (hc : Accounted c ids)
    (hr : ∀ g, kind = .rehydrationReady g → c.rehydrationTarget = some .active → ids = []) :
    Accounted d (recordUncertainty ids ⟨n, commandId, kind⟩) := by
  cases h with
  | quiet hq =>
    have he : recordUncertainty ids ⟨n, commandId, kind⟩ = ids := by cases kind <;> first | rfl | cases hq
    rw [he]
    exact hc
  | chatStarted input id hash hs hn | snapshotFrozen id hash hs hn | startRejected code hs
  | firstInputAccepted input hs =>
    obtain rfl : ids = [] := hc.live (.inr (.inl hs))
    exact accounted_nil _
  | workerReady g hs hg =>
    obtain rfl : ids = [] := hc.live (.inr (.inr hs))
    exact accounted_nil _
  | rehydrated g hs hg =>
    rcases hc.rehydrating hs with ht | ht | rfl
    · refine ⟨?_, ?_, ?_⟩ <;> simp [ht, engaged, unstarted]
    · obtain rfl := hr g rfl ht
      exact accounted_nil _
    · exact accounted_nil _
  | internal s hk hcs hs =>
    obtain rfl : ids = [] := hc.live (.inl hcs)
    have he : recordUncertainty [] ⟨n, commandId, kind⟩ = [] := by cases kind <;> first | rfl | cases hk
    rw [he]
    exact accounted_nil _
  | cancelRequested hs => exact accounted_idle _ (.inl rfl)
  | cancelled hs => exact accounted_idle _ (.inr (.inl rfl))
  | completed hs => exact accounted_idle _ (.inr (.inr (.inl rfl)))
  | failed code retryable hs => exact accounted_idle _ (.inr (.inr (.inr rfl)))
  | crashed g checkpoint new s hcs hg hs =>
    by_cases hcan : c.state = .cancelling
    · rcases hs with rfl | ⟨rfl, _⟩ <;> refine ⟨?_, ?_, ?_⟩ <;>
        simp [hcan, crashTarget, engaged, unstarted]
    · have hlive : c.state.engaged = true := by
        revert hcs hcan
        cases c.state <;> simp [crashable, engaged]
      obtain rfl : ids = [] := hc.live (.inl hlive)
      rcases hs with rfl | ⟨rfl, rfl⟩
      · refine ⟨by simp [engaged, unstarted], by simp, fun _ => .inr ?_⟩
        intro id hid
        refine Std.ExtTreeSet.mem_ofList.mpr ?_
        simpa using ⟨id, hid, rfl⟩
      · exact accounted_nil _
  | resolved id s hcs hs =>
    have hrest : c.rehydrationTarget = some .cancelling ∨
        ∀ other ∈ ids.filter (fun other => other != id), other.val ∈ c.uncertainInvocations.erase id.val := by
      refine (hc.blocked hcs).imp_right fun hmem other ho => ?_
      obtain ⟨hin, hne⟩ := List.mem_filter.mp ho
      refine Std.ExtTreeSet.mem_erase.mpr ⟨?_, hmem other hin⟩
      intro he
      rw [Std.LawfulEqCmp.compare_eq_iff_eq] at he
      simp [StableId.ext he] at hne
    rcases hs with rfl | ⟨rfl, hempty⟩
    · exact ⟨by simp [engaged, unstarted], by simp, fun _ => hrest⟩
    · refine ⟨by simp [engaged, unstarted], fun _ => hrest.imp_right fun hmem => .inr ?_, by simp⟩
      rw [hempty] at hmem
      exact List.eq_nil_iff_forall_not_mem.mpr fun other ho => absurd (hmem other ho) (by simp)
  | retried hs =>
    exact ⟨by simp [engaged, unstarted], fun _ => .inr (.inl rfl), by simp⟩

namespace RunAggregateV1
variable (digest : RunCommandV1 → Sha256Digest)

/-- Every invocation a crash recorded was resolved after that crash. -/
def CrashesResolved (events : List CommittedRunEventV1) : Prop :=
  ∀ before crash after g checkpoint ids, events = before ++ crash :: after →
    crash.event = .workerGenerationCrashed g checkpoint ids →
    ∀ id ∈ ids, ∃ event ∈ after, event.event = .blockedInvocationResolved id

theorem crashesResolved_iff (events : List CommittedRunEventV1) :
    CrashesResolved events ↔ unresolvedInvocations events = [] := by
  constructor
  · intro h
    refine List.eq_nil_iff_forall_not_mem.mpr fun id hid => ?_
    obtain ⟨before, crash, after, g, checkpoint, ids, rfl, hc, hmem, hn⟩ :=
      outstanding_of_unresolved events id hid
    obtain ⟨event, he, hev⟩ := h before crash after g checkpoint ids rfl hc id hmem
    exact hn event he hev
  · rintro hu before crash after g checkpoint ids rfl hc
    exact resolved_after_crash before after crash g checkpoint ids hc hu

variable (a : RunAggregateV1)

/-- A Run that is Active, or would accept an attempt, has resolved every crash. -/
def ProgressResolved : Prop :=
  (a.state = .active ∨ ∃ attempt operation kind, a.decide (.beginAttempt attempt operation) = .ok kind) →
    CrashesResolved a.events

/-- A report that would make the Run Active finds nothing unresolved. -/
def RehydratesResolved (command : RunCommandV1) : Prop :=
  ∀ g, command.command = .rehydrationReady g → a.Fresh command → a.state = .rehydrating →
    (∀ current, a.generation = some current → current < g) → a.rehydrationTarget = some .active →
    CrashesResolved a.events

private theorem state_of_beginAttempt (attempt operation : StableId)
    (kind : RunEventKindV1) (h : a.decide (.beginAttempt attempt operation) = .ok kind) : a.state = .active := by
  simp only [RunAggregateV1.decide] at h
  split at h
  · rename_i hguard
    simp only [Fallible.met] at hguard
    exact hguard.1
  · cases h

private theorem everyState_accounted (chatId runId : StableId) (commands : List RunCommandV1)
    (hc : EveryStep digest RehydratesResolved (new chatId runId) commands) :
    EveryState digest (fun a => Accounted a.control (unresolvedInvocations a.events)) (new chatId runId) commands := by
  refine everyState_of_everyStep digest _ (accounted_nil _) ?_ commands hc
  intro b command kind hb hcond hf hd hk
  have hm := commit_move b kind command.commandId (digest command).text hk
  have he : (b.commit kind command.commandId (digest command).text).events =
      b.events ++ [⟨b.version + 1, command.commandId, kind⟩] := rfl
  rw [he, unresolvedInvocations_snoc]
  refine move_accounted _ _ hm hb ?_
  rintro g rfl ht
  have hcmd := decide_command b command.command _ hd
  simp only [canApply, Fallible.met] at hk
  refine (crashesResolved_iff _).mp (hcond g hcmd hf hk.1 ?_ ht)
  intro current hg
  simpa [hg] using hk.2

/-- A Run makes progress only past resolved crashes exactly in the runs whose rehydration into `active` finds none
open. A retry skips that check. -/
theorem progress_resolved_iff_rehydrates_resolved (chatId runId : StableId) (commands : List RunCommandV1) :
    EveryState digest ProgressResolved (new chatId runId) commands ↔
      EveryStep digest RehydratesResolved (new chatId runId) commands := by
  constructor
  · intro hprogress handled command rest hsplit g hcmd hf hs hg ht
    have hnext : ProgressResolved (run digest (new chatId runId) (handled ++ [command])) :=
      hprogress (handled ++ [command]) rest (by rw [hsplit]; simp)
    rw [run_snoc, handle_rehydration digest _ command g hcmd hf hs hg] at hnext
    have hactive := hnext (.inl (by simp [commit, reduce, ht]))
    rw [crashesResolved_iff] at hactive ⊢
    simpa [commit, unresolvedInvocations_snoc, recordUncertainty] using hactive
  · intro hcond handled rest hsplit hlive
    have hacc := everyState_accounted digest chatId runId commands hcond handled rest hsplit
    have hactive : (run digest (new chatId runId) handled).state = .active := by
      rcases hlive with h | ⟨attempt, operation, kind, h⟩
      · exact h
      · exact state_of_beginAttempt _ attempt operation kind h
    exact (crashesResolved_iff _).mpr (hacc.live (.inl (by simp [control, hactive, engaged])))

/-- A crashed Run with an uncertain invocation is failed, retried and rehydrated. -/
def crashRetry : List RunCommandV1 :=
  [startCommand, readyCommand, crashCommand, ⟨.ofText "run.fail", 3, .fail "transient" true⟩,
    ⟨.ofText "run.retry", 4, .retry⟩, ⟨.ofText "run.rehydrate", 5, .rehydrationReady 2⟩]

theorem crash_retry_active_with_unresolved :
    ¬ ProgressResolved (run sampleDigest (new sampleChat sampleRun) crashRetry) := by
  intro h
  have hu := (crashesResolved_iff _).mp (h (.inl (by decide +kernel)))
  revert hu
  decide +kernel

/-- The states of a Run whose cancellation was requested; a replacement resumes there. -/
structure CancelOnly (c : Control) : Prop where
  confined : c.state ∈ [cancelling, .rehydrating, .blocked, .cancelled, .failed]
  returning : c.state = .rehydrating ∨ c.state = .blocked → c.rehydrationTarget = some .cancelling

private theorem CancelOnly.not_unstarted {c : Control} (h : CancelOnly c) : c.state.unstarted ≠ true := by
  have hs := h.confined
  simp only [List.mem_cons, List.not_mem_nil, or_false] at hs
  rcases hs with hs | hs | hs | hs | hs <;> simp [hs, unstarted]

private theorem CancelOnly.not_engaged {c : Control} (h : CancelOnly c) : c.state.engaged ≠ true := by
  have hs := h.confined
  simp only [List.mem_cons, List.not_mem_nil, or_false] at hs
  rcases hs with hs | hs | hs | hs | hs <;> simp [hs, engaged]

private theorem CancelOnly.cancelling_of_crashable {c : Control} (h : CancelOnly c)
    (hc : crashable c.state = true) : c.state = .cancelling := by
  have hs := h.confined
  simp only [List.mem_cons, List.not_mem_nil, or_false] at hs
  rcases hs with hs | hs | hs | hs | hs
  · exact hs
  all_goals simp [hs, crashable] at hc

/-- One step of a Run whose cancellation was requested, a retry apart. -/
theorem move_cancelOnly (h : Move c kind d) (hc : CancelOnly c) (hr : kind ≠ .retried) : CancelOnly d := by
  cases h with
  | quiet hq => exact hc
  | chatStarted input id hash hs hn | snapshotFrozen id hash hs hn | startRejected code hs
  | firstInputAccepted input hs =>
    exact absurd hs hc.not_unstarted
  | workerReady g hs hg =>
    have hn := hc.confined
    simp [hs] at hn
  | rehydrated g hs hg =>
    have ht := hc.returning (.inl hs)
    exact ⟨by simp [ht], by simp [ht]⟩
  | internal s hk hcs hs => exact absurd hcs hc.not_engaged
  | cancelRequested hs | cancelled hs | failed code retryable hs => exact ⟨by simp, by simp⟩
  | completed hs => exact absurd (by simp [hs, engaged]) hc.not_engaged
  | crashed g checkpoint ids s hcs hg hs =>
    have ht := hc.cancelling_of_crashable hcs
    refine ⟨?_, fun _ => by simp [ht, crashTarget]⟩
    rcases hs with rfl | ⟨rfl, _⟩ <;> simp
  | resolved id s hcs hs =>
    refine ⟨?_, fun _ => hc.returning (.inr hcs)⟩
    rcases hs with rfl | ⟨rfl, _⟩ <;> simp
  | retried hs => exact absurd rfl hr

private theorem move_cancelOnly_of_request (h : Move c .cancellationRequested d) : CancelOnly d := by
  cases h with
  | quiet hq => cases hq
  | internal s hk hcs hs => cases hk
  | cancelRequested hs => exact ⟨by simp, by simp⟩

/-- While the log shows a pending cancellation the state is confined. -/
def CancelKept : Prop := cancellationPending a.events = true → CancelOnly a.control

private theorem cancelKept_step {a b : RunAggregateV1} (event : CommittedRunEventV1) (ha : a.CancelKept)
    (hm : Move a.control event.event b.control) (he : b.events = a.events ++ [event]) : b.CancelKept := by
  intro hp
  rw [he, cancellationPending_snoc] at hp
  unfold recordCancellation at hp
  split at hp
  · rename_i hreq
    rw [hreq] at hm
    exact move_cancelOnly_of_request hm
  · cases hp
  · rename_i _ hret
    exact move_cancelOnly hm (ha hp) hret

private theorem fold_cancelKept (chatId runId : StableId) (log : List CommittedRunEventV1) (a : RunAggregateV1)
    (h : fold chatId runId log = .ok a) : a.CancelKept := by
  refine fold_induction chatId runId (by simp [CancelKept, new, cancellationPending]) ?_ log a h
  intro b event hb hk
  exact cancelKept_step event hb (commit_move b event.event event.commandId "" hk) rfl

private theorem run_cancelKept (ha : a.CancelKept) (commands : List RunCommandV1) : (a.run digest commands).CancelKept := by
  refine run_induction digest a ha ?_ commands
  intro b command kind hb _ _ hk
  exact cancelKept_step ⟨b.version + 1, command.commandId, kind⟩ hb (commit_move b kind _ _ hk) rfl

/-- Cancellation is sticky in every Run, new or recovered: behind a request and up to a retry the Run never comes
back. -/
theorem cancellation_sticky (chatId runId : StableId) (log : List CommittedRunEventV1) (a : RunAggregateV1)
    (hfold : fold chatId runId log = .ok a) (commands : List RunCommandV1)
    (before after : List CommittedRunEventV1) (request : CommittedRunEventV1)
    (hevents : (a.run digest commands).events = before ++ request :: after)
    (hrequest : request.event = .cancellationRequested) (hretried : ∀ event ∈ after, event.event ≠ .retried) :
    (a.run digest commands).state ∈ [cancelling, .rehydrating, .blocked, .cancelled, .failed] := by
  have hkept := run_cancelKept digest a (fold_cancelKept chatId runId log a hfold) commands
  refine (hkept ?_).confined
  rw [hevents]
  exact cancellationPending_of_request before after request hrequest hretried

/-- A started Run is cancelled, its worker crashes and a replacement is ready. -/
def cancelCrash : List RunCommandV1 :=
  [startCommand, readyCommand, ⟨.ofText "run.cancel", 2, .requestCancel⟩,
    ⟨.ofText "run.cancel.crash", 3, .workerCrashed 1 (some sampleCheckpoint) []⟩,
    ⟨.ofText "run.cancel.rehydrate", 4, .rehydrationReady 2⟩]

theorem cancellation_sticky_through_crash :
    (run sampleDigest (new sampleChat sampleRun) cancelCrash).state ∈
      [cancelling, .rehydrating, .blocked, .cancelled, .failed] :=
  cancellation_sticky sampleDigest sampleChat sampleRun [] (new sampleChat sampleRun) rfl cancelCrash
    ((run sampleDigest (new sampleChat sampleRun) cancelCrash).events.take 2)
    ((run sampleDigest (new sampleChat sampleRun) cancelCrash).events.drop 3)
    ⟨3, .ofText "run.cancel", .cancellationRequested⟩ (by decide +kernel) rfl (by decide +kernel)

end RunAggregateV1
end Aworkit.Core
