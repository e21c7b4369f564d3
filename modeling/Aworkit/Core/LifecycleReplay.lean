import Aworkit.Collections.OrderedMap
import Aworkit.Core.LifecycleRecovery

/-! Replay of the committed log: the rebuilt aggregate agrees with the live one up to the command digests, and the log
accounts for the input queue. -/
namespace Aworkit.Core
open Protocol OrderedMap RunAggregateV1 RunStateV1 RunEventKindV1 Std List ExtTreeMap

variable {kind : RunEventKindV1} {c d : Control}

/-- Input ids an event puts into the queue. -/
def RunEventKindV1.accepts : RunEventKindV1 → List StableId
  | .chatStarted input _ _ | .firstInputAccepted input | .inputQueued input => [input]
  | _ => []

/-- Input ids an event takes out of the queue for the worker. -/
def RunEventKindV1.delivers : RunEventKindV1 → List StableId
  | .inputDelivered input => [input]
  | _ => []

def RunEventKindV1.rejectsStart : RunEventKindV1 → Bool
  | .startRejected _ => true
  | _ => false

variable (events : List CommittedRunEventV1)

def acceptedIds : List StableId :=
  events.flatMap fun event => event.event.accepts

def deliveredIds : List StableId :=
  events.flatMap fun event => event.event.delivers

/-- The events behind the last rejected start. -/
def sinceStartRejected : List CommittedRunEventV1 :=
  events.rtakeWhile fun event => !event.event.rejectsStart

variable (event : CommittedRunEventV1)

theorem acceptedIds_snoc : acceptedIds (events ++ [event]) = acceptedIds events ++ event.event.accepts := by
  simp [acceptedIds]

theorem deliveredIds_snoc : deliveredIds (events ++ [event]) = deliveredIds events ++ event.event.delivers := by
  simp [deliveredIds]

theorem sinceStartRejected_rejected
    (h : event.event.rejectsStart = true) : sinceStartRejected (events ++ [event]) = [] :=
  rtakeWhile_concat_neg _ _ _ (by simp [h])

theorem sinceStartRejected_snoc (h : event.event.rejectsStart = false) :
    sinceStartRejected (events ++ [event]) = sinceStartRejected events ++ [event] :=
  rtakeWhile_concat_pos _ _ _ (by simp [h])

/-- Before its first worker a Run has no generation, and no crash would resume before the start. -/
structure Unlaunched (c : Control) : Prop where
  generation : c.state.unstarted = true ∨ c.state = .starting → c.generation = none
  target : ∀ t, c.rehydrationTarget = some t → t.engaged = true ∨ t = .cancelling

private theorem Unlaunched.resumed {c : Control} (h : Unlaunched c) :
    (c.rehydrationTarget.getD .active).unstarted = false ∧ c.rehydrationTarget.getD .active ≠ .starting := by
  cases ht : c.rehydrationTarget with
  | none => simp [unstarted]
  | some t =>
    rcases h.target t ht with he | rfl
    · cases t <;> simp_all [engaged, unstarted]
    · simp [unstarted]

private theorem engaged_not_early {s : RunStateV1} (h : s.engaged = true) : ¬ (s.unstarted = true ∨ s = .starting) := by
  cases s <;> simp_all [engaged, unstarted]

section
variable (h : Move c kind d)
include h

theorem move_unlaunched (hc : Unlaunched c) : Unlaunched d := by
  cases h with
  | quiet _ => exact hc
  | chatStarted input id hash hs hn | snapshotFrozen id hash hs hn | startRejected code hs
  | firstInputAccepted input hs =>
    exact ⟨fun _ => hc.generation (.inl hs), hc.target⟩
  | workerReady g hs hg | rehydrated g hs hg =>
    obtain ⟨hu, hst⟩ := hc.resumed
    refine ⟨fun he => ?_, by simp⟩
    rcases he with he | he
    · simp [hu] at he
    · exact absurd he hst
  | internal s hk hcs hs => exact ⟨fun he => absurd he (engaged_not_early hs), hc.target⟩
  | cancelRequested hs | cancelled hs | completed hs | failed code retryable hs =>
    exact ⟨by simp [unstarted], hc.target⟩
  | crashed g checkpoint ids s hcs hg hs =>
    refine ⟨?_, ?_⟩
    · rcases hs with rfl | ⟨rfl, _⟩ <;> simp [unstarted]
    · intro t ht
      cases ht
      exact crashTarget_range c.state
  | resolved id s hcs hs =>
    refine ⟨?_, hc.target⟩
    rcases hs with rfl | ⟨rfl, _⟩ <;> simp [unstarted]
  | retried hs =>
    refine ⟨by simp [unstarted], ?_⟩
    intro t ht
    cases ht
    exact .inl rfl

theorem move_snapshotHash {hash : String} (hc : c.snapshotHash = some hash) : d.snapshotHash = some hash := by
  cases h with
  | chatStarted input id new hs hn | snapshotFrozen id new hs hn =>
    rw [hn] at hc
    cases hc
  | _ => exact hc

theorem move_generation (hc : Unlaunched c) (hne : d.generation ≠ c.generation) :
    ∃ next, d.generation = some next ∧ ∀ current, c.generation = some current → current < next := by
  cases h with
  | workerReady g hs hg =>
    refine ⟨g, rfl, ?_⟩
    intro current hcur
    rw [hc.generation (.inr hs)] at hcur
    cases hcur
  | rehydrated g hs hg => exact ⟨g, rfl, hg⟩
  | _ => exact absurd rfl hne

theorem move_unstarted (hc : Unlaunched c)
    (hd : d.state.unstarted = true) : c.state.unstarted = true ∧ kind.delivers = [] := by
  cases h with
  | quiet hq =>
    refine ⟨hd, ?_⟩
    cases kind <;> first | rfl | cases hq
  | startRejected code hs | firstInputAccepted input hs => exact ⟨hs, rfl⟩
  | chatStarted input id hash hs hn => cases hd
  | snapshotFrozen id hash hs hn => cases hd
  | cancelRequested hs => cases hd
  | cancelled hs => cases hd
  | completed hs => cases hd
  | failed code retryable hs => cases hd
  | retried hs => cases hd
  | workerReady g hs hg | rehydrated g hs hg =>
    have hu := hc.resumed.1
    rw [hu] at hd
    cases hd
  | internal s hk hcs hs => exact absurd (.inl hd) (engaged_not_early hs)
  | crashed g checkpoint ids s hcs hg hs | resolved id s hcs hs => rcases hs with rfl | ⟨rfl, _⟩ <;> cases hd

/-- A draft state is entered by a rejected start, and kept by quiet events. -/
theorem move_idle (hc : Unlaunched c) (hd : d.state = .draft ∨ d.state = .blockedDraft) :
    kind.rejectsStart = true ∨ kind.quiet = true ∧ (c.state = .draft ∨ c.state = .blockedDraft) := by
  have hresumed : ∀ s : RunStateV1, c.rehydrationTarget.getD .active = s → s.unstarted = false := by
    rintro s rfl
    exact hc.resumed.1
  cases h with
  | quiet hq => exact .inr ⟨hq, hd⟩
  | startRejected code hs => exact .inl rfl
  | workerReady g hs hg | rehydrated g hs hg => rcases hd with hd | hd <;> cases hresumed _ hd
  | internal s hk hcs hs => rcases hd with rfl | rfl <;> cases hs
  | crashed g checkpoint ids s hcs hg hs | resolved id s hcs hs => rcases hs with rfl | ⟨rfl, _⟩ <;> simp at hd
  | _ => simp at hd

end

namespace RunAggregateV1

variable (a : RunAggregateV1)

variable (digests : ExtTreeMap String String)

/-- The aggregate with another digest table. -/
def withDigests : RunAggregateV1 :=
  { a with commandDigests := digests }

section
variable (kind)

theorem canApply_withDigests : (a.withDigests digests).canApply kind = a.canApply kind := by
  cases kind <;> rfl

private theorem reduce_withDigests :
    ((a.withDigests digests).reduce kind).2 = (a.reduce kind).2.withDigests digests := by
  cases kind with
  | inputDelivered input =>
    by_cases hq : (a.queuedInputs.head? == some input) = true
    · simp [reduce, withDigests, hq]
    · simp [reduce, withDigests, hq]
  | attemptFinished attempt outcome =>
    cases ht : a.activeAttempts[attempt.val]? with
    | none | some found => simp [reduce, withDigests, ht]
  | _ => rfl

private theorem reduce_identity :
    (a.reduce kind).2.chatId = a.chatId ∧ (a.reduce kind).2.runId = a.runId := by
  cases kind with
  | inputDelivered input | attemptFinished attempt outcome =>
    simp only [reduce]
    split <;> exact ⟨rfl, rfl⟩
  | _ => exact ⟨rfl, rfl⟩

/-- Replaying a committed event is committing it, up to the digest table. -/
theorem replay_withDigests (commandId : StableId) (text : String) :
    (a.withDigests digests).replay ⟨a.version + 1, commandId, kind⟩ =
      (a.commit kind commandId text).withDigests
        (digests.insert commandId.val ("folded:" ++ toString (a.version + 1))) := by
  simp only [replay, reduce_withDigests]
  rfl

end

/-- The log rebuilds the aggregate under a digest table with the same keys and no digest. -/
structure Rebuilt (chatId runId : StableId) (a : RunAggregateV1) : Prop where
  chat : a.chatId = chatId
  run : a.runId = runId
  indexed : ∀ event ∈ a.events, event.commandId.val ∈ a.commandDigests
  folded : ∃ digests, fold chatId runId a.events = .ok (a.withDigests digests) ∧
    (∀ key, key ∈ digests ↔ key ∈ a.commandDigests) ∧
    ∀ (key text : String), digests[key]? = some text → ':' ∈ text.toList

private theorem new_rebuilt (chatId runId : StableId) : Rebuilt chatId runId (new chatId runId) :=
  ⟨rfl, rfl, by simp [new], ∅, rfl, by simp [new], by simp⟩

private theorem commit_rebuilt (chatId runId : StableId) (a : RunAggregateV1) (kind : RunEventKindV1)
    (commandId : StableId) (text : String) (ha : Rebuilt chatId runId a) (hv : a.version < u64Max)
    (hunseen : a.commandDigests[commandId.val]? = none) (hk : a.canApply kind = true) :
    Rebuilt chatId runId (a.commit kind commandId text) := by
  obtain ⟨hchat, hrun⟩ := reduce_identity kind a
  obtain ⟨digests, hfold, hkeys, htexts⟩ := ha.folded
  refine ⟨hchat.trans ha.chat, hrun.trans ha.run, ?_,
    digests.insert commandId.val ("folded:" ++ toString (a.version + 1)), ?_, ?_, ?_⟩
  · intro event he
    refine mem_insert.mpr ?_
    rcases mem_append.mp he with he | he
    · exact .inr (ha.indexed event he)
    · rw [mem_singleton.mp he]
      exact .inl (by simp)
  · have hstep : foldEvent (a.withDigests digests) ⟨a.version + 1, commandId, kind⟩ =
        .ok ((a.withDigests digests).replay ⟨a.version + 1, commandId, kind⟩) := by
      refine (foldEvent_eq_ok_iff _ _ _).mpr ⟨(saturatingAdd_of_le hv).symm, ?_, ?_, rfl⟩
      · have hn : commandId.val ∉ a.commandDigests := by
          intro hm
          rw [getElem?_eq_some_getElem hm] at hunseen
          cases hunseen
        have hn' : commandId.val ∉ digests := fun hm => hn ((hkeys _).mp hm)
        rw [← Bool.not_eq_true, ExtTreeMap.contains_iff_mem]
        exact hn'
      · rw [canApply_withDigests]
        exact hk
    have hlog : fold chatId runId (a.commit kind commandId text).events =
        fold chatId runId a.events >>= fun b => foldEvent b ⟨a.version + 1, commandId, kind⟩ := by
      simp [fold, commit, foldlM_append]
    rw [hlog, hfold]
    exact hstep.trans (congrArg Except.ok (replay_withDigests kind a digests commandId text))
  · intro key
    simp [commit, mem_insert, hkeys]
  · refine all_insert htexts ?_
    simp

variable (digest : RunCommandV1 → Sha256Digest)

theorem run_rebuilt (chatId runId : StableId)
    (commands : List RunCommandV1) : Rebuilt chatId runId (run digest (new chatId runId) commands) := by
  refine run_induction digest _ (new_rebuilt chatId runId) ?_ commands
  intro b command kind hb hf _ hk
  exact commit_rebuilt chatId runId b kind command.commandId _ hb hf.unexhausted hf.unseen hk

/-- A stored digest and the event of its command id outlast later commands. -/
theorem run_applied_kept (a : RunAggregateV1) (id : StableId)
    (text : String) (event : CommittedRunEventV1) (hd : a.commandDigests[id.val]? = some text)
    (he : a.events.find? (fun other => other.commandId == id) = some event) (commands : List RunCommandV1) :
    (a.run digest commands).commandDigests[id.val]? = some text ∧
      (a.run digest commands).events.find? (fun other => other.commandId == id) = some event := by
  refine run_induction digest (P := fun b => b.commandDigests[id.val]? = some text ∧
    b.events.find? (fun other => other.commandId == id) = some event) a ⟨hd, he⟩ ?_ commands
  rintro b command kind ⟨hbd, hbe⟩ hf _ _
  refine ⟨?_, ?_⟩
  · exact insert_fresh _ hf.unseen hbd
  · simp [commit, find?_append, hbe]

private theorem handle_applied_again (chatId runId : StableId)
    (before after : List RunCommandV1) (command : RunCommandV1) (event : CommittedRunEventV1)
    (happ : ((run digest (new chatId runId) before).handle digest command).1 = .ok (.applied event)) :
    command.command.encodes = true ∧
      (run digest (new chatId runId) (before ++ command :: after)).commandDigests[command.commandId.val]? =
        some (digest command).text ∧
      (run digest (new chatId runId) (before ++ command :: after)).events.find?
        (fun other => other.commandId == command.commandId) = some event := by
  have hb := run_rebuilt digest chatId runId before
  rcases handle_cases digest (run digest (new chatId runId) before) command with ⟨_, hn⟩ | ⟨kind, hf, _, _, hh⟩
  · exact absurd happ (hn event)
  · rw [hh] at happ
    obtain rfl : _ = event := RunCommandOutcomeV1.applied.inj (Except.ok.inj happ)
    have hrun : run digest (new chatId runId) (before ++ command :: after) =
        (((run digest (new chatId runId) before).handle digest command).2).run digest after := by
      rw [run_append]
      rfl
    rw [hrun, hh]
    refine ⟨hf.encodes, run_applied_kept digest _ command.commandId _ _ ?_ ?_ after⟩
    · simp [commit]
    · have hnone : (run digest (new chatId runId) before).events.find?
          (fun other => other.commandId == command.commandId) = none := by
        refine find?_eq_none.mpr fun other ho heq => ?_
        have hmem := hb.indexed other ho
        rw [eq_of_beq heq, mem_iff_isSome_getElem?, hf.unseen] at hmem
        cases hmem
      simp [commit, find?_append, hnone]

/-- Recovery forgets command digests: a command the live aggregate answers with its event is a conflict for the
rebuilt one. -/
theorem folded_refuses_applied (digest : RunCommandV1 → Sha256Digest) (chatId runId : StableId)
    (before after : List RunCommandV1) (command : RunCommandV1) (event : CommittedRunEventV1)
    (happ : ((run digest (new chatId runId) before).handle digest command).1 = .ok (.applied event)) :
    let a := run digest (new chatId runId) (before ++ command :: after)
    (a.handle digest command).1 = .ok (.duplicate event) ∧
      ∃ folded, fold a.chatId a.runId a.events = .ok folded ∧
        (folded.handle digest command).1 = .error .commandIdentityConflict := by
  intro a
  obtain ⟨henc, hdig, hfind⟩ := handle_applied_again digest chatId runId before after command event happ
  have ha : Rebuilt chatId runId a := run_rebuilt digest chatId runId (before ++ command :: after)
  obtain ⟨digests, hfold, hkeys, htexts⟩ := ha.folded
  refine ⟨?_, a.withDigests digests, by rw [ha.chat, ha.run]; exact hfold, ?_⟩
  · have hd : a.commandDigests[command.commandId.val]? = some (digest command).text := hdig
    have hf : a.events.find? (fun other => other.commandId == command.commandId) = some event := hfind
    simp [handle, commandDigest, henc, hd, hf]
  · have hmem : command.commandId.val ∈ digests := by
      rw [hkeys, mem_iff_isSome_getElem?]
      simp [a, hdig]
    obtain ⟨text, htext⟩ := Option.isSome_iff_exists.mp (mem_iff_isSome_getElem?.mp hmem)
    have hne : text ≠ (digest command).text := by
      rintro rfl
      exact (digest command).colon_not_mem (htexts _ _ htext)
    simp [handle, commandDigest, henc, withDigests, htext, hne]

def readyEvent : CommittedRunEventV1 := ⟨2, StableId.ofText "run.ready", .workerGenerationReady 1⟩

theorem folded_refuses_ready :
    let a := run sampleDigest (new sampleChat sampleRun) ([startCommand] ++ readyCommand :: [])
    (a.handle sampleDigest readyCommand).1 = .ok (.duplicate readyEvent) ∧
      ∃ folded, fold a.chatId a.runId a.events = .ok folded ∧
        (folded.handle sampleDigest readyCommand).1 = .error .commandIdentityConflict :=
  folded_refuses_applied sampleDigest sampleChat sampleRun [startCommand] [] readyCommand readyEvent
    (by decide +kernel)

/-- The started Run answers its second command again, the rebuilt one not. -/
theorem ready_not_duplicate_after_fold :
    let a := run sampleDigest (new sampleChat sampleRun) [startCommand, readyCommand]
    (a.handle sampleDigest readyCommand).1 = .ok (.duplicate readyEvent) ∧
      (fold a.chatId a.runId a.events).map (fun folded => (folded.handle sampleDigest readyCommand).1) ≠
        .ok (.ok (.duplicate readyEvent)) := by
  decide +kernel

/-- What was delivered, followed by what is queued, is what was accepted behind the last rejected start. -/
structure Fifo (a : RunAggregateV1) : Prop where
  balance : deliveredIds a.events ++ a.queuedInputs = acceptedIds (sinceStartRejected a.events)
  since : deliveredIds (sinceStartRejected a.events) = deliveredIds a.events
  unstarted : a.state.unstarted = true → deliveredIds a.events = []
  idle : a.state = .draft ∨ a.state = .blockedDraft → a.queuedInputs = []

section
variable (kind) (id : StableId) (text : String)

theorem commit_queue
    (hk : a.canApply kind = true) (hr : kind.rejectsStart = false) :
    kind.delivers ++ (a.commit kind id text).queuedInputs = a.queuedInputs ++ kind.accepts := by
  cases kind with
  | inputDelivered input =>
    simp only [canApply, Bool.and_eq_true] at hk
    have hq : (a.commit (.inputDelivered input) id text).queuedInputs = a.queuedInputs.tail := by
      simp [commit, reduce, hk.2]
    rw [hq]
    cases hl : a.queuedInputs with
    | nil => simp [hl] at hk
    | cons first rest =>
      rw [hl] at hk
      obtain rfl : first = input := by simpa using hk.2
      simp [delivers, accepts]
  | startRejected code => cases hr
  | attemptFinished attempt outcome =>
    have hq : (a.commit (.attemptFinished attempt outcome) id text).queuedInputs = a.queuedInputs := by
      simp only [commit, reduce]
      split <;> rfl
    simp [hq, delivers, accepts]
  | _ => simp [commit, reduce, delivers, accepts]

private theorem commit_idle
    (hu : Unlaunched a.control) (hk : a.canApply kind = true) (hr : kind.rejectsStart = false)
    (hs : (a.commit kind id text).state = .draft ∨ (a.commit kind id text).state = .blockedDraft) :
    (a.state = .draft ∨ a.state = .blockedDraft) ∧ kind.accepts = [] := by
  have hm := commit_move a kind id text hk
  rcases move_idle hm hu hs with hrej | ⟨hq, hbefore⟩
  · rw [hr] at hrej
    cases hrej
  · refine ⟨hbefore, ?_⟩
    cases kind with
    | inputQueued input =>
      simp only [canApply, Bool.and_eq_true] at hk
      rcases hbefore with h | h <;> rw [show a.state = _ from h] at hk <;> cases hk.1
    | _ => first | rfl | cases hq

private theorem commit_fifo
    (hu : Unlaunched a.control) (ha : Fifo a) (hk : a.canApply kind = true) : Fifo (a.commit kind id text) := by
  have hm := commit_move a kind id text hk
  have he : (a.commit kind id text).events = a.events ++ [⟨a.version + 1, id, kind⟩] := rfl
  have hunst : (a.commit kind id text).state.unstarted = true →
      deliveredIds (a.commit kind id text).events = [] := by
    intro hs
    obtain ⟨hbefore, hnone⟩ := move_unstarted hm hu hs
    rw [he, deliveredIds_snoc, ha.unstarted hbefore, hnone]
    rfl
  cases hr : kind.rejectsStart with
  | true =>
    have hstart : a.state.unstarted = true ∧ (a.commit kind id text).queuedInputs = [] ∧
        kind.delivers = [] := by
      cases kind with
      | startRejected code =>
        simp only [canApply, Fallible.met] at hk
        exact ⟨by rcases hk.1.1 with (h | h) | h <;> simp [h, unstarted], rfl, rfl⟩
      | _ => cases hr
    have hlog : deliveredIds (a.commit kind id text).events = [] := by
      rw [he, deliveredIds_snoc, ha.unstarted hstart.1, hstart.2.2]
      rfl
    have hsince : sinceStartRejected (a.commit kind id text).events = [] :=
      sinceStartRejected_rejected a.events _ hr
    refine ⟨?_, ?_, fun _ => hlog, fun _ => hstart.2.1⟩
    · rw [hlog, hstart.2.1, hsince]
      rfl
    · rw [hlog, hsince]
      rfl
  | false =>
    have hq := commit_queue kind a id text hk hr
    have hsince : sinceStartRejected (a.commit kind id text).events =
        sinceStartRejected a.events ++ [⟨a.version + 1, id, kind⟩] := sinceStartRejected_snoc a.events _ hr
    refine ⟨?_, ?_, hunst, ?_⟩
    · calc deliveredIds (a.commit kind id text).events ++ (a.commit kind id text).queuedInputs
          = deliveredIds a.events ++ (kind.delivers ++ (a.commit kind id text).queuedInputs) := by
            rw [he, deliveredIds_snoc, append_assoc]
        _ = (deliveredIds a.events ++ a.queuedInputs) ++ kind.accepts := by rw [hq, append_assoc]
        _ = acceptedIds (sinceStartRejected (a.commit kind id text).events) := by
            rw [ha.balance, hsince, acceptedIds_snoc]
    · rw [hsince, deliveredIds_snoc, ha.since, he, deliveredIds_snoc]
    · intro hs
      obtain ⟨hbefore, hnone⟩ := commit_idle kind a id text hu hk hr hs
      rw [ha.idle hbefore, hnone] at hq
      exact (append_eq_nil_iff.mp hq).2

end

private theorem new_unlaunched (chatId runId : StableId) : Unlaunched (new chatId runId).control :=
  ⟨fun _ => rfl, by simp [control, new]⟩

theorem run_fifo (chatId runId : StableId) (commands : List RunCommandV1) :
    Unlaunched (run digest (new chatId runId) commands).control ∧ Fifo (run digest (new chatId runId) commands) := by
  refine run_induction digest (P := fun a => Unlaunched a.control ∧ Fifo a) _
    ⟨new_unlaunched chatId runId, ⟨rfl, rfl, fun _ => rfl, fun _ => rfl⟩⟩ ?_ commands
  rintro b command kind ⟨hu, hb⟩ _ _ hk
  exact ⟨move_unlaunched (commit_move b kind _ _ hk) hu, commit_fifo kind b _ _ hu hb hk⟩

private theorem run_snapshotHash (a : RunAggregateV1) (hash : String) (h : a.snapshotHash = some hash)
    (commands : List RunCommandV1) : (a.run digest commands).snapshotHash = some hash := by
  refine run_induction digest (P := fun b => b.snapshotHash = some hash) a h ?_ commands
  intro b command kind hb _ _ hk
  exact move_snapshotHash (commit_move b kind command.commandId (digest command).text hk) hb

/-- The log of every reachable Run rebuilds it, digest table apart; the snapshot hash is final, the generation only
grows, and the queue is what was accepted and not delivered. -/
theorem fold_rebuilds_run (digest : RunCommandV1 → Sha256Digest) (chatId runId : StableId)
    (commands : List RunCommandV1) :
    let a := run digest (new chatId runId) commands
    (∃ digests, fold a.chatId a.runId a.events = .ok { a with commandDigests := digests }) ∧
      (∀ hash more, a.snapshotHash = some hash → (a.run digest more).snapshotHash = some hash) ∧
      (∀ command, (a.handle digest command).2.generation ≠ a.generation →
        ∃ next, (a.handle digest command).2.generation = some next ∧
          ∀ current, a.generation = some current → current < next) ∧
      deliveredIds (sinceStartRejected a.events) ++ a.queuedInputs = acceptedIds (sinceStartRejected a.events) ∧
      deliveredIds a.events ++ a.queuedInputs = acceptedIds (sinceStartRejected a.events) := by
  intro a
  have ha : Rebuilt chatId runId a := run_rebuilt digest chatId runId commands
  obtain ⟨hu, hfifo⟩ : Unlaunched a.control ∧ Fifo a := run_fifo digest chatId runId commands
  obtain ⟨digests, hfold, _⟩ := ha.folded
  refine ⟨⟨digests, ?_⟩, ?_, ?_, ?_, hfifo.balance⟩
  · have hown : fold a.chatId a.runId a.events = .ok (a.withDigests digests) := by rw [ha.chat, ha.run, hfold]
    exact hown
  · intro hash more hh
    exact run_snapshotHash digest a hash hh more
  · intro command hne
    rcases handle_cases digest a command with ⟨hs, _⟩ | ⟨kind, _, _, hk, hs⟩
    · rw [hs] at hne
      exact absurd rfl hne
    · rw [hs] at hne ⊢
      exact move_generation (commit_move a kind command.commandId (digest command).text hk) hu hne
  · rw [hfifo.since]
    exact hfifo.balance

variable (command : RunCommandKindV1)

/-- A second fork of an ended Run into one child; only the reducer refuses it. -/
def RepeatsFork : Prop :=
  a.state.isTerminal = true ∧ ∃ child, command = .fork child ∧ child ∈ a.childChatIds

theorem decide_error (e : LifecycleErrorV1) (h : a.decide command = .error e) : e = .illegalTransition a.state := by
  cases command <;> simp only [decide] at h <;> split at h <;> cases h <;> rfl

/-- The two guards agree in reachable states, repeated forks apart. -/
theorem canApply_of_decide (kind : RunEventKindV1)
    (hidle : a.state = .draft ∨ a.state = .blockedDraft → a.queuedInputs = [])
    (hfork : ¬ RepeatsFork a command) (hd : a.decide command = .ok kind) : a.canApply kind = true := by
  cases command with
  | acceptFirstInput input =>
    simp only [decide] at hd
    split at hd
    · rename_i hguard
      cases hd
      have hq : a.queuedInputs = [] := hidle (by simpa using hguard)
      simp [canApply, hguard, hq]
    · cases hd
  | fork child =>
    simp only [decide] at hd
    split at hd
    · rename_i hguard
      cases hd
      have hnew : child ∉ a.childChatIds := fun hm => hfork ⟨hguard, child, rfl, hm⟩
      simp [canApply, hguard, hnew]
    · cases hd
  | freezeSnapshot id hash | finishAttempt attempt outcome =>
    simp only [decide] at hd
    split at hd
    · rename_i hguard
      cases hd
      simp only [Bool.and_eq_true] at hguard
      simp [canApply, hguard.1.1, hguard.1.2, hguard.2]
    · cases hd
  | _ =>
    simp only [decide] at hd
    split at hd
    · rename_i hguard
      cases hd
      exact hguard
    · cases hd

theorem RepeatsFork.decided (h : RepeatsFork a command) :
    ∃ kind, a.decide command = .ok kind ∧ a.canApply kind = false := by
  obtain ⟨hend, child, rfl, hmem⟩ := h
  exact ⟨.forked child, by simp [decide, hend], by simp [canApply, hmem]⟩

private theorem canApply_iff (kind : RunEventKindV1)
    (hidle : a.state = .draft ∨ a.state = .blockedDraft → a.queuedInputs = [])
    (hd : a.decide command = .ok kind) : a.canApply kind = true ↔ ¬ RepeatsFork a command := by
  refine ⟨fun hk hfork => ?_, fun hfork => canApply_of_decide a command kind hidle hfork hd⟩
  obtain ⟨kind', hd', hk'⟩ := hfork.decided
  obtain rfl : kind = kind' := Except.ok.inj (hd.symm.trans hd')
  rw [hk] at hk'
  cases hk'

/-- In a reachable Run the guards of commands and events agree on every command but a repeated fork: a fresh command is
applied or illegal if and only if it is not one, and for a new id the reducer's alarm means such a fork. No command that
fails changes the Run. -/
theorem fresh_command_answers (digest : RunCommandV1 → Sha256Digest) (chatId runId : StableId)
    (commands : List RunCommandV1) (command : RunCommandV1) :
    let a := run digest (new chatId runId) commands
    (∀ kind, a.decide command.command = .ok kind → (a.canApply kind = true ↔ ¬ RepeatsFork a command.command)) ∧
      (a.Fresh command → ((∃ event, (a.handle digest command).1 = .ok (.applied event)) ∨
        (a.handle digest command).1 = .error (.illegalTransition a.state) ↔ ¬ RepeatsFork a command.command)) ∧
      (a.commandDigests[command.commandId.val]? = none → ((a.handle digest command).1 = .error .corruptHistory ↔
        a.Fresh command ∧ RepeatsFork a command.command)) ∧
      ∀ e, (a.handle digest command).1 = .error e → (a.handle digest command).2 = a := by
  intro a
  have hfifo : Fifo a := (run_fifo digest chatId runId commands).2
  have hagree := fun kind => canApply_iff a command.command kind hfifo.idle
  refine ⟨hagree, fun hf => ?_, fun hunseen => ⟨fun hcorrupt => ?_, fun ⟨hf, hfork⟩ => ?_⟩, fun e he => ?_⟩
  · rw [handle_fresh digest a command hf]
    cases hd : a.decide command.command with
    | error e =>
      obtain rfl := decide_error a command.command e hd
      refine iff_of_true (.inr rfl) fun hfork => ?_
      obtain ⟨kind, hok, _⟩ := hfork.decided
      rw [hd] at hok
      cases hok
    | ok kind =>
      rw [← hagree kind hd]
      cases hk : a.canApply kind <;> simp [hk]
  · -- the other refusals of a new id stand before the reducer, and each has its own error
    have henc : command.command.encodes = true := by
      by_contra henc
      simp [handle, commandDigest, henc] at hcorrupt
    have hcurrent : command.expectedVersion = a.version := by
      by_contra hne
      simp [handle, commandDigest, henc, hunseen, handleFresh, hne] at hcorrupt
    cases hd : a.decide command.command with
    | error e =>
      obtain rfl := decide_error a command.command e hd
      simp [handle, commandDigest, henc, hunseen, handleFresh, hcurrent, hd] at hcorrupt
    | ok kind =>
      have hv : a.version < u64Max := by
        by_contra hv
        have hx : checkedSucc a.version = none := if_neg hv
        simp [handle, commandDigest, henc, hunseen, handleFresh, hcurrent, hd, hx] at hcorrupt
      refine ⟨⟨henc, hunseen, hcurrent, hv⟩, ?_⟩
      by_contra hfork
      rw [handle_fresh digest a command ⟨henc, hunseen, hcurrent, hv⟩, hd] at hcorrupt
      simp [(hagree kind hd).mpr hfork] at hcorrupt
  · obtain ⟨kind, hd, hk⟩ := hfork.decided
    rw [handle_fresh digest a command hf, hd]
    simp [hk]
  · rcases handle_cases digest a command with ⟨hs, _⟩ | ⟨kind, _, _, _, hs⟩
    · exact hs
    · rw [hs] at he
      cases he

def failCommand : RunCommandV1 := ⟨.ofText "draft.fail", 0, .fail "transient" true⟩
def forkCommand : RunCommandV1 := ⟨.ofText "draft.fork", 1, .fork (.ofText "chat.child")⟩

/-- The failed draft is forked once. -/
theorem fork_answered :
    let a := run sampleDigest (new sampleChat sampleRun) [failCommand]
    (∃ event, (a.handle sampleDigest forkCommand).1 = .ok (.applied event)) ∨
      (a.handle sampleDigest forkCommand).1 = .error (.illegalTransition a.state) :=
  ((fresh_command_answers sampleDigest sampleChat sampleRun [failCommand] forkCommand).2.1
    ⟨by decide +kernel, by decide +kernel, by decide +kernel, by decide +kernel⟩).mpr (by
      have hnone : (run sampleDigest (new sampleChat sampleRun) [failCommand]).childChatIds = [] := by decide +kernel
      rintro ⟨_, child, _, hmem⟩
      rw [hnone] at hmem
      cases hmem)

/-- Forking it into the same child again raises the reducer's alarm. -/
theorem repeated_fork_corrupt :
    let a := run sampleDigest (new sampleChat sampleRun) [failCommand, forkCommand]
    let again : RunCommandV1 := ⟨.ofText "draft.refork", 2, .fork (.ofText "chat.child")⟩
    a.commandDigests[again.commandId.val]? = none ∧ again.expectedVersion = a.version ∧
      (a.handle sampleDigest again).1 = .error .corruptHistory := by
  decide +kernel

end RunAggregateV1
end Aworkit.Core
