import Aworkit.Core.Lifecycle

/-! What one handled command can do, and the induction over a run. Guards and reducer are opened here only. -/
namespace Aworkit.Core.RunAggregateV1
open Protocol

variable (a : RunAggregateV1)

variable (kind : RunEventKindV1) {P : RunAggregateV1 → Prop}

/-- The aggregate after an admitted event, with log entry and digest. -/
def commit (commandId : StableId) (text : String) : RunAggregateV1 :=
  { (a.reduce kind).2 with
    version := a.version + 1
    commandDigests := a.commandDigests.insert commandId.val text
    events := a.events ++ [⟨a.version + 1, commandId, kind⟩] }

theorem reduce_events : (a.reduce kind).2.events = a.events := by
  cases kind with
  | inputDelivered inputId | attemptFinished attemptId outcome =>
    simp only [reduce]
    split <;> rfl
  | _ => rfl

theorem reduce_commandDigests : (a.reduce kind).2.commandDigests = a.commandDigests := by
  cases kind with
  | inputDelivered inputId | attemptFinished attemptId outcome =>
    simp only [reduce]
    split <;> rfl
  | _ => rfl

/-- The checks inside the reducer never fail once `canApply` has passed. -/
theorem reduce_ok (h : a.canApply kind = true) : (a.reduce kind).1 = .ok () := by
  cases kind with
  | inputDelivered inputId =>
    simp only [canApply, Bool.and_eq_true] at h
    simp [reduce, h.2]
  | attemptFinished attemptId outcome =>
    simp only [canApply, Bool.and_eq_true, attemptOpen] at h
    cases he : a.activeAttempts[attemptId.val]? with
    | none => simp [he] at h
    | some attempt => simp [reduce, he]
  | _ => rfl

/-- A fresh command id at the current version, with room to encode and count. -/
structure Fresh (a : RunAggregateV1) (command : RunCommandV1) : Prop where
  encodes : command.command.encodes = true
  unseen : a.commandDigests[command.commandId.val]? = none
  current : command.expectedVersion = a.version
  unexhausted : a.version < u64Max

section
variable (digest : RunCommandV1 → Sha256Digest)

section
variable (a : RunAggregateV1)

private theorem applyEvent_of_canApply (kind : RunEventKindV1) (id : StableId) (hv : a.version < u64Max)
    (h : a.canApply kind = true) :
    a.applyEvent ⟨a.version + 1, id, kind⟩ = (.ok (), { (a.reduce kind).2 with version := a.version + 1 }) := by
  have hs : saturatingAdd u64Max a.version 1 = a.version + 1 := saturatingAdd_of_le hv
  have hr := reduce_ok a kind h
  simp only [applyEvent, hs, ne_eq, not_true_eq_false, if_false, h, Bool.not_true, Bool.false_eq_true]
  rw [show a.reduce kind = ((a.reduce kind).1, (a.reduce kind).2) from rfl, hr]

private theorem applyEvent_of_not_canApply (committed : CommittedRunEventV1)
    (h : a.canApply committed.event = false) : a.applyEvent committed = (.error .corruptHistory, a) := by
  unfold applyEvent
  split
  · rfl
  · simp [h]

/-- A fresh command is refused without effect, or commits exactly its event. -/
theorem handle_fresh (command : RunCommandV1) (hf : a.Fresh command) :
    a.handle digest command =
      match a.decide command.command with
      | .error e => (.error e, a)
      | .ok kind =>
        if a.canApply kind then
          (.ok (.applied ⟨a.version + 1, command.commandId, kind⟩),
            a.commit kind command.commandId (digest command).text)
        else (.error .corruptHistory, a) := by
  have hc : checkedSucc a.version = some (a.version + 1) := if_pos hf.unexhausted
  simp only [handle, commandDigest, hf.encodes, if_true, hf.unseen, handleFresh, hf.current, ne_eq,
    not_true_eq_false, if_false]
  cases hd : a.decide command.command with
  | error e => rfl
  | ok kind =>
    simp only [hc]
    cases hk : a.canApply kind with
    | false => simp [applyEvent_of_not_canApply a ⟨a.version + 1, command.commandId, kind⟩ hk]
    | true =>
      simp only [applyEvent_of_canApply a kind command.commandId hf.unexhausted hk, if_true]
      simp [commit, reduce_events, reduce_commandDigests]

/-- What a handled command can do: nothing, or commit an admitted event. -/
theorem handle_cases (command : RunCommandV1) :
    ((a.handle digest command).2 = a ∧ ∀ event, (a.handle digest command).1 ≠ .ok (.applied event)) ∨
      ∃ kind, a.Fresh command ∧ a.decide command.command = .ok kind ∧ a.canApply kind = true ∧
        a.handle digest command = (.ok (.applied ⟨a.version + 1, command.commandId, kind⟩),
          a.commit kind command.commandId (digest command).text) := by
  by_cases hf : a.Fresh command
  · rw [handle_fresh digest a command hf]
    cases hd : a.decide command.command with
    | error e => exact .inl ⟨rfl, by simp⟩
    | ok kind =>
      cases hk : a.canApply kind with
      | false => exact .inl ⟨by simp [hk], by simp [hk]⟩
      | true => exact .inr ⟨kind, hf, rfl, hk, by simp [hk]⟩
  · left
    unfold handle
    cases he : commandDigest digest command with
    | error e => exact ⟨rfl, by simp⟩
    | ok text =>
      have hen : command.command.encodes = true := by
        by_contra hn
        simp [commandDigest, hn] at he
      cases hp : a.commandDigests[command.commandId.val]? with
      | some previous =>
        simp only
        split
        · exact ⟨rfl, by simp⟩
        · split
          · exact ⟨rfl, by simp⟩
          · exact ⟨rfl, by simp⟩
      | none =>
        simp only [handleFresh]
        split
        · exact ⟨rfl, by simp⟩
        · rename_i hv
          cases hd : a.decide command.command with
          | error e => exact ⟨rfl, by simp⟩
          | ok kind =>
            have hx : checkedSucc a.version = none := by
              refine if_neg fun hlt => hf ⟨hen, hp, ?_, hlt⟩
              simpa using hv
            simp [hx]

theorem run_append (xs ys : List RunCommandV1) :
    a.run digest (xs ++ ys) = (a.run digest xs).run digest ys := List.foldl_append

theorem run_snoc (xs : List RunCommandV1) (c : RunCommandV1) :
    a.run digest (xs ++ [c]) = ((a.run digest xs).handle digest c).2 := by
  simp [run]

/-- An invariant of admitted events is one of every run. The step may use that the command was fresh and asked for the
event. -/
theorem run_induction (h0 : P a)
    (step : ∀ b command kind, P b → b.Fresh command → b.decide command.command = .ok kind →
      b.canApply kind = true → P (b.commit kind command.commandId (digest command).text))
    (commands : List RunCommandV1) : P (a.run digest commands) := by
  refine List.foldlRecOn commands _ h0 ?_
  intro b hb command _
  rcases handle_cases digest b command with ⟨hs, _⟩ | ⟨kind, hf, hd, hk, hs⟩
  · rw [hs]
    exact hb
  · rw [hs]
    exact step b command kind hb hf hd hk

end

end

/-- The aggregate after one event of a stored log. -/
def replay (a : RunAggregateV1) (event : CommittedRunEventV1) : RunAggregateV1 :=
  { (a.reduce event.event).2 with
    version := event.sequence
    commandDigests := a.commandDigests.insert event.commandId.val ("folded:" ++ toString event.sequence)
    events := a.events ++ [event] }

theorem foldEvent_eq_ok_iff (a b : RunAggregateV1) (event : CommittedRunEventV1) :
    foldEvent a event = .ok b ↔
      event.sequence = saturatingAdd u64Max a.version 1 ∧ a.commandDigests.contains event.commandId.val = false ∧
        a.canApply event.event = true ∧ b = a.replay event := by
  by_cases hs : event.sequence = saturatingAdd u64Max a.version 1
  · cases hd : a.commandDigests.contains event.commandId.val with
    | true => simp [foldEvent, hd]
    | false =>
      cases hk : a.canApply event.event with
      | false => simp [foldEvent, hd, ← hs, applyEvent, hk]
      | true =>
        have hr := reduce_ok a event.event hk
        have happ : a.applyEvent event = (.ok (), { (a.reduce event.event).2 with version := event.sequence }) := by
          simp only [applyEvent, ← hs, ne_eq, not_true_eq_false, if_false, hk, Bool.not_true, Bool.false_eq_true]
          rw [show a.reduce event.event = ((a.reduce event.event).1, (a.reduce event.event).2) from rfl, hr]
        simp only [foldEvent, hd, ← hs, happ, ne_eq, not_true_eq_false, decide_false, Bool.or_self,
          Bool.false_eq_true, if_false, reduce_commandDigests, reduce_events, Except.ok.injEq, true_and]
        exact eq_comm
  · simp [foldEvent, hs]

theorem fold_induction (chatId runId : StableId) (h0 : P (new chatId runId))
    (step : ∀ b event, P b → b.canApply event.event = true → P (b.replay event))
    (events : List CommittedRunEventV1) (a : RunAggregateV1) (h : fold chatId runId events = .ok a) : P a := by
  have hgen : ∀ (log : List CommittedRunEventV1) (b : RunAggregateV1), P b →
      log.foldlM foldEvent b = .ok a → P a := by
    intro log
    induction log with
    | nil =>
      intro b hb hl
      cases hl
      exact hb
    | cons event rest ih =>
      intro b hb hl
      rw [List.foldlM_cons] at hl
      cases he : foldEvent b event with
      | error e =>
        rw [he] at hl
        cases hl
      | ok c =>
        rw [he] at hl
        obtain ⟨_, _, hk, rfl⟩ := (foldEvent_eq_ok_iff b c event).mp he
        exact ih _ (step b event hb hk) hl
  exact hgen events _ h0 h

end Aworkit.Core.RunAggregateV1
