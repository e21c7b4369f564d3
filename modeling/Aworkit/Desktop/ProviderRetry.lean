import Mathlib

/-! The dispatches of one model turn (`runtime/model_tool_loop.rs`) to a provider that always answers with one error.
The loop's notices are left out. -/
namespace Aworkit.Desktop

inductive ProviderError where
  | contextWindowExceeded
  | bindingDrift
  | outputBound
  | acceptanceAmbiguous
  | conflictingAcceptanceEvidence
  | noCandidateAccepted
  | invalidPlan
  | inputBoundExceeded (inputBytes maximumInputBytes : Nat)
  | failed (reason : String)
  | requestTimedOut
  | streamInterrupted
  | transportFailed
  | invalidToolCall
  | cancelled
  | missingOrDuplicateUsage

def ProviderError.toText : ProviderError → String
  | .contextWindowExceeded => "provider context window exceeded"
  | .bindingDrift => "provider binding drift"
  | .outputBound => "provider output exceeds binding limit"
  | .acceptanceAmbiguous => "provider acceptance is ambiguous; fallback is forbidden"
  | .conflictingAcceptanceEvidence => "provider emitted data while claiming it definitely did not accept"
  | .noCandidateAccepted => "no frozen provider candidate accepted the request"
  | .invalidPlan => "frozen provider plan is invalid"
  | .inputBoundExceeded inputBytes maximumInputBytes =>
    s!"provider request is {inputBytes} bytes and exceeds the {maximumInputBytes} byte input bound"
  | .failed reason => s!"provider failed: {reason}"
  | .requestTimedOut => "provider request timed out"
  | .streamInterrupted => "provider response stream was interrupted"
  | .transportFailed => "provider transport failed"
  | .invalidToolCall => "provider emitted an unsupported tool call"
  | .cancelled => "provider execution was cancelled"
  | .missingOrDuplicateUsage => "an accepted provider result must contain exactly one usage event"

def isContextOverflow : ProviderError → Bool
  | .contextWindowExceeded | .inputBoundExceeded .. => true
  | _ => false

/-- `provider_recovery_notice(error).is_some()`. -/
def hasRecoveryNotice : ProviderError → Bool
  | .cancelled | .acceptanceAmbiguous => false
  | _ => true

def maximumIdenticalProviderFailures : Nat := 10

structure ProviderRecoveryBudget where
  lastFailure : Option String := none
  identicalFailures : Nat := 0

namespace ProviderRecoveryBudget

variable (budget : ProviderRecoveryBudget)

def note (error : ProviderError) : ProviderRecoveryBudget :=
  if budget.lastFailure = some error.toText then
    { budget with identicalFailures := min (budget.identicalFailures + 1) (2 ^ 32 - 1) }
  else ⟨some error.toText, 1⟩

def stalled : Bool := maximumIdenticalProviderFailures ≤ budget.identicalFailures

/-- How often the error has been the last failure in a row. -/
def streak (error : ProviderError) : Nat :=
  if budget.lastFailure = some error.toText then budget.identicalFailures else 0

private theorem note_streak (error : ProviderError) :
    (budget.note error).streak error = min (budget.streak error + 1) (2 ^ 32 - 1) ∧
      (budget.note error).stalled = decide (10 ≤ budget.streak error + 1) := by
  unfold note streak stalled maximumIdenticalProviderFailures
  split <;> simp

end ProviderRecoveryBudget

/-- What the reducer and the user answer in one round of the loop. -/
structure Round where
  cancelledBefore : Bool := false
  changed : Bool := false
  providerError : Option ProviderError := none
  cancelledAfter : Bool := false

structure TurnState where
  recovery : ProviderRecoveryBudget := {}
  overflowRetries : Nat := 0
  attemptedModelTurns : Nat := 0

section Turn
variable (error : ProviderError) (maxOverflowRetries : Nat)

/-- One round: a dispatch that the provider answers with the error. -/
def dispatch (round : Round) (turn : TurnState) : Except ProviderError TurnState :=
  if round.cancelledBefore then .error .cancelled
  else
    let turn := { turn with attemptedModelTurns := min (turn.attemptedModelTurns + 1) (2 ^ 32 - 1) }
    if isContextOverflow error && turn.overflowRetries < maxOverflowRetries then
      let recovery := round.providerError.elim turn.recovery turn.recovery.note
      if round.cancelledAfter then .error .cancelled
      -- The report's answer, whether the turn has stalled, is not looked at here.
      else if !round.changed then .ok { turn with recovery := recovery.note error }
      else .ok { turn with recovery, overflowRetries := turn.overflowRetries + 1 }
    else if hasRecoveryNotice error then
      let recovery := turn.recovery.note error
      if recovery.stalled then
        let (text, failures) := (error.toText, recovery.identicalFailures)
        .error (.failed (s!"{text}. The provider refused this exact request {failures} times in a row, so no turn " ++
          "reached the model."))
      else .ok { turn with recovery }
    else .error error

/-- The first rounds of the loop. -/
def dispatches (rounds : Nat → Round) : Nat → TurnState → Except ProviderError TurnState
  | 0, turn => .ok turn
  | n + 1, turn => dispatch error maxOverflowRetries (rounds 0) turn >>= dispatches (fun i => rounds (i + 1)) n

variable {error maxOverflowRetries}

/-- Past the overflow retries the error's streak grows until the turn stalls. -/
theorem dispatches_stall (n : Nat) (turn : TurnState) (rounds : Nat → Round)
    (hpast : (isContextOverflow error && turn.overflowRetries < maxOverflowRetries) = false) (hpos : 0 < n)
    (hstreak : 10 ≤ turn.recovery.streak error + n) :
    ∃ e, dispatches error maxOverflowRetries rounds n turn = .error e := by
  induction n generalizing turn rounds with
  | zero => cases hpos
  | succ n ih =>
    obtain ⟨hnext, hstalled⟩ := turn.recovery.note_streak error
    simp only [dispatches, dispatch, hpast, hstalled, Bool.false_eq_true, if_false]
    split
    · exact ⟨_, rfl⟩
    · split
      · split
        · exact ⟨_, rfl⟩
        · rename_i hgoing
          rw [decide_eq_true_iff] at hgoing
          exact ih _ _ hpast (by omega) (by simp only [hnext]; omega)
      · exact ⟨_, rfl⟩

private theorem dispatches_reduced (n : Nat) (turn : TurnState) (rounds : Nat → Round)
    (hchanged : ∀ i, (rounds i).changed = true) (hleft : maxOverflowRetries ≤ turn.overflowRetries + n) :
    ∃ e, dispatches error maxOverflowRetries rounds (10 + n) turn = .error e := by
  induction n generalizing turn rounds with
  | zero => exact dispatches_stall 10 turn rounds (by simp; omega) (by decide) (by omega)
  | succ n ih =>
    cases hretry : isContextOverflow error && turn.overflowRetries < maxOverflowRetries with
    | false => exact dispatches_stall _ turn rounds hretry (by omega) (by omega)
    | true =>
      simp only [dispatches, dispatch, hretry, hchanged, if_true, Bool.not_true, Bool.false_eq_true, if_false]
      split
      · exact ⟨_, rfl⟩
      · split
        · exact ⟨_, rfl⟩
        · exact ih _ _ (fun i => hchanged (i + 1)) (by simp; omega)

/-- A reducer that changes nothing keeps the turn dispatching. -/
theorem dispatches_forever (n : Nat) (turn : TurnState)
    (hretry : (isContextOverflow error && turn.overflowRetries < maxOverflowRetries) = true)
    (hcounted : turn.attemptedModelTurns ≤ 2 ^ 32 - 1) :
    ∃ later, dispatches error maxOverflowRetries (fun _ => {}) n turn = .ok later ∧
      later.attemptedModelTurns = min (turn.attemptedModelTurns + n) (2 ^ 32 - 1) := by
  induction n generalizing turn with
  | zero => exact ⟨turn, rfl, (Nat.min_eq_left hcounted).symm⟩
  | succ n ih =>
    simp only [dispatches, dispatch, hretry, Bool.false_eq_true, if_false, if_true, Bool.not_false]
    obtain ⟨later, hlater, hcount⟩ := ih { turn with
      attemptedModelTurns := min (turn.attemptedModelTurns + 1) (2 ^ 32 - 1)
      recovery := turn.recovery.note error } hretry (Nat.min_le_right ..)
    exact ⟨later, hlater, hcount.trans (by simp; omega)⟩

end Turn

/-- Against a provider that answers with one error, the turn ends within ten dispatches more than its overflow
retries, whatever the reducer does, exactly when the error is no context overflow or there is no retry; and it does if
each reduction changes the request. -/
theorem failing_turn_ends_iff (error : ProviderError) (maxOverflowRetries : Nat) :
    ((∀ turn rounds, ∃ e, dispatches error maxOverflowRetries rounds
      (maximumIdenticalProviderFailures + maxOverflowRetries) turn = .error e) ↔
      isContextOverflow error = false ∨ maxOverflowRetries = 0) ∧
    ∀ turn rounds, (∀ i, (rounds i).changed = true) → ∃ e, dispatches error maxOverflowRetries rounds
      (maximumIdenticalProviderFailures + maxOverflowRetries) turn = .error e := by
  refine ⟨⟨fun hends => ?_, fun hplain turn rounds => ?_⟩, fun turn rounds hchanged => ?_⟩
  · by_contra hretry
    obtain ⟨e, hend⟩ := hends {} fun _ => {}
    rw [not_or, Bool.not_eq_false] at hretry
    obtain ⟨later, hlater, -⟩ := dispatches_forever (maximumIdenticalProviderFailures + maxOverflowRetries) {}
      (show (isContextOverflow error && decide (0 < maxOverflowRetries)) = true by simp [hretry.1]; omega)
      (Nat.zero_le _)
    cases hlater.symm.trans hend
  · refine dispatches_stall _ turn rounds ?_ (Nat.add_pos_left (by decide) _) (le_add_left (Nat.le_add_right 10 _))
    rcases hplain with hplain | rfl <;> simp [*]
  · exact dispatches_reduced _ turn rounds hchanged (Nat.le_add_left ..)

/-- An overflow, one retry and an idle reducer: the turn never ends. -/
theorem overflow_dispatched_forever : isContextOverflow .contextWindowExceeded = true ∧ ∀ n, ∃ later,
    dispatches .contextWindowExceeded 1 (fun _ => {}) n {} = .ok later ∧
      later.attemptedModelTurns = min n (2 ^ 32 - 1) := by
  refine ⟨rfl, fun n => ?_⟩
  simpa using dispatches_forever n {} (by decide) (Nat.zero_le _)

end Aworkit.Desktop
