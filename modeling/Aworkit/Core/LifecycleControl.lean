import Aworkit.Core.LifecycleStep
import Aworkit.Logic.Fallible

/-! The abstract control machine of a Run: the fields that decide which commands are legal. The aggregate is shown to
move as it does. -/
namespace Aworkit.Core
open Protocol RunStateV1 Bool Fallible

/-- States of a Run that holds a live worker generation. -/
def RunStateV1.engaged : RunStateV1 → Bool
  | .active | .waitingInput | .waitingApproval | .pausing | .paused => true
  | _ => false

/-- States before a snapshot is frozen. -/
def RunStateV1.unstarted : RunStateV1 → Bool
  | .draft | .blockedDraft | .resolving => true
  | _ => false

/-- Events that leave the control fields alone. -/
def RunEventKindV1.quiet : RunEventKindV1 → Bool
  | .inputQueued _ | .attemptBegan _ _ | .attemptFinished _ _ | .forked _ | .continued _ => true
  | _ => false

/-- Events that move a live Run between live states. -/
def RunEventKindV1.internal : RunEventKindV1 → Bool
  | .inputDelivered _ | .waited _ | .approvalResolved _ _ | .pauseRequested | .paused _ | .resumed => true
  | _ => false

@[ext] structure Control where
  state : RunStateV1
  snapshotId : Option StableId
  snapshotHash : Option String
  generation : Option Nat
  rehydrationTarget : Option RunStateV1
  uncertainInvocations : Std.ExtTreeSet String

/-- The control steps, with every guard that a later invariant needs. -/
inductive Move (c : Control) : RunEventKindV1 → Control → Prop
  | quiet {kind : RunEventKindV1} (h : kind.quiet = true) : Move c kind c
  | chatStarted (input id : StableId) (hash : String) (hs : c.state.unstarted = true)
      (hn : c.snapshotHash = none) :
      Move c (.chatStarted input id hash)
        { c with state := .starting, snapshotId := some id, snapshotHash := some hash }
  | snapshotFrozen (id : StableId) (hash : String) (hs : c.state.unstarted = true)
      (hn : c.snapshotHash = none) :
      Move c (.snapshotFrozen id hash)
        { c with state := .starting, snapshotId := some id, snapshotHash := some hash }
  | startRejected (code : String) (hs : c.state.unstarted = true) :
      Move c (.startRejected code) { c with state := .blockedDraft }
  | firstInputAccepted (input : StableId) (hs : c.state.unstarted = true) :
      Move c (.firstInputAccepted input) { c with state := .resolving }
  | workerReady (g : Nat) (hs : c.state = .starting) (hg : 0 < g) :
      Move c (.workerGenerationReady g)
        { c with generation := some g, rehydrationTarget := none, state := c.rehydrationTarget.getD .active }
  | rehydrated (g : Nat) (hs : c.state = .rehydrating)
      (hg : ∀ current, c.generation = some current → current < g) :
      Move c (.rehydrationReady g)
        { c with generation := some g, rehydrationTarget := none, state := c.rehydrationTarget.getD .active }
  | internal {kind : RunEventKindV1} (s : RunStateV1) (h : kind.internal = true)
      (hc : c.state.engaged = true) (hs : s.engaged = true) : Move c kind { c with state := s }
  | cancelRequested (hs : c.state.isTerminal = false) :
      Move c .cancellationRequested { c with state := .cancelling }
  | cancelled (hs : c.state = .cancelling) : Move c .cancelled { c with state := .cancelled }
  | completed (hs : c.state = .active) : Move c .completed { c with state := .completed }
  | failed (code : String) (retryable : Bool) (hs : c.state.isTerminal = false) :
      Move c (.failed code retryable) { c with state := .failed }
  | crashed (g : Nat) (checkpoint : Option String) (ids : List StableId) (s : RunStateV1)
      (hc : crashable c.state = true) (hg : c.generation = some g)
      (hs : s = .blocked ∨ s = .rehydrating ∧ ids = []) :
      Move c (.workerGenerationCrashed g checkpoint ids)
        { c with
          rehydrationTarget := some (RunAggregateV1.crashTarget c.state)
          uncertainInvocations := Std.ExtTreeSet.ofList (ids.map StableId.val), state := s }
  | resolved (id : StableId) (s : RunStateV1) (hc : c.state = .blocked)
      (hs : s = .blocked ∨ s = .rehydrating ∧ c.uncertainInvocations.erase id.val = ∅) :
      Move c (.blockedInvocationResolved id)
        { c with uncertainInvocations := c.uncertainInvocations.erase id.val, state := s }
  | retried (hs : c.state = .failed) :
      Move c .retried { c with rehydrationTarget := some .active, state := .rehydrating }

namespace RunAggregateV1

def control (a : RunAggregateV1) : Control :=
  ⟨a.state, a.snapshotId, a.snapshotHash, a.generation, a.rehydrationTarget, a.uncertainInvocations⟩

private theorem ids_nil_of_isEmpty {ids : List StableId}
    (h : (Std.ExtTreeSet.ofList (ids.map StableId.val)).isEmpty = true) : ids = [] :=
  List.map_eq_nil_iff.mp (Std.ExtTreeSet.ofList_eq_empty_iff.mp (Std.ExtTreeSet.isEmpty_iff.mp h))

/-- Simulation: every admitted event is a step of the control machine. -/
theorem commit_move (a : RunAggregateV1) (kind : RunEventKindV1) (id : StableId) (text : String)
    (hk : a.canApply kind = true) : Move a.control kind (a.commit kind id text).control := by
  cases kind with
  | chatStarted input snapshot hash =>
    simp only [canApply, met, Option.isNone_iff_eq_none] at hk
    exact .chatStarted input snapshot hash (by rcases hk.1.1 with h | h <;> simp [control, h, unstarted])
      hk.1.2
  | startRejected code =>
    simp only [canApply, met] at hk
    exact .startRejected code (by rcases hk.1.1 with (h | h) | h <;> simp [control, h, unstarted])
  | firstInputAccepted input =>
    simp only [canApply, met] at hk
    exact .firstInputAccepted input (by rcases hk.1 with h | h <;> simp [control, h, unstarted])
  | snapshotFrozen snapshot hash =>
    simp only [canApply, met, Option.isNone_iff_eq_none] at hk
    exact .snapshotFrozen snapshot hash (by simp [control, hk.1.1, unstarted]) hk.1.2
  | workerGenerationReady g =>
    simp only [canApply, met, Nat.blt_eq] at hk
    exact .workerReady g hk.1 hk.2
  | rehydrationReady g =>
    simp only [canApply, met] at hk
    refine .rehydrated g hk.1 ?_
    intro current hc
    have hg : a.generation = some current := hc
    simpa [hg] using hk.2
  | inputQueued input | attemptBegan attempt operation | forked child | continued parent => exact .quiet rfl
  | attemptFinished attempt outcome =>
    have he : (a.commit (.attemptFinished attempt outcome) id text).control = a.control := by
      simp only [commit, reduce]
      split <;> rfl
    rw [he]
    exact .quiet rfl
  | inputDelivered input =>
    simp only [canApply, met] at hk
    have he : (a.commit (.inputDelivered input) id text).control = { a.control with state := .active } := by
      simp [commit, reduce, hk.2, control]
    rw [he]
    exact .internal .active rfl (by rcases hk.1 with h | h <;> simp [control, h, engaged]) rfl
  | waited reason =>
    simp only [canApply, beq_iff_eq] at hk
    exact .internal _ rfl (by simp [control, hk, engaged]) (by cases reason <;> rfl)
  | approvalResolved approval approved | resumed =>
    simp only [canApply, beq_iff_eq] at hk
    exact .internal .active rfl (by simp [control, hk, engaged]) rfl
  | pauseRequested =>
    simp only [canApply, met] at hk
    exact .internal .pausing rfl (by rcases hk with (h | h) | h <;> simp [control, h, engaged]) rfl
  | paused checkpoint =>
    simp only [canApply, met] at hk
    exact .internal .paused rfl (by simp [control, hk.1, engaged]) rfl
  | cancellationRequested => exact .cancelRequested (by simpa [canApply, control] using hk)
  | cancelled => exact .cancelled (by simpa [canApply, control] using hk)
  | completed => exact .completed (by simpa [canApply, control] using hk)
  | failed code retryable =>
    simp only [canApply, met] at hk
    exact .failed code retryable hk.1
  | workerGenerationCrashed g checkpoint ids =>
    simp only [canApply, met] at hk
    refine .crashed g checkpoint ids _ hk.1.1.1 hk.1.1.2 ?_
    simp only [commit, reduce]
    split
    · rename_i he
      exact .inr ⟨rfl, ids_nil_of_isEmpty ((and_eq_true _ _).mp he).1⟩
    · exact .inl rfl
  | blockedInvocationResolved invocation =>
    simp only [canApply, met] at hk
    refine .resolved invocation _ hk.1 ?_
    simp only [commit, reduce]
    split
    · rename_i he
      exact .inr ⟨rfl, Std.ExtTreeSet.isEmpty_iff.mp ((and_eq_true _ _).mp he).1⟩
    · exact .inl hk.1
  | retried =>
    simp only [canApply, met] at hk
    exact .retried hk.1

end RunAggregateV1
end Aworkit.Core
