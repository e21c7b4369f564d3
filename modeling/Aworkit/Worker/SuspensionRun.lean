import Aworkit.Logic.Once
import Aworkit.Worker.Suspension

/-! Runs of the suspension controller: what a call may change, what every run keeps, its checkpoint, and the fate of a
frame being cancelled. -/
namespace Aworkit.Worker
open Protocol Fallible OrderedMap Std StableId List ExtTreeSet SuspensionControllerV1

variable {frame : SuspensionFrameV1} {ids : ExtTreeSet String} {answer : Answer} {k : String} {scope : String}
  {frames : Frames} {id : StableId}

def SuspensionFrameV1.cancels (frame : SuspensionFrameV1) : Prop := ∃ scope, frame.kind = .cancelling scope

namespace SuspensionControllerV1

abbrev Frames := ExtTreeMap String SuspensionFrameV1

/-- A call on the controller, or a checkpoint that is restored. -/
inductive Call where
  | suspend (frame : SuspensionFrameV1)
  | resolve (answer : Answer) (suspensionId id : StableId)
  | applyControl (controlId : StableId) (scope : String) (cancelling : Bool)
  | resumePause (controlId : StableId) (scope : String)
  | reload

/-- The controller after a call; a refused call leaves it as it was. -/
def perform (c : SuspensionControllerV1) : Call → SuspensionControllerV1
  | .suspend frame => (c.suspend frame).toOption.getD c
  | .resolve answer suspensionId id => ((c.resolve answer suspensionId id).toOption.map Prod.snd).getD c
  | .applyControl controlId scope cancelling =>
    ((c.applyControl controlId scope cancelling).toOption.map Prod.snd).getD c
  | .resumePause controlId scope => ((c.resumePause controlId scope).toOption.map Prod.snd).getD c
  | .reload => (restore c.checkpoint).toOption.getD c

def run (c : SuspensionControllerV1) (calls : List Call) : SuspensionControllerV1 := calls.foldl perform c

theorem run_append (c : SuspensionControllerV1) (calls later : List Call) :
    c.run (calls ++ later) = (c.run calls).run later := foldl_append

section Invariant

/-- At most one unresolved frame per token. -/
def Lone (frames : Frames) : Prop :=
  ∀ (k k' : String) (frame frame' : SuspensionFrameV1), frames[k]? = some frame → frames[k']? = some frame' →
    frame.resolved = false → frame'.resolved = false → frame.tokenId = frame'.tokenId → k = k'

/-- The frame under the key was resolved by the answer with this id. -/
def Done (answer : Answer) (frames : Frames) (k : String) (id : StableId) : Prop :=
  ∃ frame : SuspensionFrameV1, frames[k]? = some frame ∧ frame.resolved = true ∧ frame.kind = answer.awaited id

/-- The consumed ids are those of resolved frames, each of one frame. -/
structure Consumed (answer : Answer) (frames : Frames) (ids : ExtTreeSet String) : Prop where
  exact : ∀ text, text ∈ ids ↔ ∃ k id, Done answer frames k id ∧ id.val = text
  once : ∀ k k' id, Done answer frames k id → Done answer frames k' id → k = k'

structure Sound (c : SuspensionControllerV1) : Prop where
  keyed : OrderedMap.Keyed SuspensionFrameV1.key c.frames
  lone : Lone c.frames
  consumed : ∀ answer, Consumed answer c.frames (c.consumed answer)
  cancelling : ∀ (k : String) (frame : SuspensionFrameV1), c.frames[k]? = some frame → frame.cancels →
    frame.resolved = false
  controls : ∀ id ∈ c.appliedControls, stableIdText id = true

theorem new_sound : Sound new where
  keyed := by simp [OrderedMap.Keyed, new]
  lone := by simp [Lone, new]
  consumed answer := by cases answer <;> exact ⟨by simp [Done, new, consumed],
    by simp [Done, new]⟩
  cancelling := by simp [new]
  controls := by simp [new]

theorem awaited_inj {answer answer' : Answer} {id' : StableId} :
    answer.awaited id = answer'.awaited id' ↔ answer = answer' ∧ id = id' := by
  cases answer <;> cases answer' <;> simp [Answer.awaited]

theorem Consumed.of_same {frames' : Frames} (h : Consumed answer frames ids)
    (hsame : ∀ k id, Done answer frames' k id ↔ Done answer frames k id) : Consumed answer frames' ids := by
  constructor
  · intro text
    simp only [hsame]
    exact h.exact text
  · intro k k' id hk hk'
    exact h.once k k' id ((hsame k id).mp hk) ((hsame k' id).mp hk')

end Invariant

section RoundTrip
variable {c : SuspensionControllerV1}

/-- The frames read so far, and the tokens of the unresolved ones. -/
structure ReadBack (done : List SuspensionFrameV1) (read : Frames × ExtTreeSet String) : Prop where
  filed : Filed SuspensionFrameV1.key done read.1
  tokens : ∀ token, token ∈ read.2 ↔ ∃ frame ∈ done, frame.resolved = false ∧ frame.tokenId.val = token

private theorem restoreFrame_readBack (h : Sound c) {read : Frames × ExtTreeSet String}
    (hframe : c.frames[frame.key]? = some frame)
    (hbefore : ∀ other ∈ before, c.frames[other.key]? = some other ∧ other.key ≠ frame.key)
    (hread : ReadBack before read) :
    ∃ next, restoreFrame read frame = .ok next ∧ ReadBack (before ++ [frame]) next := by
  have hnew : ∀ other ∈ before, other.key ≠ frame.key := fun other hother => (hbefore other hother).2
  have htoken : frame.resolved = false → read.2.contains frame.tokenId.val = false := by
    intro hopen
    rw [Bool.eq_false_iff]
    intro hcontains
    obtain ⟨other, hother, hotherOpen, hsame⟩ := (hread.tokens _).mp (contains_iff_mem.mp hcontains)
    obtain ⟨hfound, hne⟩ := hbefore other hother
    exact hne (h.lone _ _ other frame hfound hframe hotherOpen hopen (val_injective hsame))
  have haccepted : ((!frame.resolved && read.2.contains frame.tokenId.val) || read.1.contains frame.key) = false := by
    rw [hread.filed.absent hnew, Bool.or_false]
    cases hresolved : frame.resolved with
    | true => rfl
    | false => exact htoken hresolved
  refine ⟨_, by simp only [restoreFrame, haccepted]; rfl, hread.filed.snoc hnew, ?_⟩
  intro token
  simp only [mem_append, mem_singleton, or_and_right, exists_or, exists_eq_left]
  cases hresolved : frame.resolved with
  | true => simp [hread.tokens]
  | false =>
    simp only [Bool.false_eq_true, if_false, true_and]
    rw [mem_insert, LawfulEqOrd.compare_eq_iff_eq, hread.tokens, or_comm]

private theorem restoreFrames_ok (h : Sound c) :
    ∃ tokens, (values c.frames).foldlM restoreFrame (∅, ∅) = .ok (c.frames, tokens) := by
  have hloop := values_loop h.keyed restoreFrame ReadBack ?_ (∅, ∅) ⟨by simp [Filed], by simp⟩
  · obtain ⟨read, hread, hback⟩ := hloop
    refine ⟨read.2, ?_⟩
    rw [hread, ← hback.filed.eq h.keyed]
  · intro before read frame hframe hbefore hread
    exact restoreFrame_readBack h hframe hbefore hread

private theorem savedIds_val (h : ∀ id ∈ ids, stableIdText id = true) : (savedIds ids).map val = ids.toList := by
  have hvalid : ∀ id ∈ ids.toList, stableIdText id = true := fun id hid => h id (mem_toList.mp hid)
  rw [savedIds]
  generalize ids.toList = texts at hvalid
  induction texts with
  | nil => rfl
  | cons id rest ih =>
    have hid := hvalid id mem_cons_self
    rw [filterMap_cons, parse, dif_pos hid, map_cons,
      ih fun other hother => hvalid other (mem_cons_of_mem id hother)]

theorem uniqueIds_saved (h : ∀ id ∈ ids, stableIdText id = true) : uniqueIds (savedIds ids) = .ok ids := by
  have hlist := savedIds_val h
  have hset : ofList ids.toList = ids := by
    apply ext_mem
    intro id
    rw [ExtTreeSet.mem_ofList, List.contains_iff_mem, ExtTreeSet.mem_toList]
  have hlength : (savedIds ids).length = ids.size := by
    rw [← length_map val, hlist, length_toList]
  simp only [uniqueIds, hlist, hset, hlength, bne_self_eq_false]
  rfl

private theorem answeredBy_eq_some :
    answeredBy answer frame = some text ↔
      frame.resolved = true ∧ ∃ id : StableId, frame.kind = answer.awaited id ∧ id.val = text := by
  obtain ⟨_, _, kind, resolved⟩ := frame
  cases answer <;> cases kind <;> cases resolved <;> simp [answeredBy, Answer.awaited]

private theorem resolvedIds_consumed (h : Sound c) (answer : Answer) : resolvedIds c.frames answer = c.consumed answer := by
  apply ExtTreeSet.ext_mem
  intro text
  rw [(h.consumed answer).exact, resolvedIds, ExtTreeSet.mem_ofList, List.contains_iff_mem, mem_filterMap]
  simp only [answeredBy_eq_some, mem_values, Done]
  constructor
  · rintro ⟨frame, ⟨k, hk⟩, hresolved, id, hkind, htext⟩
    exact ⟨k, id, ⟨frame, hk, hresolved, hkind⟩, htext⟩
  · rintro ⟨k, id, ⟨frame, hk, hresolved, hkind⟩, htext⟩
    exact ⟨frame, ⟨k, hk⟩, hresolved, id, hkind, htext⟩

theorem consumed_valid (h : Sound c) (answer : Answer) : ∀ id ∈ c.consumed answer, stableIdText id = true := by
  intro text htext
  obtain ⟨_, id, _, rfl⟩ := ((h.consumed answer).exact text).mp htext
  exact id.valid

/-- A checkpoint is read back, unless it has too many frames. -/
theorem restore_checkpoint (h : Sound c) :
    restore c.checkpoint = if 10000 < c.frames.size then .error .invalidCheckpoint else .ok c := by
  have hlength : (values c.frames).length = c.frames.size := by
    rw [values, length_map, ExtTreeMap.length_toList]
  obtain ⟨tokens, hframes⟩ := restoreFrames_ok h
  have hinputs := uniqueIds_saved (consumed_valid h .input)
  have happrovals := uniqueIds_saved (consumed_valid h .approval)
  simp only [consumed] at hinputs happrovals
  simp only [restore, checkpoint, hlength, hframes, hinputs, happrovals, uniqueIds_saved h.controls, ok_bind,
    resolvedIds_consumed h, consumed]
  by_cases hsize : 10000 < c.frames.size
  · rw [if_pos hsize, decide_eq_true hsize]
    rfl
  · rw [if_neg hsize, decide_eq_false hsize]
    simp only [ne_eq, not_true_eq_false, decide_false, Bool.or_self]
    rfl

end RoundTrip

section Steps
variable {c c' : SuspensionControllerV1} {call : Call}

/-- A control that passes its scope check and was not applied before. -/
def Effective (c : SuspensionControllerV1) (controlId : StableId) (scope : String) : Prop :=
  invalidScope scope = false ∧ controlId.val ∉ c.appliedControls

/-- Everything a call may do to the controller. -/
inductive Change (c : SuspensionControllerV1) : Call → SuspensionControllerV1 → Prop where
  | unchanged (call : Call) : Change c call c
  | suspended (frame : SuspensionFrameV1) (hopen : frame.resolved = false) (hfresh : c.frames[frame.key]? = none)
      (htoken : ∀ (k : String) (other : SuspensionFrameV1), c.frames[k]? = some other → other.resolved = false →
        other.tokenId ≠ frame.tokenId) :
      Change c (.suspend frame) { c with frames := c.frames.insert frame.key frame }
  | answered (answer : Answer) (suspensionId id : StableId) (frame : SuspensionFrameV1)
      (hnew : id.val ∉ c.consumed answer) (hfound : c.frames[suspensionId.val]? = some frame)
      (hopen : frame.resolved = false) (hkind : frame.kind = answer.awaited id) :
      Change c (.resolve answer suspensionId id)
        ({ c with frames := c.frames.insert suspensionId.val { frame with resolved := true } }.consume id answer)
  | controlled (controlId : StableId) (scope : String) (cancelling : Bool) (heffective : Effective c controlId scope) :
      Change c (.applyControl controlId scope cancelling) { c with
        frames := c.frames.map fun _ frame => controlled scope cancelling frame
        appliedControls := c.appliedControls.insert controlId.val }
  | resumed (controlId : StableId) (scope : String) (heffective : Effective c controlId scope) :
      Change c (.resumePause controlId scope) { c with
        frames := c.frames.map fun _ frame => resumed scope frame
        appliedControls := c.appliedControls.insert controlId.val }

theorem not_mem_of_contains_ne {id : String} (h : ¬ids.contains id = true) : id ∉ ids :=
  fun hmem => h (contains_iff_mem.mpr hmem)

private theorem suspend_change (frame : SuspensionFrameV1) : Change c (.suspend frame) (c.perform (.suspend frame)) := by
  simp only [perform]
  cases hsuspend : c.suspend frame with
  | error e => exact .unchanged _
  | ok next =>
    simp only [suspend, passes, unmet, Except.ok.injEq] at hsuspend
    obtain ⟨_, ⟨⟨hopen, hothers⟩, habsent⟩, rfl⟩ := hsuspend
    apply Change.suspended frame hopen
    · rwa [ExtTreeMap.contains_eq_isSome_getElem?, Option.isSome_eq_false_iff, Option.isNone_iff_eq_none] at habsent
    · intro k other hother hotherOpen hsame
      rw [any_eq_false] at hothers
      apply hothers other ((mem_values _ other).mpr ⟨k, hother⟩)
      simp [hotherOpen, hsame]

private theorem resolve_change (answer : Answer) (suspensionId id : StableId) :
    Change c (.resolve answer suspensionId id) (c.perform (.resolve answer suspensionId id)) := by
  simp only [perform, resolve]
  split
  · exact .unchanged _
  · next hnew =>
    cases hframe : c.frameUnresolved suspensionId with
    | error e => exact .unchanged _
    | ok found =>
      simp only [frameUnresolved, passes, Except.ok.injEq] at hframe
      obtain ⟨frame, hfound, _, hopen, rfl⟩ := hframe
      rw [ok_bind]
      by_cases hkind : frame.kind = answer.awaited id
      · rw [refuseIf, if_neg (by simp [hkind]), ok_bind]
        exact .answered answer suspensionId id frame (not_mem_of_contains_ne hnew) hfound hopen hkind
      · rw [refuseIf, if_pos (by simp [hkind])]
        exact .unchanged _

private theorem applyControl_change (controlId : StableId) (scope : String) (cancelling : Bool) :
    Change c (.applyControl controlId scope cancelling) (c.perform (.applyControl controlId scope cancelling)) := by
  simp only [perform, applyControl, refuseIf]
  cases hscope : invalidScope scope with
  | true => exact .unchanged _
  | false =>
    simp only [Bool.false_eq_true, if_false, ok_bind]
    split
    · exact .unchanged _
    · next hnew => exact .controlled controlId scope cancelling ⟨hscope, not_mem_of_contains_ne hnew⟩

private theorem resumePause_change (controlId : StableId) (scope : String) :
    Change c (.resumePause controlId scope) (c.perform (.resumePause controlId scope)) := by
  simp only [perform, resumePause, refuseIf]
  cases hscope : invalidScope scope with
  | true => exact .unchanged _
  | false =>
    simp only [Bool.false_eq_true, if_false, ok_bind]
    split
    · exact .unchanged _
    · next hnew => exact .resumed controlId scope ⟨hscope, not_mem_of_contains_ne hnew⟩

/-- Each call is one of these changes. -/
theorem perform_change (h : Sound c) (call : Call) : Change c call (c.perform call) := by
  cases call with
  | suspend frame => exact suspend_change frame
  | resolve answer suspensionId id => exact resolve_change answer suspensionId id
  | applyControl controlId scope cancelling => exact applyControl_change controlId scope cancelling
  | resumePause controlId scope => exact resumePause_change controlId scope
  | reload =>
    simp only [perform, restore_checkpoint h]
    split
    · exact .unchanged _
    · exact .unchanged _

/-- A change of every frame that moves no token, leaves resolved frames alone and resolves paused ones at most. -/
structure Quiet (change : SuspensionFrameV1 → SuspensionFrameV1) : Prop where
  key : ∀ frame, (change frame).key = frame.key
  token : ∀ frame, (change frame).tokenId = frame.tokenId
  settled : ∀ frame, frame.resolved = true → change frame = frame
  paused : ∀ frame, frame.resolved = false → (change frame).resolved = true →
    ∃ scope, (change frame).kind = .paused scope

theorem controlled_quiet (scope : String) (cancelling : Bool) : Quiet (controlled scope cancelling) where
  key frame := by
    unfold controlled
    split <;> rfl
  token frame := by
    unfold controlled
    split <;> rfl
  settled frame hresolved := by simp [controlled, hresolved]
  paused frame hopen hresolved := by
    simp [controlled, hopen] at hresolved

theorem resumed_quiet (scope : String) : Quiet (resumed scope) where
  key frame := by
    unfold resumed
    split <;> rfl
  token frame := by
    unfold resumed
    split <;> rfl
  settled frame hresolved := by simp [resumed, resumable, hresolved]
  paused frame hopen hresolved := by
    by_cases hkind : frame.kind = .paused scope
    · exact ⟨scope, by simp [resumed, resumable, hkind, hopen]⟩
    · simp [resumed, resumable, hkind, hopen] at hresolved

section Map
variable {change : SuspensionFrameV1 → SuspensionFrameV1}

theorem found_map (h : (frames.map fun _ found => change found)[k]? = some frame) :
    ∃ old : SuspensionFrameV1, frames[k]? = some old ∧ change old = frame := by
  rw [ExtTreeMap.getElem?_map] at h
  exact Option.map_eq_some_iff.mp h

theorem Quiet.open_before (h : Quiet change) (hopen : (change frame).resolved = false) : frame.resolved = false := by
  cases hresolved : frame.resolved with
  | false => rfl
  | true => rw [← hopen, h.settled frame hresolved, hresolved]

theorem Quiet.lone (h : Quiet change) (hlone : Lone frames) : Lone (frames.map fun _ frame => change frame) := by
  intro k k' frame frame' hk hk' hopen hopen' htoken
  obtain ⟨old, hold, rfl⟩ := found_map hk
  obtain ⟨old', hold', rfl⟩ := found_map hk'
  rw [h.token, h.token] at htoken
  exact hlone k k' old old' hold hold' (h.open_before hopen) (h.open_before hopen') htoken

theorem Quiet.done (h : Quiet change) (answer : Answer) (k : String) (id : StableId) :
    Done answer (frames.map fun _ frame => change frame) k id ↔ Done answer frames k id := by
  constructor
  · rintro ⟨frame, hk, hresolved, hkind⟩
    obtain ⟨old, hold, rfl⟩ := found_map hk
    cases hwas : old.resolved with
    | true =>
      rw [h.settled old hwas] at hkind
      exact ⟨old, hold, hwas, hkind⟩
    | false =>
      obtain ⟨scope, hpaused⟩ := h.paused old hwas hresolved
      rw [hpaused] at hkind
      cases answer <;> cases hkind
  · rintro ⟨frame, hk, hresolved, hkind⟩
    refine ⟨frame, ?_, hresolved, hkind⟩
    rw [ExtTreeMap.getElem?_map, hk, Option.map_some, h.settled frame hresolved]

theorem Quiet.sound (h : Quiet change) (hsound : Sound c) (controlId : StableId) :
    Sound { c with
      frames := c.frames.map fun _ frame => change frame
      appliedControls := c.appliedControls.insert controlId.val } where
  keyed := hsound.keyed.map h.key
  lone := h.lone hsound.lone
  consumed answer := by
    have hsame := (hsound.consumed answer).of_same (h.done answer)
    cases answer <;> exact hsame
  cancelling := by
    rintro k frame hk ⟨scope, hkind⟩
    obtain ⟨old, hold, rfl⟩ := found_map hk
    cases hwas : old.resolved with
    | true =>
      rw [h.settled old hwas] at hkind
      rw [hsound.cancelling k old hold ⟨scope, hkind⟩] at hwas
      cases hwas
    | false =>
      rw [← Bool.not_eq_true]
      intro hresolved
      obtain ⟨other, hpaused⟩ := h.paused old hwas hresolved
      cases hkind.symm.trans hpaused
  controls := by
    intro id hid
    rcases mem_insert.mp hid with hsame | hold
    · rw [← LawfulEqOrd.compare_eq_iff_eq.mp hsame]
      exact controlId.valid
    · exact hsound.controls id hold

end Map

@[simp] theorem consume_frames (c : SuspensionControllerV1) (id : StableId) (answer : Answer) :
    (c.consume id answer).frames = c.frames := by
  cases answer <;> rfl

@[simp] theorem consume_appliedControls (c : SuspensionControllerV1) (id : StableId) (answer : Answer) :
    (c.consume id answer).appliedControls = c.appliedControls := by
  cases answer <;> rfl

theorem consumed_consume (c : SuspensionControllerV1) (id : StableId) (answer answer' : Answer) :
    (c.consume id answer).consumed answer' =
      if answer' = answer then (c.consumed answer').insert id.val else c.consumed answer' := by
  cases answer <;> cases answer' <;> rfl

theorem consumed_with_frames (c : SuspensionControllerV1) (frames : Frames) (answer : Answer) :
    { c with frames }.consumed answer = c.consumed answer := by
  cases answer <;> rfl

theorem suspended_sound (h : Sound c) (hopen : frame.resolved = false) (hfresh : c.frames[frame.key]? = none)
    (htoken : ∀ (k : String) other, c.frames[k]? = some other → other.resolved = false →
      other.tokenId ≠ frame.tokenId) : Sound { c with frames := c.frames.insert frame.key frame } where
  keyed := h.keyed.insert rfl
  lone := by
    intro k k' found found' hk hk' hopen hopen' hsame
    rcases found_insert hk with ⟨rfl, rfl⟩ | ⟨_, hold⟩
    · rcases found_insert hk' with ⟨rfl, _⟩ | ⟨_, hold'⟩
      · rfl
      · exact absurd hsame.symm (htoken k' found' hold' hopen')
    · rcases found_insert hk' with ⟨rfl, rfl⟩ | ⟨_, hold'⟩
      · exact absurd hsame (htoken k found hold hopen)
      · exact h.lone k k' found found' hold hold' hopen hopen' hsame
  consumed answer := by
    rw [consumed_with_frames]
    apply (h.consumed answer).of_same
    intro k id
    constructor
    · rintro ⟨found, hk, hresolved, hkind⟩
      rcases found_insert hk with ⟨_, rfl⟩ | ⟨_, hold⟩
      · rw [hopen] at hresolved
        cases hresolved
      · exact ⟨found, hold, hresolved, hkind⟩
    · rintro ⟨found, hk, hresolved, hkind⟩
      exact ⟨found, insert_fresh frame hfresh hk, hresolved, hkind⟩
  cancelling := all_insert h.cancelling fun _ => hopen
  controls := h.controls

theorem done_settle (hfound : frames[k]? = some frame) (hopen : frame.resolved = false)
    (hkind : frame.kind = answer.awaited id) (answer' : Answer) (k' : String) (id' : StableId) :
    Done answer' (frames.insert k { frame with resolved := true }) k' id' ↔
      Done answer' frames k' id' ∨ (k' = k ∧ answer' = answer ∧ id' = id) := by
  by_cases hk : k = k'
  · subst hk
    have hbefore : ¬Done answer' frames k id' := by
      rintro ⟨found, hk, hresolved, _⟩
      rw [← Option.some.inj (hfound.symm.trans hk), hopen] at hresolved
      cases hresolved
    simp only [Done, ExtTreeMap.getElem?_insert_self, Option.some.injEq, exists_eq_left', hkind, awaited_inj,
      true_and]
    simp only [Done] at hbefore
    simp only [hbefore, false_or]
    rw [@eq_comm _ answer, @eq_comm _ id]
  · simp [Done, insert_ne _ _ hk, Ne.symm hk]

private theorem answered_consumed (h : Sound c) (hnew : id.val ∉ c.consumed answer) (hfound : c.frames[k]? = some frame)
    (hopen : frame.resolved = false) (hkind : frame.kind = answer.awaited id) :
    Consumed answer (c.frames.insert k { frame with resolved := true }) ((c.consumed answer).insert id.val) := by
  have hexact := (h.consumed answer).exact
  have hdone : ∀ k' id', Done answer (c.frames.insert k { frame with resolved := true }) k' id' ↔
      Done answer c.frames k' id' ∨ (k' = k ∧ id' = id) := by
    intro k' id'
    simpa using done_settle hfound hopen hkind answer k' id'
  have hunused : ∀ k', ¬Done answer c.frames k' id := fun k' hk' => hnew ((hexact _).mpr ⟨k', id, hk', rfl⟩)
  constructor
  · intro text
    rw [mem_insert, LawfulEqOrd.compare_eq_iff_eq, hexact]
    simp only [hdone]
    constructor
    · rintro (rfl | ⟨k', id', hk', htext⟩)
      · exact ⟨k, id, .inr ⟨rfl, rfl⟩, rfl⟩
      · exact ⟨k', id', .inl hk', htext⟩
    · rintro ⟨k', id', hk' | ⟨_, rfl⟩, htext⟩
      · exact .inr ⟨k', id', hk', htext⟩
      · exact .inl htext
  · intro k₁ k₂ id' h₁ h₂
    rcases (hdone k₁ id').mp h₁ with hold₁ | ⟨rfl, rfl⟩
    · rcases (hdone k₂ id').mp h₂ with hold₂ | ⟨_, rfl⟩
      · exact (h.consumed answer).once k₁ k₂ id' hold₁ hold₂
      · exact absurd hold₁ (hunused k₁)
    · rcases (hdone k₂ id').mp h₂ with hold₂ | ⟨hk₂, _⟩
      · exact absurd hold₂ (hunused k₂)
      · exact hk₂.symm

private theorem answered_sound (h : Sound c) {suspensionId : StableId}
    (hnew : id.val ∉ c.consumed answer) (hfound : c.frames[suspensionId.val]? = some frame)
    (hopen : frame.resolved = false) (hkind : frame.kind = answer.awaited id) :
    Sound ({ c with frames := c.frames.insert suspensionId.val { frame with resolved := true } }.consume id answer) where
  keyed := by
    rw [consume_frames]
    exact h.keyed.insert (h.keyed _ frame hfound)
  lone := by
    rw [consume_frames]
    intro k k' found found' hk hk' hopen hopen' hsame
    rcases found_insert hk with ⟨_, rfl⟩ | ⟨_, hold⟩
    · cases hopen
    · rcases found_insert hk' with ⟨_, rfl⟩ | ⟨_, hold'⟩
      · cases hopen'
      · exact h.lone k k' found found' hold hold' hopen hopen' hsame
  consumed answer' := by
    rw [consume_frames, consumed_consume, consumed_with_frames]
    by_cases hanswer : answer' = answer
    · subst hanswer
      rw [if_pos rfl]
      exact answered_consumed h hnew hfound hopen hkind
    · rw [if_neg hanswer]
      apply (h.consumed answer').of_same
      intro k id'
      simp [done_settle hfound hopen hkind, hanswer]
  cancelling := by
    rw [consume_frames]
    refine all_insert h.cancelling ?_
    rintro ⟨scope, hscope⟩
    rw [hkind] at hscope
    cases answer <;> cases hscope
  controls := by
    rw [consume_appliedControls]
    exact h.controls

theorem Change.sound (hchange : Change c call c') (h : Sound c) : Sound c' := by
  cases hchange with
  | unchanged => exact h
  | suspended frame hopen hfresh htoken => exact suspended_sound h hopen hfresh htoken
  | answered answer suspensionId id frame hnew hfound hopen hkind => exact answered_sound h hnew hfound hopen hkind
  | controlled controlId scope cancelling _ => exact (controlled_quiet scope cancelling).sound h controlId
  | resumed controlId scope _ => exact (resumed_quiet scope).sound h controlId

theorem run_sound (h : Sound c) (calls : List Call) : Sound (c.run calls) := by
  induction calls generalizing c with
  | nil => exact h
  | cons call rest ih => exact ih ((perform_change h call).sound h)

end Steps

section ExactlyOnce
variable {c c' : SuspensionControllerV1} {call : Call}

/-- The id a call resolves a frame with, when it returns `true`. -/
def acceptedBy (answer : Answer) (c : SuspensionControllerV1) : Call → List StableId
  | .resolve asked suspensionId id =>
    if asked = answer ∧ (c.resolve asked suspensionId id).toOption.map Prod.fst = some true then [id] else []
  | _ => []

/-- The ids a run resolves frames with. -/
def accepted (answer : Answer) (c : SuspensionControllerV1) (calls : List Call) : List StableId :=
  Once.emitted perform (acceptedBy answer) c calls

theorem Change.consumed_mono (hchange : Change c call c') (answer : Answer)
    (h : text ∈ c.consumed answer) : text ∈ c'.consumed answer := by
  cases hchange with
  | unchanged => exact h
  | suspended => rwa [consumed_with_frames]
  | answered answered _ id =>
    rw [consumed_consume, consumed_with_frames]
    split
    · exact mem_insert.mpr (.inr h)
    · exact h
  | controlled | resumed => cases answer <;> exact h

theorem acceptedBy_consumed (h : id ∈ acceptedBy answer c call) :
    acceptedBy answer c call = [id] ∧ id.val ∉ c.consumed answer ∧ id.val ∈ (c.perform call).consumed answer := by
  cases call with
  | resolve asked suspensionId given =>
    by_cases haccepted : asked = answer ∧ (c.resolve asked suspensionId given).toOption.map Prod.fst = some true
    · rw [acceptedBy, if_pos haccepted, mem_singleton] at h
      subst h
      rw [acceptedBy, if_pos haccepted]
      obtain ⟨rfl, htrue⟩ := haccepted
      simp only [perform, resolve] at htrue ⊢
      split at htrue
      · cases htrue
      · next hnew =>
        rw [if_neg hnew]
        refine ⟨trivial, not_mem_of_contains_ne hnew, ?_⟩
        cases hframe : c.frameUnresolved suspensionId with
        | error e =>
          rw [hframe] at htrue
          cases htrue
        | ok frame =>
          rw [hframe, ok_bind] at htrue
          rw [ok_bind]
          by_cases hkind : frame.kind = asked.awaited id
          · rw [refuseIf, if_neg (by simp [hkind]), ok_bind]
            show id.val ∈ (consume _ id asked).consumed asked
            rw [consumed_consume, if_pos rfl]
            exact mem_insert_self
          · rw [refuseIf, if_pos (by simp [hkind])] at htrue
            cases htrue
    · simp only [acceptedBy, haccepted, if_false, not_mem_nil] at h
  | suspend | applyControl | resumePause | reload => cases h

private theorem accepted_marked (answer : Answer) :
    Once.Marked perform (acceptedBy answer) Sound fun c id => id.val ∈ c.consumed answer where
  kept _ call h := (perform_change h call).sound h
  stays _ call _ h hconsumed := (perform_change h call).consumed_mono answer hconsumed
  fresh _ _ _ _ hid := (acceptedBy_consumed hid).2.1
  set _ _ _ _ hid := (acceptedBy_consumed hid).2.2
  nodup c call _ := by
    cases hby : acceptedBy answer c call with
    | nil => exact nodup_nil
    | cons id others =>
      have hmem : id ∈ acceptedBy answer c call := hby ▸ mem_cons_self
      rw [← hby, (acceptedBy_consumed hmem).1]
      exact nodup_singleton id

/-- In every run the checkpoint restores the controller, up to 10000 frames; each answer's id resolves at most one
frame; and each token has at most one open frame. -/
theorem suspensions_restored_and_answered_once (calls : List Call) :
    ((run new calls).frames.size ≤ 10000 → restore (run new calls).checkpoint = .ok (run new calls)) ∧
      (∀ answer, (accepted answer new calls).Nodup ∧
        ∀ k k' id, Done answer (run new calls).frames k id → Done answer (run new calls).frames k' id → k = k') ∧
      Lone (run new calls).frames := by
  have hsound := run_sound new_sound calls
  refine ⟨?_, fun answer => ⟨((accepted_marked answer).emitted_once new_sound calls).1, (hsound.consumed answer).once⟩,
    hsound.lone⟩
  intro hsize
  rw [restore_checkpoint hsound, if_neg (by omega)]

end ExactlyOnce

section Cancelling
variable {c c' : SuspensionControllerV1} {call : Call}

/-- A pause that takes effect finds no frame that is being cancelled. -/
def Spares (c : SuspensionControllerV1) : Call → Prop
  | .applyControl controlId scope false => Effective c controlId scope →
    ∀ (k : String) (frame : SuspensionFrameV1), c.frames[k]? = some frame → ¬frame.cancels
  | _ => True

def RunSpares (c : SuspensionControllerV1) : List Call → Prop
  | [] => True
  | call :: rest => Spares c call ∧ RunSpares (c.perform call) rest

theorem Change.cancelling (hchange : Change c call c') (h : Sound c) (hspares : Spares c call)
    (hfound : c.frames[k]? = some frame) (hcancels : frame.cancels) :
    ∃ kept : SuspensionFrameV1, c'.frames[k]? = some kept ∧ kept.cancels ∧ kept.tokenId = frame.tokenId := by
  have hopen := h.cancelling k frame hfound hcancels
  cases hchange with
  | unchanged => exact ⟨frame, hfound, hcancels, rfl⟩
  | suspended new _ hfresh => exact ⟨frame, insert_fresh new hfresh hfound, hcancels, rfl⟩
  | answered answer suspensionId id answered _ hanswered _ hkind =>
    refine ⟨frame, ?_, hcancels, rfl⟩
    rw [consume_frames, insert_ne _ _ ?_, hfound]
    rintro rfl
    obtain ⟨scope, hscope⟩ := hcancels
    rw [Option.some.inj (hfound.symm.trans hanswered), hkind] at hscope
    cases answer <;> cases hscope
  | controlled controlId scope cancelling heffective =>
    cases cancelling with
    | false => exact absurd hcancels (hspares heffective k frame hfound)
    | true =>
      refine ⟨SuspensionControllerV1.controlled scope true frame, ?_, ⟨scope, ?_⟩,
        (controlled_quiet scope true).token frame⟩
      · rw [ExtTreeMap.getElem?_map, hfound, Option.map_some]
      · simp [SuspensionControllerV1.controlled, hopen]
  | resumed controlId scope =>
    refine ⟨frame, ?_, hcancels, rfl⟩
    obtain ⟨cancelled, hkind⟩ := hcancels
    rw [ExtTreeMap.getElem?_map, hfound, Option.map_some]
    simp [SuspensionControllerV1.resumed, resumable, hkind]

theorem run_cancelling (h : Sound c) (hspares : RunSpares c calls)
    (hfound : c.frames[k]? = some frame) (hcancels : frame.cancels) :
    ∃ kept : SuspensionFrameV1, (c.run calls).frames[k]? = some kept ∧ kept.cancels ∧ kept.tokenId = frame.tokenId := by
  induction calls generalizing c frame with
  | nil => exact ⟨frame, hfound, hcancels, rfl⟩
  | cons call rest ih =>
    have hchange := perform_change h call
    obtain ⟨kept, hkept, hkeeps, htoken⟩ := hchange.cancelling h hspares.1 hfound hcancels
    obtain ⟨last, hlast, hcancelling, hsame⟩ := ih (hchange.sound h) hspares.2 hkept hkeeps
    exact ⟨last, hlast, hcancelling, hsame.trans htoken⟩

private theorem resumePause_tokens (hresume : c.resumePause controlId scope = .ok (tokens, c')) (htoken : token ∈ tokens) :
    ∃ (k : String) (frame : SuspensionFrameV1), c.frames[k]? = some frame ∧ frame.kind = .paused scope ∧
      frame.resolved = false ∧ frame.tokenId = token := by
  simp only [resumePause, bind_ok_iff] at hresume
  obtain ⟨_, _, hresume⟩ := hresume
  split at hresume
  · obtain ⟨rfl, _⟩ := Prod.mk.inj (Except.ok.inj hresume)
    cases htoken
  · obtain ⟨rfl, _⟩ := Prod.mk.inj (Except.ok.inj hresume)
    obtain ⟨frame, hframe, rfl⟩ := mem_map.mp htoken
    obtain ⟨hvalue, hresumable⟩ := mem_filter.mp hframe
    obtain ⟨k, hk⟩ := (mem_values _ frame).mp hvalue
    simp only [resumable, Bool.and_eq_true, decide_eq_true_eq, Bool.not_eq_true'] at hresumable
    exact ⟨k, frame, hk, hresumable.1, hresumable.2, rfl⟩

private theorem resumePause_spares (h : Sound c) (hfound : c.frames[k]? = some frame) (hcancels : frame.cancels)
    (hresume : c.resumePause controlId scope = .ok (tokens, c')) : frame.tokenId ∉ tokens := by
  intro hmem
  obtain ⟨other, paused, hother, hkind, hopen, htoken⟩ := resumePause_tokens hresume hmem
  have hsame := h.lone other k paused frame hother hfound hopen (h.cancelling k frame hfound hcancels) htoken
  subst hsame
  obtain ⟨cancelled, hscope⟩ := hcancels
  rw [Option.some.inj (hfound.symm.trans hother), hkind] at hscope
  cases hscope

/-- A pause that overtakes a cancellation lets the next resume control resolve the frame and return its token. -/
theorem paused_resumed (hfound : c.frames[k]? = some frame)
    (hopen : frame.resolved = false) {controlId resumeId : StableId}
    (heffective : Effective c controlId scope) (hnew : resumeId.val ∉ c.appliedControls) (hne : resumeId ≠ controlId) :
    ∃ tokens next, (c.perform (.applyControl controlId scope false)).resumePause resumeId scope = .ok (tokens, next) ∧
      frame.tokenId ∈ tokens ∧
        ∃ resolved : SuspensionFrameV1, next.frames[k]? = some resolved ∧ resolved.resolved = true := by
  obtain ⟨hscope, happlied⟩ := heffective
  have hcontrol : c.appliedControls.contains controlId.val = false :=
    Bool.eq_false_iff.mpr fun hcontains => happlied (contains_iff_mem.mp hcontains)
  have hresume : (c.appliedControls.insert controlId.val).contains resumeId.val = false := by
    rw [Bool.eq_false_iff, ne_eq, ExtTreeSet.contains_iff_mem, ExtTreeSet.mem_insert,
      LawfulEqOrd.compare_eq_iff_eq]
    rintro (hsame | hmem)
    · exact hne (val_injective hsame.symm)
    · exact hnew hmem
  have hpaused : resumable scope (controlled scope false frame) = true := by simp [resumable, controlled, hopen]
  refine ⟨_, _, by simp only [perform, applyControl, resumePause, refuseIf, hscope, hcontrol, hresume,
    Bool.false_eq_true, if_false, ok_bind, Except.toOption, Option.map_some, Option.getD_some]; rfl, ?_, ?_⟩
  · apply mem_map.mpr
    refine ⟨controlled scope false frame, mem_filter.mpr ⟨?_, hpaused⟩, (controlled_quiet scope false).token frame⟩
    apply (mem_values _ _).mpr
    exact ⟨k, by rw [ExtTreeMap.getElem?_map, hfound, Option.map_some]⟩
  · refine ⟨resumed scope (controlled scope false frame), ?_, by simp [resumed, hpaused]⟩
    simp [hfound]

/-- As long as no effective pause meets a frame being cancelled, it stays open and no resume control returns its
token; behind such a pause the next resume control of its scope does. -/
theorem cancelling_never_resumed (calls : List Call) :
    (∀ later, RunSpares (run new calls) later → ∀ (k : String) (frame : SuspensionFrameV1),
      (run new calls).frames[k]? = some frame → frame.cancels →
        (∃ kept : SuspensionFrameV1, (run new (calls ++ later)).frames[k]? = some kept ∧ kept.cancels ∧
          kept.resolved = false ∧ kept.tokenId = frame.tokenId) ∧
        ∀ controlId scope tokens next, (run new (calls ++ later)).resumePause controlId scope = .ok (tokens, next) →
          frame.tokenId ∉ tokens) ∧
    ∀ controlId scope, ¬Spares (run new calls) (.applyControl controlId scope false) →
      ∃ (k : String) (frame : SuspensionFrameV1), (run new calls).frames[k]? = some frame ∧ frame.cancels ∧
        ∀ resumeId : StableId, resumeId.val ∉ (run new calls).appliedControls → resumeId ≠ controlId →
          ∃ tokens next, (run new (calls ++ [.applyControl controlId scope false])).resumePause resumeId scope =
              .ok (tokens, next) ∧ frame.tokenId ∈ tokens ∧
            ∃ resolved : SuspensionFrameV1, next.frames[k]? = some resolved ∧ resolved.resolved = true := by
  have hsound := run_sound new_sound calls
  constructor
  · intro later hspares k frame hfound hcancels
    have hafter := run_sound hsound later
    rw [run_append]
    obtain ⟨kept, hkept, hkeeps, htoken⟩ := run_cancelling hsound hspares hfound hcancels
    refine ⟨⟨kept, hkept, hkeeps, hafter.cancelling k kept hkept hkeeps, htoken⟩, ?_⟩
    intro controlId scope tokens next hresume
    rw [← htoken]
    exact resumePause_spares hafter hkept hkeeps hresume
  · intro controlId scope hmeets
    simp only [Spares, not_forall, not_not] at hmeets
    obtain ⟨heffective, k, frame, hfound, hcancels⟩ := hmeets
    refine ⟨k, frame, hfound, hcancels, ?_⟩
    intro resumeId hnew hne
    rw [run_append]
    exact paused_resumed hfound (hsound.cancelling k frame hfound hcancels) heffective hnew hne

def sampleId (text : String) : StableId := ofText text

def sampleFrame (kind : SuspensionKindV1) (resolved : Bool) : SuspensionFrameV1 :=
  ⟨sampleId "s", sampleId "t", kind, resolved⟩

/-- Token `t` waits for an input, then its scope is cancelled. -/
def sampleCancelled : List Call :=
  [.suspend (sampleFrame (.input (sampleId "i")) false), .applyControl (sampleId "c") "x" true]

theorem sample_cancelling_never_resumed :
    (run new sampleCancelled).frames["s"]? = some (sampleFrame (.cancelling "x") false) ∧
      ∀ scope, ∃ kept : SuspensionFrameV1,
        (run new (sampleCancelled ++ [.resumePause (sampleId "r") scope])).frames["s"]? = some kept ∧
          kept.resolved = false := by
  have hframe : (run new sampleCancelled).frames["s"]? = some (sampleFrame (.cancelling "x") false) := by decide
  refine ⟨hframe, fun scope => ?_⟩
  obtain ⟨kept, hkept, _, hopen, _⟩ := ((cancelling_never_resumed sampleCancelled).1
    [.resumePause (sampleId "r") scope] ⟨trivial, trivial⟩ "s" _ hframe ⟨"x", rfl⟩).1
  exact ⟨kept, hkept, hopen⟩

/-- A pause behind the cancellation makes the frame a paused one, and the next resume control resolves it and returns
its token. -/
theorem cancelling_frame_resumed :
    (run new sampleCancelled).frames["s"]? = some (sampleFrame (.cancelling "x") false) ∧
      ((run new (sampleCancelled ++ [.applyControl (sampleId "p") "x" false])).resumePause (sampleId "r") "x").toOption.map
        Prod.fst = some [sampleId "t"] ∧
      (run new (sampleCancelled ++ [.applyControl (sampleId "p") "x" false, .resumePause (sampleId "r") "x"])).frames["s"]? =
        some (sampleFrame (.paused "x") true) := by
  decide

end Cancelling

end SuspensionControllerV1
end Aworkit.Worker
