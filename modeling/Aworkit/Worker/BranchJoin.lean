import Aworkit.Logic.Once
import Aworkit.Worker.Branch

/-! Runs of the join coordinator: what a call may do to a frame, what every run keeps, and when the ordinals determine
the joined value. -/
namespace Aworkit.Worker
open Protocol Fallible OrderedMap StableId BranchRecordV1 Std BranchFrameV1 List Except Prod

namespace BranchFrameV1

variable {change : BranchRecordV1 → Except BranchError BranchRecordV1} {ids : List StableId}

/-- The vector lists the branches by increasing ordinal. -/
def Ordered (frame : BranchFrameV1) : Prop :=
  frame.branches.map ordinal = range frame.branches.length

def resultAt (frame : BranchFrameV1) (ordinal : Nat) : Option Value :=
  (frame.branches.find? fun branch => branch.ordinal == ordinal).bind result

end BranchFrameV1

namespace BranchJoinCoordinator

abbrev Frames := ExtTreeMap String BranchFrameV1

/-- The join as a function of the ordinals: `count` results, merged by increasing ordinal. -/
def joined (mergePolicy : String) (count : Nat) (resultAt : Nat → Option Value) : Except BranchError Value :=
  merge mergePolicy ((range count).map resultAt)

inductive Call where
  | openParallel (frameId parentTokenId joinNodeId : StableId) (ids : List StableId) (mergePolicy : String)
  | openForEach (frameId parentTokenId joinNodeId : StableId) (items : List Value) (maximumItems : Nat)
      (mergePolicy : String)
  | markRunning (frameId branchId : StableId)
  | complete (frameId branchId : StableId) (result : Value)
  | cancelFrame (frameId : StableId)
  | integrate (frameId : StableId)

/-- The coordinator after a call; a refused call leaves it as it was. -/
def perform (sha256 : String → Sha256Digest) (c : BranchJoinCoordinator) : Call → BranchJoinCoordinator
  | .openParallel frameId parentTokenId joinNodeId ids mergePolicy =>
    ((c.openParallel frameId parentTokenId joinNodeId ids mergePolicy).toOption.map snd).getD c
  | .openForEach frameId parentTokenId joinNodeId items maximumItems mergePolicy =>
    ((openForEach sha256 c frameId parentTokenId joinNodeId items maximumItems mergePolicy).toOption.map
      snd).getD c
  | .markRunning frameId branchId => (c.markRunning frameId branchId).toOption.getD c
  | .complete frameId branchId result => (c.complete frameId branchId result).toOption.getD c
  | .cancelFrame frameId => (c.cancelFrame frameId).toOption.getD c
  | .integrate frameId => ((c.integrate frameId).toOption.map snd).getD c

def run (sha256 : String → Sha256Digest) (c : BranchJoinCoordinator) (calls : List Call) : BranchJoinCoordinator :=
  calls.foldl (perform sha256) c

/-- The ways a coordinator comes into being. -/
inductive Started : BranchJoinCoordinator → Prop where
  | new : Started new
  | restored {saved : BranchCheckpointV1} {c : BranchJoinCoordinator} (h : restore saved = .ok c) : Started c

variable {branchId frameId parentTokenId joinNodeId : StableId}

section Frames
variable {frame frame' : BranchFrameV1}

/-- What a restored coordinator asks of a frame. -/
structure Valid (frame : BranchFrameV1) : Prop where
  count : invalidCount frame.branches.length = false
  policy : supportedPolicy frame.mergePolicy = true
  ids : (ExtTreeSet.ofList (frame.branches.map fun branch => branch.branchId.val)).size = frame.branches.length
  ordinals : ExtTreeSet.ofList (frame.branches.map ordinal) =
    ExtTreeSet.ofList (range frame.branches.length)
  results : ∀ branch ∈ frame.branches, contradictory branch = false
  settled : frame.integrated = true → frame.settled = true

theorem validateFrame_eq_ok (frame : BranchFrameV1) (u : Unit) : validateFrame frame = .ok u ↔ Valid frame := by
  simp only [validateFrame, passes, unmet, not_not, any_eq_false, Bool.not_eq_true]
  constructor
  · rintro ⟨_, hcount, _, hpolicy, ⟨⟨hids, hordinals⟩, hresults⟩, hsettled⟩
    refine ⟨hcount, hpolicy, hids, hordinals, hresults, ?_⟩
    intro hintegrated
    simpa [hintegrated] using hsettled
  · intro h
    refine ⟨(), h.count, (), h.policy, ⟨⟨h.ids, h.ordinals⟩, h.results⟩, ?_⟩
    cases hintegrated : frame.integrated with
    | false => rfl
    | true => simp [h.settled hintegrated]

/-- What a call may do to an open frame. -/
structure Evolves (frame frame' : BranchFrameV1) : Prop where
  key : frame'.key = frame.key
  policy : frame'.mergePolicy = frame.mergePolicy
  ids : (frame'.branches.map fun branch => branch.branchId.val) = frame.branches.map fun branch => branch.branchId.val
  ordinals : frame'.branches.map ordinal = frame.branches.map ordinal
  results : (∀ branch ∈ frame.branches, contradictory branch = false) →
    ∀ branch ∈ frame'.branches, contradictory branch = false
  settled : frame.settled = true → frame'.settled = true
  integrated : frame.integrated = true → frame'.integrated = true
  ready : frame'.integrated = true → frame.integrated = true ∨ frame'.settled = true

theorem Evolves.length (h : Evolves frame frame') : frame'.branches.length = frame.branches.length := by
  rw [← length_map ordinal, h.ordinals, length_map]

theorem Evolves.valid (h : Evolves frame frame') (hvalid : Valid frame) : Valid frame' where
  count := by rw [h.length, hvalid.count]
  policy := by rw [h.policy, hvalid.policy]
  ids := by rw [h.ids, h.length, hvalid.ids]
  ordinals := by rw [h.ordinals, h.length, hvalid.ordinals]
  results := h.results hvalid.results
  settled := by
    intro hintegrated
    rcases h.ready hintegrated with hbefore | hnow
    · exact h.settled (hvalid.settled hbefore)
    · exact hnow

theorem Evolves.ordered (h : Evolves frame frame') (hordered : frame.Ordered) : frame'.Ordered := by
  rw [BranchFrameV1.Ordered, h.ordinals, h.length, hordered]

theorem declared_valid (frameId parentTokenId joinNodeId : StableId) {mergePolicy : String}
    (hcount : invalidCount ids.length = false) (hpolicy : supportedPolicy mergePolicy = true)
    (hunique : (ExtTreeSet.ofList (ids.map val)).size = ids.length) :
    Valid ⟨frameId, parentTokenId, joinNodeId, declared ids, mergePolicy, false⟩ ∧
      BranchFrameV1.Ordered ⟨frameId, parentTokenId, joinNodeId, declared ids, mergePolicy, false⟩ := by
  have hlength : (declared ids).length = ids.length := by simp [declared]
  have hordinals : (declared ids).map ordinal = range (declared ids).length := by
    apply ext_getElem
    · simp
    · intro i _ _
      simp [declared]
  have hids : ((declared ids).map fun branch => branch.branchId.val) = ids.map val := by
    apply ext_getElem
    · simp [declared]
    · intro i _ _
      simp [declared]
  refine ⟨⟨by simpa only [hlength] using hcount, hpolicy, by simpa only [hids, hlength] using hunique,
    by simp [hordinals], ?_, by simp⟩, hordinals⟩
  intro branch hbranch
  obtain ⟨i, hi, rfl⟩ := getElem_of_mem hbranch
  simp [declared, contradictory]

/-- The branch updates change one branch, and only its state and result. -/
theorem updateBranch_ok
    {branches updated : List BranchRecordV1} (h : updateBranch branchId change branches = .ok updated) :
    ∃ before branch branch' after, branches = before ++ branch :: after ∧ updated = before ++ branch' :: after ∧
      change branch = .ok branch' := by
  induction branches generalizing updated with
  | nil => cases h
  | cons branch rest ih =>
    unfold updateBranch at h
    split at h
    · obtain ⟨branch', hchange, hsame⟩ := (bind_ok_iff _ _ _).mp h
      exact ⟨[], branch, branch', rest, rfl, (ok.inj hsame).symm, hchange⟩
    · obtain ⟨later, hlater, hsame⟩ := (bind_ok_iff _ _ _).mp h
      obtain ⟨before, found, found', after, rfl, rfl, hchange⟩ := ih hlater
      exact ⟨branch :: before, found, found', after, rfl, (ok.inj hsame).symm, hchange⟩

/-- A branch that moves on: an open one, which keeps its id and ordinal. -/
structure Moves (branch branch' : BranchRecordV1) : Prop where
  branchId : branch'.branchId = branch.branchId
  ordinal : branch'.ordinal = branch.ordinal
  unsettled : branch.state.terminal = false
  result : contradictory branch = false → contradictory branch' = false

theorem Moves.evolves {branch branch' : BranchRecordV1} (h : Moves branch branch')
    {before after : List BranchRecordV1} (hbranches : frame.branches = before ++ branch :: after) :
    Evolves frame { frame with branches := before ++ branch' :: after } where
  key := rfl
  policy := rfl
  ids := by simp [hbranches, h.branchId]
  ordinals := by simp [hbranches, h.ordinal]
  results := by
    intro hold found hfound
    rw [hbranches] at hold
    rcases mem_append.mp hfound with hbefore | hrest
    · exact hold found (mem_append_left _ hbefore)
    · rcases mem_cons.mp hrest with rfl | hafter
      · exact h.result (hold branch (by simp))
      · exact hold found (by simp [hafter])
  settled := by
    intro hsettled
    rw [settled, hbranches, all_append, all_cons, h.unsettled] at hsettled
    simp at hsettled
  integrated := id
  ready := .inl

theorem map_cancelled {α : Type} {field : BranchRecordV1 → α} (hfield : ∀ branch, field (cancelled branch) = field branch)
    (branches : List BranchRecordV1) : (branches.map cancelled).map field = branches.map field := by
  rw [List.map_map]
  exact map_congr_left fun branch _ => hfield branch

theorem cancelled_evolves (frame : BranchFrameV1) :
    Evolves frame { frame with branches := frame.branches.map cancelled } where
  key := rfl
  policy := rfl
  ids := map_cancelled (fun _ => by unfold cancelled; split <;> rfl) _
  ordinals := map_cancelled (fun _ => by unfold cancelled; split <;> rfl) _
  results := by
    intro hold found hfound
    obtain ⟨branch, hbranch, rfl⟩ := mem_map.mp hfound
    have hcoherent := hold branch hbranch
    unfold cancelled
    split
    · exact hcoherent
    · next hopen =>
      cases hstate : branch.state <;> simp_all [contradictory, BranchStateV1.terminal]
  settled := by
    intro hsettled
    simp only [settled, all_eq_true, mem_map, forall_exists_index, and_imp,
      forall_apply_eq_imp_iff₂] at hsettled ⊢
    intro branch hbranch
    rw [cancelled, if_pos (hsettled branch hbranch)]
    exact hsettled branch hbranch
  integrated := id
  ready := .inl

theorem integrated_evolves (hsettled : frame.settled = true) : Evolves frame { frame with integrated := true } where
  key := rfl
  policy := rfl
  ids := rfl
  ordinals := rfl
  results := id
  settled := id
  integrated := fun _ => rfl
  ready := fun _ => .inr hsettled

end Frames

section Runs
variable {sha256 : String → Sha256Digest} {c c' : BranchJoinCoordinator}

/-- Everything a call may do to the table. -/
inductive Change (c : BranchJoinCoordinator) : BranchJoinCoordinator → Prop where
  | unchanged : Change c c
  | opened (frame : BranchFrameV1) (hfresh : c.frames[frame.key]? = none) (hvalid : Valid frame)
      (hordered : frame.Ordered) : Change c ⟨c.frames.insert frame.key frame⟩
  | evolved (k : String) (frame frame' : BranchFrameV1) (hfound : c.frames[k]? = some frame)
      (hevolves : Evolves frame frame') : Change c ⟨c.frames.insert k frame'⟩

theorem openParallel_change {mergePolicy : String} {branches : List BranchRecordV1}
    (h : c.openParallel frameId parentTokenId joinNodeId ids mergePolicy = .ok (branches, c')) : Change c c' := by
  simp only [openParallel, passes, ok.injEq, unmet] at h
  obtain ⟨_, hcount, _, hpolicy, _, habsent, _, hunique, _, rfl⟩ := h
  obtain ⟨hvalid, hordered⟩ := declared_valid frameId parentTokenId joinNodeId hcount hpolicy hunique
  rw [ExtTreeMap.contains_eq_isSome_getElem?, Option.isSome_eq_false_iff, Option.isNone_iff_eq_none] at habsent
  exact .opened _ habsent hvalid hordered

private theorem openForEach_change {items : List Value} {maximumItems : Nat}
    {mergePolicy : String} {branches : List (BranchRecordV1 × Value)}
    (h : openForEach sha256 c frameId parentTokenId joinNodeId items maximumItems mergePolicy = .ok (branches, c')) :
    Change c c' := by
  simp only [openForEach, bind_ok_iff] at h
  obtain ⟨_, _, ids, _, ⟨opened, next⟩, hopen, hsame⟩ := h
  obtain ⟨_, rfl⟩ := Prod.mk.inj (ok.inj hsame)
  exact openParallel_change hopen

theorem withBranch_change (hchange : ∀ branch branch', change branch = .ok branch' → Moves branch branch')
    (h : c.withBranch frameId branchId change = .ok c') : Change c c' := by
  simp only [withBranch, passes, ok.injEq] at h
  obtain ⟨frame, hfound, updated, hupdate, rfl⟩ := h
  obtain ⟨before, branch, branch', after, hbranches, rfl, hmoved⟩ := updateBranch_ok hupdate
  exact .evolved _ frame _ hfound ((hchange branch branch' hmoved).evolves hbranches)

private theorem markRunning_change (h : c.markRunning frameId branchId = .ok c') : Change c c' := by
  apply withBranch_change ?_ h
  intro branch branch' hmoved
  simp only [passes, unmet, not_not, ok.injEq] at hmoved
  obtain ⟨_, hready, rfl⟩ := hmoved
  refine ⟨rfl, rfl, by rw [hready]; rfl, ?_⟩
  intro hcoherent
  simpa [contradictory, hready] using hcoherent

private theorem complete_change {result : Value} (h : c.complete frameId branchId result = .ok c') : Change c c' := by
  apply withBranch_change ?_ h
  intro branch branch' hmoved
  simp only [passes, ok.injEq] at hmoved
  obtain ⟨_, hopen, rfl⟩ := hmoved
  exact ⟨rfl, rfl, hopen, fun _ => rfl⟩

private theorem cancelFrame_change (h : c.cancelFrame frameId = .ok c') : Change c c' := by
  simp only [cancelFrame, passes, ok.injEq] at h
  obtain ⟨frame, hfound, rfl⟩ := h
  exact .evolved _ frame _ hfound (cancelled_evolves frame)

theorem integrate_ok (h : c.integrate frameId = .ok (value, c')) :
    ∃ frame : BranchFrameV1, c.frames[frameId.val]? = some frame ∧ frame.integrated = false ∧ frame.settled = true ∧
      c' = ⟨c.frames.insert frameId.val { frame with integrated := true }⟩ := by
  simp only [integrate, passes, ok.injEq, unmet] at h
  obtain ⟨frame, hfound, _, hopen, _, hsettled, _, _, _, rfl⟩ := h
  exact ⟨frame, hfound, hopen, hsettled, rfl⟩

private theorem integrate_change (h : c.integrate frameId = .ok (value, c')) : Change c c' := by
  obtain ⟨frame, hfound, _, hsettled, rfl⟩ := integrate_ok h
  exact .evolved _ frame _ hfound (integrated_evolves hsettled)

/-- Each call is one of these changes. -/
theorem perform_change (sha256 : String → Sha256Digest) (c : BranchJoinCoordinator) (call : Call) :
    Change c (c.perform sha256 call) := by
  cases call with
  | openParallel frameId parentTokenId joinNodeId ids mergePolicy =>
    simp only [perform]
    cases h : c.openParallel frameId parentTokenId joinNodeId ids mergePolicy with
    | error e => exact .unchanged
    | ok opened => exact openParallel_change h
  | openForEach frameId parentTokenId joinNodeId items maximumItems mergePolicy =>
    simp only [perform]
    cases h : openForEach sha256 c frameId parentTokenId joinNodeId items maximumItems mergePolicy with
    | error e => exact .unchanged
    | ok opened => exact openForEach_change h
  | markRunning frameId branchId =>
    simp only [perform]
    cases h : c.markRunning frameId branchId with
    | error e => exact .unchanged
    | ok next => exact markRunning_change h
  | complete frameId branchId result =>
    simp only [perform]
    cases h : c.complete frameId branchId result with
    | error e => exact .unchanged
    | ok next => exact complete_change h
  | cancelFrame frameId =>
    simp only [perform]
    cases h : c.cancelFrame frameId with
    | error e => exact .unchanged
    | ok next => exact cancelFrame_change h
  | integrate frameId =>
    simp only [perform]
    cases h : c.integrate frameId with
    | error e => exact .unchanged
    | ok integrated => exact integrate_change h

structure Sound (c : BranchJoinCoordinator) : Prop where
  keyed : OrderedMap.Keyed key c.frames
  valid : ∀ (k : String) (frame : BranchFrameV1), c.frames[k]? = some frame → Valid frame

/-- Every frame lists its branches by increasing ordinal. -/
def Ordered (c : BranchJoinCoordinator) : Prop :=
  ∀ (k : String) (frame : BranchFrameV1), c.frames[k]? = some frame → frame.Ordered

theorem Change.sound (hchange : Change c c') (h : Sound c) : Sound c' := by
  cases hchange with
  | unchanged => exact h
  | opened frame _ hvalid _ =>
    refine ⟨h.keyed.insert rfl, ?_⟩
    exact all_insert h.valid hvalid
  | evolved k frame frame' hframe hevolves =>
    refine ⟨h.keyed.insert (hevolves.key.trans (h.keyed k frame hframe)), ?_⟩
    exact all_insert h.valid (hevolves.valid (h.valid k frame hframe))

theorem Change.ordered (hchange : Change c c') (h : Ordered c) : Ordered c' := by
  cases hchange with
  | unchanged => exact h
  | opened frame _ _ hordered =>
    exact all_insert h hordered
  | evolved k frame frame' hframe hevolves =>
    exact all_insert h (hevolves.ordered (h k frame hframe))

theorem run_sound (sha256 : String → Sha256Digest) (h : Sound c) (calls : List Call) : Sound (c.run sha256 calls) := by
  induction calls generalizing c with
  | nil => exact h
  | cons call rest ih => exact ih ((perform_change sha256 c call).sound h)

theorem run_ordered (sha256 : String → Sha256Digest) (h : Ordered c) (calls : List Call) :
    Ordered (c.run sha256 calls) := by
  induction calls generalizing c with
  | nil => exact h
  | cons call rest ih => exact ih ((perform_change sha256 c call).ordered h)

private theorem restore_sound (h : restore saved = .ok c) : Sound c := by
  simp only [restore, bind_ok_iff, ok.injEq] at h
  obtain ⟨frames, hframes, rfl⟩ := h
  have hread := foldlM_keeps restoreFrame (fun _ table => OrderedMap.Keyed key table ∧
    ∀ (k : String) frame, table[k]? = some frame → Valid frame) ?_ saved.frames [] ∅ frames
    ⟨by simp [OrderedMap.Keyed], by simp⟩ hframes
  · exact ⟨hread.1, hread.2⟩
  · intro done table frame next htable hstep
    simp only [restoreFrame, bind_ok_iff, validateFrame_eq_ok, ok.injEq] at hstep
    obtain ⟨_, hvalid, _, _, rfl⟩ := hstep
    refine ⟨htable.1.insert rfl, ?_⟩
    exact all_insert htable.2 hvalid

theorem Started.sound (h : Started c) : Sound c := by
  cases h with
  | new => exact ⟨by simp [OrderedMap.Keyed, BranchJoinCoordinator.new], by simp [BranchJoinCoordinator.new]⟩
  | restored hrestore => exact restore_sound hrestore

theorem restore_checkpoint (h : Sound c) : restore c.checkpoint = .ok c := by
  have hframes : (values c.frames).foldlM restoreFrame ∅ = ok c.frames := by
    apply values_rebuild h.keyed
    intro table frame hframe habsent
    have hvalid := (validateFrame_eq_ok frame ()).mpr (h.valid _ frame hframe)
    simp only [restoreFrame, hvalid, habsent, ok_bind]
    rfl
  simp [restore, checkpoint, hframes, ok_bind]

/-- The frame whose result a call hands out. -/
def integratedBy (c : BranchJoinCoordinator) : Call → List String
  | .integrate frameId => if (c.integrate frameId).isOk then [frameId.val] else []
  | _ => []

theorem mem_integratedBy {call : Call} {k : String} (h : k ∈ c.integratedBy call) :
    ∃ frame : BranchFrameV1, c.frames[k]? = some frame ∧ frame.integrated = false ∧
      c.perform sha256 call = ⟨c.frames.insert k { frame with integrated := true }⟩ := by
  cases call with
  | integrate frameId =>
    simp only [integratedBy] at h
    cases hintegrate : c.integrate frameId with
    | error e => simp [hintegrate, Except.isOk, Except.toBool] at h
    | ok answer =>
      simp only [hintegrate, Except.isOk, Except.toBool, if_true, mem_singleton] at h
      subst h
      obtain ⟨frame, hfound, hopen, _, hnext⟩ := integrate_ok hintegrate
      refine ⟨frame, hfound, hopen, ?_⟩
      simp only [perform, hintegrate]
      exact hnext
  | _ => cases h

/-- The frame under the key has been integrated. -/
def Integrated (c : BranchJoinCoordinator) (k : String) : Prop :=
  ∃ frame : BranchFrameV1, c.frames[k]? = some frame ∧ frame.integrated = true

theorem Change.integrated (hchange : Change c c') (h : Integrated c k) : Integrated c' k := by
  obtain ⟨frame, hfound, hintegrated⟩ := h
  cases hchange with
  | unchanged => exact ⟨frame, hfound, hintegrated⟩
  | opened new hfresh _ _ => exact ⟨frame, insert_fresh new hfresh hfound, hintegrated⟩
  | evolved other old next hold hevolves =>
    by_cases hk : other = k
    · subst hk
      obtain rfl := Option.some.inj (hold.symm.trans hfound)
      exact ⟨next, ExtTreeMap.getElem?_insert_self, hevolves.integrated hintegrated⟩
    · exact ⟨frame, by rw [insert_ne _ _ hk, hfound], hintegrated⟩

private theorem integrated_marked (sha256 : String → Sha256Digest) :
    Once.Marked (perform sha256) integratedBy (fun _ => True) Integrated where
  kept _ _ _ := trivial
  stays c call _ _ h := (perform_change sha256 c call).integrated h
  fresh c call k _ hk := by
    obtain ⟨frame, hfound, hopen, _⟩ := @mem_integratedBy sha256 c call k hk
    rintro ⟨other, hother, hintegrated⟩
    rw [Option.some.inj (hother.symm.trans hfound), hopen] at hintegrated
    cases hintegrated
  set c call k _ hk := by
    obtain ⟨frame, _, _, hnext⟩ := @mem_integratedBy sha256 c call k hk
    rw [hnext]
    exact ⟨_, ExtTreeMap.getElem?_insert_self, rfl⟩
  nodup c call _ := by
    cases call with
    | integrate frameId =>
      simp only [integratedBy]
      split
      · exact nodup_singleton _
      · exact nodup_nil
    | _ => exact nodup_nil

private theorem results_ordered {frame : BranchFrameV1} (h : frame.Ordered) :
    frame.branches.map result = (range frame.branches.length).map frame.resultAt := by
  have hordinal : ∀ (i : Nat) hi, frame.branches[i].ordinal = i := by
    intro i hi
    have hget : (frame.branches.map ordinal)[i]? = some i := by
      rw [h, getElem?_range hi]
    rw [getElem?_map, getElem?_eq_getElem hi] at hget
    exact Option.some.inj hget
  apply ext_getElem
  · simp
  · intro i hi _
    rw [length_map] at hi
    have hfind : frame.branches.find? (fun branch => branch.ordinal == i) = some frame.branches[i] := by
      apply find?_eq_some_iff_getElem.mpr
      refine ⟨by simp [hordinal i hi], i, hi, rfl, ?_⟩
      intro j hj
      simp only [hordinal j (by omega), Bool.not_eq_true', beq_eq_false_iff_ne]
      omega
    simp [resultAt, hfind]

private theorem integrate_value {frame : BranchFrameV1} (hfound : c.frames[frameId.val]? = some frame)
    (hsettled : frame.settled = true) (hopen : frame.integrated = false) :
    (c.integrate frameId).map fst = merge frame.mergePolicy (frame.branches.map result) := by
  simp only [integrate, hfound, require, hsettled, hopen, refuseIf, Bool.not_true, Bool.false_eq_true, if_false, ok_bind]
  cases merge frame.mergePolicy (frame.branches.map result) with
  | error e => rfl
  | ok value => rfl

/-- From a start that lists branches by ordinal, each join is determined by ordinals and results. From any start each
frame is integrated at most once, and the checkpoint restores the coordinator. -/
theorem joins_by_ordinal (sha256 : String → Sha256Digest) (c : BranchJoinCoordinator) (hstart : Started c)
    (calls : List Call) :
    (Ordered c → ∀ (frameId : StableId) (frame : BranchFrameV1),
      (c.run sha256 calls).frames[frameId.val]? = some frame → frame.settled = true → frame.integrated = false →
        ((c.run sha256 calls).integrate frameId).map fst =
          joined frame.mergePolicy frame.branches.length frame.resultAt) ∧
      (Once.emitted (perform sha256) integratedBy c calls).Nodup ∧
      restore (c.run sha256 calls).checkpoint = .ok (c.run sha256 calls) := by
  refine ⟨?_, ((integrated_marked sha256).emitted_once trivial calls).1,
    restore_checkpoint (run_sound sha256 hstart.sound calls)⟩
  intro hordered frameId frame hfound hsettled hopen
  rw [integrate_value hfound hsettled hopen, joined, ← results_ordered (run_ordered sha256 hordered calls _ frame hfound)]

def sampleBranch (id : String) (ordinal : Nat) (result : Bool) : BranchRecordV1 :=
  ⟨ofText id, ordinal, .completed, some (.bool result)⟩

def sampleFrame (branches : List BranchRecordV1) : BranchFrameV1 :=
  ⟨ofText "f", ofText "t", ofText "j", branches, "ordered_array", false⟩

/-- A frame of two branches that complete in the reverse of their order. -/
def sampleCalls : List Call :=
  [.openParallel (ofText "f") (ofText "t") (ofText "j")
      [ofText "a", ofText "b"] "ordered_array",
    .complete (ofText "f") (ofText "b") (.bool true),
    .complete (ofText "f") (ofText "a") (.bool false)]

theorem sample_joins_by_ordinal :
    (sampleFrame [sampleBranch "a" 0 false, sampleBranch "b" 1 true]).settled = true ∧
      ∀ sha256, ((run sha256 new sampleCalls).integrate (ofText "f")).map fst =
        .ok (.array [.bool false, .bool true]) := by
  refine ⟨rfl, fun sha256 => ?_⟩
  have hfound : (run sha256 new sampleCalls).frames[(ofText "f").val]? =
      some (sampleFrame [sampleBranch "a" 0 false, sampleBranch "b" 1 true]) := rfl
  exact (joins_by_ordinal sha256 new .new sampleCalls).1 (by simp [Ordered, new]) _ _ hfound rfl rfl

/-- A saved frame may list its branches against their ordinals; the join follows the vector. -/
theorem reversed_frame_joined : ∃ c, restore ⟨[sampleFrame [sampleBranch "b" 1 true, sampleBranch "a" 0 false]]⟩ = .ok c ∧
    (c.integrate (ofText "f")).map fst = .ok (.array [.bool true, .bool false]) ∧
    joined "ordered_array" 2 (sampleFrame [sampleBranch "b" 1 true, sampleBranch "a" 0 false]).resultAt =
      .ok (.array [.bool false, .bool true]) := by
  refine ⟨⟨(∅ : Frames).insert "f" (sampleFrame [sampleBranch "b" 1 true, sampleBranch "a" 0 false])⟩, ?_, rfl, rfl⟩
  rfl

end Runs

end BranchJoinCoordinator
end Aworkit.Worker
