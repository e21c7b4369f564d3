import Aworkit.Worker.SchedulerBound

/-! Loop bounds after a restore. A checkpoint counts passes in its loop counters and its tokens; only the counters are
held against the bound. -/
namespace Aworkit.Worker.SchedulerV1
open Protocol Fallible OrderedMap Std ExecutionPlanV1

variable {plan : ExecutionPlanV1} {checkpoint : SchedulerCheckpointV1} {s s' : SchedulerV1}

/-- The tokens admitted so far: sound, each under its own key, and none lost. -/
structure TokensRestored (plan : ExecutionPlanV1) (done : List TokenV1)
    (restored : List StableId × ExtTreeMap String TokenV1) : Prop where
  keyed : ∀ (key : String) (token : TokenV1), restored.2[key]? = some token → token.tokenId.val = key
  sound : ∀ (key : String) (token : TokenV1), restored.2[key]? = some token → TokenSound plan token
  counted : ∀ p : TokenV1 → Bool, countTokens p restored.2 = done.countP p

private theorem restoreToken_restored
    {restored next : List StableId × ExtTreeMap String TokenV1} (h : TokensRestored s.plan done restored)
    (hstep : s.restoreToken restored token = .ok next) : TokensRestored s.plan (done ++ [token]) next := by
  simp only [restoreToken, passes, Except.ok.injEq] at hstep
  obtain ⟨_, _, _, hvalid, _, _, _, hfresh, rfl⟩ := hstep
  rw [validateRestoredToken_iff] at hvalid
  refine ⟨?_, ?_, ?_⟩
  · exact all_insert h.keyed rfl
  · exact all_insert h.sound hvalid
  · intro p
    have hnone : restored.2[token.tokenId.val]? = none := by
      rw [ExtTreeMap.contains_eq_isSome_getElem?] at hfresh
      exact Option.not_isSome_iff_eq_none.mp (by rw [hfresh]; exact Bool.false_ne_true)
    have hsum := sumValues_insert (fun token => if p token then 1 else 0) restored.2 token.tokenId.val token
    rw [hnone, Option.elim_none, Nat.add_zero] at hsum
    rw [List.countP_append, List.countP_singleton, ← h.counted p]
    exact hsum

/-- What an accepted checkpoint says of the scheduler it restores. -/
structure Restored (plan : ExecutionPlanV1) (checkpoint : SchedulerCheckpointV1) (s : SchedulerV1) : Prop where
  plan_eq : s.plan = plan
  wellformed : Wellformed s
  loopCounts : s.loopCounts = checkpoint.loopCounts
  declared : ∀ key : String, key ∈ s.loopCounts → ∃ loop d, loop.val = key ∧ plan.loopDescriptor loop = some d
  counted : ∀ p : TokenV1 → Bool, countTokens p s.tokens = checkpoint.tokens.countP p

theorem restore_ok (h : restore plan checkpoint = .ok s) : Restored plan checkpoint s := by
  simp only [restore, bind_ok_iff, Except.ok.injEq] at h
  obtain ⟨_, _, _, hcounts, ⟨ids, tokens⟩, htokens, _, _, _, _, ready, _, _, _, rfl⟩ := h
  have hrestored := foldlM_keeps _ (TokensRestored plan) (fun _ _ _ _ hd hstep => restoreToken_restored hd hstep)
    checkpoint.tokens [] ([], ∅) _ ⟨by simp, by simp, fun p => sumValues_empty _⟩ htokens
  refine ⟨rfl, ⟨rfl, hrestored.keyed, hrestored.sound⟩, rfl, ?_, hrestored.counted⟩
  intro key hkey
  obtain ⟨n, hn⟩ := Option.isSome_iff_exists.mp (ExtTreeMap.mem_iff_isSome_getElem?.mp hkey)
  have hentry := (checkAll_eq_ok _ _ _).mp hcounts (key, n) (ExtTreeMap.mem_toList_iff_getElem?_eq_some.mpr hn)
  simp only [restoreLoopCount, passes] at hentry
  obtain ⟨loop, hloop, d, hd, _⟩ := hentry
  exact ⟨loop, d, StableId.val_of_parse hloop, hd⟩

/-- The counters of a checkpoint cover the completed passes of its tokens and leave room for the pending ones. -/
def CountsCover (plan : ExecutionPlanV1) (checkpoint : SchedulerCheckpointV1) : Prop :=
  ∀ loop d, plan.loopDescriptor loop = some d →
    checkpoint.tokens.countP (TokenV1.completedIn loop) ≤ checkpoint.loopCounts[loop.val]?.getD 0 ∧
      checkpoint.loopCounts[loop.val]?.getD 0 + checkpoint.tokens.countP (TokenV1.pendingIn loop) ≤
        d.maximumIterations.toNat

/-- Completed passes never outnumber the counted ones. -/
def Covered (s : SchedulerV1) : Prop :=
  ∀ loop d, s.plan.loopDescriptor loop = some d → s.completedPasses loop ≤ s.committed loop

private theorem loopMove_covered (hm : LoopMove s s') (hplan : s'.plan = s.plan) (hb : Budget s)
    (h : Covered s) : Covered s' := by
  intro l d hd
  rw [hplan] at hd
  have hold := h l d hd
  cases hm with
  | starts loop hroom hcounts hpending hcompleted =>
    have hsame : s'.committed l = s.committed l := by rw [committed, hcounts, committed]
    have hnew := hcompleted l
    omega
  | commits loop hdeclared hcounts hpending hcompleted =>
    have hcommitted := loopMove_committed hcounts hpending (hb.within l d hd)
    have hnew := hcompleted l
    omega

private theorem moves_covered {enc : Encoding} {e : Effect} (hm : Moves enc s e s') (hi : Invariant s)
    (h : Covered s) : Covered s' := by
  induction hm with
  | refl => exact h
  | snoc hmoves hmove ih =>
    have hinv := moves_invariant hmoves hi
    exact loopMove_covered (move_loops hmove hinv.plan hinv.wellformed) hmove.plan_eq hinv.budget ih

/-- A token that passes through the loop, committed or not. -/
def passesLoop (loop : StableId) (token : TokenV1) : Bool :=
  (token.state == .completed || token.state == .awaitingCommit) && token.selectedLoopId == some loop

private theorem passes_split (s : SchedulerV1) (loop : StableId) :
    countTokens (passesLoop loop) s.tokens = s.completedPasses loop + s.pending loop := by
  rw [completedPasses, pending, countTokens, countTokens, countTokens, ← sumValues_add]
  congr 1
  funext token
  unfold passesLoop TokenV1.completedIn TokenV1.pendingIn
  cases token.state <;> cases token.selectedLoopId == some loop <;> rfl

private theorem restored_invariant (hplan : PlanSound plan)
    (h : Restored plan checkpoint s) (hcover : CountsCover plan checkpoint) : Invariant s ∧ Covered s := by
  refine ⟨⟨h.plan_eq ▸ hplan, h.wellformed, ⟨?_, ?_⟩⟩, ?_⟩
  · rw [h.plan_eq]
    exact h.declared
  · intro loop d hd
    rw [h.plan_eq] at hd
    rw [committed, pending, h.counted, h.loopCounts]
    exact (hcover loop d hd).2
  · intro loop d hd
    rw [h.plan_eq] at hd
    rw [committed, completedPasses, h.counted, h.loopCounts]
    exact (hcover loop d hd).1

/-- From counters that cover their tokens, no run takes a loop beyond its bound. -/
theorem loop_bound_after_restore (enc : Encoding) (snapshot : WorkerFrozenRunSnapshotV1) (declared : String)
    (plan : ExecutionPlanV1) (hc : compile enc snapshot declared = .ok plan)
    (checkpoint : SchedulerCheckpointV1) (s : SchedulerV1) (hr : restore plan checkpoint = .ok s)
    (hcover : CountsCover plan checkpoint) (ops : List Operation) (loop : StableId) (d : WorkerLoopDescriptorV1)
    (hd : plan.loopDescriptor loop = some d) :
    countTokens (passesLoop loop) (run enc s ops).tokens ≤ d.maximumIterations.toNat := by
  have hplan := (compile_ok enc snapshot declared plan hc).2.sound
  have hrestored := restore_ok hr
  obtain ⟨hinv, hcovered⟩ := restored_invariant hplan hrestored hcover
  obtain ⟨_, _, hmoves⟩ := run_moves enc s hinv.plan ops
  have hlast := moves_invariant hmoves hinv
  have hplans : (run enc s ops).plan = plan := hmoves.plan_eq.trans hrestored.plan_eq
  have hwithin := hlast.budget.within loop d (hplans ▸ hd)
  have hcounted := moves_covered hmoves hinv hcovered loop d (hplans ▸ hd)
  rw [passes_split]
  omega

def sampleSource : TokenV1 :=
  ⟨.ofText "worker.caf157df8920cdba0f414e6ac105be83300b8551b3f1d994", sampleStep, 1, 0, "root", .completed,
    some sampleProposal, some sampleEdge, some sampleLoop, none⟩

def sampleChild : TokenV1 :=
  ⟨.ofText "worker.914c4e56d67ab80b2d1abc579cfe3d7b017989bb34672aa7", sampleStep, 2, 1, "root", .ready,
    none, none, none, none⟩

variable (loopCounts : ExtTreeMap String Nat)

/-- The sample workflow after its one pass, with the given loop counters. -/
def sampleCheckpoint : SchedulerCheckpointV1 where
  logicalTick := 1
  nextTokenOrdinal := 3
  committedCursor := 1
  tokens := [sampleChild, sampleSource]
  ready := [(1, 0, "root", sampleChild.tokenId.val)]
  loopCounts := loopCounts
  acknowledgedProposals := (∅ : ExtTreeMap String (Option String)).insert sampleProposal.val
    (some sampleChild.tokenId.val)

def loopAgain : List Operation := [.claimNext, .proposeTransition sampleChild.tokenId (.object [])]

def sampleRestored : SchedulerV1 :=
  (restore samplePlan (sampleCheckpoint loopCounts)).toOption.getD (new samplePlan)

def oneCounted : ExtTreeMap String Nat := (∅ : ExtTreeMap String Nat).insert sampleLoop.val 1

private theorem sample_loopDescriptor (loop : StableId) (d : WorkerLoopDescriptorV1) :
    samplePlan.loopDescriptor loop = some d ↔ d = ⟨sampleLoop, 1, sampleStep, sampleStep⟩ ∧ loop = sampleLoop := by
  obtain ⟨hsnapshot, hcompiled⟩ := compile_ok _ _ _ _ samplePlan_compiles
  have hmem : d ∈ samplePlan.snapshot.loopDescriptors ↔ d = ⟨sampleLoop, 1, sampleStep, sampleStep⟩ := by
    rw [hsnapshot, ← List.mem_singleton]
    exact mem_sortById (fun descriptor => descriptor.loopId.val) _ d
  rw [loopDescriptor, hcompiled.sound.loops, hmem]
  refine and_congr_right ?_
  rintro rfl
  exact StableId.val_injective.eq_iff.trans eq_comm

private theorem sample_counts_cover : CountsCover samplePlan (sampleCheckpoint oneCounted) := by
  intro loop d hd
  obtain ⟨rfl, rfl⟩ := (sample_loopDescriptor loop d).mp hd
  decide +kernel

/-- With its pass counted, the sample checkpoint refuses a second pass. -/
theorem sample_loop_bound_after_restore :
    restore samplePlan (sampleCheckpoint oneCounted) = .ok (sampleRestored oneCounted) ∧
      countTokens (passesLoop sampleLoop) (run sampleEncoding (sampleRestored oneCounted) loopAgain).tokens ≤
        (1 : UInt32).toNat := by
  have hr : restore samplePlan (sampleCheckpoint oneCounted) = .ok (sampleRestored oneCounted) :=
    eq_ok_of_isOk _ _ (by decide +kernel)
  refine ⟨hr, ?_⟩
  exact loop_bound_after_restore sampleEncoding sampleSnapshot _ samplePlan samplePlan_compiles _ _ hr
    sample_counts_cover loopAgain sampleLoop _ ((sample_loopDescriptor _ _).mpr ⟨rfl, rfl⟩)

/-- A checkpoint with the pass in its tokens but not in its counters is accepted, and the loop of one pass is taken
twice. -/
theorem uncounted_pass_exceeds_bound :
    compile sampleEncoding sampleSnapshot sampleSnapshot.snapshotHash = .ok samplePlan ∧
      restore samplePlan (sampleCheckpoint ∅) = .ok (sampleRestored ∅) ∧
      samplePlan.loopDescriptor sampleLoop = some ⟨sampleLoop, 1, sampleStep, sampleStep⟩ ∧
      countTokens (passesLoop sampleLoop) (run sampleEncoding (sampleRestored ∅) loopAgain).tokens = 2 :=
  ⟨samplePlan_compiles, eq_ok_of_isOk _ _ (by decide +kernel), (sample_loopDescriptor _ _).mpr ⟨rfl, rfl⟩,
    by decide +kernel⟩

end Aworkit.Worker.SchedulerV1
