import Aworkit.Worker.SchedulerInvariant

/-! A frozen workflow cannot run forever: a rank that falls outside loops and the loop budget bound the tokens
transitions admit. -/
namespace Aworkit.Worker.SchedulerV1
open Protocol Fallible OrderedMap Operation StableId ExecutionPlanV1 List Nat

variable {sourceId : StableId} {t : WorkerTransitionV1}

/-- The rank a token can still use up. -/
def tokenWork (rank : String → Nat) (token : TokenV1) : Nat :=
  if token.state = .completed then 0 else rank token.nodeId.val

def workLeft (rank : String → Nat) (s : SchedulerV1) : Nat := sumValues (tokenWork rank) s.tokens

/-- All committed passes through loops. -/
def committedTotal (s : SchedulerV1) : Nat := sumValues id s.loopCounts

variable {rank : String → Nat} {token source : TokenV1} {s s' : SchedulerV1} {plan : ExecutionPlanV1} {e e' : Effect}
  {enc : Encoding}

theorem tokenWork_of_ne (h : token.state ≠ .completed) : tokenWork rank token = rank token.nodeId.val :=
  if_neg h

section
variable (rank : String → Nat) (tokens : Std.ExtTreeMap String TokenV1) (key : String)

theorem work_insert_le (token : TokenV1) :
    sumValues (tokenWork rank) (tokens.insert key token) ≤ sumValues (tokenWork rank) tokens + tokenWork rank token :=
  le.intro (sumValues_insert (tokenWork rank) tokens key token)

theorem work_restate
    (old token : TokenV1) (h : tokens[key]? = some old) (hw : tokenWork rank token = tokenWork rank old) :
    sumValues (tokenWork rank) (tokens.insert key token) = sumValues (tokenWork rank) tokens := by
  have hsum := sumValues_insert (tokenWork rank) tokens key token
  rw [h, hw] at hsum
  exact add_right_cancel hsum

end

theorem work_complete (rank : String → Nat)
    (ht : s.tokens[sourceId.val]? = some source) (hs : source.state = .awaitingCommit) (cursor : Nat) :
    (s.complete sourceId source cursor).workLeft rank + rank source.nodeId.val = s.workLeft rank := by
  have hsum := sumValues_insert (tokenWork rank) s.tokens sourceId.val { source with state := .completed }
  have hold : tokenWork rank source = rank source.nodeId.val := tokenWork_of_ne (by simp [hs])
  have hnew : tokenWork rank { source with state := .completed } = 0 := if_pos rfl
  rw [ht, hnew, Option.elim_some, hold] at hsum
  exact hsum

theorem countLoop_total (h : Invariant s) {key : String}
    (ht : s.tokens[key]? = some token) (hs : token.state = .awaitingCommit) :
    sumValues id (countLoop s.loopCounts token.selectedLoopId) =
      s.committedTotal + if token.selectedLoopId.isSome then 1 else 0 := by
  cases hl : token.selectedLoopId with
  | none => rfl
  | some loop =>
    obtain ⟨d, hd⟩ := waiting_loop_declared h.plan h.wellformed ht hs loop hl
    have hwithin := h.budget.within loop d hd
    have hpending : 0 < s.pending loop := by
      have hone := le_sumValues (fun token => if TokenV1.pendingIn loop token then 1 else 0) s.tokens key token ht
      have hself : token.pendingIn loop = true := by simp [TokenV1.pendingIn, hs, hl]
      rw [if_pos hself] at hone
      exact hone
    have hmax := d.maximumIterations.toNat_lt
    have hsum := sumValues_insert id s.loopCounts loop.val ((s.committed loop + 1) % 2 ^ 32)
    have hold : s.loopCounts[loop.val]?.elim 0 id = s.committed loop := by
      unfold committed
      cases s.loopCounts[loop.val]? <;> rfl
    have hsmall : (s.committed loop + 1) % 2 ^ 32 = s.committed loop + 1 := mod_eq_of_lt (by omega)
    rw [hold, hsmall] at hsum
    have hcount : countLoop s.loopCounts (some loop) = s.loopCounts.insert loop.val (s.committed loop + 1) := by
      rw [countLoop, ← committed, hsmall]
    rw [hcount, committedTotal]
    simp only [id_eq, Option.isSome_some, if_true] at hsum ⊢
    omega

variable (ranking : Ranking plan)

/-- Outside the loops a selected transition leads to a smaller rank. -/
theorem selected_falls (h : TokenSound plan token) (hs : token.state = .awaitingCommit) {id : StableId}
    (hsel : token.selectedTransitionId = some id) (ht : plan.transition id = some t) (hl : token.selectedLoopId = none) :
    ranking.rank t.toNode.val < ranking.rank token.nodeId.val := by
  have hselected := (h.selected (by rw [hs]; rfl)).2
  rw [hsel, hl] at hselected
  generalize token.externalCompletion = completion at hselected
  generalize hloop : (none : Option StableId) = loop at hselected
  cases hselected with
  | transition _ t' ht' hfrom =>
    rw [ht] at ht'
    obtain rfl := Option.some.inj ht'
    rw [← hfrom]
    exact ranking.falls id.val t ht hloop.symm

/-- Each admission lowers the rank left, or commits a pass through a loop, which is worth the number of nodes. -/
def Paid (plan : ExecutionPlanV1) (rank : String → Nat) (e : Effect) (s : SchedulerV1) : Prop :=
  e.admitted + s.workLeft rank ≤
    e.enqueued * (plan.snapshot.nodes.length - 1) + s.committedTotal * plan.snapshot.nodes.length

theorem Paid.step (h : Paid plan rank e s)
    (hstep : e'.admitted + s'.workLeft rank + s.committedTotal * plan.snapshot.nodes.length ≤
      s.workLeft rank + e'.enqueued * (plan.snapshot.nodes.length - 1) +
        s'.committedTotal * plan.snapshot.nodes.length) : Paid plan rank (e.append e') s' := by
  unfold Paid at h ⊢
  simp only [Effect.append, add_mul]
  omega

theorem Paid.quiet (h : Paid plan rank e s) (hashed : List String) (hwork : s'.workLeft rank ≤ s.workLeft rank)
    (hcounts : s'.loopCounts = s.loopCounts) : Paid plan rank (e.append ⟨hashed, 0, 0⟩) s' := by
  refine h.step ?_
  simp only [committedTotal, hcounts]
  omega

private theorem admitted_paid (hplan : s.plan = plan) (hi : Invariant s) (h : Paid plan ranking.rank e s)
    {proposalId : StableId} {cursor : Nat} {child : TokenV1} {id : StableId}
    (hack : Acknowledgeable s proposalId cursor sourceId source) (hsel : source.selectedTransitionId = some id)
    (ht : s.plan.transition id = some t) (hnode : child.nodeId = t.toNode) (hchild : child.state = .ready)
    (htokens : s'.tokens = (s.complete sourceId source cursor).tokens.insert child.tokenId.val child)
    (hcounts : s'.loopCounts = countLoop s.loopCounts source.selectedLoopId) (hashed : List String) :
    Paid plan ranking.rank (e.append ⟨hashed, 0, 1⟩) s' := by
  refine h.step ?_
  have htotal := countLoop_total hi hack.stored hack.waiting
  rw [← hcounts, ← committedTotal] at htotal
  have hback := work_complete ranking.rank hack.stored hack.waiting cursor
  have hnew := work_insert_le ranking.rank (s.complete sourceId source cursor).tokens child.tokenId.val child
  rw [← htokens, tokenWork_of_ne (by simp [hchild]), hnode] at hnew
  simp only [workLeft] at hback ⊢
  cases hl : source.selectedLoopId with
  | none =>
    have hfalls := selected_falls ranking (hplan ▸ hi.wellformed.sound _ _ hack.stored) hack.waiting hsel
      (hplan ▸ ht) hl
    rw [hl] at htotal
    simp only [Option.isSome_none, Bool.false_eq_true, if_false, add_zero] at htotal
    rw [htotal]
    omega
  | some loop =>
    have hbound := ranking.bounded t.toNode.val
    rw [hl] at htotal
    simp only [Option.isSome_some, if_true] at htotal
    rw [htotal, add_mul]
    omega

private theorem move_paid (hm : Move enc s e' s') (hplan : s.plan = plan) (hi : Invariant s)
    (h : Paid plan ranking.rank e s) : Paid plan ranking.rank (e.append e') s' := by
  cases hm with
  | idle hashed => exact h.quiet hashed (le_refl _) rfl
  | @enqueued node lineage ordinal tokenId hp revision =>
    have hnew := work_insert_le ranking.rank s.tokens tokenId.val (s.freshToken tokenId node revision lineage)
    have hbound := ranking.bounded node.val
    have hready : (s.freshToken tokenId node revision lineage).state ≠ .completed := by simp [freshToken]
    refine h.step ?_
    rw [tokenWork_of_ne hready] at hnew
    simp only [workLeft, committedTotal, place, freshToken] at hnew ⊢
    omega
  | claimed hfirst ht hs | suspended ht hs | resumed ht hs ho | stranded ht hs ho =>
    refine h.quiet [] (le_of_eq (work_restate _ _ _ _ _ ht ?_)) rfl
    simp [tokenWork, hs]
  | dropped hfirst hn => exact h.quiet [] (le_refl _) rfl
  | awaited ht hs hsel hloop hmat hid =>
    refine h.quiet _ (le_of_eq (work_restate _ _ _ _ _ ht ?_)) rfl
    simp [tokenWork, hs]
  | admitted hack hsel ht hext hp revision => exact admitted_paid ranking hplan hi h hack hsel ht rfl rfl rfl rfl _
  | @interrupted _ sourceId cursor _ source _ _ _ hashed hack hsel ht hext he =>
    have hback := work_complete ranking.rank hack.stored hack.waiting cursor
    have htotal : (s.advance sourceId source cursor).committedTotal = _ := countLoop_total hi hack.stored hack.waiting
    have hsame : (s.advance sourceId source cursor).workLeft ranking.rank =
      (s.complete sourceId source cursor).workLeft ranking.rank := rfl
    refine h.step ?_
    have hmono := mul_le_mul_right plan.snapshot.nodes.length (le.intro htotal.symm)
    simp only [zero_mul]
    omega
  | @completed _ _ cursor _ _ _ hack hby hvalid =>
    exact h.quiet [] (le.intro (work_complete ranking.rank hack.stored hack.waiting cursor)) rfl
  | cancelled lineage =>
    refine h.quiet [] ?_ rfl
    simp only [workLeft, cancelLineage, sumValues_map]
    refine sumValues_le _ _ _ fun token _ => ?_
    split
    · rename_i hc
      have hcancelled : TokenStateV1.cancelled ≠ .completed := by simp
      rw [tokenWork_of_ne hcancelled, tokenWork_of_ne]
      intro hs
      simp [cancellable, hs] at hc
    · exact le_refl _

private theorem moves_paid (hplan : PlanSound plan) (ranking : Ranking plan) (hm : Moves enc (new plan) e s) :
    Paid plan ranking.rank e s := by
  induction hm with
  | refl =>
    have hnone : sumValues (tokenWork ranking.rank) (∅ : Std.ExtTreeMap String TokenV1) = 0 := sumValues_empty _
    simp [Paid, workLeft, new, hnone]
  | snoc hmoves hmove ih => exact move_paid ranking hmove hmoves.plan_eq (moves_invariant hmoves (new_invariant hplan)) ih

private theorem committedTotal_le (h : Invariant s) :
    s.committedTotal ≤ (s.plan.snapshot.loopDescriptors.map fun d => d.maximumIterations.toNat).sum := by
  refine sumValues_le_sum id s.loopCounts _ (fun d => d.loopId.val) _ ?_
  intro key n hn
  have hmem : key ∈ s.loopCounts := by rw [Std.ExtTreeMap.mem_iff_isSome_getElem?, hn]; rfl
  obtain ⟨loop, d, rfl, hd⟩ := h.budget.declared key hmem
  obtain ⟨hin, hid⟩ := (h.plan.loops loop.val d).mp hd
  have hwithin := h.budget.within loop d hd
  simp only [committed, hn, Option.getD_some] at hwithin
  exact ⟨d, hin, hid, by simp only [id_eq]; omega⟩

def Operation.isSeed : Operation → Bool
  | .seedEntries _ => true
  | _ => false

def Operation.isEnqueue : Operation → Bool
  | .enqueue _ _ _ => true
  | _ => false

/-- The admissions a snapshot allows: every entry and every pass through a loop may walk through all other nodes. -/
def admissionLimit (snapshot : WorkerFrozenRunSnapshotV1) : Nat :=
  let entries := snapshot.entryNodes.length
  let passes := (snapshot.loopDescriptors.map fun d => d.maximumIterations.toNat).sum
  (entries + passes) * (snapshot.nodes.length - 1) + passes

private theorem enqueueLimit_sum (plan : ExecutionPlanV1) (ops : List Operation) (h : ∀ op ∈ ops, op.isEnqueue = false) :
    (ops.map (enqueueLimit plan)).sum = ops.countP isSeed * plan.snapshot.entryNodes.length := by
  induction ops with
  | nil => simp
  | cons op rest ih =>
    rw [forall_mem_cons] at h
    rw [map_cons, sum_cons, ih h.2, countP_cons, add_mul]
    have hop : enqueueLimit plan op = (if op.isSeed = true then 1 else 0) * plan.snapshot.entryNodes.length := by
      cases op <;> simp_all [enqueueLimit, isSeed, isEnqueue]
    omega

theorem admissions_le {snapshot : WorkerFrozenRunSnapshotV1} {declared : String}
    (hc : compile enc snapshot declared = .ok plan) (ops : List Operation) (hseed : ops.countP isSeed ≤ 1)
    (henqueue : ∀ op ∈ ops, op.isEnqueue = false) : admissions enc (new plan) ops ≤ admissionLimit snapshot := by
  obtain ⟨hsnapshot, hcompiled⟩ := compile_ok enc snapshot declared plan hc
  have hplan := hcompiled.sound
  obtain ⟨ranking⟩ := hplan.ranking
  obtain ⟨n, hn, hmoves⟩ := run_moves enc (new plan) hplan ops
  have hpaid := moves_paid hplan ranking hmoves
  have htotal := committedTotal_le (moves_invariant hmoves (new_invariant hplan))
  rw [hmoves.plan_eq] at htotal
  have hentries : n ≤ plan.snapshot.entryNodes.length := by
    rw [show (new plan).plan = plan from rfl, enqueueLimit_sum plan ops henqueue] at hn
    exact hn.trans (by simpa using Nat.mul_le_mul_right plan.snapshot.entryNodes.length hseed)
  obtain ⟨hnodes, hentry, hloops⟩ := canonicalizeSnapshot_sizes snapshot
  have hpositive := ranking.bounded ""
  simp only [Paid, show (new plan).plan = plan from rfl] at hpaid htotal
  rw [hsnapshot, hnodes] at hpaid
  rw [hsnapshot, hloops] at htotal
  rw [hsnapshot, hentry] at hentries
  rw [hsnapshot, hnodes] at hpositive
  unfold admissionLimit
  generalize (snapshot.loopDescriptors.map fun d => d.maximumIterations.toNat).sum = passes at htotal ⊢
  -- with one node at least, a pass is worth the other nodes and one more admission
  obtain ⟨others, hothers⟩ : ∃ others, snapshot.nodes.length = others + 1 := ⟨snapshot.nodes.length - 1, by omega⟩
  rw [hothers] at hpaid ⊢
  simp only [Nat.add_sub_cancel] at hpaid ⊢
  calc admissions enc (new plan) ops ≤ n * others + (run enc (new plan) ops).committedTotal * (others + 1) := by omega
    _ ≤ snapshot.entryNodes.length * others + passes * (others + 1) :=
      Nat.add_le_add (Nat.mul_le_mul_right _ hentries) (Nat.mul_le_mul_right _ htotal)
    _ = (snapshot.entryNodes.length + passes) * others + passes := by ring

private theorem admissions_append (enc : Encoding) (s : SchedulerV1) (ops : List Operation) (op : Operation) :
    admissions enc s (ops ++ [op]) = admissions enc s ops + admitted enc (run enc s ops) op := by
  induction ops generalizing s with
  | nil => exact add_comm _ _
  | cons first rest ih =>
    simp only [cons_append, admissions, ih, run, foldl_cons]
    omega

variable (stream : Nat → Operation)

/-- The first operations of an endless run. -/
def opsBefore (n : Nat) : List Operation := (range n).map stream

theorem opsBefore_succ (n : Nat) : opsBefore stream (n + 1) = opsBefore stream n ++ [stream n] := by
  simp [opsBefore, range_succ]

private theorem opsBefore_seeds (first n : Nat) (h : ∀ n, (stream n).isSeed = true → n = first) :
    (opsBefore stream n).countP isSeed ≤ 1 := by
  induction n with
  | zero => simp [opsBefore]
  | succ n ih =>
    rw [opsBefore_succ, countP_append, countP_singleton]
    split
    · rename_i hn
      have hzero : (opsBefore stream n).countP isSeed = 0 := by
        refine countP_eq_zero.mpr fun op hop => ?_
        obtain ⟨m, hm, rfl⟩ := mem_map.mp hop
        intro hseed
        have hmn := (h m hseed).trans (h n hn).symm
        rw [hmn] at hm
        exact absurd (mem_range.mp hm) (lt_irrefl n)
      omega
    · exact ih

private theorem stops_of_bounded (count : Nat → Nat) (limit : Nat) (hmono : Monotone count) (hle : ∀ n, count n ≤ limit) :
    ∃ stop, ∀ n ≥ stop, count (n + 1) = count n := by
  have hbdd : BddAbove (Set.range count) := ⟨limit, by rintro _ ⟨n, rfl⟩; exact hle n⟩
  obtain ⟨stop, hstop⟩ := sSup_mem (Set.range_nonempty count) hbdd
  refine ⟨stop, fun n hn => le_antisymm ?_ (hmono (le_succ n))⟩
  calc count (n + 1) ≤ sSup (Set.range count) := le_csSup hbdd ⟨n + 1, rfl⟩
    _ = count stop := hstop.symm
    _ ≤ count n := hmono hn

/-- A seeded run of a compiled workflow admits at most `(E + S) * (V - 1) + S` tokens, so an endless run admits none
in the end. -/
theorem admissions_bounded (enc : Encoding) (snapshot : WorkerFrozenRunSnapshotV1) (declared : String)
    (plan : ExecutionPlanV1) (hc : compile enc snapshot declared = .ok plan) :
    (∀ ops : List Operation, ops.countP isSeed = 1 → (∀ op ∈ ops, op.isEnqueue = false) →
      admissions enc (new plan) ops ≤
        (snapshot.entryNodes.length + (snapshot.loopDescriptors.map fun d => d.maximumIterations.toNat).sum) *
            (snapshot.nodes.length - 1) +
          (snapshot.loopDescriptors.map fun d => d.maximumIterations.toNat).sum) ∧
    ∀ (stream : Nat → Operation) (first : Nat), (∀ n, (stream n).isSeed = true ↔ n = first) →
      (∀ n, (stream n).isEnqueue = false) →
      ∃ stop, ∀ n ≥ stop, admitted enc (run enc (new plan) (opsBefore stream n)) (stream n) = 0 := by
  refine ⟨fun ops hseed henqueue => admissions_le hc ops hseed.le henqueue, ?_⟩
  intro stream first hfirst henqueue
  have hsucc : ∀ n, admissions enc (new plan) (opsBefore stream (n + 1)) =
      admissions enc (new plan) (opsBefore stream n) +
        admitted enc (run enc (new plan) (opsBefore stream n)) (stream n) := by
    intro n
    rw [opsBefore_succ, admissions_append]
  have hle : ∀ n, admissions enc (new plan) (opsBefore stream n) ≤ admissionLimit snapshot := by
    intro n
    refine admissions_le hc _ (opsBefore_seeds stream first n fun m hm => (hfirst m).mp hm) fun op hop => ?_
    obtain ⟨m, _, rfl⟩ := mem_map.mp hop
    exact henqueue m
  obtain ⟨stop, hstop⟩ := stops_of_bounded (fun n => admissions enc (new plan) (opsBefore stream n)) _
    (monotone_nat_of_le_succ fun n => le.intro (hsucc n).symm) hle
  refine ⟨stop, fun n hn => ?_⟩
  have hsame := hstop n hn
  have hnext := hsucc n
  omega

def samplePort (name : String) : WorkerPortV1 := ⟨name, none, true⟩

def sampleStep : StableId := ofText "step"
def sampleEdge : StableId := ofText "again"
def sampleLoop : StableId := ofText "loop.one"

/-- One node that may run once more through a loop of one pass. -/
def sampleSnapshot : WorkerFrozenRunSnapshotV1 :=
  { emptySnapshot "9dbf2f69ae82915f4d0689531ab2cafc06e4b7b6525f1799f9cd5c00efb69669" with
    nodes := [⟨sampleStep, "pure.noop", 1, "bbbbbbbbbbbbbbbbbbbbbbbbbbbbbbbbbbbbbbbbbbbbbbbbbbbbbbbbbbbbbbbb",
      [samplePort "in"], [samplePort "out"], .pure, .null, none, none⟩]
    transitions := [⟨sampleEdge, sampleStep, "out", sampleStep, "in", 0, none, some sampleLoop⟩]
    entryNodes := [sampleStep]
    loopDescriptors := [⟨sampleLoop, 1, sampleStep, sampleStep⟩] }

def sampleFingerprint : String := "759b2a6671fa28617a186d4e824a1f6ef76a90149b1c1ee5e7e9e3e63c860b20"

/-- The SHA-256 digests of the texts the runs below hash. -/
def sampleDigests : List (String × String) :=
  [("token:" ++ sampleFingerprint ++ ":1:step:root", "caf157df8920cdba0f414e6ac105be83300b8551b3f1d994bc65060e5ee78c13"),
   ("transition:" ++ sampleFingerprint ++ ":worker.caf157df8920cdba0f414e6ac105be83300b8551b3f1d994:again",
     "5487f0eae1f712e7210411d643f471fa2aceae5128ebd396414e1a25e98dda57"),
   ("token:" ++ sampleFingerprint ++ ":2:step:root", "914c4e56d67ab80b2d1abc579cfe3d7b017989bb34672aa798bb75f1985ee60a"),
   ("transition:" ++ sampleFingerprint ++ ":worker.914c4e56d67ab80b2d1abc579cfe3d7b017989bb34672aa7:again",
     "10b0ed76b30c421299a2e4844e3b11f49eac46cd599b2fa99a6643bc7802cece")]

def sampleEncoding : Encoding where
  sha256 material := .ofText ((sampleDigests.lookup material).getD "")
  snapshotLength _ := 1345
  valueLength _ := 4
  snapshotDigest _ := .ofText "9dbf2f69ae82915f4d0689531ab2cafc06e4b7b6525f1799f9cd5c00efb69669"
  planDigest _ := .ofText sampleFingerprint

def samplePlan : ExecutionPlanV1 :=
  (compile sampleEncoding sampleSnapshot sampleSnapshot.snapshotHash).toOption.getD
    ⟨sampleSnapshot, ∅, ∅, ∅, ∅, ∅, ∅, ""⟩

theorem samplePlan_compiles : compile sampleEncoding sampleSnapshot sampleSnapshot.snapshotHash = .ok samplePlan :=
  eq_ok_of_isOk _ _ (by decide +kernel)

/-- What compiles is well formed: the plan holds the canonical snapshot with distinct ids, entries, targets, routes and
loops that exist, and a rank of the nodes that falls along every transition outside the loops. -/
theorem compiled_plan_sound (enc : Encoding) (snapshot : WorkerFrozenRunSnapshotV1) (declared : String)
    (plan : ExecutionPlanV1) (h : compile enc snapshot declared = .ok plan) :
    plan.snapshot = canonicalizeSnapshot snapshot ∧ PlanSound plan := by
  obtain ⟨hsnapshot, hcompiled⟩ := compile_ok enc snapshot declared plan h
  exact ⟨hsnapshot, hcompiled.sound⟩

theorem sample_plan_sound : PlanSound samplePlan := (compiled_plan_sound _ sampleSnapshot _ _ samplePlan_compiles).2

def sampleProposal : StableId := ofText "worker.5487f0eae1f712e7210411d643f471fa2aceae5128ebd396"

/-- Seeds the workflow and takes its loop once. -/
def loopOnce : List Operation :=
  [.seedEntries 1, .claimNext,
   .proposeTransition (ofText "worker.caf157df8920cdba0f414e6ac105be83300b8551b3f1d994") (.object []),
   .acknowledgeTransition sampleProposal 1 2]

private theorem loopOnce_enqueues_nothing : ∀ op ∈ loopOnce, op.isEnqueue = false := by
  intro op hop
  simp only [loopOnce, mem_cons, not_mem_nil, or_false] at hop
  rcases hop with rfl | rfl | rfl | rfl <;> rfl

/-- The sample run meets the bound exactly. -/
theorem sample_admissions_bounded :
    admissions sampleEncoding (new samplePlan) loopOnce = 1 ∧
      admissions sampleEncoding (new samplePlan) loopOnce ≤
        (sampleSnapshot.entryNodes.length +
            (sampleSnapshot.loopDescriptors.map fun d => d.maximumIterations.toNat).sum) *
          (sampleSnapshot.nodes.length - 1) +
        (sampleSnapshot.loopDescriptors.map fun d => d.maximumIterations.toNat).sum :=
  ⟨by decide +kernel,
    (admissions_bounded sampleEncoding sampleSnapshot _ samplePlan samplePlan_compiles).1 loopOnce rfl
      loopOnce_enqueues_nothing⟩

end Aworkit.Worker.SchedulerV1
