import Aworkit.Worker.SchedulerRun

/-! Invariants of every scheduler state: sound tokens under their keys, and a loop budget over committed and pending
passes. -/
namespace Aworkit.Worker
open Protocol Fallible OrderedMap TokenV1 Std TokenStateV1 Option ExtTreeMap

variable {s s' : SchedulerV1} {enc : Encoding} {e : Effect}
  {proposalId sourceId tokenId : StableId} {key : String} {source token : TokenV1}

/-- Whether a token stands on a proposal. -/
def TokenStateV1.proposed : TokenStateV1 → Bool
  | .awaitingCommit | .completed => true
  | _ => false

/-- What the checks on a restored token ask for. -/
structure TokenSound (plan : ExecutionPlanV1) (token : TokenV1) : Prop where
  node : ∃ n, plan.node token.nodeId = some n
  lineage : validLineage token.branchLineage = true
  unselected : token.state.proposed = false → token.awaitingProposalId = none ∧ token.selectedTransitionId = none ∧
    token.selectedLoopId = none ∧ token.externalCompletion = none
  selected : token.state.proposed = true → (∃ proposal, token.awaitingProposalId = some proposal) ∧
    Selected plan token.nodeId token.selectedTransitionId token.selectedLoopId token.externalCompletion

theorem validateSelection_iff (plan : ExecutionPlanV1) (node : WorkerNodeV1) (token : TokenV1)
    (hn : plan.node token.nodeId = some node) :
    validateSelection plan node token = .ok () ↔ (∃ proposal, token.awaitingProposalId = some proposal) ∧
      Selected plan token.nodeId token.selectedTransitionId token.selectedLoopId token.externalCompletion := by
  simp only [validateSelection, passes, isNone_eq_false_iff, isSome_iff_exists]
  constructor
  · rintro ⟨_, hproposal, hrest⟩
    refine ⟨hproposal, ?_⟩
    cases htr : token.selectedTransitionId with
    | some id =>
      simp only [htr, passes, unmet, isSome_eq_false_iff, isNone_iff_eq_none] at hrest
      obtain ⟨t, ht, ⟨hfrom, hloop⟩, hext⟩ := hrest
      rw [hext, ← hloop]
      exact .transition id t ht hfrom
    | none =>
      simp only [htr, refuseIf_eq_ok, unmet, isSome_eq_false_iff, isNone_iff_eq_none] at hrest
      rw [hrest.1]
      exact .completion node _ hn hrest.2
  · rintro ⟨hproposal, hsel⟩
    refine ⟨(), hproposal, ?_⟩
    generalize htr : token.selectedTransitionId = transition at hsel
    generalize hlo : token.selectedLoopId = loop at hsel
    generalize hco : token.externalCompletion = completion at hsel
    cases hsel with
    | transition id t ht hfrom => simp [bind_ok_iff, ht, hfrom]
    | completion n _ hn' hc =>
      rw [hn] at hn'
      obtain rfl := some.inj hn'
      simp [hc]

theorem validateRestoredToken_iff (plan : ExecutionPlanV1) (token : TokenV1) :
    validateRestoredToken plan token = .ok () ↔ TokenSound plan token := by
  simp only [validateRestoredToken, passes, unmet]
  constructor
  · rintro ⟨node, hn, _, hlineage, hstate⟩
    refine ⟨⟨node, hn⟩, hlineage, ?_, ?_⟩
    · intro hopen
      cases hs : token.state <;> simp only [hs, proposed] at hopen hstate
      all_goals first
        | exact absurd hopen Bool.noConfusion
        | simpa [and_assoc] using hstate
    · intro hprop
      cases hs : token.state <;> simp only [hs, proposed] at hprop hstate
      all_goals first
        | exact absurd hprop Bool.noConfusion
        | exact (validateSelection_iff plan node token hn).mp hstate
  · intro h
    obtain ⟨node, hn⟩ := h.node
    refine ⟨node, hn, (), h.lineage, ?_⟩
    cases hs : token.state <;> simp only
    all_goals first
      | exact (validateSelection_iff plan node token hn).mpr (h.selected (by simp [hs, proposed]))
      | simpa [and_assoc] using h.unselected (by simp [hs, proposed])

namespace SchedulerV1

structure Wellformed (s : SchedulerV1) : Prop where
  ordinals : s.nodeOrdinals = ordinalTable s.plan.snapshot.nodes
  keyed : ∀ (key : String) (token : TokenV1), s.tokens[key]? = some token → token.tokenId.val = key
  sound : ∀ (key : String) (token : TokenV1), s.tokens[key]? = some token → TokenSound s.plan token

private theorem mem_ordinalTable (nodes : List WorkerNodeV1) (key : String) :
    key ∈ ordinalTable nodes ↔ key ∈ nodes.map fun node => node.nodeId.val := by
  have hfold : ∀ (entries : List (WorkerNodeV1 × Nat)) (table : ExtTreeMap String Nat),
      key ∈ entries.foldl (fun table entry => table.insert entry.1.nodeId.val entry.2) table ↔
        key ∈ table ∨ key ∈ entries.map fun entry => entry.1.nodeId.val := by
    intro entries
    induction entries with
    | nil => simp
    | cons entry rest ih =>
      intro table
      rw [List.foldl_cons, ih, mem_insert]
      simp only [LawfulEqOrd.compare_eq_iff_eq, List.map_cons, List.mem_cons]
      tauto
  rw [ordinalTable, hfold]
  have hmap : (nodes.zipIdx.map fun entry => entry.1.nodeId.val) = nodes.map fun node => node.nodeId.val := by
    have hcomp : (nodes.zipIdx.map Prod.fst).map (fun node => node.nodeId.val) =
        nodes.zipIdx.map fun entry => entry.1.nodeId.val := by rw [List.map_map]; rfl
    rw [← hcomp, List.zipIdx_map_fst]
  rw [hmap]
  simp

theorem Wellformed.ordinal_iff (h : Wellformed s) (hplan : PlanSound s.plan) (key : String) :
    key ∈ s.nodeOrdinals ↔ key ∈ s.plan.nodes := by
  rw [h.ordinals, mem_ordinalTable, hplan.node_mem]

theorem Wellformed.insert (h : Wellformed s) (hplan : s'.plan = s.plan) (hordinals : s'.nodeOrdinals = s.nodeOrdinals)
    (key : String) (token : TokenV1) (htokens : s'.tokens = s.tokens.insert key token) (hkey : token.tokenId.val = key)
    (hsound : TokenSound s.plan token) : Wellformed s' := by
  refine ⟨by rw [hordinals, hplan, h.ordinals], ?_, ?_⟩
  · rw [htokens]
    exact all_insert h.keyed hkey
  · rw [htokens, hplan]
    exact all_insert h.sound hsound

/-- A token that changes its state, but not its proposal, stays sound. -/
theorem Wellformed.restate (h : Wellformed s)
    (ht : s.tokens[key]? = some token) (state : TokenStateV1) (hs : token.state.proposed = state.proposed)
    (hplan : s'.plan = s.plan) (hordinals : s'.nodeOrdinals = s.nodeOrdinals)
    (htokens : s'.tokens = s.tokens.insert key { token with state }) : Wellformed s' := by
  have hold := h.sound key token ht
  refine h.insert hplan hordinals key _ htokens (h.keyed key token ht) ?_
  exact ⟨hold.node, hold.lineage, fun hp => hold.unselected (hs.trans hp), fun hp => hold.selected (hs.trans hp)⟩

theorem freshToken_sound (h : Wellformed s) (hplan : PlanSound s.plan) {node : StableId} {lineage : String}
    {ordinal : Nat} (hp : Placeable enc s node lineage ordinal tokenId) (revision : Nat) :
    TokenSound s.plan (s.freshToken tokenId node revision lineage) := by
  have hmem : node.val ∈ s.plan.nodes := by
    rw [← h.ordinal_iff hplan, mem_iff_isSome_getElem?, hp.known]
    rfl
  refine ⟨?_, hp.named, fun _ => ⟨rfl, rfl, rfl, rfl⟩, fun hprop => by cases hprop⟩
  exact isSome_iff_exists.mp (mem_iff_isSome_getElem?.mp hmem)

theorem cancellable_unproposed (lineage : String) (token : TokenV1) (h : cancellable lineage token = true) :
    token.state.proposed = false := by
  simp only [cancellable, met, Bool.or_eq_false_iff] at h
  revert h
  cases token.state <;> simp [proposed]

/-- Where a token of a cancelled scheduler comes from. -/
theorem cancelled_token (s : SchedulerV1) (lineage : String) (key : String) (token : TokenV1)
    (h : (s.cancelLineage lineage).2.tokens[key]? = some token) :
    ∃ old, s.tokens[key]? = some old ∧
      token = if cancellable lineage old then { old with state := .cancelled } else old := by
  simp only [cancelLineage, getElem?_map, map_eq_some_iff] at h
  obtain ⟨old, hold, rfl⟩ := h
  exact ⟨old, hold, rfl⟩

/-- Each move keeps the tokens well formed. -/
theorem move_wellformed (hm : Move enc s e s') (hplan : PlanSound s.plan) (h : Wellformed s) : Wellformed s' := by
  cases hm with
  | idle hashed => exact h
  | enqueued hp revision => exact h.insert rfl rfl _ _ rfl rfl (freshToken_sound h hplan hp revision)
  | claimed hfirst ht hs => exact h.restate ht .inFlight (by rw [hs]; rfl) rfl rfl rfl
  | dropped hfirst hn => exact ⟨h.ordinals, h.keyed, h.sound⟩
  | @awaited tokenId _ token _ _ _ _ ht hs hsel hloop hmat hid =>
    have hold := h.sound _ _ ht
    refine h.insert rfl rfl tokenId.val _ rfl (h.keyed tokenId.val token ht) ?_
    exact ⟨hold.node, hold.lineage, fun hp => Bool.noConfusion hp, fun _ => ⟨⟨_, rfl⟩, hsel⟩⟩
  | @admitted _ sourceId _ cursor _ source _ _ hack hsel ht hext hp revision =>
    have hadvanced : Wellformed (s.advance sourceId source cursor) :=
      h.restate hack.stored .completed (by rw [hack.waiting]; rfl) rfl rfl rfl
    exact hadvanced.insert rfl rfl _ _ rfl rfl (freshToken_sound hadvanced hplan hp revision)
  | interrupted hashed hack hsel ht hext he =>
    exact h.restate hack.stored .completed (by rw [hack.waiting]; rfl) rfl rfl rfl
  | completed hack hby hvalid => exact h.restate hack.stored .completed (by rw [hack.waiting]; rfl) rfl rfl rfl
  | suspended ht hs => exact h.restate ht .suspended (by rw [hs]; rfl) rfl rfl rfl
  | resumed ht hs ho | stranded ht hs ho => exact h.restate ht .ready (by rw [hs]; rfl) rfl rfl rfl
  | cancelled lineage =>
    refine ⟨h.ordinals, ?_, ?_⟩
    · intro key token ht
      obtain ⟨old, hold, rfl⟩ := cancelled_token s lineage key token ht
      rw [apply_ite tokenId, ite_self]
      exact h.keyed key old hold
    · intro key token ht
      obtain ⟨old, hold, rfl⟩ := cancelled_token s lineage key token ht
      have hsound := h.sound key old hold
      split
      · rename_i hc
        have hopen := cancellable_unproposed lineage old hc
        exact ⟨hsound.node, hsound.lineage, fun _ => hsound.unselected hopen, fun hp => by cases hp⟩
      · exact hsound

theorem new_wellformed (plan : ExecutionPlanV1) : Wellformed (new plan) :=
  ⟨rfl, by simp [new], by simp [new]⟩

end SchedulerV1

/-- A token whose pass through the loop is committed. -/
def TokenV1.completedIn (loop : StableId) (token : TokenV1) : Bool :=
  token.state == .completed && token.selectedLoopId == some loop

section Count
variable {p : TokenV1 → Bool} {tokens : ExtTreeMap String TokenV1} {old : TokenV1}

theorem countTokens_replace (h : tokens[key]? = some old) :
    countTokens p (tokens.insert key token) + (if p old then 1 else 0) =
      countTokens p tokens + if p token then 1 else 0 := by
  have hsum := sumValues_insert (fun token => if p token then 1 else 0) tokens key token
  rw [h] at hsum
  exact hsum

theorem countTokens_insert_le (hp : p token = false) :
    countTokens p (tokens.insert key token) ≤ countTokens p tokens := by
  have hsum := sumValues_insert (fun token => if p token then 1 else 0) tokens key token
  simp only [hp, Bool.false_eq_true, if_false, Nat.add_zero] at hsum
  exact Nat.le.intro hsum

theorem pendingIn_unproposed (loop : StableId) (h : token.state.proposed = false) : token.pendingIn loop = false := by
  cases hs : token.state <;> simp_all [pendingIn, proposed]

theorem completedIn_unproposed (loop : StableId) (h : token.state.proposed = false) :
    token.completedIn loop = false := by
  cases hs : token.state <;> simp_all [completedIn, proposed]

end Count

namespace SchedulerV1

/-- Committed passes through a loop, by the scheduler's own counter. -/
def committed (s : SchedulerV1) (loop : StableId) : Nat := s.loopCounts[loop.val]?.getD 0

def pending (s : SchedulerV1) (loop : StableId) : Nat := countTokens (pendingIn loop) s.tokens

def completedPasses (s : SchedulerV1) (loop : StableId) : Nat := countTokens (completedIn loop) s.tokens

/-- What a step can do to passes through loops: leave them, start one that the budget admits, or commit a pending
one. -/
inductive LoopMove (s s' : SchedulerV1) : Prop
  | starts (loop : Option StableId) (hroom : s.admitLoop loop = .ok ()) (hcounts : s'.loopCounts = s.loopCounts)
      (hpending : ∀ l, s'.pending l ≤ s.pending l + if loop = some l then 1 else 0)
      (hcompleted : ∀ l, s'.completedPasses l ≤ s.completedPasses l)
  | commits (loop : Option StableId) (hdeclared : ∀ l, loop = some l → ∃ d, s.plan.loopDescriptor l = some d)
      (hcounts : s'.loopCounts = countLoop s.loopCounts loop)
      (hpending : ∀ l, s'.pending l + (if loop = some l then 1 else 0) ≤ s.pending l)
      (hcompleted : ∀ l, s'.completedPasses l ≤ s.completedPasses l + if loop = some l then 1 else 0)

theorem LoopMove.quiet (hcounts : s'.loopCounts = s.loopCounts)
    (hle : ∀ p : TokenV1 → Bool, (∀ token : TokenV1, token.state.proposed = false → p token = false) →
      countTokens p s'.tokens ≤ countTokens p s.tokens) : LoopMove s s' := by
  refine .starts none rfl hcounts ?_ ?_
  · intro l
    exact Nat.le_add_right_of_le (hle _ fun _ => pendingIn_unproposed l)
  · intro l
    exact hle _ fun _ => completedIn_unproposed l

theorem LoopMove.quiet_insert (hcounts : s'.loopCounts = s.loopCounts)
    (htokens : s'.tokens = s.tokens.insert key token) (hp : token.state.proposed = false) : LoopMove s s' := by
  refine .quiet hcounts fun p hopen => ?_
  rw [htokens]
  exact countTokens_insert_le (hopen token hp)

theorem completion_loop (h : Wellformed s) (ht : s.tokens[key]? = some token) (hs : token.state = .awaitingCommit)
    (hn : token.selectedTransitionId = none) : token.selectedLoopId = none := by
  have hsel := ((h.sound key token ht).selected (by rw [hs]; rfl)).2
  rw [hn] at hsel
  generalize token.selectedLoopId = loop at hsel
  cases hsel
  rfl

/-- The loop a waiting token passes through is declared by the plan. -/
theorem waiting_loop_declared (hplan : PlanSound s.plan) (h : Wellformed s)
    (ht : s.tokens[key]? = some token) (hs : token.state = .awaitingCommit) (loop : StableId)
    (hl : token.selectedLoopId = some loop) : ∃ d, s.plan.loopDescriptor loop = some d := by
  have hsel := ((h.sound key token ht).selected (by rw [hs]; rfl)).2
  rw [hl] at hsel
  generalize token.selectedTransitionId = transition at hsel
  generalize token.externalCompletion = completion at hsel
  generalize hloop : some loop = selected at hsel
  cases hsel with
  | transition id t hfound hfrom => exact hplan.declaredLoop id.val t loop hfound hloop.symm
  | completion n c hn hc => cases hloop

theorem complete_passes
    (ht : s.tokens[sourceId.val]? = some source) (hs : source.state = .awaitingCommit) (cursor : Nat) (l : StableId) :
    (s.complete sourceId source cursor).pending l + (if source.selectedLoopId = some l then 1 else 0) = s.pending l ∧
      (s.complete sourceId source cursor).completedPasses l =
        s.completedPasses l + if source.selectedLoopId = some l then 1 else 0 := by
  have hpending := @countTokens_replace _ { source with state := .completed } (pendingIn l) _ _ ht
  have hcompleted := @countTokens_replace _ { source with state := .completed } (completedIn l) _ _ ht
  simp [pendingIn, hs] at hpending
  simp [completedIn, hs] at hcompleted
  exact ⟨hpending, hcompleted⟩

theorem advance_loopMove (hplan : PlanSound s.plan) (h : Wellformed s)
    {cursor : Nat} (hack : Acknowledgeable s proposalId cursor sourceId source)
    (hcounts : s'.loopCounts = countLoop s.loopCounts source.selectedLoopId)
    (hle : ∀ p : TokenV1 → Bool, (∀ token : TokenV1, token.state.proposed = false → p token = false) →
      countTokens p s'.tokens ≤ countTokens p (s.complete sourceId source cursor).tokens) : LoopMove s s' := by
  refine .commits source.selectedLoopId (waiting_loop_declared hplan h hack.stored hack.waiting) hcounts ?_ ?_
  · intro l
    have hpass := (complete_passes hack.stored hack.waiting cursor l).1
    have hnew : s'.pending l ≤ (s.complete sourceId source cursor).pending l := hle _ fun _ => pendingIn_unproposed l
    omega
  · intro l
    have hpass := (complete_passes hack.stored hack.waiting cursor l).2
    have hnew : s'.completedPasses l ≤ (s.complete sourceId source cursor).completedPasses l :=
      hle _ fun _ => completedIn_unproposed l
    omega

private theorem awaitCommit_loopMove {transition loop : Option StableId} {completion : Option ExternalCompletionV1}
    (ht : s.tokens[tokenId.val]? = some token) (hs : token.state = .inFlight) (hloop : s.admitLoop loop = .ok ()) :
    LoopMove s (s.awaitCommit tokenId token proposalId transition loop completion) := by
  refine .starts loop hloop rfl ?_ ?_
  · intro l
    have hsum := @countTokens_replace _ { token with
      state := .awaitingCommit, awaitingProposalId := some proposalId, selectedTransitionId := transition,
      selectedLoopId := loop, externalCompletion := completion } (pendingIn l) _ _ ht
    simp [pendingIn, hs] at hsum
    exact Nat.le_of_eq hsum
  · intro l
    exact countTokens_insert_le (by simp [completedIn])

theorem move_loops (hm : Move enc s e s') (hplan : PlanSound s.plan) (h : Wellformed s) : LoopMove s s' := by
  cases hm with
  | idle hashed | dropped hfirst hn => exact .quiet rfl fun _ _ => Nat.le_refl _
  | enqueued hp revision | claimed hfirst ht hs | suspended ht hs | resumed ht hs ho | stranded ht hs ho =>
    exact .quiet_insert rfl rfl rfl
  | awaited ht hs hsel hloop hmat hid => exact awaitCommit_loopMove ht hs hloop
  | admitted hack hsel ht hext hp revision =>
    exact advance_loopMove hplan h hack rfl fun p hopen => countTokens_insert_le (hopen _ rfl)
  | interrupted hashed hack hsel ht hext he => exact advance_loopMove hplan h hack rfl fun _ _ => Nat.le_refl _
  | completed hack hby hvalid =>
    refine advance_loopMove hplan h hack ?_ fun _ _ => Nat.le_refl _
    simp only [completesBy, Bool.and_eq_true, isNone_iff_eq_none] at hby
    rw [completion_loop h hack.stored hack.waiting hby.1.1]
    rfl
  | cancelled lineage =>
    refine .quiet rfl fun p hopen => ?_
    simp only [cancelLineage, countTokens, sumValues_map]
    refine sumValues_le _ _ _ fun token _ => ?_
    by_cases hc : cancellable lineage token = true
    · rw [if_pos hc, hopen { token with state := .cancelled } rfl]
      simp
    · rw [if_neg hc]

/-- Counted and pending passes stay within the bound of each declared loop. -/
structure Budget (s : SchedulerV1) : Prop where
  declared : ∀ key : String, key ∈ s.loopCounts → ∃ loop d, loop.val = key ∧ s.plan.loopDescriptor loop = some d
  within : ∀ loop d, s.plan.loopDescriptor loop = some d → s.committed loop + s.pending loop ≤ d.maximumIterations.toNat

private theorem admitLoop_ok (h : s.admitLoop (some loop) = .ok ()) {d : WorkerLoopDescriptorV1}
    (hd : s.plan.loopDescriptor loop = some d) : s.committed loop + s.pending loop < d.maximumIterations.toNat := by
  simp only [admitLoop, hd, passes, some.injEq, exists_eq_left', unmet, Nat.not_lt, Nat.not_le] at h
  obtain ⟨_, _, h⟩ := h
  have hmax := d.maximumIterations.toNat_lt
  unfold saturatingAdd u32Max at h
  simp only [committed, pending]
  omega

private theorem countLoop_committed (counts : ExtTreeMap String Nat) (loop : Option StableId) (l : StableId)
    (h : loop = some l → counts[l.val]?.getD 0 < u32Max) :
    (countLoop counts loop)[l.val]?.getD 0 = counts[l.val]?.getD 0 + if loop = some l then 1 else 0 := by
  cases loop with
  | none => simp [countLoop]
  | some other =>
    simp only [countLoop, getElem?_insert, LawfulEqOrd.compare_eq_iff_eq]
    by_cases ho : other = l
    · subst ho
      have hlt := h rfl
      simp only [if_true, getD_some]
      unfold u32Max at hlt
      omega
    · have hne : other.val ≠ l.val := fun hv => ho (StableId.val_injective hv)
      simp [hne, ho]

/-- A committed pass is counted without wrapping while the budget holds. -/
theorem loopMove_committed {limit : UInt32} (hcounts : s'.loopCounts = countLoop s.loopCounts loop)
    (hpending : ∀ l, s'.pending l + (if loop = some l then 1 else 0) ≤ s.pending l)
    (hwithin : s.committed l + s.pending l ≤ limit.toNat) :
    s'.committed l = s.committed l + if loop = some l then 1 else 0 := by
  rw [committed, hcounts]
  refine countLoop_committed s.loopCounts loop l ?_
  intro hl
  have hone := hpending l
  have hmax := limit.toNat_lt
  simp only [committed, hl, if_true] at hone hwithin
  unfold u32Max
  omega

/-- A step that commits keeps the sum of committed and pending passes; one that starts a pass was below the bound. -/
theorem loopMove_budget (hm : LoopMove s s') (hplan : s'.plan = s.plan) (h : Budget s) : Budget s' := by
  cases hm with
  | starts loop hroom hcounts hpending hcompleted =>
    refine ⟨by rw [hcounts, hplan]; exact h.declared, ?_⟩
    intro l d hd
    rw [hplan] at hd
    have hold := h.within l d hd
    have hnew := hpending l
    have hsame : s'.committed l = s.committed l := by rw [committed, hcounts, committed]
    by_cases hl : loop = some l
    · subst hl
      have hlt := admitLoop_ok hroom hd
      simp only [if_true] at hnew
      omega
    · simp only [hl, if_false, Nat.add_zero] at hnew
      omega
  | commits loop hdeclared hcounts hpending hcompleted =>
    refine ⟨?_, ?_⟩
    · intro key hkey
      rw [hplan]
      rw [hcounts] at hkey
      cases loop with
      | none => exact h.declared key hkey
      | some l =>
        rcases mem_insert.mp hkey with hcmp | hold
        · obtain ⟨d, hd⟩ := hdeclared l rfl
          exact ⟨l, d, LawfulEqOrd.compare_eq_iff_eq.mp hcmp, hd⟩
        · exact h.declared key hold
    · intro l d hd
      rw [hplan] at hd
      have hold := h.within l d hd
      have hnew := hpending l
      have hcommitted := loopMove_committed hcounts hpending (h.within l d hd)
      omega

private theorem move_budget (hm : Move enc s e s') (hplan : PlanSound s.plan) (hw : Wellformed s) (h : Budget s) : Budget s' :=
  loopMove_budget (move_loops hm hplan hw) hm.plan_eq h

private theorem new_budget (plan : ExecutionPlanV1) : Budget (new plan) := by
  refine ⟨by simp [new], ?_⟩
  intro loop d _
  have hnone : countTokens (pendingIn loop) ∅ = 0 := sumValues_empty _
  simp [committed, pending, new, hnone]

/-- What holds of the scheduler after every chain of steps. -/
structure Invariant (s : SchedulerV1) : Prop where
  plan : PlanSound s.plan
  wellformed : Wellformed s
  budget : Budget s

private theorem move_invariant (hm : Move enc s e s') (h : Invariant s) : Invariant s' :=
  ⟨hm.plan_eq ▸ h.plan, move_wellformed hm h.plan h.wellformed, move_budget hm h.plan h.wellformed h.budget⟩

theorem moves_invariant (hm : Moves enc s e s') (h : Invariant s) : Invariant s' := by
  induction hm with
  | refl => exact h
  | snoc _ hmove ih => exact move_invariant hmove ih

theorem new_invariant {plan : ExecutionPlanV1} (h : PlanSound plan) : Invariant (new plan) :=
  ⟨h, new_wellformed plan, new_budget plan⟩

end SchedulerV1
end Aworkit.Worker
