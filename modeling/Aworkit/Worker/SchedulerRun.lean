import Aworkit.Worker.SchedulerMove

/-! Every operation, and so every run, is a chain of steps with its hashed texts and admitted tokens. -/
namespace Aworkit.Worker.SchedulerV1
open Protocol Fallible OrderedMap Except

/-- The text an enqueue hashes, once the node and the lineage are accepted. -/
def enqueueHashed (s : SchedulerV1) (node : StableId) (lineage : String) : List String :=
  if s.nodeOrdinals.contains node.val && validLineage lineage then
    [tokenMaterial s.plan.fingerprint s.nextTokenOrdinal node lineage]
  else []

variable (enc : Encoding)

def seedHashed (enc : Encoding) (revision : Nat) : List StableId → SchedulerV1 → List String
  | [], _ => []
  | node :: rest, s =>
    s.enqueueHashed node "root" ++
      match s.enqueue enc node revision "root" with
      | (.error _, _) => []
      | (.ok _, s') => seedHashed enc revision rest s'

variable (s : SchedulerV1)

/-- The texts an operation derives identifiers from. -/
def hashed : Operation → List String
  | .seedEntries revision => seedHashed enc revision s.plan.snapshot.entryNodes s
  | .enqueue node _ lineage => s.enqueueHashed node lineage
  | .proposeTransition tokenId facts =>
    match s.checkTransition enc tokenId facts with
    | .error _ => []
    | .ok (_, transition, _) => [transitionMaterial s.plan.fingerprint tokenId transition.transitionId]
  | .proposeTerminal tokenId outcome _ =>
    match s.checkTerminal enc tokenId outcome with
    | .error _ => []
    | .ok _ => [terminalMaterial s.plan.fingerprint tokenId outcome]
  | .proposeWaitInput tokenId _ =>
    match s.checkWaitInput enc tokenId with
    | .error _ => []
    | .ok _ => [waitInputMaterial s.plan.fingerprint tokenId]
  | .acknowledgeTransition proposalId cursor _ =>
    if s.committedCursor < cursor ∧ s.acknowledgedProposals[proposalId.val]? = none then
      match s.checkSource proposalId with
      | .error _ => []
      | .ok (_, source, transition) => s.enqueueHashed transition.toNode source.branchLineage
    else []
  | _ => []

/-- Whether an operation is an acknowledgement that admits a token anew. -/
def admitted : Operation → Nat
  | .acknowledgeTransition proposalId cursor revision =>
    match (s.acknowledgeTransition enc proposalId cursor revision).1 with
    | .error _ => 0
    | .ok admission => if admission.duplicate then 0 else 1
  | _ => 0

/-- How many tokens an operation may enqueue for its caller. -/
def enqueueLimit (plan : ExecutionPlanV1) : Operation → Nat
  | .seedEntries _ => plan.snapshot.entryNodes.length
  | .enqueue _ _ _ => 1
  | _ => 0

theorem enqueueHashed_of_placeable {enc : Encoding} {s : SchedulerV1} {node : StableId} {lineage : String}
    {ordinal : Nat} {tokenId : StableId} (h : Placeable enc s node lineage ordinal tokenId) :
    s.enqueueHashed node lineage = [tokenMaterial s.plan.fingerprint s.nextTokenOrdinal node lineage] := by
  have hcontains : s.nodeOrdinals.contains node.val = true := by
    rw [Std.ExtTreeMap.contains_eq_isSome_getElem?, h.known]
    rfl
  simp [enqueueHashed, hcontains, h.named]

theorem enqueue_moves (node : StableId) (revision : Nat) (lineage : String) :
    ∃ n ≤ 1, Moves enc s ⟨s.enqueueHashed node lineage, n, 0⟩ (s.enqueue enc node revision lineage).2 := by
  rcases enqueue_cases enc s node revision lineage with ⟨e, he⟩ | ⟨ordinal, tokenId, hp⟩
  · rw [he]
    exact ⟨0, Nat.zero_le _, .single (.idle _)⟩
  · rw [enqueue_of_placeable hp, enqueueHashed_of_placeable hp]
    exact ⟨1, Nat.le_refl _, .single (.enqueued hp revision)⟩

theorem seedFrom_moves (revision : Nat) (nodes : List StableId) (s : SchedulerV1) :
    ∃ n ≤ nodes.length, Moves enc s ⟨seedHashed enc revision nodes s, n, 0⟩ (seedFrom enc revision nodes s).2 := by
  induction nodes generalizing s with
  | nil => exact ⟨0, Nat.le_refl _, .refl⟩
  | cons node rest ih =>
    rcases enqueue_cases enc s node revision "root" with ⟨e, he⟩ | ⟨ordinal, tokenId, hp⟩
    · refine ⟨0, Nat.zero_le _, ?_⟩
      simp only [seedFrom, seedHashed, he]
      exact .single (.idle _)
    · have henq := enqueue_of_placeable hp revision
      obtain ⟨n, hn, hrest⟩ := ih (s.place ordinal (s.freshToken tokenId node revision "root"))
      refine ⟨1 + n, by simp only [List.length_cons]; omega, ?_⟩
      have hfirst := Moves.single (Move.enqueued hp revision)
      have hall := hfirst.trans hrest
      have hseed : (seedFrom enc revision (node :: rest) s).2 =
          (seedFrom enc revision rest (s.place ordinal (s.freshToken tokenId node revision "root"))).2 := by
        simp only [seedFrom, henq]
        split <;> simp [*]
      rw [hseed]
      simp only [seedHashed, henq, enqueueHashed_of_placeable hp]
      exact hall

theorem claimNext_move : Move enc s ⟨[], 0, 0⟩ s.claimNext.2 := by
  unfold claimNext
  cases hfirst : s.ready.toList.head? with
  | none => exact .idle []
  | some key =>
    simp only
    cases ht : s.tokens[key.tokenId]? with
    | none => exact .dropped hfirst (by simp [ht])
    | some token =>
      by_cases hs : token.state = .ready
      · simp only [hs, ne_eq, not_true_eq_false, if_false]
        exact .claimed hfirst ht hs
      · simp only [ne_eq, hs, not_false_eq_true, if_true]
        refine .dropped hfirst ?_
        intro other ho
        rw [ht] at ho
        cases ho
        exact hs

private theorem firstMatching_mem (facts : Value) (node : StableId) (edges : List WorkerTransitionV1) (t : WorkerTransitionV1)
    (h : firstMatching facts node edges = .ok t) : t ∈ edges := by
  induction edges with
  | nil => cases h
  | cons edge rest ih =>
    unfold firstMatching at h
    split at h
    · cases h
      exact List.mem_cons_self
    · split at h
      · cases h
      · cases h
        exact List.mem_cons_self
      · exact List.mem_cons_of_mem _ (ih h)

private theorem selectTransition_ok (hplan : PlanSound s.plan) (node : StableId) (facts : Value) (t : WorkerTransitionV1)
    (h : s.selectTransition node facts = .ok t) : s.plan.transition t.transitionId = some t ∧ t.fromNode = node := by
  unfold selectTransition at h
  simp only at h
  split at h
  · exact hplan.outgoing (firstMatching_mem facts node _ t h)
  · split at h
    · cases h
    · rename_i decision hdecision
      rw [require_eq_ok] at h
      obtain ⟨rule, hrule, hdest⟩ := chooseRoute_mem node _ facts decision hdecision
      obtain ⟨t', ht', hfrom⟩ := hplan.routes node rule hrule
      rw [hdest, ht'] at h
      cases h
      have hkey := ((hplan.transitions _ _).mp ht').2
      exact ⟨by rw [ExecutionPlanV1.transition, hkey]; exact ht', hfrom⟩

variable (tokenId : StableId)

theorem claimedToken_ok (token : TokenV1)
    (h : s.claimedToken tokenId = .ok token) : s.tokens[tokenId.val]? = some token ∧ token.state = .inFlight := by
  simp only [claimedToken, passes, unmet, ok.injEq] at h
  obtain ⟨found, hfound, _, hstate, rfl⟩ := h
  exact ⟨hfound, hstate⟩

theorem proposeTransition_move (hplan : PlanSound s.plan) (tokenId : StableId) (facts : Value) :
    Move enc s ⟨hashed enc s (.proposeTransition tokenId facts), 0, 0⟩ (s.proposeTransition enc tokenId facts).2 := by
  unfold proposeTransition
  simp only [hashed]
  cases hc : s.checkTransition enc tokenId facts with
  | error e => exact .idle []
  | ok checked =>
    obtain ⟨token, transition, proposalId⟩ := checked
    simp only [checkTransition, bind_ok_iff, ok.injEq, Prod.mk.injEq] at hc
    obtain ⟨_, htoken, _, hselect, _, hloop, _, hid, rfl, rfl, rfl⟩ := hc
    obtain ⟨ht, hs⟩ := claimedToken_ok s tokenId _ htoken
    obtain ⟨htrans, hfrom⟩ := selectTransition_ok s hplan _ facts _ hselect
    exact .awaited ht hs (.transition _ _ htrans hfrom) hloop (.transition _) hid

theorem hasExecutor_node (node : StableId) (executor : WorkerExecutorKindV1)
    (h : s.hasExecutor node executor = true) : ∃ n, s.plan.node node = some n ∧ n.executor = executor := by
  unfold hasExecutor at h
  cases hn : s.plan.node node with
  | none => simp [hn] at h
  | some n => exact ⟨n, rfl, by simpa [hn] using h⟩

theorem proposeTerminal_move (outcome : String) (facts : Value) :
    Move enc s ⟨hashed enc s (.proposeTerminal tokenId outcome facts), 0, 0⟩
      (s.proposeTerminal enc tokenId outcome facts).2 := by
  unfold proposeTerminal
  simp only [hashed]
  cases hc : s.checkTerminal enc tokenId outcome with
  | error e => exact .idle []
  | ok checked =>
    obtain ⟨token, proposalId⟩ := checked
    simp only [checkTerminal, passes, ok.injEq, Prod.mk.injEq, unmet] at hc
    obtain ⟨_, htoken, _, hexec, _, _, _, hid, rfl, rfl⟩ := hc
    obtain ⟨ht, hs⟩ := claimedToken_ok s tokenId _ htoken
    obtain ⟨n, hn, hkind⟩ := hasExecutor_node s _ _ hexec
    exact .awaited ht hs (.completion n none hn (by rw [hkind]; rfl)) rfl (.terminal outcome) hid

theorem proposeWaitInput_move (facts : Value) :
    Move enc s ⟨hashed enc s (.proposeWaitInput tokenId facts), 0, 0⟩ (s.proposeWaitInput enc tokenId facts).2 := by
  unfold proposeWaitInput
  simp only [hashed]
  cases hc : s.checkWaitInput enc tokenId with
  | error e => exact .idle []
  | ok checked =>
    obtain ⟨token, proposalId⟩ := checked
    simp only [checkWaitInput, passes, ok.injEq, Prod.mk.injEq, unmet] at hc
    obtain ⟨_, htoken, _, hexec, _, hid, rfl, rfl⟩ := hc
    obtain ⟨ht, hs⟩ := claimedToken_ok s tokenId _ htoken
    obtain ⟨n, hn, hkind⟩ := hasExecutor_node s _ _ hexec
    exact .awaited ht hs (.completion n _ hn (by rw [hkind]; rfl)) rfl .waitInput hid

theorem checkSource_ok (proposalId sourceId : StableId) (source : TokenV1) (t : WorkerTransitionV1)
    (h : s.checkSource proposalId = .ok (sourceId, source, t)) :
    (∃ token, s.sourceOf proposalId = some token ∧ token.tokenId = sourceId) ∧
      s.tokens[sourceId.val]? = some source ∧ source.state = .awaitingCommit ∧ source.externalCompletion = none ∧
      ∃ id, source.selectedTransitionId = some id ∧ s.plan.transition id = some t := by
  simp only [checkSource, passes, ok.injEq, Prod.mk.injEq, unmet, Option.isSome_eq_false_iff,
    Option.isNone_iff_eq_none] at h
  obtain ⟨found, hfound, _, hstored, _, ⟨hwait, hext⟩, id, hid, _, ht, rfl, rfl, rfl⟩ := h
  exact ⟨⟨found, hfound, rfl⟩, hstored, hwait, hext, id, hid, ht⟩

theorem acknowledgeTransition_move (proposalId : StableId) (cursor revision : Nat) :
    Move enc s ⟨hashed enc s (.acknowledgeTransition proposalId cursor revision), 0,
      admitted enc s (.acknowledgeTransition proposalId cursor revision)⟩
      (s.acknowledgeTransition enc proposalId cursor revision).2 := by
  by_cases hback : cursor < s.committedCursor
  · have he : s.acknowledgeTransition enc proposalId cursor revision = (.error .cursorRegression, s) := by
      simp [acknowledgeTransition, hback]
    simp only [admitted, he]
    exact .idle _
  · cases hack : s.acknowledgedProposals[proposalId.val]? with
    | some child =>
      have he : s.acknowledgeTransition enc proposalId cursor revision =
          (.ok ⟨true, child.bind fun id => s.tokens[id]?⟩, s) := by
        simp [acknowledgeTransition, hback, hack]
      simp only [admitted, he, if_true]
      exact .idle _
    | none =>
      by_cases hstay : cursor ≤ s.committedCursor
      · have he : s.acknowledgeTransition enc proposalId cursor revision = (.error .cursorRegression, s) := by
          simp [acknowledgeTransition, hback, hack, hstay]
        simp only [admitted, he]
        exact .idle _
      · have hlater : s.committedCursor < cursor := Nat.lt_of_not_le hstay
        cases hsource : s.checkSource proposalId with
        | error e =>
          have he : s.acknowledgeTransition enc proposalId cursor revision = (.error e, s) := by
            simp [acknowledgeTransition, hback, hack, hstay, hsource]
          simp only [admitted, he]
          exact .idle _
        | ok checked =>
          obtain ⟨sourceId, source, t⟩ := checked
          obtain ⟨hfound, hstored, hwait, hext, id, hid, ht⟩ := checkSource_ok s proposalId sourceId source t hsource
          have hready : Acknowledgeable s proposalId cursor sourceId source := ⟨hlater, hack, hfound, hstored, hwait⟩
          have hhash : hashed enc s (.acknowledgeTransition proposalId cursor revision) =
              (s.advance sourceId source cursor).enqueueHashed t.toNode source.branchLineage := by
            simp only [hashed, hlater, hack, and_self, if_true, hsource]
            rfl
          rcases enqueue_cases enc (s.advance sourceId source cursor) t.toNode revision source.branchLineage with
            ⟨e, he⟩ | ⟨ordinal, childId, hp⟩
          · have hall : s.acknowledgeTransition enc proposalId cursor revision =
                (.error e, s.advance sourceId source cursor) := by
              simp [acknowledgeTransition, hback, hack, hstay, hsource, he]
            simp only [admitted, hall]
            exact .interrupted _ hready hid ht hext he
          · have henq := enqueue_of_placeable hp revision
            have hall : s.acknowledgeTransition enc proposalId cursor revision = (.ok ⟨false, some
                ((s.advance sourceId source cursor).freshToken childId t.toNode revision source.branchLineage)⟩,
                { (s.advance sourceId source cursor).place ordinal
                    ((s.advance sourceId source cursor).freshToken childId t.toNode revision source.branchLineage) with
                  acknowledgedProposals := s.acknowledgedProposals.insert proposalId.val (some childId.val) }) := by
              simp only [acknowledgeTransition, hback, hack, hstay, hsource, henq, if_false]
              rfl
            rw [hhash, enqueueHashed_of_placeable hp]
            simp only [admitted, hall, Bool.false_eq_true, if_false]
            exact .admitted hready hid ht hext hp revision

theorem acknowledgeCompletion_move (executor : WorkerExecutorKindV1) (completion : Option ExternalCompletionV1)
    (hvalid : validCompletion executor completion = true) (s : SchedulerV1) (proposalId : StableId) (cursor : Nat) :
    Move enc s ⟨[], 0, 0⟩ (acknowledgeCompletion executor completion s proposalId cursor).2 := by
  unfold acknowledgeCompletion
  split
  · exact .idle []
  · split
    · split
      · exact .idle []
      · split <;> exact .idle []
    · rename_i hseen
      split
      · exact .idle []
      · rename_i hstay
        cases hc : s.checkCompletion executor completion proposalId with
        | error e => exact .idle []
        | ok checked =>
          obtain ⟨sourceId, source⟩ := checked
          simp only [checkCompletion, passes, ok.injEq, Prod.mk.injEq, unmet] at hc
          obtain ⟨found, hfound, _, hstored, _, ⟨hwait, hby⟩, rfl, rfl⟩ := hc
          have hunseen : s.acknowledgedProposals[proposalId.val]? = none := by
            rw [Std.ExtTreeMap.contains_eq_isSome_getElem?] at hseen
            simpa using hseen
          exact .completed ⟨Nat.lt_of_not_le hstay, hunseen, ⟨found, hfound, rfl⟩, hstored, hwait⟩ hby hvalid

private theorem suspend_move : Move enc s ⟨[], 0, 0⟩ (s.suspend tokenId).2 := by
  unfold suspend
  cases ht : s.tokens[tokenId.val]? with
  | none => exact .idle []
  | some token =>
    by_cases hs : token.state = .inFlight
    · simp only [hs, ne_eq, not_true_eq_false, if_false]
      exact .suspended ht hs
    · simp only [ne_eq, hs, not_false_eq_true, if_true]
      exact .idle []

private theorem resume_move : Move enc s ⟨[], 0, 0⟩ (s.resume tokenId).2 := by
  unfold resume
  cases ht : s.tokens[tokenId.val]? with
  | none => exact .idle []
  | some token =>
    by_cases hs : token.state = .suspended
    · simp only [hs, ne_eq, not_true_eq_false, if_false]
      cases ho : s.nodeOrdinals[token.nodeId.val]? with
      | none => exact .stranded ht hs ho
      | some ordinal => exact .resumed ht hs ho
    · simp only [ne_eq, hs, not_false_eq_true, if_true]
      exact .idle []

theorem perform_moves (hplan : PlanSound s.plan) (op : Operation) :
    ∃ n ≤ enqueueLimit s.plan op, Moves enc s ⟨hashed enc s op, n, admitted enc s op⟩ (perform enc s op) := by
  cases op with
  | seedEntries revision => exact seedFrom_moves enc revision s.plan.snapshot.entryNodes s
  | enqueue node revision lineage => exact enqueue_moves enc s node revision lineage
  | claimNext => exact ⟨0, Nat.le_refl _, .single (claimNext_move enc s)⟩
  | proposeTransition tokenId facts =>
    exact ⟨0, Nat.le_refl _, .single (proposeTransition_move enc s hplan tokenId facts)⟩
  | proposeTerminal tokenId outcome facts =>
    exact ⟨0, Nat.le_refl _, .single (proposeTerminal_move enc s tokenId outcome facts)⟩
  | proposeWaitInput tokenId facts => exact ⟨0, Nat.le_refl _, .single (proposeWaitInput_move enc s tokenId facts)⟩
  | acknowledgeTransition proposalId cursor revision =>
    exact ⟨0, Nat.le_refl _, .single (acknowledgeTransition_move enc s proposalId cursor revision)⟩
  | acknowledgeTerminal proposalId cursor | acknowledgeWaitInput proposalId cursor =>
    exact ⟨0, Nat.le_refl _, .single (acknowledgeCompletion_move enc _ _ rfl s proposalId cursor)⟩
  | suspend tokenId => exact ⟨0, Nat.le_refl _, .single (suspend_move enc s tokenId)⟩
  | resume tokenId => exact ⟨0, Nat.le_refl _, .single (resume_move enc s tokenId)⟩
  | cancelLineage lineage => exact ⟨0, Nat.le_refl _, .single (.cancelled lineage)⟩

/-- The texts a run hashes, in order. -/
def hashes (enc : Encoding) : SchedulerV1 → List Operation → List String
  | _, [] => []
  | s, op :: rest => hashed enc s op ++ hashes enc (perform enc s op) rest

/-- How many tokens the transition acknowledgements of a run admit. -/
def admissions (enc : Encoding) : SchedulerV1 → List Operation → Nat
  | _, [] => 0
  | s, op :: rest => admitted enc s op + admissions enc (perform enc s op) rest

theorem Moves.plan_eq {s s' : SchedulerV1} (h : Moves enc s e s') : s'.plan = s.plan := by
  induction h with
  | refl => rfl
  | snoc _ hm ih => rw [hm.plan_eq, ih]

theorem run_moves (enc : Encoding) (s : SchedulerV1) (hplan : PlanSound s.plan) (ops : List Operation) :
    ∃ n ≤ (ops.map (enqueueLimit s.plan)).sum,
      Moves enc s ⟨hashes enc s ops, n, admissions enc s ops⟩ (run enc s ops) := by
  induction ops generalizing s with
  | nil => exact ⟨0, Nat.le_refl _, .refl⟩
  | cons op rest ih =>
    obtain ⟨n, hn, hfirst⟩ := perform_moves enc s hplan op
    have hp := hfirst.plan_eq
    obtain ⟨m, hm, hrest⟩ := ih (perform enc s op) (hp ▸ hplan)
    rw [hp] at hm
    refine ⟨n + m, by simp only [List.map_cons, List.sum_cons]; omega, ?_⟩
    exact hfirst.trans hrest

end Aworkit.Worker.SchedulerV1
