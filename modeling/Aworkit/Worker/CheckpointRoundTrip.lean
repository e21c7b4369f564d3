import Aworkit.Worker.SchedulerTrace
import Aworkit.Worker.SchedulerBound

/-! Every scheduler of a run is restored from its own checkpoint. -/
namespace Aworkit.Worker.SchedulerV1
open Protocol Fallible OrderedMap Std List ExtTreeSet

variable {source : TokenV1} {id p sourceId : StableId} {cursor : Nat} {e : Effect} {t : WorkerTransitionV1}

/-- Each token takes more than one byte of a 64-bit address space, so token ordinals are never used up. -/
def Addressable (s : SchedulerV1) : Prop := s.tokens.size + 1 < u64Max

structure Traced (enc : Encoding) (hashed : List String) (s : SchedulerV1) : Prop where
  minted : Minted enc hashed s
  queued : Queued s
  receipts : Receipts s

section Moves
variable {enc : Encoding} {hashed : List String} {s s' : SchedulerV1}

/-- A change of one token between open states that the queue already follows. -/
theorem Traced.restate (h : Traced enc hashed s) {t : TokenV1} (ht : s.tokens[key]? = some t)
    (state : TokenStateV1) (hs : t.state.proposed = false) (hs' : state.proposed = false)
    (hplan : s'.plan = s.plan) (hnext : s'.nextTokenOrdinal = s.nextTokenOrdinal)
    (htick : s'.logicalTick = s.logicalTick) (htokens : s'.tokens = s.tokens.insert key { t with state })
    (hacks : s'.acknowledgedProposals = s.acknowledgedProposals) (hcursor : s'.committedCursor = s.committedCursor)
    (hqueued : Queued s') : Traced enc hashed s' := by
  have hevolves : Evolves (DerivedFor enc hashed s.plan.fingerprint) s s' :=
    .insert ht (.restates t state hs hs') htokens
  refine ⟨h.minted.evolve hevolves hplan hnext (Nat.le_of_eq htick.symm) (htick ▸ h.minted.tick), hqueued, ?_⟩
  refine h.receipts.keep hplan hevolves.forth ?_ hacks hcursor
  rw [htokens]
  refine all_insert (fun _ _ hold _ => hold) fun hdone => ?_
  rw [show state = .completed from hdone] at hs'
  cases hs'

theorem Traced.place (h : Traced enc hashed s) (hinj : Uncollided enc hashed) (hw : Wellformed s)
    (hp : Placeable enc s node lineage ordinal tokenId)
    (hmem : tokenMaterial s.plan.fingerprint s.nextTokenOrdinal node lineage ∈ hashed) (revision : Nat) :
    Traced enc hashed (s.place ordinal (s.freshToken tokenId node revision lineage)) := by
  have hfresh := h.minted.fresh hinj hw hp hmem
  refine ⟨h.minted.place hp hmem hfresh revision, ?_, ?_⟩
  · refine h.queued.enter rfl ?_ rfl rfl rfl hp.known
    intro old hold
    rw [show (s.freshToken tokenId node revision lineage).tokenId = tokenId from rfl, hfresh] at hold
    cases hold
  · refine @Receipts.keep (fun _ _ => False) _ _ h.receipts rfl
      (fun key old hold => ⟨old, place_lookup ordinal hfresh hold, .stays old⟩) ?_ rfl rfl
    exact all_insert (fun _ _ hold _ => hold) nofun

theorem awaited_traced (h : Traced enc hashed s) {tokenId proposalId : StableId} {token : TokenV1}
    (hw : Wellformed s) (ht : s.tokens[tokenId.val]? = some token) (hs : token.state = .inFlight)
    (hm : ProposalMaterial s.plan.fingerprint tokenId material) (hid : stableId enc material = .ok proposalId)
    (hmem : material ∈ hashed) :
    Traced enc hashed (s.awaitCommit tokenId token proposalId transition loop completion) := by
  have hsame : token.tokenId = tokenId := StableId.val_injective (hw.keyed _ _ ht)
  have hevolves : Evolves (DerivedFor enc hashed s.plan.fingerprint) s
      (s.awaitCommit tokenId token proposalId transition loop completion) :=
    .insert ht (.proposes token proposalId transition loop completion hs ⟨material, hmem, hsame ▸ hm, hid⟩) rfl
  refine ⟨h.minted.evolve hevolves rfl rfl (Nat.le_refl _) h.minted.tick, ?_, ?_⟩
  · exact h.queued.insert ht (by simp [hs]) (by simp) rfl rfl rfl
  · refine h.receipts.keep rfl hevolves.forth ?_ rfl rfl
    exact all_insert (fun _ _ hold _ => hold) nofun

theorem complete_evolves (hack : Acknowledgeable s p cursor sourceId source) (derived : StableId → StableId → Prop) :
    Evolves derived s (s.complete sourceId source cursor) :=
  .insert hack.stored (.completes source hack.waiting) rfl

theorem complete_done (hw : Wellformed s) (hack : Acknowledgeable s p cursor sourceId source) (key : String)
    (t : TokenV1) (ht : (s.complete sourceId source cursor).tokens[key]? = some t) :
    s.tokens[key]? = some t ∨ t.awaitingProposalId = some p := by
  rcases found_insert ht with ⟨_, rfl⟩ | ⟨_, hold⟩
  · exact .inr (hack.awaits hw)
  · exact .inl hold

theorem complete_minted (h : Traced enc hashed s) (hack : Acknowledgeable s p cursor sourceId source) :
    Minted enc hashed (s.complete sourceId source cursor) ∧ Queued (s.complete sourceId source cursor) := by
  have htick := h.minted.tick
  refine ⟨h.minted.evolve (complete_evolves hack _) rfl rfl ?_ ?_, ?_⟩
  · exact Nat.le_min.mpr ⟨Nat.le_succ _, htick⟩
  · exact Nat.min_le_right _ _
  · exact h.queued.insert hack.stored (by simp [hack.waiting]) (by simp) rfl rfl rfl

theorem admitted_traced (h : Traced enc hashed s) (hinj : Uncollided enc hashed) (hi : Invariant s)
    {childId : StableId}
    (hack : Acknowledgeable s p cursor sourceId source) (hsel : source.selectedTransitionId = some id)
    (ht : s.plan.transition id = some t) (hext : source.externalCompletion = none)
    (hp : Placeable enc (s.advance sourceId source cursor) t.toNode source.branchLineage ordinal childId)
    (hmem : tokenMaterial s.plan.fingerprint s.nextTokenOrdinal t.toNode source.branchLineage ∈ hashed)
    (revision : Nat) : Traced enc hashed { (s.advance sourceId source cursor).place ordinal
        ((s.advance sourceId source cursor).freshToken childId t.toNode revision source.branchLineage) with
      acknowledgedProposals := s.acknowledgedProposals.insert p.val (some childId.val) } := by
  have hw := hi.wellformed
  obtain ⟨hm, hq⟩ := complete_minted h hack
  have hadvanced : Wellformed (s.advance sourceId source cursor) :=
    hw.restate hack.stored .completed (by rw [hack.waiting]; rfl) rfl rfl rfl
  have hminted : Minted enc hashed (s.advance sourceId source cursor) :=
    ⟨hm.size, hm.tick, hm.ticks, hm.origin, hm.proposals⟩
  have hqueued : Queued (s.advance sourceId source cursor) := ⟨hq.named, hq.queued⟩
  have hfresh := hminted.fresh hinj hadvanced hp hmem
  have hplaced := hminted.place hp hmem hfresh revision
  have hentered : Queued ((s.advance sourceId source cursor).place ordinal
      ((s.advance sourceId source cursor).freshToken childId t.toNode revision source.branchLineage)) := by
    refine hqueued.enter rfl ?_ rfl rfl rfl hp.known
    intro old hold
    cases hfresh.symm.trans hold
  refine ⟨⟨hplaced.size, hplaced.tick, hplaced.ticks, hplaced.origin, hplaced.proposals⟩,
    ⟨hentered.named, hentered.queued⟩, ?_⟩
  have hkey : source.tokenId.val = sourceId.val := hw.keyed _ _ hack.stored
  refine @Receipts.acknowledge p (fun _ _ => False) s _ h.receipts rfl ?_ (some childId.val)
    { source with state := .completed } ?_ rfl hack.later ?_ (hack.awaits hw) rfl ?_
  · intro key old hold
    obtain ⟨t', ht', hstep⟩ := (complete_evolves hack (fun _ _ => False)).forth key old hold
    exact ⟨t', place_lookup ordinal hfresh ht', hstep⟩
  · exact all_insert (fun key found hold _ => complete_done hw hack key found hold) nofun
  · exact place_lookup ordinal hfresh (hkey ▸ ExtTreeMap.getElem?_insert_self)
  · refine ⟨_, t, ExtTreeMap.getElem?_insert_self, ?_, rfl, rfl, hext⟩
    show source.selectedTransitionId.bind s.plan.transition = some t
    rw [hsel, Option.bind_some, ht]

/-- A transition that cannot admit its child has used up the token ordinals. -/
theorem interrupted_exhausted (hi : Invariant s) {cursor revision : Nat}
    {e : SchedulerErrorV1} (hack : Acknowledgeable s p cursor sourceId source) (ht : s.plan.transition id = some t)
    (he : (s.advance sourceId source cursor).enqueue enc t.toNode revision source.branchLineage =
      (.error e, s.advance sourceId source cursor)) : u64Max ≤ s.nextTokenOrdinal := by
  by_contra hlt
  have hnode := hi.plan.target _ t ht
  rw [← hi.wellformed.ordinal_iff hi.plan, ExtTreeMap.mem_iff_isSome_getElem?] at hnode
  obtain ⟨ordinal, hordinal⟩ := Option.isSome_iff_exists.mp hnode
  obtain ⟨childId, hid⟩ := stableId_ok enc
    (tokenMaterial s.plan.fingerprint s.nextTokenOrdinal t.toNode source.branchLineage)
  have hp : Placeable enc (s.advance sourceId source cursor) t.toNode source.branchLineage ordinal childId :=
    ⟨hordinal, (hi.wellformed.sound _ _ hack.stored).lineage, hid, Nat.lt_of_not_le hlt⟩
  rw [enqueue_of_placeable hp revision] at he
  cases (Prod.mk.inj he).1

private theorem completed_traced (h : Traced enc hashed s) (hw : Wellformed s)
    (hack : Acknowledgeable s p cursor sourceId source) (hby : s.completesBy executor completion source = true)
    (hvalid : validCompletion executor completion = true) :
    Traced enc hashed { s.complete sourceId source cursor with
      acknowledgedProposals := s.acknowledgedProposals.insert p.val none } := by
  obtain ⟨hm, hq⟩ := complete_minted h hack
  have hkey : source.tokenId.val = sourceId.val := hw.keyed _ _ hack.stored
  simp only [completesBy, met, Option.isNone_iff_eq_none] at hby
  obtain ⟨⟨hnone, hcompletion⟩, hexecutor⟩ := hby
  obtain ⟨node, hnode, hkind⟩ := hasExecutor_node s source.nodeId executor hexecutor
  refine ⟨⟨hm.size, hm.tick, hm.ticks, hm.origin, hm.proposals⟩, ⟨hq.named, hq.queued⟩, ?_⟩
  refine @Receipts.acknowledge p (fun _ _ => False) s _ h.receipts rfl (complete_evolves hack _).forth none
    { source with state := .completed } (fun key t ht _ => complete_done hw hack key t ht) rfl hack.later
    (hkey ▸ ExtTreeMap.getElem?_insert_self) (hack.awaits hw) rfl ⟨hnone, ?_⟩
  show ((s.plan.node source.nodeId).any fun node => validCompletion node.executor source.externalCompletion) = true
  rw [hnode, Option.any_some, hkind, hcompletion, hvalid]

/-- Each move keeps tokens, queue and receipts accounted for. -/
theorem move_traced (hm : Move enc s e s') (hsub : ∀ text ∈ e.hashed, text ∈ hashed) (hinj : Uncollided enc hashed)
    (hi : Invariant s) (hfits : Addressable s) (h : Traced enc hashed s) : Traced enc hashed s' := by
  have hw := hi.wellformed
  cases hm with
  | idle texts => exact h
  | enqueued hp revision => exact h.place hinj hw hp (hsub _ mem_cons_self) revision
  | claimed hfirst ht hs =>
    refine h.restate ht .inFlight (by rw [hs]; rfl) rfl rfl rfl rfl rfl rfl rfl ?_
    exact h.queued.claim hw (mem_toList.mp (mem_of_mem_head? hfirst)) _
  | dropped hfirst hn =>
    obtain ⟨t, _, ht, hs, _⟩ := h.queued.named _ (mem_toList.mp (mem_of_mem_head? hfirst))
    exact absurd hs (hn t ht)
  | awaited ht hs hsel hloop hmat hid => exact awaited_traced h hw ht hs hmat hid (hsub _ mem_cons_self)
  | admitted hack hsel ht hext hp revision =>
    exact admitted_traced h hinj hi hack hsel ht hext hp (hsub _ mem_cons_self) revision
  | interrupted texts hack hsel ht hext he =>
    have hexhausted := interrupted_exhausted hi hack ht he
    rw [h.minted.size] at hexhausted
    exact absurd hfits (Nat.not_lt.mpr hexhausted)
  | completed hack hby hvalid => exact completed_traced h hw hack hby hvalid
  | suspended ht hs =>
    exact h.restate ht .suspended (by rw [hs]; rfl) rfl rfl rfl rfl rfl rfl rfl
      (h.queued.insert ht (by simp [hs]) (by simp) rfl rfl rfl)
  | @resumed tokenId token ordinal ht hs ho =>
    have hkey : token.tokenId.val = tokenId.val := hw.keyed _ _ ht
    refine h.restate ht .ready (by rw [hs]; rfl) rfl rfl rfl rfl rfl rfl rfl ?_
    refine @Queued.enter ordinal s _ h.queued { token with state := .ready } rfl ?_ (by rw [hkey]) rfl rfl ho
    intro old hold
    rw [hkey, ht] at hold
    rw [← Option.some.inj hold, hs]
    simp
  | stranded ht hs ho =>
    obtain ⟨node, hnode⟩ := (hw.sound _ _ ht).node
    have hmem : _ ∈ s.nodeOrdinals := (hw.ordinal_iff hi.plan _).mpr
      (ExtTreeMap.mem_iff_isSome_getElem?.mpr (Option.isSome_iff_exists.mpr ⟨node, hnode⟩))
    rw [ExtTreeMap.mem_iff_isSome_getElem?, ho] at hmem
    cases hmem
  | cancelled lineage =>
    have hevolves := @cancel_evolves (DerivedFor enc hashed s.plan.fingerprint) s lineage
    refine ⟨h.minted.evolve hevolves rfl rfl (Nat.le_refl _) h.minted.tick, h.queued.cancel lineage, ?_⟩
    refine h.receipts.keep rfl hevolves.forth ?_ rfl rfl
    intro key t ht hdone
    obtain ⟨old, hold, rfl⟩ := cancelled_token s lineage key t ht
    split at hdone
    · cases hdone
    · rename_i hstays
      rw [if_neg hstays]
      exact hold

theorem move_size (hm : Move enc s e s') : s.tokens.size ≤ s'.tokens.size := by
  cases hm with
  | idle | dropped => exact Nat.le_refl _
  | enqueued | claimed | awaited | interrupted | completed | suspended | resumed | stranded =>
    exact ExtTreeMap.size_le_size_insert
  | admitted => exact ExtTreeMap.size_le_size_insert.trans ExtTreeMap.size_le_size_insert
  | cancelled => exact Nat.le_of_eq ExtTreeMap.size_map.symm

private theorem new_traced (enc : Encoding) (hashed : List String) (plan : ExecutionPlanV1) : Traced enc hashed (new plan) := by
  refine ⟨⟨?_, Nat.zero_le _, ?_, ?_, ?_⟩, ⟨?_, ?_⟩, ⟨?_, ?_, ?_⟩⟩ <;> simp [new]

theorem moves_traced {plan : ExecutionPlanV1} (hplan : PlanSound plan) (hm : Moves enc (new plan) e s)
    (hsub : ∀ text ∈ e.hashed, text ∈ hashed) (hinj : Uncollided enc hashed) (hfits : Addressable s) :
    Traced enc hashed s := by
  induction hm with
  | refl => exact new_traced enc hashed plan
  | snoc hmoves hmove ih =>
    -- the token table only grows, so it also fitted before the step
    have hbefore : Addressable _ := Nat.lt_of_le_of_lt (Nat.succ_le_succ (move_size hmove)) hfits
    have htraced := ih (fun text htext => hsub text (mem_append_left _ htext)) hbefore
    exact move_traced hmove (fun text htext => hsub text (mem_append_right _ htext)) hinj
      (moves_invariant hmoves (new_invariant hplan)) hbefore htraced

end Moves

section Restore
variable {enc : Encoding} {hashed : List String} {s : SchedulerV1}

theorem mem_tokens (hw : Wellformed s) (t : TokenV1) : t ∈ values s.tokens ↔ s.tokens[t.tokenId.val]? = some t := by
  rw [mem_values]
  constructor
  · rintro ⟨key, hkey⟩
    rw [hw.keyed key t hkey, hkey]
  · intro ht
    exact ⟨_, ht⟩

private theorem tokens_nodup (hw : Wellformed s) : (values s.tokens).Nodup := by
  have hkeys : (values s.tokens).map (fun t => t.tokenId.val) = s.tokens.keys := by
    rw [values, map_map, ← ExtTreeMap.map_fst_toList_eq_keys]
    refine map_congr_left ?_
    rintro ⟨key, t⟩ hentry
    exact hw.keyed key t (ExtTreeMap.mem_toList_iff_getElem?_eq_some.mp hentry)
  refine .of_map (fun t => t.tokenId.val) ?_
  rw [hkeys]
  exact ExtTreeMap.nodup_keys

theorem loopCounts_restore (hi : Invariant s) : checkAll (restoreLoopCount s.plan) s.loopCounts.toList = .ok () := by
  refine (checkAll_eq_ok _ _ _).mpr ?_
  rintro ⟨key, n⟩ hentry
  have hn : s.loopCounts[key]? = some n := ExtTreeMap.mem_toList_iff_getElem?_eq_some.mp hentry
  have hmem : key ∈ s.loopCounts := by rw [ExtTreeMap.mem_iff_isSome_getElem?, hn]; rfl
  obtain ⟨loop, d, rfl, hd⟩ := hi.budget.declared key hmem
  have hwithin := hi.budget.within loop d hd
  simp only [committed, hn, Option.getD_some] at hwithin
  simp only [restoreLoopCount, passes, unmet, Nat.not_lt]
  exact ⟨loop, loop.parse_val, d, hd, by omega⟩

/-- The tokens before one in the list, as the restore has them in its hands. -/
structure TokensRead (done : List TokenV1) (read : List StableId × ExtTreeMap String TokenV1) : Prop where
  proposals : ∀ p, p ∈ read.1 → ∃ t ∈ done, t.awaitingProposalId = some p
  lookup : ∀ (key : String) (t : TokenV1), read.2[key]? = some t ↔ t ∈ done ∧ t.tokenId.val = key

/-- The saved tokens are all admitted again. -/
theorem tokens_restore (hinj : Uncollided enc hashed) (hw : Wellformed s) (h : Minted enc hashed s)
    {fresh : SchedulerV1} (hplan : fresh.plan = s.plan) (htick : fresh.logicalTick = s.logicalTick) :
    ∃ ids, (values s.tokens).foldlM fresh.restoreToken ([], ∅) = .ok (ids, s.tokens) := by
  have hfold := foldlM_succeeds fresh.restoreToken TokensRead (values s.tokens) [] ?_ ([], ∅) ⟨by simp, by simp⟩
  · obtain ⟨⟨ids, tokens⟩, hfold, hread⟩ := hfold
    refine ⟨ids, ?_⟩
    rw [hfold]
    congr 2
    refine ExtTreeMap.ext_getElem? fun key => Option.ext fun t => ?_
    rw [hread.lookup, nil_append, mem_tokens hw]
    constructor
    · rintro ⟨ht, rfl⟩
      exact ht
    · intro ht
      have hkey := hw.keyed key t ht
      exact ⟨hkey ▸ ht, hkey⟩
  · intro before read t after hsplit hread
    rw [nil_append] at hsplit
    have hnodup := tokens_nodup hw
    have hmember : ∀ other ∈ before ++ t :: after, s.tokens[other.tokenId.val]? = some other := by
      intro other hother
      rw [← hsplit] at hother
      exact (mem_tokens hw other).mp hother
    rw [hsplit] at hnodup
    have ht := hmember t (by simp)
    have hnew : t ∉ before := fun hb => disjoint_of_nodup_append hnodup hb mem_cons_self
    have hid : ∀ other ∈ before, other.tokenId.val ≠ t.tokenId.val := by
      intro other hother hsame
      have hfound := hmember other (mem_append_left _ hother)
      rw [hsame, ht] at hfound
      exact hnew (Option.some.inj hfound ▸ hother)
    have hproposal : t.awaitingProposalId.any read.1.contains = false := by
      cases hp : t.awaitingProposalId with
      | none => rfl
      | some p =>
        rw [Option.any_some, Bool.eq_false_iff]
        intro hcontains
        obtain ⟨other, hother, hp'⟩ := hread.proposals p (contains_iff_mem.mp hcontains)
        have hsame := h.proposal_unique hinj hw ht (hmember other (mem_append_left _ hother)) hp hp'
        exact hnew (hsame ▸ hother)
    have habsent : read.2.contains t.tokenId.val = false := by
      rw [ExtTreeMap.contains_eq_isSome_getElem?, Option.isSome_eq_false_iff, Option.isNone_iff_eq_none]
      refine Option.eq_none_iff_forall_not_mem.mpr fun other hother => ?_
      obtain ⟨hb, hsame⟩ := (hread.lookup _ other).mp hother
      exact hid other hb hsame
    refine ⟨(t.awaitingProposalId.toList ++ read.1, read.2.insert t.tokenId.val t), ?_, ?_, ?_⟩
    · have hvalid := (validateRestoredToken_iff s.plan t).mpr (hw.sound _ t ht)
      have hpast := h.ticks _ t ht
      simp only [restoreToken, passes, unmet, Nat.not_lt, hplan, htick]
      exact ⟨(), hpast, (), hvalid, (), hproposal, (), habsent, trivial⟩
    · intro p hp
      rcases mem_append.mp hp with hown | hold
      · exact ⟨t, by simp, by simpa using hown⟩
      · obtain ⟨other, hother, hp'⟩ := hread.proposals p hold
        exact ⟨other, mem_append_left _ hother, hp'⟩
    · exact lookup_insert (fun t : TokenV1 => t.tokenId.val) hread.lookup hid

/-- The fields of a ready key, as a checkpoint writes them. -/
def readyEntry (key : ReadyKeyV1) : Nat × Nat × String × String :=
  (key.logicalTick, key.nodeOrdinal, key.branchLineage, key.tokenId)

theorem readyEntry_injective : Function.Injective readyEntry := by
  intro a b h
  simp only [readyEntry, Prod.mk.injEq] at h
  exact ReadyKeyV1.ext h.1 h.2.1 h.2.2.1 h.2.2.2

theorem ready_restore (h : Queued s) {withTokens : SchedulerV1} (htokens : withTokens.tokens = s.tokens)
    (hordinals : withTokens.nodeOrdinals = s.nodeOrdinals) :
    s.checkpoint.ready.foldlM withTokens.restoreReady ∅ = .ok s.ready := by
  have hready : s.checkpoint.ready = s.ready.toList.map readyEntry := rfl
  have hnodup : (s.ready.toList.map readyEntry).Nodup := by
    refine .map readyEntry_injective (s.ready.distinct_toList.imp ?_)
    rintro a b hne rfl
    exact hne ReflOrd.compare_self
  have hfold := foldlM_succeeds withTokens.restoreReady
    (fun done (acc : ExtTreeSet ReadyKeyV1) => ∀ key, key ∈ acc ↔ readyEntry key ∈ done)
    (s.ready.toList.map readyEntry) [] ?_ ∅ (by simp)
  · obtain ⟨acc, hfold, hacc⟩ := hfold
    rw [hready, hfold]
    refine congrArg _ (ext_mem fun key => ?_)
    rw [hacc, nil_append, mem_map_of_injective readyEntry_injective, mem_toList]
  · intro before acc entry after hsplit hacc
    rw [nil_append] at hsplit
    have hmem : entry ∈ s.ready.toList.map readyEntry := by
      rw [hsplit]
      simp
    obtain ⟨key, hkey, rfl⟩ := mem_map.mp hmem
    obtain ⟨t, ordinal, ht, hstate, ho, heq⟩ := h.named key (mem_toList.mp hkey)
    rw [hsplit] at hnodup
    have hnew : acc.contains key = false := by
      rw [Bool.eq_false_iff]
      intro hcontains
      have hbefore := (hacc key).mp (contains_iff_mem.mp hcontains)
      exact disjoint_of_nodup_append hnodup hbefore mem_cons_self
    refine ⟨acc.insert key, ?_, ?_⟩
    · simp only [restoreReady, readyEntry, passes]
      refine ⟨t, by rw [htokens]; exact ht, (), ?_, (), hnew, trivial⟩
      have hfields : t.logicalTick = key.logicalTick ∧ t.branchLineage = key.branchLineage ∧
        ordinal = key.nodeOrdinal := by
        rw [heq]
        exact ⟨rfl, rfl, rfl⟩
      rw [hordinals, ho, hstate, hfields.1, hfields.2.1, hfields.2.2]
      simp
    · intro other
      rw [mem_insert, LawfulEqOrd.compare_eq_iff_eq, hacc, mem_append, mem_singleton,
        readyEntry_injective.eq_iff]
      tauto

section
variable (hinj : Uncollided enc hashed) (hw : Wellformed s)
include hinj hw

private theorem sourceOf_eq
    (h : Minted enc hashed s) (hsource : s.tokens[source.tokenId.val]? = some source)
    (hp : source.awaitingProposalId = some p) : s.sourceOf p = some source := by
  cases hfind : s.sourceOf p with
  | none =>
    have hnone := find?_eq_none.mp hfind source ((mem_tokens hw source).mpr hsource)
    simp [hp] at hnone
  | some other =>
    have hother := (mem_tokens hw other).mp (mem_of_find?_eq_some hfind)
    have hp' : other.awaitingProposalId = some p := by simpa using find?_some hfind
    rw [h.proposal_unique hinj hw hother hsource hp' hp]

theorem acknowledged_restore (h : Traced enc hashed s) (key : String) (child : Option String)
    (hchild : s.acknowledgedProposals[key]? = some child) : s.restoreAcknowledged (key, child) = .ok () := by
  obtain ⟨p, source, rfl, hsource, hp, hdone, hreceipt⟩ := h.receipts.recorded key child hchild
  simp only [restoreAcknowledged, passes]
  refine ⟨p, p.parse_val, source, sourceOf_eq hinj hw h.minted hsource hp, (), by simp [hdone], ?_⟩
  cases child with
  | none => simp [hreceipt.1, hreceipt.2]
  | some childId =>
    obtain ⟨token, t, htoken, ht, hnode, hlineage, hext⟩ := hreceipt
    simp only [passes]
    exact ⟨token, htoken, t, ht, by simp [hnode, hlineage, hext]⟩

private theorem completion_restore (h : Traced enc hashed s) (t : TokenV1)
    (ht : t ∈ values s.tokens) : s.restoreCompletion t = .ok () := by
  rw [mem_tokens hw] at ht
  have hiff : (t.awaitingProposalId.any fun p => s.acknowledgedProposals.contains p.val) = true ↔
      t.state = .completed := by
    constructor
    · intro hany
      cases hp : t.awaitingProposalId with
      | none => simp [hp] at hany
      | some p =>
        rw [hp, Option.any_some, ExtTreeMap.contains_iff_mem, ExtTreeMap.mem_iff_isSome_getElem?] at hany
        obtain ⟨child, hchild⟩ := Option.isSome_iff_exists.mp hany
        obtain ⟨q, source, hq, hsource, hawait, hdone, _⟩ := h.receipts.recorded p.val child hchild
        rw [StableId.val_injective hq] at hawait
        rw [h.minted.proposal_unique hinj hw ht hsource hp hawait]
        exact hdone
    · intro hdone
      obtain ⟨p, hp, hmem⟩ := h.receipts.completed _ t ht hdone
      rw [hp, Option.any_some, ExtTreeMap.contains_iff_mem]
      exact hmem
  rw [restoreCompletion, refuseIf_eq_ok]
  generalize (t.awaitingProposalId.any fun p => s.acknowledgedProposals.contains p.val) = acknowledged at hiff ⊢
  cases acknowledged <;> cases hs : t.state <;> simp_all

end

private theorem capacity_restore (hi : Invariant s) (d : WorkerLoopDescriptorV1) (hd : d ∈ s.plan.snapshot.loopDescriptors) :
    s.restoreLoopCapacity d = .ok () := by
  have hwithin := hi.budget.within d.loopId d ((hi.plan.loops _ d).mpr ⟨hd, rfl⟩)
  have hmax := d.maximumIterations.toNat_lt
  simp only [committed, pending] at hwithin
  simp only [restoreLoopCapacity, passes, unmet, Nat.not_lt]
  refine ⟨(), ?_, ?_⟩
  · unfold u32Max
    omega
  · unfold saturatingAdd
    omega

section
variable (hinj : Uncollided enc hashed) (hi : Invariant s) (h : Traced enc hashed s)
include hinj hi h

private theorem validateRestored_ok : s.validateRestored = .ok () := by
  simp only [validateRestored, passes, checkAll_eq_ok]
  refine ⟨(), ?_, (), ?_, (), completion_restore hinj hi.wellformed h, capacity_restore hi⟩
  · rw [any_eq_false]
    intro t ht hlost
    simp only [met, any_eq_false] at hlost
    obtain ⟨hstate, hnone⟩ := hlost
    obtain ⟨ordinal, hmem⟩ := h.queued.queued _ t ((mem_tokens hi.wellformed t).mp ht) hstate
    exact hnone _ (mem_toList.mpr hmem) rfl
  · rintro ⟨key, child⟩ hentry
    exact acknowledged_restore hinj hi.wellformed h key child
      (ExtTreeMap.mem_toList_iff_getElem?_eq_some.mp hentry)

theorem restore_checkpoint (hfits : Addressable s) : restore s.plan s.checkpoint = .ok s := by
  have hw := hi.wellformed
  obtain ⟨ids, htokens⟩ := tokens_restore hinj hw h.minted
    (show ({ new s.plan with
      logicalTick := s.checkpoint.logicalTick
      nextTokenOrdinal := s.checkpoint.nextTokenOrdinal
      committedCursor := s.checkpoint.committedCursor
      loopCounts := s.checkpoint.loopCounts
      acknowledgedProposals := s.checkpoint.acknowledgedProposals } : SchedulerV1).plan = s.plan from rfl) rfl
  have hsize : checkedSucc s.tokens.size = some s.nextTokenOrdinal := by
    rw [h.minted.size]
    exact if_pos (Nat.lt_of_succ_lt hfits)
  simp only [restore, passes]
  refine ⟨(), ?_, (), loopCounts_restore hi, (ids, s.tokens), htokens, s.nextTokenOrdinal, hsize, (), ?_, s.ready,
    ready_restore h.queued rfl hw.ordinals.symm, (), ?_, ?_⟩
  · have hcounted := h.receipts.counted
    simp [checkpoint, h.minted.size, hcounted]
  · simp [checkpoint]
  · have hvalid := validateRestored_ok hinj hi h
    simpa [checkpoint, new, ← hw.ordinals] using hvalid
  · simp [checkpoint, new, ← hw.ordinals]

end

end Restore

/-- Restoring the checkpoint of any reachable scheduler gives it back, as long as the hashed texts got different
identifiers. -/
theorem checkpoint_round_trip (enc : Encoding) (snapshot : WorkerFrozenRunSnapshotV1) (declared : String)
    (plan : ExecutionPlanV1) (hc : ExecutionPlanV1.compile enc snapshot declared = .ok plan) (ops : List Operation)
    (hinj : ∀ x ∈ hashes enc (new plan) ops, ∀ y ∈ hashes enc (new plan) ops,
      stableId enc x = stableId enc y → x = y) (hfits : Addressable (run enc (new plan) ops)) :
    restore plan (run enc (new plan) ops).checkpoint = .ok (run enc (new plan) ops) := by
  have hplan := (compile_ok enc snapshot declared plan hc).2.sound
  obtain ⟨_, _, hmoves⟩ := run_moves enc (new plan) hplan ops
  have hinv := moves_invariant hmoves (new_invariant hplan)
  have htraced := moves_traced hplan hmoves (fun _ htext => htext) hinj hfits
  have hrestored := restore_checkpoint hinj hinv htraced hfits
  rw [hmoves.plan_eq] at hrestored
  exact hrestored

/-- The sample run, with a completed token, its child and a counted pass. -/
theorem sample_checkpoint_round_trip :
    (run sampleEncoding (new samplePlan) loopOnce).tokens.size = 2 ∧
      restore samplePlan (run sampleEncoding (new samplePlan) loopOnce).checkpoint =
        .ok (run sampleEncoding (new samplePlan) loopOnce) := by
  have hsize : (run sampleEncoding (new samplePlan) loopOnce).tokens.size = 2 := by decide +kernel
  refine ⟨hsize, checkpoint_round_trip sampleEncoding sampleSnapshot _ samplePlan samplePlan_compiles loopOnce ?_ ?_⟩
  · decide +kernel
  · rw [Addressable, hsize]
    decide

/-- In every run whose hashed texts got different identifiers the scheduler is accounted for: identifiers derive from
their texts, the queue mirrors the ready tokens, each acknowledged proposal has a completed source with the child or
completion it recorded, and no two tokens waited on one proposal. -/
theorem run_accounted (enc : Encoding) (snapshot : WorkerFrozenRunSnapshotV1) (declared : String) (plan : ExecutionPlanV1)
    (hc : ExecutionPlanV1.compile enc snapshot declared = .ok plan) (ops : List Operation)
    (hinj : Uncollided enc (hashes enc (new plan) ops)) (hfits : Addressable (run enc (new plan) ops)) :
    Traced enc (hashes enc (new plan) ops) (run enc (new plan) ops) ∧ ∀ (key key' : String) (t t' : TokenV1) p,
      (run enc (new plan) ops).tokens[key]? = some t → (run enc (new plan) ops).tokens[key']? = some t' →
        t.awaitingProposalId = some p → t'.awaitingProposalId = some p → t = t' := by
  have hplan := (compile_ok enc snapshot declared plan hc).2.sound
  obtain ⟨_, _, hmoves⟩ := run_moves enc (new plan) hplan ops
  have htraced := moves_traced hplan hmoves (fun _ htext => htext) hinj hfits
  refine ⟨htraced, fun key key' t t' p ht ht' hp hp' => ?_⟩
  exact htraced.minted.proposal_unique hinj (moves_invariant hmoves (new_invariant hplan)).wellformed ht ht' hp hp'

theorem sample_run_accounted : Receipts (run sampleEncoding (new samplePlan) loopOnce) := by
  have hfits : Addressable (run sampleEncoding (new samplePlan) loopOnce) := by
    unfold Addressable
    decide +kernel
  refine (run_accounted _ sampleSnapshot _ samplePlan samplePlan_compiles loopOnce ?_ hfits).1.receipts
  unfold Uncollided
  decide +kernel

end Aworkit.Worker.SchedulerV1
