import Aworkit.Text.Separated
import Aworkit.Worker.SchedulerInvariant

/-! Where the parts of a scheduler come from: identifiers derive from hashed texts, the ready queue mirrors the ready
tokens, and a completed token has its receipt. -/
namespace Aworkit.Worker
open Protocol Fallible OrderedMap Std Separated Option ExtTreeMap

private theorem append_left_cancel {head tail tail' : String} (h : head ++ tail = head ++ tail') : tail = tail' := by
  have hlist := congrArg String.toList h
  rw [String.toList_append, String.toList_append] at hlist
  exact String.toList_injective (List.append_cancel_left hlist)

variable {fingerprint lineage key : String} {ordinal : Nat} {node tokenId p : StableId}

/-- A token text determines its ordinal. -/
theorem tokenMaterial_ordinal
    (h : tokenMaterial fingerprint ordinal node lineage = tokenMaterial fingerprint ordinal' node' lineage') :
    ordinal = ordinal' := by
  have hsplit : ∀ ordinal node lineage, tokenMaterial fingerprint ordinal node lineage =
      ("token:" ++ fingerprint ++ ":") ++ (toString ordinal ++ String.singleton ':' ++ (node.val ++ ":" ++ lineage)) := by
    intro ordinal node lineage
    simp only [tokenMaterial, String.append_assoc]
    rfl
  rw [hsplit, hsplit] at h
  have hfield := field_unique (separator_not_mem_repr rfl _) (separator_not_mem_repr rfl _)
    (append_left_cancel h)
  exact Nat.repr_injective hfield.1

/-- The three kinds of proposal text differ in their second letter. -/
private theorem proposal_kinds (fingerprint : String) (a b id : StableId) (outcome : String) :
    transitionMaterial fingerprint a id ≠ terminalMaterial fingerprint b outcome ∧
      transitionMaterial fingerprint a id ≠ waitInputMaterial fingerprint b ∧
      terminalMaterial fingerprint a outcome ≠ waitInputMaterial fingerprint b := by
  refine ⟨?_, ?_, ?_⟩ <;>
  · intro h
    have hletter := congrArg (fun text : String => text.toList[1]?) h
    simp [transitionMaterial, terminalMaterial, waitInputMaterial] at hletter

theorem ProposalMaterial.token_unique (h : ProposalMaterial fingerprint token material)
    (h' : ProposalMaterial fingerprint token' material) : token = token' := by
  have hfields : ∀ head rest rest',
      head ++ fingerprint ++ ":" ++ token.val ++ ":" ++ rest = head ++ fingerprint ++ ":" ++ token'.val ++ ":" ++ rest' →
        token = token' := by
    intro head rest rest' heq
    simp only [String.append_assoc] at heq
    have hcancel := append_left_cancel (append_left_cancel (append_left_cancel heq))
    rw [← String.append_assoc, ← String.append_assoc] at hcancel
    exact StableId.val_injective (field_unique token.colon_not_mem token'.colon_not_mem hcancel).1
  cases h with
  | transition id =>
    generalize hm : transitionMaterial fingerprint token id = material at h'
    cases h' with
    | transition id' => exact hfields _ _ _ hm
    | terminal outcome => exact absurd hm (proposal_kinds fingerprint token token' id outcome).1
    | waitInput => exact absurd hm (proposal_kinds fingerprint token token' id "").2.1
  | terminal outcome =>
    generalize hm : terminalMaterial fingerprint token outcome = material at h'
    cases h' with
    | transition id => exact absurd hm.symm (proposal_kinds fingerprint token' token id outcome).1
    | terminal outcome' => exact hfields _ _ _ hm
    | waitInput => exact absurd hm (proposal_kinds fingerprint token token' token outcome).2.2
  | waitInput =>
    generalize hm : waitInputMaterial fingerprint token = material at h'
    cases h' with
    | transition id => exact absurd hm.symm (proposal_kinds fingerprint token' token id "").2.1
    | terminal outcome => exact absurd hm.symm (proposal_kinds fingerprint token' token token outcome).2.2
    | waitInput => exact StableId.val_injective (append_left_cancel hm)

/-- A proposal id that was derived for a token from one of the hashed texts. -/
def DerivedFor (enc : Encoding) (hashed : List String) (fingerprint : String) (token proposal : StableId) : Prop :=
  ∃ material ∈ hashed, ProposalMaterial fingerprint token material ∧ stableId enc material = .ok proposal

/-- A token moves between its open states, waits on one proposal, and completes with it. -/
inductive TokenStep (derived : StableId → StableId → Prop) : TokenV1 → TokenV1 → Prop
  | stays (t : TokenV1) : TokenStep derived t t
  | restates (t : TokenV1) (state : TokenStateV1) (h : t.state.proposed = false) (h' : state.proposed = false) :
      TokenStep derived t { t with state }
  | proposes (t : TokenV1) (proposal : StableId) (transition loop : Option StableId)
      (completion : Option ExternalCompletionV1) (h : t.state = .inFlight) (hd : derived t.tokenId proposal) :
      TokenStep derived t { t with
        state := .awaitingCommit, awaitingProposalId := some proposal, selectedTransitionId := transition,
        selectedLoopId := loop, externalCompletion := completion }
  | completes (t : TokenV1) (h : t.state = .awaitingCommit) : TokenStep derived t { t with state := .completed }

namespace TokenStep
variable {derived : StableId → StableId → Prop} {t t' : TokenV1}

theorem identity (h : TokenStep derived t t') :
    t'.tokenId = t.tokenId ∧ t'.nodeId = t.nodeId ∧ t'.branchLineage = t.branchLineage ∧
      t'.logicalTick = t.logicalTick := by
  cases h <;> exact ⟨rfl, rfl, rfl, rfl⟩

theorem completed_stays (h : TokenStep derived t t') (hs : t.state = .completed) : t' = t := by
  cases h with
  | stays => rfl
  | restates state h | proposes _ _ _ _ h | completes h => rw [hs] at h; cases h

theorem proposal (h : TokenStep derived t t') (p : StableId) (hp : t'.awaitingProposalId = some p) :
    t.awaitingProposalId = some p ∨ derived t'.tokenId p := by
  cases h with
  | stays | restates | completes => exact .inl hp
  | proposes proposal _ _ _ _ hd =>
    cases hp
    exact .inr hd

end TokenStep

namespace SchedulerV1

/-- No token appears or disappears, and each one takes a step of its life. -/
structure Evolves (derived : StableId → StableId → Prop) (s s' : SchedulerV1) : Prop where
  size : s'.tokens.size = s.tokens.size
  forth : ∀ (key : String) (t : TokenV1), s.tokens[key]? = some t →
    ∃ t', s'.tokens[key]? = some t' ∧ TokenStep derived t t'
  back : ∀ (key : String) (t' : TokenV1), s'.tokens[key]? = some t' →
    ∃ t, s.tokens[key]? = some t ∧ TokenStep derived t t'

section Evolves
variable {derived : StableId → StableId → Prop} {s s' : SchedulerV1}

theorem Evolves.insert (ht : s.tokens[key]? = some t) (hstep : TokenStep derived t t')
    (htokens : s'.tokens = s.tokens.insert key t') : Evolves derived s s' := by
  refine ⟨?_, ?_, ?_⟩
  · rw [htokens, size_insert, contains_eq_isSome_getElem?, ht]
    rfl
  · intro other found hfound
    rw [htokens]
    by_cases hkey : key = other
    · subst hkey
      obtain rfl := some.inj (ht.symm.trans hfound)
      exact ⟨t', getElem?_insert_self, hstep⟩
    · exact ⟨found, by rw [insert_ne _ _ hkey, hfound], .stays found⟩
  · rw [htokens]
    exact all_insert (fun _ found hold => ⟨found, hold, .stays found⟩) ⟨t, ht, hstep⟩

theorem place_lookup (ordinal : Nat) {t : TokenV1} (hfresh : s.tokens[t.tokenId.val]? = none)
    (hold : s.tokens[key]? = some old) : (s.place ordinal t).tokens[key]? = some old :=
  insert_fresh t hfresh hold

theorem cancel_evolves (s : SchedulerV1) (lineage : String) : Evolves derived s (s.cancelLineage lineage).2 := by
  have hstep : ∀ t : TokenV1,
      TokenStep derived t (if cancellable lineage t then { t with state := .cancelled } else t) := by
    intro t
    split
    · rename_i hc
      exact .restates t .cancelled (cancellable_unproposed lineage t hc) rfl
    · exact .stays t
  refine ⟨size_map, ?_, ?_⟩
  · intro key t ht
    refine ⟨_, ?_, hstep t⟩
    simp [cancelLineage, ht, map_some]
  · intro key t' ht'
    obtain ⟨old, hold, rfl⟩ := cancelled_token s lineage key t' ht'
    exact ⟨old, hold, hstep old⟩

end Evolves

/-- No two of the texts hash to one identifier. -/
def Uncollided (enc : Encoding) (hashed : List String) : Prop :=
  ∀ x ∈ hashed, ∀ y ∈ hashed, stableId enc x = stableId enc y → x = y

/-- Identifiers come from hashed texts: a token's from its ordinal, a proposal's from its token. -/
structure Minted (enc : Encoding) (hashed : List String) (s : SchedulerV1) : Prop where
  size : s.nextTokenOrdinal = s.tokens.size + 1
  tick : s.logicalTick ≤ u64Max
  ticks : ∀ (key : String) (t : TokenV1), s.tokens[key]? = some t → t.logicalTick ≤ s.logicalTick
  origin : ∀ (key : String) (t : TokenV1), s.tokens[key]? = some t → ∃ ordinal < s.nextTokenOrdinal,
    tokenMaterial s.plan.fingerprint ordinal t.nodeId t.branchLineage ∈ hashed ∧
      stableId enc (tokenMaterial s.plan.fingerprint ordinal t.nodeId t.branchLineage) = .ok t.tokenId
  proposals : ∀ (key : String) (t : TokenV1) (p : StableId), s.tokens[key]? = some t → t.awaitingProposalId = some p →
    DerivedFor enc hashed s.plan.fingerprint t.tokenId p

/-- The ready keys are exactly those of the ready tokens. -/
structure Queued (s : SchedulerV1) : Prop where
  named : ∀ key ∈ s.ready, ∃ t ordinal, s.tokens[key.tokenId]? = some t ∧ t.state = .ready ∧
    s.nodeOrdinals[t.nodeId.val]? = some ordinal ∧ key = ⟨t.logicalTick, ordinal, t.branchLineage, t.tokenId.val⟩
  queued : ∀ (key : String) (t : TokenV1), s.tokens[key]? = some t → t.state = .ready →
    ∃ ordinal, ⟨t.logicalTick, ordinal, t.branchLineage, t.tokenId.val⟩ ∈ s.ready

/-- What an acknowledged proposal recorded: the child of its transition, or the completion of its node. -/
def ReceiptFor (s : SchedulerV1) (source : TokenV1) : Option String → Prop
  | some childId => ∃ child t, s.tokens[childId]? = some child ∧
      source.selectedTransitionId.bind s.plan.transition = some t ∧ t.toNode = child.nodeId ∧
      source.branchLineage = child.branchLineage ∧ source.externalCompletion = none
  | none => source.selectedTransitionId = none ∧
      ((s.plan.node source.nodeId).any fun node => validCompletion node.executor source.externalCompletion) = true

/-- Completed tokens and acknowledged proposals belong together. -/
structure Receipts (s : SchedulerV1) : Prop where
  counted : s.acknowledgedProposals.size ≤ s.committedCursor
  recorded : ∀ (key : String) (child : Option String), s.acknowledgedProposals[key]? = some child →
    ∃ p source, p.val = key ∧ s.tokens[source.tokenId.val]? = some source ∧ source.awaitingProposalId = some p ∧
      source.state = .completed ∧ ReceiptFor s source child
  completed : ∀ (key : String) (t : TokenV1), s.tokens[key]? = some t → t.state = .completed →
    ∃ p, t.awaitingProposalId = some p ∧ p.val ∈ s.acknowledgedProposals

section Minted
variable {enc : Encoding} {hashed : List String} {s s' : SchedulerV1}

theorem Minted.evolve (h : Minted enc hashed s) (he : Evolves (DerivedFor enc hashed s.plan.fingerprint) s s')
    (hplan : s'.plan = s.plan) (hnext : s'.nextTokenOrdinal = s.nextTokenOrdinal)
    (htick : s.logicalTick ≤ s'.logicalTick) (hbound : s'.logicalTick ≤ u64Max) : Minted enc hashed s' := by
  refine ⟨by rw [hnext, he.size, h.size], hbound, ?_, ?_, ?_⟩
  · intro key t' ht'
    obtain ⟨t, ht, hstep⟩ := he.back key t' ht'
    rw [hstep.identity.2.2.2]
    exact (h.ticks key t ht).trans htick
  · intro key t' ht'
    obtain ⟨t, ht, hstep⟩ := he.back key t' ht'
    obtain ⟨hid, hnode, hlineage, _⟩ := hstep.identity
    rw [hid, hnode, hlineage, hplan, hnext]
    exact h.origin key t ht
  · intro key t' p ht' hp
    obtain ⟨t, ht, hstep⟩ := he.back key t' ht'
    rw [hplan]
    rcases hstep.proposal p hp with hold | hnew
    · rw [hstep.identity.1]
      exact h.proposals key t p ht hold
    · exact hnew

theorem Minted.fresh (hinj : Uncollided enc hashed)
    (hw : Wellformed s) (h : Minted enc hashed s) (hp : Placeable enc s node lineage ordinal tokenId)
    (hmem : tokenMaterial s.plan.fingerprint s.nextTokenOrdinal node lineage ∈ hashed) :
    s.tokens[tokenId.val]? = none := by
  cases ht : s.tokens[tokenId.val]? with
  | none => rfl
  | some t =>
    obtain ⟨ordinal', hlt, hmem', hid⟩ := h.origin _ t ht
    rw [StableId.val_injective (hw.keyed _ t ht), ← hp.derived] at hid
    have hsame := tokenMaterial_ordinal (hinj _ hmem' _ hmem hid)
    omega

theorem Minted.place (h : Minted enc hashed s) (hp : Placeable enc s node lineage ordinal tokenId)
    (hmem : tokenMaterial s.plan.fingerprint s.nextTokenOrdinal node lineage ∈ hashed)
    (hfresh : s.tokens[tokenId.val]? = none) (revision : Nat) :
    Minted enc hashed (s.place ordinal (s.freshToken tokenId node revision lineage)) := by
  have hcases : ∀ (key : String) t,
      (s.place ordinal (s.freshToken tokenId node revision lineage)).tokens[key]? = some t →
        t = s.freshToken tokenId node revision lineage ∨ s.tokens[key]? = some t := by
    intro key t ht
    rcases found_insert ht with ⟨_, hnew⟩ | ⟨_, hold⟩
    · exact .inl hnew.symm
    · exact .inr hold
  refine ⟨?_, h.tick, ?_, ?_, ?_⟩
  · have hnot : s.tokens.contains tokenId.val = false := by
      rw [contains_eq_isSome_getElem?, hfresh]
      rfl
    simp [SchedulerV1.place, freshToken, size_insert, hnot, h.size]
  · intro key t ht
    rcases hcases key t ht with rfl | hold
    · exact Nat.le_refl _
    · exact h.ticks key t hold
  · intro key t ht
    rcases hcases key t ht with rfl | hold
    · exact ⟨s.nextTokenOrdinal, Nat.lt_succ_self _, hmem, hp.derived⟩
    · obtain ⟨ordinal', hlt, hrest⟩ := h.origin key t hold
      exact ⟨ordinal', Nat.lt_succ_of_lt hlt, hrest⟩
  · intro key t p ht hawait
    rcases hcases key t ht with rfl | hold
    · cases hawait
    · exact h.proposals key t p hold hawait

/-- Two tokens that wait, or waited, on one proposal are the same token. -/
theorem Minted.proposal_unique (hinj : Uncollided enc hashed) (hw : Wellformed s) (h : Minted enc hashed s)
    {key' : String} {t t' : TokenV1} (ht : s.tokens[key]? = some t) (ht' : s.tokens[key']? = some t')
    (hp : t.awaitingProposalId = some p) (hp' : t'.awaitingProposalId = some p) : t = t' := by
  obtain ⟨m, hm, hfor, hid⟩ := h.proposals key t p ht hp
  obtain ⟨m', hm', hfor', hid'⟩ := h.proposals key' t' p ht' hp'
  obtain rfl := hinj m hm m' hm' (hid.trans hid'.symm)
  have hsame := hfor.token_unique hfor'
  have hkey : key = key' := by rw [← hw.keyed key t ht, ← hw.keyed key' t' ht', hsame]
  rw [hkey, ht'] at ht
  exact (some.inj ht).symm

end Minted

section Queued
variable {s s' : SchedulerV1}

theorem Queued.key_unique (h : Queued s) {a b : ReadyKeyV1} (ha : a ∈ s.ready) (hb : b ∈ s.ready)
    (hid : a.tokenId = b.tokenId) : a = b := by
  obtain ⟨t, ordinal, ht, _, ho, rfl⟩ := h.named a ha
  obtain ⟨t', ordinal', ht', _, ho', hb'⟩ := h.named b hb
  rw [← hid, ht] at ht'
  obtain rfl := some.inj ht'
  rw [ho] at ho'
  rw [hb', some.inj ho']

theorem Queued.insert (h : Queued s) {t t' : TokenV1} (ht : s.tokens[key]? = some t)
    (hs : t.state ≠ .ready) (hs' : t'.state ≠ .ready) (htokens : s'.tokens = s.tokens.insert key t')
    (hready : s'.ready = s.ready) (hordinals : s'.nodeOrdinals = s.nodeOrdinals) : Queued s' := by
  refine ⟨?_, ?_⟩
  · intro k hk
    rw [hready] at hk
    obtain ⟨found, ordinal, hfound, hstate, ho, heq⟩ := h.named k hk
    refine ⟨found, ordinal, ?_, hstate, by rw [hordinals, ho], heq⟩
    rw [htokens, insert_ne, hfound]
    rintro rfl
    obtain rfl := some.inj (ht.symm.trans hfound)
    exact hs hstate
  · rw [hready, htokens]
    exact all_insert h.queued fun hstate => absurd hstate hs'

theorem Queued.enter (h : Queued s) {t : TokenV1} (hstate : t.state = .ready)
    (hold : ∀ old, s.tokens[t.tokenId.val]? = some old → old.state ≠ .ready)
    (htokens : s'.tokens = s.tokens.insert t.tokenId.val t)
    (hready : s'.ready = s.ready.insert ⟨t.logicalTick, ordinal, t.branchLineage, t.tokenId.val⟩)
    (hordinals : s'.nodeOrdinals = s.nodeOrdinals) (ho : s.nodeOrdinals[t.nodeId.val]? = some ordinal) : Queued s' := by
  refine ⟨?_, ?_⟩
  · intro k hk
    rw [hready, ExtTreeSet.mem_insert, LawfulEqOrd.compare_eq_iff_eq] at hk
    rw [hordinals]
    rcases hk with rfl | hk
    · refine ⟨t, ordinal, ?_, hstate, ho, rfl⟩
      rw [htokens, getElem?_insert_self]
    · obtain ⟨found, ordinal', hfound, hs, ho', heq⟩ := h.named k hk
      refine ⟨found, ordinal', ?_, hs, ho', heq⟩
      rw [htokens, insert_ne, hfound]
      intro hkey
      rw [← hkey] at hfound
      exact hold found hfound hs
  · rw [hready, htokens]
    refine all_insert (fun k found hkept hs => ?_) fun _ => ⟨ordinal, ExtTreeSet.mem_insert_self⟩
    obtain ⟨ordinal', hmem⟩ := h.queued k found hkept hs
    exact ⟨ordinal', ExtTreeSet.mem_insert.mpr (.inr hmem)⟩

theorem Queued.claim (hw : Wellformed s) (h : Queued s) {key : ReadyKeyV1} (hkey : key ∈ s.ready) (t : TokenV1) :
    Queued { s with
      ready := s.ready.erase key, tokens := s.tokens.insert key.tokenId { t with state := .inFlight } } := by
  refine ⟨?_, ?_⟩
  · intro k hk
    obtain ⟨hne, hk⟩ := ExtTreeSet.mem_erase.mp hk
    obtain ⟨found, ordinal, hfound, hs, ho, heq⟩ := h.named k hk
    refine ⟨found, ordinal, ?_, hs, ho, heq⟩
    rw [insert_ne, hfound]
    intro hsame
    exact hne (LawfulEqOrd.compare_eq_iff_eq.mpr (h.key_unique hkey hk hsame))
  · intro k found hfound hs
    rcases found_insert hfound with ⟨_, rfl⟩ | ⟨hne, hold⟩
    · cases hs
    · obtain ⟨ordinal, hmem⟩ := h.queued k found hold hs
      refine ⟨ordinal, ExtTreeSet.mem_erase.mpr ⟨?_, hmem⟩⟩
      intro heq
      have hid := congrArg ReadyKeyV1.tokenId (LawfulEqOrd.compare_eq_iff_eq.mp heq)
      rw [hw.keyed k found hold] at hid
      exact hne hid

theorem Queued.cancel (h : Queued s) (lineage : String) : Queued (s.cancelLineage lineage).2 := by
  refine ⟨?_, ?_⟩
  · intro k hk
    simp only [cancelLineage, mem_filter_set] at hk
    obtain ⟨hk, hkeep⟩ := hk
    obtain ⟨found, ordinal, hfound, hs, ho, heq⟩ := h.named k hk
    refine ⟨found, ordinal, ?_, hs, ho, heq⟩
    have hstays : cancellable lineage found = false := by
      rw [heq] at hkeep
      simp only [Bool.not_eq_true'] at hkeep
      simp [cancellable, hkeep]
    simp [cancelLineage, getElem?_map, hfound, hstays]
  · intro k found hfound hs
    obtain ⟨old, hold, rfl⟩ := cancelled_token s lineage k found hfound
    split at hs
    · cases hs
    · rename_i hstays
      rw [if_neg hstays]
      obtain ⟨ordinal, hmem⟩ := h.queued k old hold hs
      refine ⟨ordinal, ?_⟩
      simp only [cancelLineage, mem_filter_set]
      refine ⟨hmem, ?_⟩
      simpa [cancellable, hs] using hstays

end Queued

section Receipts
variable {derived : StableId → StableId → Prop} {s s' : SchedulerV1}

section
variable (h : Receipts s) (hplan : s'.plan = s.plan)
  (hforth : ∀ (key : String) t, s.tokens[key]? = some t → ∃ t', s'.tokens[key]? = some t' ∧ TokenStep derived t t')
include h hplan hforth

/-- The receipts of a scheduler hold wherever its tokens live on. -/
theorem Receipts.forth
    (key : String) (child : Option String) (hchild : s.acknowledgedProposals[key]? = some child) :
    ∃ p source, p.val = key ∧ s'.tokens[source.tokenId.val]? = some source ∧ source.awaitingProposalId = some p ∧
      source.state = .completed ∧ ReceiptFor s' source child := by
  obtain ⟨p, source, hp, hsource, hawait, hdone, hreceipt⟩ := h.recorded key child hchild
  obtain ⟨source', hsource', hstep⟩ := hforth _ source hsource
  obtain rfl := hstep.completed_stays hdone
  refine ⟨p, source', hp, hsource', hawait, hdone, ?_⟩
  cases child with
  | none => exact ⟨hreceipt.1, by rw [hplan]; exact hreceipt.2⟩
  | some childId =>
    obtain ⟨token, t, htoken, ht, hnode, hlineage, hext⟩ := hreceipt
    obtain ⟨token', htoken', hstep'⟩ := hforth childId token htoken
    obtain ⟨_, hsame, hsame', _⟩ := hstep'.identity
    exact ⟨token', t, htoken', by rw [hplan, ht], by rw [hsame, hnode], by rw [hsame', hlineage], hext⟩

theorem Receipts.keep
    (hdone : ∀ (key : String) t, s'.tokens[key]? = some t → t.state = .completed → s.tokens[key]? = some t)
    (hacks : s'.acknowledgedProposals = s.acknowledgedProposals) (hcursor : s'.committedCursor = s.committedCursor) :
    Receipts s' := by
  refine ⟨by rw [hacks, hcursor]; exact h.counted, ?_, ?_⟩
  · intro key child hchild
    rw [hacks] at hchild
    exact h.forth hplan hforth key child hchild
  · intro key t ht hs
    rw [hacks]
    exact h.completed key t (hdone key t ht hs) hs

/-- Acknowledging at a later cursor adds the receipt of the source. -/
theorem Receipts.acknowledge {child : Option String} {source : TokenV1}
    (hdone : ∀ (key : String) t, s'.tokens[key]? = some t → t.state = .completed →
      s.tokens[key]? = some t ∨ t.awaitingProposalId = some p)
    (hacks : s'.acknowledgedProposals = s.acknowledgedProposals.insert p.val child)
    (hcursor : s.committedCursor < s'.committedCursor) (hsource : s'.tokens[source.tokenId.val]? = some source)
    (hawait : source.awaitingProposalId = some p) (hstate : source.state = .completed)
    (hreceipt : ReceiptFor s' source child) : Receipts s' := by
  refine ⟨?_, ?_, ?_⟩
  · have hsize := h.counted
    rw [hacks, size_insert]
    split <;> omega
  · rw [hacks]
    exact all_insert (h.forth hplan hforth) ⟨p, source, rfl, hsource, hawait, hstate, hreceipt⟩
  · intro key t ht hs
    rw [hacks]
    rcases hdone key t ht hs with hold | hnew
    · obtain ⟨q, hq, hmem⟩ := h.completed key t hold hs
      exact ⟨q, hq, mem_insert.mpr (.inr hmem)⟩
    · exact ⟨p, hnew, mem_insert_self⟩

end

end Receipts

/-- The source an acknowledgement found waits on the acknowledged proposal. -/
theorem Acknowledgeable.awaits (hw : Wellformed s)
    {source : TokenV1} (hack : Acknowledgeable s p cursor sourceId source) : source.awaitingProposalId = some p := by
  obtain ⟨token, hfind, rfl⟩ := hack.found
  obtain ⟨key, hkey⟩ := (mem_values s.tokens token).mp (List.mem_of_find?_eq_some hfind)
  have hstored := hack.stored
  rw [hw.keyed key token hkey, hkey] at hstored
  rw [← some.inj hstored]
  simpa using List.find?_some hfind

end SchedulerV1
end Aworkit.Worker
