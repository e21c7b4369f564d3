import Aworkit.Worker.CheckpointRoundTrip
import Aworkit.Worker.LoopRecovery

/-! The ready set as an index of the token table. Placing a token under an id in use leaves a key behind; every other
operation keeps it exact. -/
namespace Aworkit.Worker.SchedulerV1
open Protocol Fallible OrderedMap Std List

variable {plan : ExecutionPlanV1} {s : SchedulerV1} {id : String}

/-- Every ordinal that was given to a token still has its token. -/
def NoneLost (s : SchedulerV1) : Prop := s.tokens.size + 1 = s.nextTokenOrdinal

section Growth
variable {enc : Encoding} {s' : SchedulerV1} {e : Effect}

/-- The token table grows at most as fast as the ordinals. -/
theorem move_growth (hm : Move enc s e s') :
    s'.tokens.size + s.nextTokenOrdinal ≤ s.tokens.size + s'.nextTokenOrdinal := by
  have hplace : ∀ (key : String) (t : TokenV1) (tokens : ExtTreeMap String TokenV1) (next : Nat),
      (tokens.insert key t).size + next ≤ tokens.size + (next + 1) := by
    intro key t tokens next
    have hsize := @ExtTreeMap.size_insert_le _ _ _ tokens _ key t
    omega
  cases hm with
  | idle | dropped => exact Nat.le_refl _
  | enqueued => exact hplace _ _ _ _
  | claimed hfirst ht hs | awaited ht | suspended ht | resumed ht | stranded ht =>
    exact Nat.le_of_eq (congrArg (· + _) (size_replace _ ht))
  | @admitted _ sourceId _ cursor _ source _ _ hack hsel ht hext hp revision =>
    have hsize : (s.advance sourceId source cursor).tokens.size = s.tokens.size := size_replace _ hack.stored
    rw [← hsize]
    exact hplace _ _ _ _
  | interrupted hashed hack | completed hack => exact Nat.le_of_eq (congrArg (· + _) (size_replace _ hack.stored))
  | cancelled => exact Nat.le_of_eq (congrArg (· + _) ExtTreeMap.size_map)

private theorem move_ordinals (hm : Move enc s e s') : s'.nextTokenOrdinal = s.nextTokenOrdinal + (e.enqueued + e.admitted) := by
  cases hm <;> rfl

theorem moves_growth (hm : Moves enc s e s') :
    s'.tokens.size + s.nextTokenOrdinal ≤ s.tokens.size + s'.nextTokenOrdinal := by
  induction hm with
  | refl => exact Nat.le_refl _
  | snoc hmoves hmove ih =>
    have hstep := move_growth hmove
    omega

theorem moves_size (hm : Moves enc s e s') : s.tokens.size ≤ s'.tokens.size := by
  induction hm with
  | refl => exact Nat.le_refl _
  | snoc hmoves hmove ih => exact ih.trans (move_size hmove)

theorem moves_ordinals (hm : Moves enc s e s') : s'.nextTokenOrdinal = s.nextTokenOrdinal + (e.enqueued + e.admitted) := by
  induction hm with
  | refl => rfl
  | @snoc before e' _ _ hmoves hmove ih =>
    have hstep : _ = _ + (e'.enqueued + e'.admitted) := move_ordinals hmove
    show _ = _ + ((before.enqueued + e'.enqueued) + (before.admitted + e'.admitted))
    omega

theorem noneLost_before (hstart : NoneLost start) (hm : Moves enc start e s)
    (hrest : Moves enc s f s') (h : NoneLost s') : NoneLost s := by
  have hbefore := moves_growth hm
  have hafter := moves_growth hrest
  unfold NoneLost at *
  omega

end Growth

variable {t source : TokenV1} {node sourceId : StableId}

theorem Wellformed.ordinal (h : Wellformed s) (hplan : PlanSound s.plan) {key : String}
    (ht : s.tokens[key]? = some t) : ∃ ordinal, s.nodeOrdinals[t.nodeId.val]? = some ordinal := by
  obtain ⟨node, hnode⟩ := (h.sound key t ht).node
  have hmem : t.nodeId.val ∈ s.nodeOrdinals := (h.ordinal_iff hplan _).mpr
    (ExtTreeMap.mem_iff_isSome_getElem?.mpr (Option.isSome_iff_exists.mpr ⟨node, hnode⟩))
  exact Option.isSome_iff_exists.mp (ExtTreeMap.mem_iff_isSome_getElem?.mp hmem)

theorem seedFrom_cons (rest : List StableId) {s' : SchedulerV1} (h : s.enqueue enc node revision "root" = (.ok token, s')) :
    (seedFrom enc revision (node :: rest) s).2 = (seedFrom enc revision rest s').2 := by
  simp only [seedFrom, h]
  split <;> simp [*]

section Index
variable {enc : Encoding} {s' : SchedulerV1} {e : Effect}

theorem place_fresh (h : NoneLost s)
    (h' : (s.tokens.insert id t).size + 1 = s.nextTokenOrdinal + 1) : s.tokens[id]? = none := by
  rw [← size_insert_succ_iff s.tokens id t]
  unfold NoneLost at h
  omega

theorem Queued.place (h : Queued s) {lineage : String} {ordinal : Nat} {tokenId : StableId}
    (hp : Placeable enc s node lineage ordinal tokenId) (hfresh : s.tokens[tokenId.val]? = none) (revision : Nat) :
    Queued (s.place ordinal (s.freshToken tokenId node revision lineage)) := by
  refine h.enter rfl ?_ rfl rfl rfl hp.known
  intro old hold
  cases hfresh.symm.trans hold

private theorem move_queued (hm : Move enc s e s') (hplan : PlanSound s.plan) (hw : Wellformed s) (hkept : NoneLost s)
    (hkept' : NoneLost s') (h : Queued s) : Queued s' := by
  cases hm with
  | idle => exact h
  | enqueued hp revision => exact h.place hp (place_fresh hkept hkept') revision
  | claimed hfirst ht hs => exact h.claim hw (first_least hfirst).1 _
  | dropped hfirst hn =>
    obtain ⟨t, _, ht, hs, _⟩ := h.named _ (first_least hfirst).1
    exact absurd hs (hn t ht)
  | awaited ht hs | suspended ht hs => exact h.insert ht (by simp [hs]) (by simp) rfl rfl rfl
  | @admitted _ sourceId _ cursor _ source _ _ hack hsel ht hext hp revision =>
    have hadvanced : Queued (s.advance sourceId source cursor) :=
      h.insert hack.stored (by simp [hack.waiting]) (by simp) rfl rfl rfl
    have hsize : (s.advance sourceId source cursor).tokens.size = s.tokens.size := size_replace _ hack.stored
    have hnone : NoneLost (s.advance sourceId source cursor) := (congrArg (· + 1) hsize).trans hkept
    have hplaced := hadvanced.place hp (place_fresh hnone hkept') revision
    exact ⟨hplaced.named, hplaced.queued⟩
  | interrupted hashed hack | completed hack =>
    exact h.insert hack.stored (by simp [hack.waiting]) (by simp) rfl rfl rfl
  | @resumed tokenId token ordinal ht hs ho =>
    have hkey : token.tokenId.val = tokenId.val := hw.keyed _ _ ht
    refine @Queued.enter ordinal s _ h { token with state := .ready } rfl ?_ (by rw [hkey]) rfl rfl ho
    intro old hold
    rw [hkey, ht] at hold
    rw [← Option.some.inj hold, hs]
    simp
  | stranded ht hs ho =>
    obtain ⟨ordinal, hordinal⟩ := hw.ordinal hplan ht
    cases ho.symm.trans hordinal
  | cancelled lineage => exact h.cancel lineage

theorem moves_wellformed (hm : Moves enc s e s') (hplan : PlanSound s.plan) (hw : Wellformed s) : Wellformed s' := by
  induction hm with
  | refl => exact hw
  | snoc hmoves hmove ih => exact move_wellformed hmove (hmoves.plan_eq ▸ hplan) ih

theorem moves_queued (hm : Moves enc s e s') (hplan : PlanSound s.plan) (hw : Wellformed s) (hkept : NoneLost s)
    (hkept' : NoneLost s') (h : Queued s) : Queued s' := by
  induction hm with
  | refl => exact h
  | snoc hmoves hmove ih =>
    have hmid := noneLost_before hkept hmoves (.single hmove) hkept'
    exact move_queued hmove (hmoves.plan_eq ▸ hplan) (moves_wellformed hmoves hplan hw) hmid hkept' (ih hmid)

end Index

/-- A scheduler as `new` or an accepted `restore` returns it. -/
inductive Started (plan : ExecutionPlanV1) : SchedulerV1 → Prop
  | new : Started plan (new plan)
  | restored {checkpoint : SchedulerCheckpointV1} {s : SchedulerV1} (h : restore plan checkpoint = .ok s) : Started plan s

/-- The keys admitted so far each repeat the fields of a ready token. -/
def KeysRestored (s : SchedulerV1) (ready : ExtTreeSet ReadyKeyV1) : Prop :=
  ∀ key ∈ ready, ∃ t ordinal, s.tokens[key.tokenId]? = some t ∧ t.state = .ready ∧
    s.nodeOrdinals[t.nodeId.val]? = some ordinal ∧ key = ⟨t.logicalTick, ordinal, t.branchLineage, key.tokenId⟩

private theorem restoreReady_restored {ready next : ExtTreeSet ReadyKeyV1} (h : KeysRestored s ready)
    (hstep : s.restoreReady ready entry = .ok next) : KeysRestored s next := by
  simp only [restoreReady, passes, Except.ok.injEq, unmet] at hstep
  obtain ⟨t, ht, _, ⟨⟨⟨hstate, htick⟩, hlineage⟩, hordinal⟩, _, _, rfl⟩ := hstep
  intro key hkey
  rw [ExtTreeSet.mem_insert, LawfulEqOrd.compare_eq_iff_eq] at hkey
  rcases hkey with rfl | hkey
  · exact ⟨t, _, ht, hstate, hordinal, by rw [htick, hlineage]⟩
  · exact h key hkey

/-- An accepted checkpoint has a key for each ready token, no other, and as many tokens as ordinals used. -/
theorem restore_queued {checkpoint : SchedulerCheckpointV1}
    (h : restore plan checkpoint = .ok s) : Queued s ∧ NoneLost s := by
  have hw := (restore_ok h).wellformed
  simp only [restore, passes, Except.ok.injEq] at h
  obtain ⟨_, _, _, _, ⟨_, tokens⟩, _, next, hnext, _, hcount, ready, hready, _, hvalid, rfl⟩ := h
  have hkeys := foldlM_keeps _ (fun _ => KeysRestored _) (fun _ _ _ _ hd hstep => restoreReady_restored hd hstep)
    checkpoint.ready [] ∅ _ (by simp [KeysRestored]) hready
  have hnamed : ∀ key ∈ ready, ∃ t ordinal, tokens[key.tokenId]? = some t ∧ t.state = .ready ∧
      (new plan).nodeOrdinals[t.nodeId.val]? = some ordinal ∧
      key = ⟨t.logicalTick, ordinal, t.branchLineage, t.tokenId.val⟩ := by
    intro key hkey
    obtain ⟨t, ordinal, ht, hs, ho, heq⟩ := hkeys key hkey
    refine ⟨t, ordinal, ht, hs, ho, ?_⟩
    rw [hw.keyed _ t ht]
    exact heq
  refine ⟨⟨hnamed, ?_⟩, ?_⟩
  · intro id t ht hs
    simp only [validateRestored, passes, any_eq_false] at hvalid
    have hcovered := hvalid.choose_spec.1 t ((mem_values _ _).mpr ⟨id, ht⟩)
    simp only [hs, beq_self_eq_true, Bool.true_and, Bool.not_eq_true, Bool.not_eq_false', any_eq_true,
      beq_iff_eq, ExtTreeSet.mem_toList] at hcovered
    obtain ⟨key, hkey, hid⟩ := hcovered
    obtain ⟨t', ordinal, ht', _, _, heq⟩ := hnamed key hkey
    rw [hid, hw.keyed id t ht, ht] at ht'
    obtain rfl := Option.some.inj ht'
    exact ⟨ordinal, heq ▸ hkey⟩
  · simp only [checkedSucc] at hnext
    split at hnext
    · rw [bne_eq_false_iff_eq] at hcount
      exact (Option.some.inj hnext).trans hcount.symm
    · cases hnext

theorem Started.sound (h : Started plan s) : s.plan = plan ∧ Wellformed s ∧ Queued s ∧ NoneLost s := by
  cases h with
  | new => exact ⟨rfl, new_wellformed plan, ⟨by simp [SchedulerV1.new], by simp [SchedulerV1.new]⟩, by simp [NoneLost, SchedulerV1.new]⟩
  | restored h => exact ⟨(restore_ok h).plan_eq, (restore_ok h).wellformed, restore_queued h⟩

section Unused
variable {enc : Encoding} {s' : SchedulerV1}

/-- If a token is placed on the node and lineage, none bears the identifier derived for it. -/
def Unused (enc : Encoding) (s : SchedulerV1) (node : StableId) (lineage : String) : Prop :=
  ∀ ordinal tokenId, Placeable enc s node lineage ordinal tokenId → s.tokens[tokenId.val]? = none

def SeedsUnused (enc : Encoding) (revision : Nat) : List StableId → SchedulerV1 → Prop
  | [], _ => True
  | node :: rest, s => Unused enc s node "root" ∧
    match s.enqueue enc node revision "root" with
    | (.error _, _) => True
    | (.ok _, s') => SeedsUnused enc revision rest s'

/-- The tokens an operation places come under ids not in use. -/
def PlacesUnused (enc : Encoding) (s : SchedulerV1) : Operation → Prop
  | .seedEntries revision => SeedsUnused enc revision s.plan.snapshot.entryNodes s
  | .enqueue node _ lineage => Unused enc s node lineage
  | .acknowledgeTransition proposalId cursor _ =>
    s.committedCursor < cursor → s.acknowledgedProposals[proposalId.val]? = none →
      ∀ sourceId source transition, s.checkSource proposalId = .ok (sourceId, source, transition) →
        Unused enc s transition.toNode source.branchLineage
  | _ => True

def RunPlacesUnused (enc : Encoding) : SchedulerV1 → List Operation → Prop
  | _, [] => True
  | s, op :: rest => PlacesUnused enc s op ∧ RunPlacesUnused enc (s.perform enc op) rest

theorem enqueue_noneLost_iff (h : NoneLost s) (node : StableId) (revision : Nat) (lineage : String) :
    NoneLost (s.enqueue enc node revision lineage).2 ↔ Unused enc s node lineage := by
  rcases enqueue_cases enc s node revision lineage with ⟨e, he⟩ | ⟨ordinal, tokenId, hp⟩
  · rw [he]
    refine iff_of_true h ?_
    intro ordinal tokenId hp
    rw [enqueue_of_placeable hp] at he
    cases (Prod.mk.inj he).1
  · rw [enqueue_of_placeable hp]
    constructor
    · intro hkept ordinal' tokenId' hp'
      obtain rfl := Except.ok.inj (hp.derived.symm.trans hp'.derived)
      exact place_fresh h hkept
    · intro hunused
      have hsize := (size_insert_succ_iff s.tokens _ (s.freshToken tokenId node revision lineage)).mpr
        (hunused ordinal tokenId hp)
      exact congrArg (· + 1) (hsize.trans h)

theorem seedFrom_noneLost_iff (revision : Nat) (nodes : List StableId) (h : NoneLost s) :
    NoneLost (seedFrom enc revision nodes s).2 ↔ SeedsUnused enc revision nodes s := by
  induction nodes generalizing s with
  | nil => exact iff_of_true h trivial
  | cons node rest ih =>
    have hfirst := @enqueue_noneLost_iff s enc h node revision "root"
    obtain ⟨n, _, hmoves⟩ := enqueue_moves enc s node revision "root"
    simp only [SeedsUnused, ← hfirst]
    cases henq : s.enqueue enc node revision "root" with
    | mk answer s' =>
      rw [henq] at hmoves
      cases answer with
      | error e => simp [seedFrom, henq]
      | ok token =>
        -- what the first node loses is not found again by seeding the others
        obtain ⟨m, _, hothers⟩ := seedFrom_moves enc revision rest s'
        rw [seedFrom_cons rest henq]
        constructor
        · intro hkept
          have hmid := noneLost_before h hmoves hothers hkept
          exact ⟨hmid, (ih hmid).mp hkept⟩
        · rintro ⟨hmid, hunused⟩
          exact (ih hmid).mpr hunused

/-- Completing a source adds no token and changes nothing derived next. -/
theorem advance_unused_iff (hstored : s.tokens[sourceId.val]? = some source) (cursor : Nat) (node : StableId)
    (lineage : String) : Unused enc (s.advance sourceId source cursor) node lineage ↔ Unused enc s node lineage := by
  have hsame : ∀ id : String, (s.advance sourceId source cursor).tokens[id]? = none ↔ s.tokens[id]? = none := by
    intro id
    simp only [advance, complete, ExtTreeMap.getElem?_insert]
    split
    · rename_i hcmp
      rw [← LawfulEqOrd.eq_of_compare hcmp, hstored]
      simp
    · exact Iff.rfl
  constructor
  · intro h ordinal tokenId hp
    exact (hsame _).mp (h ordinal tokenId ⟨hp.known, hp.named, hp.derived, hp.unexhausted⟩)
  · intro h ordinal tokenId hp
    exact (hsame _).mpr (h ordinal tokenId ⟨hp.known, hp.named, hp.derived, hp.unexhausted⟩)

/-- An acknowledgement that finds its source loses a token exactly when enqueueing does. -/
theorem acknowledge_child_noneLost_iff {proposalId : StableId} {transition : WorkerTransitionV1}
    (hlater : s.committedCursor < cursor) (hack : s.acknowledgedProposals[proposalId.val]? = none)
    (hsource : s.checkSource proposalId = .ok (sourceId, source, transition)) (revision : Nat) :
    NoneLost (s.acknowledgeTransition enc proposalId cursor revision).2 ↔
      NoneLost ((s.advance sourceId source cursor).enqueue enc transition.toNode revision source.branchLineage).2 := by
  simp only [acknowledgeTransition, if_neg (Nat.not_lt.mpr (Nat.le_of_lt hlater)), hack,
    if_neg (Nat.not_le.mpr hlater), hsource]
  cases (s.advance sourceId source cursor).enqueue enc transition.toNode revision source.branchLineage with
  | mk answer s' => cases answer <;> exact Iff.rfl

private theorem acknowledgeTransition_noneLost_iff (h : NoneLost s) (proposalId : StableId) (cursor revision : Nat) :
    NoneLost (s.acknowledgeTransition enc proposalId cursor revision).2 ↔
      PlacesUnused enc s (.acknowledgeTransition proposalId cursor revision) := by
  by_cases hlater : s.committedCursor < cursor
  · cases hack : s.acknowledgedProposals[proposalId.val]? with
    | some child => simp [acknowledgeTransition, PlacesUnused, Nat.not_lt.mpr (Nat.le_of_lt hlater), hack, h]
    | none =>
      cases hsource : s.checkSource proposalId with
      | error e =>
        simp [acknowledgeTransition, PlacesUnused, Nat.not_lt.mpr (Nat.le_of_lt hlater), Nat.not_le.mpr hlater, hack,
          hsource, h]
      | ok checked =>
        obtain ⟨sourceId, source, transition⟩ := checked
        obtain ⟨_, hstored, _⟩ := checkSource_ok s proposalId sourceId source transition hsource
        have hsize : (s.advance sourceId source cursor).tokens.size = s.tokens.size := size_replace _ hstored
        have hnone : NoneLost (s.advance sourceId source cursor) := (congrArg (· + 1) hsize).trans h
        rw [acknowledge_child_noneLost_iff hlater hack hsource, enqueue_noneLost_iff hnone,
          advance_unused_iff hstored]
        constructor
        · intro hunused _ _ sourceId' source' transition' hsource'
          cases hsource.symm.trans hsource'
          exact hunused
        · intro hunused
          exact hunused hlater hack sourceId source transition hsource
  · have hidle : (s.acknowledgeTransition enc proposalId cursor revision).2 = s := by
      simp only [acknowledgeTransition, if_pos (Nat.not_lt.mp hlater)]
      split
      · rfl
      · split <;> rfl
    rw [hidle]
    exact iff_of_true h fun hlt => absurd hlt hlater

section
variable (h : NoneLost s) (hplan : PlanSound s.plan)
include h hplan

private theorem quiet_noneLost (op : Operation)
    (hlimit : enqueueLimit s.plan op = 0) (hadmitted : admitted enc s op = 0) : NoneLost (s.perform enc op) := by
  obtain ⟨n, hn, hmoves⟩ := perform_moves enc s hplan op
  have hnext : (s.perform enc op).nextTokenOrdinal = s.nextTokenOrdinal + (n + admitted enc s op) := moves_ordinals hmoves
  have hgrown := moves_size hmoves
  have hbound := moves_growth hmoves
  unfold NoneLost at *
  omega

/-- An operation loses a token exactly when it places one under an id in use. -/
theorem perform_noneLost_iff (op : Operation) :
    NoneLost (s.perform enc op) ↔ PlacesUnused enc s op := by
  cases op with
  | seedEntries revision => exact seedFrom_noneLost_iff revision _ h
  | enqueue node revision lineage => exact enqueue_noneLost_iff h node revision lineage
  | acknowledgeTransition proposalId cursor revision => exact acknowledgeTransition_noneLost_iff h proposalId cursor revision
  | _ => exact iff_of_true (quiet_noneLost h hplan _ rfl rfl) trivial

theorem run_noneLost_iff (ops : List Operation) :
    NoneLost (run enc s ops) ↔ RunPlacesUnused enc s ops := by
  induction ops generalizing s with
  | nil => exact iff_of_true h trivial
  | cons op rest ih =>
    obtain ⟨n, _, hfirst⟩ := perform_moves enc s hplan op
    have hplan' : PlanSound (s.perform enc op).plan := hfirst.plan_eq ▸ hplan
    obtain ⟨m, _, hrest⟩ := run_moves enc (s.perform enc op) hplan' rest
    have hstep := @perform_noneLost_iff s enc h hplan op
    show NoneLost (run enc (s.perform enc op) rest) ↔ PlacesUnused enc s op ∧ RunPlacesUnused enc (s.perform enc op) rest
    rw [← hstep]
    constructor
    · intro hkept
      have hmid := noneLost_before h hfirst hrest hkept
      exact ⟨hmid, (ih hmid hplan').mp hkept⟩
    · rintro ⟨hmid, hunused⟩
      exact (ih hmid hplan').mpr hunused

end

end Unused

/-- The key a token is queued under: its tick, node ordinal, lineage and id. -/
def readyKey (s : SchedulerV1) (t : TokenV1) : Option ReadyKeyV1 :=
  s.nodeOrdinals[t.nodeId.val]?.map fun ordinal => ⟨t.logicalTick, ordinal, t.branchLineage, t.tokenId.val⟩

/-- Exactly one ready key for each ready token, and no other key. -/
structure Indexed (s : SchedulerV1) : Prop where
  keys : ∀ key ∈ s.ready, ∃ t, s.tokens[key.tokenId]? = some t ∧ t.state = .ready ∧ s.readyKey t = some key
  one : ∀ (id : String) (t : TokenV1), s.tokens[id]? = some t → t.state = .ready →
    ∃ key ∈ s.ready, s.readyKey t = some key ∧ ∀ other ∈ s.ready, other.tokenId = id → other = key

/-- The key of one token comes before the key of the other. -/
def Before (s : SchedulerV1) (a b : TokenV1) : Prop :=
  ∃ first second, s.readyKey a = some first ∧ s.readyKey b = some second ∧ compare first second = .lt

/-- The tokens that successive claims return, up to the first without one. -/
def claims : Nat → SchedulerV1 → List TokenV1
  | 0, _ => []
  | n + 1, s =>
    match s.claimNext with
    | (none, _) => []
    | (some t, s') => t :: claims n s'

structure ClaimsReady (s : SchedulerV1) : Prop where
  none_iff : s.claimNext.1 = none ↔ ∀ (id : String) (t : TokenV1), s.tokens[id]? = some t → t.state ≠ .ready
  first : ∀ t, s.claimNext.1 = some t → ∃ old, s.tokens[t.tokenId.val]? = some old ∧ old.state = .ready ∧
    t = { old with state := .inFlight } ∧ ∀ (id : String) (other : TokenV1), s.tokens[id]? = some other →
      other.state = .ready → other ≠ old → s.Before t other
  increasing : ∀ n, (claims n s).Pairwise s.Before

theorem Queued.readyKey (h : Queued s) (hw : Wellformed s) (ht : s.tokens[id]? = some t)
    (hs : t.state = .ready) : ∃ key ∈ s.ready, s.readyKey t = some key ∧ key.tokenId = id := by
  obtain ⟨ordinal, hmem⟩ := h.queued id t ht hs
  have hid : t.tokenId.val = id := hw.keyed id t ht
  refine ⟨_, hmem, ?_, hid⟩
  obtain ⟨found, ordinal', hfound, _, hordinal, heq⟩ := h.named _ hmem
  rw [hid, ht] at hfound
  cases hfound
  simp only [ReadyKeyV1.mk.injEq] at heq
  rw [SchedulerV1.readyKey, hordinal, heq.2.1]
  rfl

theorem Queued.indexed (h : Queued s) (hw : Wellformed s) : Indexed s := by
  refine ⟨?_, ?_⟩
  · intro key hkey
    obtain ⟨t, ordinal, ht, hs, hordinal, heq⟩ := h.named key hkey
    refine ⟨t, ht, hs, ?_⟩
    rw [SchedulerV1.readyKey, hordinal, heq]
    rfl
  · intro id t ht hs
    obtain ⟨key, hkey, hat, hid⟩ := h.readyKey hw ht hs
    refine ⟨key, hkey, hat, ?_⟩
    intro other hother hsame
    exact h.key_unique hother hkey (hsame.trans hid.symm)

/-- The scheduler after the claim of a token under its key. -/
def claimed (s : SchedulerV1) (key : ReadyKeyV1) (t : TokenV1) : SchedulerV1 :=
  { s with ready := s.ready.erase key, tokens := s.tokens.insert t.tokenId.val { t with state := .inFlight } }

theorem claimNext_cases (hw : Wellformed s) (h : Queued s) :
    (s.claimNext = (none, s) ∧ ∀ (id : String) t, s.tokens[id]? = some t → t.state ≠ .ready) ∨
      ∃ key t, s.ready.toList.head? = some key ∧ s.tokens[t.tokenId.val]? = some t ∧ t.state = .ready ∧
        s.readyKey t = some key ∧ s.claimNext = (some { t with state := .inFlight }, s.claimed key t) := by
  cases hfirst : s.ready.toList.head? with
  | none =>
    refine .inl ⟨by simp [claimNext, hfirst], ?_⟩
    intro id t ht hs
    obtain ⟨key, hkey, _⟩ := h.readyKey hw ht hs
    rw [head?_eq_none_iff] at hfirst
    rw [← ExtTreeSet.mem_toList, hfirst] at hkey
    cases hkey
  | some key =>
    obtain ⟨t, ht, hs, hkey⟩ := (h.indexed hw).keys key (first_least hfirst).1
    have hid : t.tokenId.val = key.tokenId := hw.keyed _ t ht
    refine .inr ⟨key, t, rfl, by rw [hid, ht], hs, hkey, ?_⟩
    simp [claimNext, hfirst, ht, hs, claimed, hid]

theorem readyKey_token {key : ReadyKeyV1} (h : s.readyKey t = some key) : key.tokenId = t.tokenId.val := by
  obtain ⟨ordinal, _, rfl⟩ := Option.map_eq_some_iff.mp h
  rfl

theorem Queued.before (h : Queued s) (hw : Wellformed s)
    (hfirst : s.ready.toList.head? = some key) (hkey : s.readyKey t = some key) {other : TokenV1}
    (hother : s.tokens[id]? = some other) (hs : other.state = .ready) (hne : t.tokenId.val ≠ id) : s.Before t other := by
  obtain ⟨second, hmem, hsecond, hid⟩ := h.readyKey hw hother hs
  refine ⟨key, second, hkey, hsecond, (first_least hfirst).2 second hmem ?_⟩
  rintro rfl
  exact hne ((readyKey_token hkey).symm.trans hid)

/-- Successive claims return ready tokens, in the order of their keys. -/
theorem claims_ordered (n : Nat) (hw : Wellformed s) (h : Queued s) :
    (∀ t ∈ claims n s, ∃ old, s.tokens[t.tokenId.val]? = some old ∧ old.state = .ready ∧
      t = { old with state := .inFlight }) ∧ (claims n s).Pairwise s.Before := by
  induction n generalizing s with
  | zero => exact ⟨fun t ht => (by cases ht), .nil⟩
  | succ n ih =>
    rcases claimNext_cases hw h with ⟨hclaim, _⟩ | ⟨key, t, hfirst, ht, hs, hkey, hclaim⟩
    · simp [claims, hclaim]
    · have hw' : Wellformed (s.claimed key t) := hw.restate ht .inFlight (by rw [hs]; rfl) rfl rfl rfl
      have hq : Queued (s.claimed key t) := by
        have hclaimed := h.claim hw (first_least hfirst).1 t
        rw [readyKey_token hkey] at hclaimed
        exact hclaimed
      obtain ⟨hready, hordered⟩ := ih hw' hq
      -- a token that a later claim returns was ready before the first claim too
      have hearlier : ∀ a ∈ claims n (s.claimed key t), ∃ old, s.tokens[a.tokenId.val]? = some old ∧
          old.state = .ready ∧ a = { old with state := .inFlight } ∧ t.tokenId.val ≠ a.tokenId.val := by
        intro a ha
        obtain ⟨old, hold, hstate, heq⟩ := hready a ha
        rcases found_insert hold with ⟨_, rfl⟩ | ⟨hne, hkept⟩
        · cases hstate
        · exact ⟨old, hkept, hstate, heq, hne⟩
      simp only [claims, hclaim, mem_cons, pairwise_cons]
      refine ⟨?_, ?_, hordered⟩
      · rintro a (rfl | ha)
        · exact ⟨t, ht, hs, rfl⟩
        · obtain ⟨old, hold, hstate, heq, _⟩ := hearlier a ha
          exact ⟨old, hold, hstate, heq⟩
      · intro a ha
        obtain ⟨old, hold, hstate, heq, hne⟩ := hearlier a ha
        have hbefore := h.before hw hfirst hkey hold hstate hne
        rw [heq]
        exact hbefore

theorem Queued.claimsReady (h : Queued s) (hw : Wellformed s) : ClaimsReady s := by
  refine ⟨?_, ?_, fun n => (claims_ordered n hw h).2⟩
  · rcases claimNext_cases hw h with ⟨hclaim, hnone⟩ | ⟨key, t, _, ht, hs, _, hclaim⟩
    · rw [hclaim]
      exact iff_of_true rfl hnone
    · rw [hclaim]
      exact iff_of_false (by simp) fun hnone => hnone _ t ht hs
  · intro claimed hclaimed
    rcases claimNext_cases hw h with ⟨hclaim, _⟩ | ⟨key, t, hfirst, ht, hs, hkey, hclaim⟩
    · rw [hclaim] at hclaimed
      cases hclaimed
    · rw [hclaim] at hclaimed
      cases hclaimed
      refine ⟨t, ht, hs, rfl, ?_⟩
      intro id other hother hstate hne
      refine h.before hw hfirst hkey hother hstate ?_
      rintro rfl
      exact hne (Option.some.inj (hother.symm.trans ht))

/-- The lineage itself, or one below it. -/
def Beneath (candidate lineage : String) : Prop := candidate = lineage ∨ ∃ rest, candidate = lineage ++ "/" ++ rest

theorem lineageMatches_iff (candidate lineage : String) : lineageMatches candidate lineage = true ↔ Beneath candidate lineage := by
  simp only [lineageMatches, Beneath, met, isPrefixOf_iff_prefix]
  refine or_congr_right ?_
  constructor
  · rintro ⟨⟨rest, hrest⟩, hslash⟩
    rw [← hrest, ← String.length_toList, drop_left] at hslash
    obtain ⟨tail, rfl⟩ := head?_eq_some_iff.mp hslash
    refine ⟨String.ofList tail, ?_⟩
    rw [← String.toList_inj, ← hrest]
    simp
  · rintro ⟨rest, rfl⟩
    simp [String.toList_append, ← String.length_toList]

instance (candidate lineage : String) : Decidable (Beneath candidate lineage) :=
  decidable_of_iff _ (lineageMatches_iff candidate lineage)

/-- Cancelling a lineage cancels the ready, claimed and suspended tokens beneath it and no other. -/
def CancelsBeneath (s : SchedulerV1) : Prop :=
  ∀ lineage id : String, (s.cancelLineage lineage).2.tokens[id]? = s.tokens[id]?.map fun t =>
    if Beneath t.branchLineage lineage ∧ (t.state = .ready ∨ t.state = .inFlight ∨ t.state = .suspended) then
      { t with state := .cancelled }
    else t

private theorem cancels_beneath (s : SchedulerV1) : CancelsBeneath s := by
  have hsame : ∀ lineage t, cancellable lineage t = true ↔
      Beneath t.branchLineage lineage ∧ (t.state = .ready ∨ t.state = .inFlight ∨ t.state = .suspended) := by
    intro lineage t
    rw [cancellable, Bool.and_eq_true, lineageMatches_iff]
    refine and_congr_right fun _ => ?_
    cases t.state <;> simp
  intro lineage id
  simp [cancelLineage, hsame]

/-- The operations of a run place tokens only under unused ids exactly when in every state no token is lost and the
ready set is the index of the ready tokens. -/
theorem ready_index_exact_iff (enc : Encoding) (snapshot : WorkerFrozenRunSnapshotV1) (declared : String)
    (plan : ExecutionPlanV1) (hc : ExecutionPlanV1.compile enc snapshot declared = .ok plan) (start : SchedulerV1)
    (hstart : Started plan start) (ops : List Operation) :
    (RunPlacesUnused enc start ops ↔ ∀ n, NoneLost (run enc start (ops.take n)) ∧
        Indexed (run enc start (ops.take n)) ∧ ClaimsReady (run enc start (ops.take n))) ∧
      ∀ n, CancelsBeneath (run enc start (ops.take n)) := by
  obtain ⟨hplan, hw, hq, hkept⟩ := hstart.sound
  have hsound : PlanSound start.plan := hplan ▸ (compile_ok _ _ _ _ hc).2.sound
  refine ⟨⟨?_, ?_⟩, fun n => cancels_beneath _⟩
  · intro hunused n
    have hlast := (run_noneLost_iff hkept hsound ops).mpr hunused
    obtain ⟨_, _, hbefore⟩ := run_moves enc start hsound (ops.take n)
    obtain ⟨_, _, hafter⟩ := run_moves enc (run enc start (ops.take n)) (hbefore.plan_eq ▸ hsound) (ops.drop n)
    have hsplit : run enc (run enc start (ops.take n)) (ops.drop n) = run enc start ops := by
      rw [run, run, ← foldl_append, take_append_drop]
      rfl
    rw [hsplit] at hafter
    have hmid := noneLost_before hkept hbefore hafter hlast
    have hqueued := moves_queued hbefore hsound hw hkept hmid hq
    have hwell := moves_wellformed hbefore hsound hw
    exact ⟨hmid, hqueued.indexed hwell, hqueued.claimsReady hwell⟩
  · intro hall
    have hlast := (hall ops.length).1
    rw [take_length] at hlast
    exact (run_noneLost_iff hkept hsound ops).mp hlast

/-- The sample run, whose acknowledgement admits a second token. -/
theorem sample_ready_index_exact :
    RunPlacesUnused sampleEncoding (new samplePlan) loopOnce ∧
      ∀ n, Indexed (run sampleEncoding (new samplePlan) (loopOnce.take n)) := by
  obtain ⟨_, hcompiled⟩ := compile_ok _ _ _ _ samplePlan_compiles
  have hkept : NoneLost (run sampleEncoding (new samplePlan) loopOnce) := by
    unfold NoneLost
    decide +kernel
  have hunused := (run_noneLost_iff (Started.new : Started samplePlan _).sound.2.2.2 hcompiled.sound loopOnce).mp hkept
  have hexact := (ready_index_exact_iff sampleEncoding sampleSnapshot _ samplePlan samplePlan_compiles _ .new loopOnce).1
  exact ⟨hunused, fun n => (hexact.mp hunused n).2.1⟩

/-- In every run of a compiled plan, from a checkpoint too, each token is filed under its id on a node of the plan; once
it waits or has completed, it selected a transition that leaves the node or a completion of its executor. -/
theorem tokens_sound (enc : Encoding) (snapshot : WorkerFrozenRunSnapshotV1) (declared : String) (plan : ExecutionPlanV1)
    (hc : ExecutionPlanV1.compile enc snapshot declared = .ok plan) (start : SchedulerV1) (hstart : Started plan start)
    (ops : List Operation) : (run enc start ops).plan = plan ∧ Wellformed (run enc start ops) := by
  obtain ⟨hplan, hw, _⟩ := hstart.sound
  have hsound : PlanSound start.plan := hplan ▸ (compile_ok _ _ _ _ hc).2.sound
  obtain ⟨_, _, hmoves⟩ := run_moves enc start hsound ops
  exact ⟨hmoves.plan_eq.trans hplan, moves_wellformed hmoves hsound hw⟩

theorem sample_tokens_sound :
    (run sampleEncoding (new samplePlan) loopOnce).plan = samplePlan ∧
      Wellformed (run sampleEncoding (new samplePlan) loopOnce) :=
  tokens_sound _ sampleSnapshot _ samplePlan samplePlan_compiles _ .new loopOnce

/-- The sample encoders with the digest of one more token text. -/
def reuseEncoding : Encoding :=
  { sampleEncoding with sha256 := fun material =>
      if material = "token:" ++ sampleFingerprint ++ ":3:step:root" then
        Sha256Digest.ofText "ae53dcf24ebed14ce93632af5c93eec3ad84daf25db2129daaec97d49f702050"
      else sampleEncoding.sha256 material }

/-- A ready token that bears the identifier of the next token on its lineage. -/
def reusedToken : TokenV1 :=
  ⟨.ofText "worker.ae53dcf24ebed14ce93632af5c93eec3ad84daf25db2129d", sampleStep, 1, 0, "root", .ready,
    none, none, none, none⟩

def waitingToken : TokenV1 :=
  ⟨.ofText "worker.caf157df8920cdba0f414e6ac105be83300b8551b3f1d994", sampleStep, 1, 1, "side", .ready,
    none, none, none, none⟩

def reuseCheckpoint : SchedulerCheckpointV1 where
  logicalTick := 1
  nextTokenOrdinal := 3
  committedCursor := 0
  tokens := [reusedToken, waitingToken]
  ready := [(0, 0, "root", reusedToken.tokenId.val), (1, 0, "side", waitingToken.tokenId.val)]
  loopCounts := ∅
  acknowledgedProposals := ∅

def reuseRestored : SchedulerV1 := (restore samplePlan reuseCheckpoint).toOption.getD (new samplePlan)

/-- A checkpoint whose token bears the next identifier is accepted. Enqueueing leaves two keys for it, and the second
claim returns none though another token is ready. -/
theorem reused_id_queued_twice :
    ExecutionPlanV1.compile reuseEncoding sampleSnapshot sampleSnapshot.snapshotHash = .ok samplePlan ∧
      restore samplePlan reuseCheckpoint = .ok reuseRestored ∧
      (let placed := run reuseEncoding reuseRestored [.enqueue sampleStep 1 "root"]
       let claimed := run reuseEncoding placed [.claimNext]
       placed.ready.contains ⟨0, 0, "root", reusedToken.tokenId.val⟩ = true ∧
        placed.ready.contains ⟨1, 0, "root", reusedToken.tokenId.val⟩ = true ∧
        claimed.claimNext.1 = none ∧ claimed.tokens[waitingToken.tokenId.val]? = some waitingToken ∧
        waitingToken.state = .ready) :=
  ⟨samplePlan_compiles, eq_ok_of_isOk _ _ (by decide +kernel), by decide +kernel⟩

end Aworkit.Worker.SchedulerV1
