import Aworkit.Worker.Plan

/-! What an accepted compilation guarantees; the scheduler's proofs never open `compile` again. -/
namespace Aworkit.Worker
open Protocol Fallible OrderedMap DepthFirst ExecutionPlanV1 List

theorem mem_sortById {α : Type} (id : α → String) (items : List α) (item : α) :
    item ∈ sortById id items ↔ item ∈ items :=
  mem_insertionSort _

theorem sortById_perm {α : Type} (id : α → String) (items : List α) : (sortById id items).Perm items :=
  perm_insertionSort _ _

/-- Canonical order keeps the sizes a bound on the run is made of. -/
theorem canonicalizeSnapshot_sizes (snapshot : WorkerFrozenRunSnapshotV1) :
    (canonicalizeSnapshot snapshot).nodes.length = snapshot.nodes.length ∧
      (canonicalizeSnapshot snapshot).entryNodes.length = snapshot.entryNodes.length ∧
      ((canonicalizeSnapshot snapshot).loopDescriptors.map fun d => d.maximumIterations.toNat).sum =
        (snapshot.loopDescriptors.map fun d => d.maximumIterations.toNat).sum := by
  refine ⟨?_, (sortById_perm _ _).length_eq, ((sortById_perm _ _).map _).sum_eq⟩
  simp only [canonicalizeSnapshot, length_map]
  exact (sortById_perm _ _).length_eq

/-- A numbering of the nodes that falls along every transition outside the declared loops. -/
structure Ranking (plan : ExecutionPlanV1) where
  rank : String → Nat
  bounded : ∀ node, rank node < plan.snapshot.nodes.length
  falls : ∀ (key : String) (t : WorkerTransitionV1), plan.transitions[key]? = some t → t.declaredLoopId = none →
    rank t.toNode.val < rank t.fromNode.val

/-- A plan whose tables say what its snapshot lists: an id leads to the entry listed under it, and a node to the
transitions and rules listed for it. All that is named exists. -/
structure PlanSound (plan : ExecutionPlanV1) : Prop where
  nodes : ∀ (key : String) (node : WorkerNodeV1),
    plan.nodes[key]? = some node ↔ node ∈ plan.snapshot.nodes ∧ node.nodeId.val = key
  nodesNodup : (plan.snapshot.nodes.map fun node => node.nodeId.val).Nodup
  entries : ∀ entry ∈ plan.snapshot.entryNodes, entry.val ∈ plan.nodes
  transitions : ∀ (key : String) (t : WorkerTransitionV1),
    plan.transitions[key]? = some t ↔ t ∈ plan.snapshot.transitions ∧ t.transitionId.val = key
  target : ∀ (key : String) (t : WorkerTransitionV1), plan.transitions[key]? = some t → t.toNode.val ∈ plan.nodes
  declaredLoop : ∀ (key : String) (t : WorkerTransitionV1) (loop : StableId), plan.transitions[key]? = some t →
    t.declaredLoopId = some loop → ∃ d, plan.loopDescriptor loop = some d
  leaving : ∀ (node : StableId) (t : WorkerTransitionV1),
    t ∈ plan.outgoingOf node ↔ t ∈ plan.snapshot.transitions ∧ t.fromNode = node
  rules : ∀ (node : StableId) (rule : WorkerRouteRuleV1),
    rule ∈ plan.routeRules node ↔ rule ∈ plan.snapshot.routeRules ∧ rule.nodeId = node
  routes : ∀ (node : StableId) (rule : WorkerRouteRuleV1), rule ∈ plan.routeRules node →
    ∃ t, plan.transition rule.destinationTransition = some t ∧ t.fromNode = node
  joins : ∀ (key : String) (d : WorkerJoinDescriptorV1),
    plan.joins[key]? = some d ↔ d ∈ plan.snapshot.joinDescriptors ∧ d.nodeId.val = key
  loops : ∀ (key : String) (d : WorkerLoopDescriptorV1),
    plan.loops[key]? = some d ↔ d ∈ plan.snapshot.loopDescriptors ∧ d.loopId.val = key
  loopsNodup : (plan.snapshot.loopDescriptors.map fun d => d.loopId.val).Nodup
  fingerprint : ∃ digest : Sha256Digest, plan.fingerprint = digest.text
  ranking : Nonempty (Ranking plan)

private theorem mem_of_lookup {α : Type} {table : Std.ExtTreeMap String α} {items : List α} {id : α → String}
    (h : ∀ (key : String) (item : α), table[key]? = some item ↔ item ∈ items ∧ id item = key) (key : String) :
    key ∈ table ↔ key ∈ items.map id := by
  rw [Std.ExtTreeMap.mem_iff_isSome_getElem?, Option.isSome_iff_exists]
  simp [h, mem_map]

theorem PlanSound.node_mem {plan : ExecutionPlanV1} (h : PlanSound plan) (key : String) :
    key ∈ plan.nodes ↔ key ∈ plan.snapshot.nodes.map fun node => node.nodeId.val :=
  mem_of_lookup h.nodes key

theorem PlanSound.outgoing {plan : ExecutionPlanV1} (h : PlanSound plan) {node : StableId} {t : WorkerTransitionV1}
    (ht : t ∈ plan.outgoingOf node) : plan.transition t.transitionId = some t ∧ t.fromNode = node :=
  ⟨(h.transitions _ t).mpr ⟨((h.leaving node t).mp ht).1, rfl⟩, ((h.leaving node t).mp ht).2⟩

/-- The successful steps of a compilation, one field a step. -/
structure Compiled (enc : Encoding) (plan : ExecutionPlanV1) : Prop where
  capabilities : validateCapabilities plan.snapshot = .ok ()
  nodes : Collected (validateNode (plan.snapshot.capabilityRefs.map StableId.val)) (fun node => node.nodeId.val)
    plan.snapshot.nodes plan.nodes
  nonempty : plan.nodes.isEmpty = false
  entries : validateEntries plan.nodes plan.snapshot.entryNodes = .ok ()
  transitions : Collected (validateTransition enc plan.nodes) (fun transition => transition.transitionId.val)
    plan.snapshot.transitions plan.transitions
  outgoing : plan.outgoing = outgoingTable plan.snapshot.transitions
  loops : validateLoops plan.snapshot.loopDescriptors plan.nodes plan.transitions = .ok plan.loops
  cycles : validateV1Cycles plan.nodes plan.outgoing = .ok ()
  joins : Collected (validateJoin plan.nodes) (fun descriptor => descriptor.nodeId.val) plan.snapshot.joinDescriptors plan.joins
  routes : validateRoutes enc plan.snapshot.routeRules plan.nodes plan.transitions = .ok plan.routes
  fingerprint : planFingerprint enc plan.snapshot = .ok plan.fingerprint

private theorem compileCanonical_ok (enc : Encoding) (snapshot : WorkerFrozenRunSnapshotV1) (plan : ExecutionPlanV1)
    (h : compileCanonical enc snapshot = .ok plan) : plan.snapshot = snapshot ∧ Compiled enc plan := by
  simp only [compileCanonical, bind_ok_iff, Except.ok.injEq] at h
  obtain ⟨_, hcapabilities, nodes, hnodes, _, hempty, _, hentries, transitions, htransitions, loops, hloops, _, hcycles,
    joins, hjoins, routes, hroutes, fingerprint, hfingerprint, rfl⟩ := h
  refine ⟨rfl, ?_⟩
  exact
    { capabilities := hcapabilities
      nodes := collectUnique_ok _ _ _ _ _ hnodes
      nonempty := by simpa using hempty
      entries := hentries
      transitions := collectUnique_ok _ _ _ _ _ htransitions
      outgoing := rfl
      loops := hloops
      cycles := hcycles
      joins := collectUnique_ok _ _ _ _ _ hjoins
      routes := hroutes
      fingerprint := hfingerprint }

/-- A compiled plan carries the canonical form of its snapshot. -/
theorem compile_ok (enc : Encoding) (snapshot : WorkerFrozenRunSnapshotV1) (declared : String)
    (plan : ExecutionPlanV1) (h : compile enc snapshot declared = .ok plan) :
    plan.snapshot = canonicalizeSnapshot snapshot ∧ Compiled enc plan := by
  simp only [compile, bind_ok_iff] at h
  obtain ⟨_, _, hc⟩ := h
  exact compileCanonical_ok enc _ plan hc

namespace Compiled
variable {enc : Encoding} {plan : ExecutionPlanV1} (hc : Compiled enc plan)
include hc

theorem transition_target (key : String) (t : WorkerTransitionV1) (h : plan.transitions[key]? = some t) :
    t.fromNode.val ∈ plan.nodes ∧ t.toNode.val ∈ plan.nodes := by
  have hmem := ((hc.transitions.lookup key t).mp h).1
  have hvalid := hc.transitions.checked t hmem
  simp only [validateTransition, passes] at hvalid
  obtain ⟨source, hsource, target, htarget, _⟩ := hvalid
  simp only [Std.ExtTreeMap.mem_iff_isSome_getElem?, hsource, htarget, Option.isSome_some, and_self]

theorem entry_mem (entry : StableId) (h : entry ∈ plan.snapshot.entryNodes) : entry.val ∈ plan.nodes := by
  have hentries := hc.entries
  simp only [validateEntries, bind_ok_iff] at hentries
  obtain ⟨found, hfound, _⟩ := hentries
  have hvalid := (collectUnique_ok _ _ _ _ _ hfound).checked entry h
  simpa using hvalid

theorem mem_outgoing (key : String) (t : WorkerTransitionV1) :
    t ∈ plan.outgoing[key]?.getD [] ↔ t ∈ plan.snapshot.transitions ∧ t.fromNode.val = key := by
  rw [hc.outgoing, outgoingTable, Std.ExtTreeMap.getElem?_map]
  rw [← mem_group (fun transition : WorkerTransitionV1 => transition.fromNode.val)]
  cases (group (fun transition : WorkerTransitionV1 => transition.fromNode.val) plan.snapshot.transitions)[key]? with
  | none => simp
  | some edges => simp [mem_insertionSort]

theorem loops_collected :
    Collected (validateLoopDescriptor plan.nodes) (fun d : WorkerLoopDescriptorV1 => d.loopId.val)
        plan.snapshot.loopDescriptors plan.loops ∧
      ∀ t ∈ values plan.transitions, validateLoopTransition plan.loops t = .ok () := by
  have hloops := hc.loops
  simp only [validateLoops, bind_ok_iff, checkAll_eq_ok] at hloops
  obtain ⟨loops, hcollect, _, hall, hused⟩ := hloops
  split at hused
  · cases hused
  · cases hused
    exact ⟨collectUnique_ok _ _ _ _ _ hcollect, hall⟩

theorem mem_routeRules (node : StableId) (rule : WorkerRouteRuleV1) :
    rule ∈ plan.routeRules node ↔ rule ∈ plan.snapshot.routeRules ∧ rule.nodeId = node := by
  have hroutes := hc.routes
  simp only [validateRoutes, bind_ok_iff] at hroutes
  obtain ⟨_, _, heq⟩ := hroutes
  rw [routeRules, ← Except.ok.inj heq, Std.ExtTreeMap.getElem?_map, ← StableId.val_injective.eq_iff,
    ← mem_group (fun rule : WorkerRouteRuleV1 => rule.nodeId.val)]
  cases (group (fun rule : WorkerRouteRuleV1 => rule.nodeId.val) plan.snapshot.routeRules)[node.val]? with
  | none => simp
  | some rules => simp [mem_insertionSort]

theorem route_mem (node : StableId) (rule : WorkerRouteRuleV1) (h : rule ∈ plan.routeRules node) :
    ∃ t, plan.transition rule.destinationTransition = some t ∧ t.fromNode = node := by
  have hroutes := hc.routes
  simp only [validateRoutes, bind_ok_iff] at hroutes
  obtain ⟨found, hfound, _⟩ := hroutes
  obtain ⟨hmem, rfl⟩ := (hc.mem_routeRules node rule).mp h
  have hvalid := (collectUnique_ok _ _ _ _ _ hfound).checked rule hmem
  simp only [validateRoute, passes, unmet] at hvalid
  obtain ⟨_, _, t, ht, ⟨_, hfrom⟩, _⟩ := hvalid
  exact ⟨t, ht, hfrom⟩

theorem ranking : Nonempty (Ranking plan) := by
  have hcycles := hc.cycles
  unfold validateV1Cycles at hcycles
  split at hcycles
  · cases hcycles
  · rename_i closed hsearch
    obtain ⟨hordered, hnodup, hroots, hwithin⟩ := search_ok _ _ _ _ closed hsearch
    have htargets : ∀ key ∈ edgeTargets plan.outgoing, key ∈ plan.nodes := by
      intro key hkey
      obtain ⟨edges, hedges, hin⟩ := mem_flatMap.mp hkey
      obtain ⟨t, ht, rfl⟩ := mem_map.mp hin
      obtain ⟨source, hsource⟩ := (mem_values _ _).mp hedges
      have hmem := ((hc.mem_outgoing source t).mp (by simpa [hsource] using ht)).1
      exact (hc.transition_target _ t ((hc.transitions.lookup _ t).mpr ⟨hmem, rfl⟩)).2
    have hsub : closed ⊆ plan.snapshot.nodes.map fun node => node.nodeId.val := by
      intro key hkey
      rw [← mem_of_lookup hc.nodes.lookup]
      rcases mem_append.mp (hwithin hkey) with hk | hk
      · simpa using hk
      · exact htargets key hk
    have hlength : closed.length ≤ plan.snapshot.nodes.length := by
      simpa using (subperm_of_subset hnodup hsub).length_le
    have hclosed : closed ≠ [] := by
      intro hnil
      have hempty : plan.nodes.keys = [] := subset_nil.mp (hnil ▸ hroots)
      have hne := hc.nonempty
      rw [← Std.ExtTreeMap.isEmpty_keys, hempty] at hne
      cases hne
    refine ⟨⟨fun node => rank node closed, ?_, ?_⟩⟩
    · intro node
      exact (rank_lt node closed hclosed).trans_le hlength
    · intro key t ht hplain
      obtain ⟨hfrom, _⟩ := hc.transition_target key t ht
      have hmem := ((hc.transitions.lookup key t).mp ht).1
      refine rank_edge_lt (plainEdges plan.outgoing) closed hordered hnodup t.fromNode.val
        (hroots (by simpa using hfrom)) (t.transitionId.val, t.toNode.val) ?_
      refine mem_map.mpr ⟨t, mem_filter.mpr ⟨?_, by simp [hplain]⟩, rfl⟩
      exact (hc.mem_outgoing _ t).mpr ⟨hmem, rfl⟩

theorem sound : PlanSound plan := by
  obtain ⟨hloops, hdeclared⟩ := hc.loops_collected
  exact
    { nodes := hc.nodes.lookup
      nodesNodup := hc.nodes.nodup
      entries := hc.entry_mem
      transitions := hc.transitions.lookup
      target := fun key t ht => (hc.transition_target key t ht).2
      declaredLoop := by
        intro key t loop ht hloop
        have hvalid := hdeclared t ((mem_values _ _).mpr ⟨key, ht⟩)
        simp only [validateLoopTransition, hloop, passes] at hvalid
        obtain ⟨d, hd, _⟩ := hvalid
        exact ⟨d, hd⟩
      leaving := by
        intro node t
        rw [← StableId.val_injective.eq_iff]
        exact hc.mem_outgoing node.val t
      rules := hc.mem_routeRules
      joins := hc.joins.lookup
      routes := hc.route_mem
      loops := hloops.lookup
      loopsNodup := hloops.nodup
      fingerprint := by
        have hf := hc.fingerprint
        unfold planFingerprint at hf
        split at hf
        · exact ⟨_, (Except.ok.inj hf).symm⟩
        · cases hf
      ranking := hc.ranking }

end Compiled

/-- A snapshot without nodes, with what the samples share. -/
def emptySnapshot (snapshotHash : String) : WorkerFrozenRunSnapshotV1 where
  snapshotId := .ofText "snapshot.v1"
  snapshotHash := snapshotHash
  chatId := .ofText "chat.v1"
  runId := .ofText "run.v1"
  schemaVersion := 1
  compilerVersion := "aworkit-worker-v1"
  workflowHash := "aaaaaaaaaaaaaaaaaaaaaaaaaaaaaaaaaaaaaaaaaaaaaaaaaaaaaaaaaaaaaaaa"
  nodes := []
  transitions := []
  entryNodes := []
  loopDescriptors := []
  joinDescriptors := []
  routeRules := []
  authorityManifestRef := .ofText "authority.v1"
  authorityManifestHash := "dddddddddddddddddddddddddddddddddddddddddddddddddddddddddddddddd"
  capabilityBindings := []
  capabilityRefs := []
  workspaceIdentity := .null
  budget := ⟨10, 10, 10, 10000, 1000000, 100, 2, 4, 2, 60000⟩
  historyMode := .localSqlite

end Aworkit.Worker
