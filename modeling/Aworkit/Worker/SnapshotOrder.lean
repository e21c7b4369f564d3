import Aworkit.Collections.KeyedSort
import Aworkit.Worker.PlanSound

/-! Compilation under a change of the order of a snapshot's lists: the canonical form forgets the order of every list
with distinct sort keys. -/
namespace Aworkit.Worker
open Protocol Fallible OrderedMap ExecutionPlanV1 WorkerPortV1 StableId WorkerJoinDescriptorV1 List

variable {a b : WorkerFrozenRunSnapshotV1} {s : WorkerFrozenRunSnapshotV1} {enc : Encoding}

/-- The node with its ports in another order. -/
structure PortsReordered (a b : WorkerNodeV1) : Prop where
  inputs : a.inputs.Perm b.inputs
  outputs : a.outputs.Perm b.outputs
  rest : b = { a with inputs := b.inputs, outputs := b.outputs }

/-- The snapshot with its lists, and the ports of its nodes, in another order. -/
inductive Reordered (a : WorkerFrozenRunSnapshotV1) : WorkerFrozenRunSnapshotV1 → Prop
  | intro {nodes : List WorkerNodeV1} {transitions : List WorkerTransitionV1} {routeRules : List WorkerRouteRuleV1}
      (hports : List.Forall₂ PortsReordered a.nodes kept) (hnodes : kept.Perm nodes)
      (htransitions : a.transitions.Perm transitions) (hentries : a.entryNodes.Perm entryNodes)
      (hloops : a.loopDescriptors.Perm loopDescriptors) (hjoins : a.joinDescriptors.Perm joinDescriptors)
      (hroutes : a.routeRules.Perm routeRules) (hbindings : a.capabilityBindings.Perm capabilityBindings)
      (hrefs : a.capabilityRefs.Perm capabilityRefs) :
      Reordered a { a with
        nodes, transitions, entryNodes, loopDescriptors, joinDescriptors, routeRules, capabilityBindings,
          capabilityRefs }

/-- Entries of a list put into canonical order have distinct keys, join descriptors apart. -/
structure Keyed (s : WorkerFrozenRunSnapshotV1) : Prop where
  nodes : (s.nodes.map fun node => node.nodeId.val).Nodup
  inputs : ∀ node ∈ s.nodes, (node.inputs.map name).Nodup
  outputs : ∀ node ∈ s.nodes, (node.outputs.map name).Nodup
  transitions : (s.transitions.map fun transition => transition.transitionId.val).Nodup
  entries : (s.entryNodes.map val).Nodup
  loops : (s.loopDescriptors.map fun descriptor => descriptor.loopId.val).Nodup
  routes : (s.routeRules.map fun rule => rule.routeId.val).Nodup
  bindings : (s.capabilityBindings.map fun binding => binding.capabilityId.val).Nodup
  refs : (s.capabilityRefs.map val).Nodup

theorem sortById_congr {α : Type} (id : α → String) {items items' : List α} (hperm : items.Perm items')
    (hnodup : (items.map id).Nodup) : sortById id items = sortById id items' :=
  KeyedSort.sort_congr id hperm hnodup

theorem nodup_of_sortById {α : Type} (id : α → String) {items : List α} (h : ((sortById id items).map id).Nodup) :
    (items.map id).Nodup :=
  ((sortById_perm id items).map id).nodup_iff.mp h

/-- The node with its ports in canonical order. -/
def sortPorts (node : WorkerNodeV1) : WorkerNodeV1 :=
  { node with inputs := sortById name node.inputs, outputs := sortById name node.outputs }

private theorem sortPorts_congr {a b : WorkerNodeV1} (h : PortsReordered a b) (hinputs : (a.inputs.map name).Nodup)
    (houtputs : (a.outputs.map name).Nodup) : sortPorts a = sortPorts b := by
  obtain ⟨hin, hout, hrest⟩ := h
  rw [hrest]
  simp [sortPorts, sortById_congr _ hin hinputs, sortById_congr _ hout houtputs]

/-- Sorting nodes and then their ports is sorting nodes with sorted ports. -/
theorem sort_nodes (nodes : List WorkerNodeV1) :
    (sortById (fun node => node.nodeId.val) nodes).map sortPorts =
      sortById (fun node => node.nodeId.val) (nodes.map sortPorts) :=
  map_insertionSort _ _ sortPorts nodes fun _ _ _ _ => Iff.rfl

private theorem map_sortPorts {nodes kept : List WorkerNodeV1} (h : List.Forall₂ PortsReordered nodes kept)
    (hinputs : ∀ node ∈ nodes, (node.inputs.map name).Nodup) (houtputs : ∀ node ∈ nodes, (node.outputs.map name).Nodup)
    : nodes.map sortPorts = kept.map sortPorts := by
  induction h with
  | nil => rfl
  | @cons a b nodes kept hnode _ ih =>
    rw [map_cons, map_cons,
      sortPorts_congr hnode (hinputs a mem_cons_self) (houtputs a mem_cons_self)]
    rw [ih (fun node hmem => hinputs node (mem_cons_of_mem _ hmem))
      fun node hmem => houtputs node (mem_cons_of_mem _ hmem)]

private theorem canonical_nodes {nodes kept nodes' : List WorkerNodeV1} (hports : List.Forall₂ PortsReordered nodes kept)
    (hperm : kept.Perm nodes') (hnodup : (nodes.map fun node => node.nodeId.val).Nodup)
    (hinputs : ∀ node ∈ nodes, (node.inputs.map name).Nodup)
    (houtputs : ∀ node ∈ nodes, (node.outputs.map name).Nodup) :
    (sortById (fun node => node.nodeId.val) nodes).map sortPorts =
      (sortById (fun node => node.nodeId.val) nodes').map sortPorts := by
  have hsame := map_sortPorts hports hinputs houtputs
  have hkeys : ((nodes.map sortPorts).map fun node => node.nodeId.val).Nodup := by
    rw [map_map]
    exact hnodup
  rw [sort_nodes, sort_nodes]
  rw [hsame] at hkeys ⊢
  exact sortById_congr _ (hperm.map sortPorts) hkeys

/-- The canonical form forgets the order of lists, if join ids are distinct too. -/
theorem canonicalizeSnapshot_reordered (hkeyed : Keyed a)
    (hjoinIds : (a.joinDescriptors.map fun descriptor => descriptor.joinId.val).Nodup) (h : Reordered a b) :
    canonicalizeSnapshot b = canonicalizeSnapshot a := by
  obtain ⟨hports, hnodes, htransitions, hentries, hloops, hjoins, hroutes, hbindings, hrefs⟩ := h
  have hcanonical := canonical_nodes hports hnodes hkeyed.nodes hkeyed.inputs hkeyed.outputs
  simp only [canonicalizeSnapshot, ← sortById_congr _ htransitions hkeyed.transitions,
    ← sortById_congr _ hentries hkeyed.entries, ← sortById_congr _ hloops hkeyed.loops,
      ← sortById_congr _ hjoins hjoinIds,
    ← sortById_congr _ hroutes hkeyed.routes, ← sortById_congr _ hbindings hkeyed.bindings,
    ← sortById_congr _ hrefs hkeyed.refs]
  exact congrArg (fun nodes => ({ canonicalizeSnapshot a with nodes } : WorkerFrozenRunSnapshotV1)) hcanonical.symm

theorem validatePorts_nodup {node : WorkerNodeV1} {ports : List WorkerPortV1} (h : validatePorts node ports = .ok ()) :
    (ports.map name).Nodup := by
  unfold validatePorts at h
  cases hcollect : collectUnique
    (fun port => refuseIf (!validPortName port.name) (.invalidPort node.nodeId.val port.name))
      (fun port => PlanError.invalidPort node.nodeId.val port.name) name ports with
  | error e =>
    rw [hcollect] at h
    cases h
  | ok found => exact (collectUnique_ok _ _ _ _ _ hcollect).nodup

private theorem validateCapabilities_nodup (h : validateCapabilities s = .ok ()) :
    (s.capabilityRefs.map val).Nodup ∧ (s.capabilityBindings.map fun binding => binding.capabilityId.val).Nodup := by
  simp only [validateCapabilities, passes, unmet] at h
  obtain ⟨_, hrefs, _, ⟨hbindings, _⟩, _⟩ := h
  constructor
  · apply nodup_of_size_ofList
    rw [length_map]
    exact hrefs
  · apply nodup_of_size_ofList
    rw [length_map]
    exact hbindings

/-- Compilation checks the keys of every list it sorts, but of the join descriptors the node, not the id they are
sorted by. -/
theorem compile_keyed (h : compile enc s declared = .ok plan) :
    Keyed s ∧ (s.joinDescriptors.map fun descriptor => descriptor.nodeId.val).Nodup := by
  obtain ⟨hsnapshot, hc⟩ := compile_ok enc s declared plan h
  have hports : ∀ node ∈ s.nodes, validatePorts (sortPorts node) (sortPorts node).inputs = .ok () ∧
      validatePorts (sortPorts node) (sortPorts node).outputs = .ok () := by
    intro node hmem
    have hcanonical : sortPorts node ∈ plan.snapshot.nodes := by
      rw [hsnapshot]
      exact mem_map_of_mem ((mem_sortById _ _ _).mpr hmem)
    have hvalid := hc.nodes.checked _ hcanonical
    simp only [validateNode, bind_ok_iff] at hvalid
    obtain ⟨_, _, _, hinputs, _, houtputs, _⟩ := hvalid
    exact ⟨hinputs, houtputs⟩
  have hentries := hc.entries
  simp only [validateEntries, bind_ok_iff] at hentries
  obtain ⟨_, hfound, _⟩ := hentries
  have hroutes := hc.routes
  simp only [validateRoutes, bind_ok_iff] at hroutes
  obtain ⟨_, hcollected, _⟩ := hroutes
  obtain ⟨hrefs, hbindings⟩ := validateCapabilities_nodup hc.capabilities
  have hnodes := hc.nodes.nodup
  have hentries := (collectUnique_ok _ _ _ _ _ hfound).nodup
  have hrules := (collectUnique_ok _ _ _ _ _ hcollected).nodup
  have hloops := hc.loops_collected.1.nodup
  have htransitions := hc.transitions.nodup
  have hjoins := hc.joins.nodup
  rw [hsnapshot] at hrefs hbindings hnodes hentries hrules hloops htransitions hjoins
  refine ⟨⟨?_, fun node hmem => ?_, fun node hmem => ?_, nodup_of_sortById _ htransitions, nodup_of_sortById _ hentries,
    nodup_of_sortById _ hloops, nodup_of_sortById _ hrules, nodup_of_sortById _ hbindings,
      nodup_of_sortById _ hrefs⟩, ?_⟩
  · change (((sortById _ s.nodes).map sortPorts).map _).Nodup at hnodes
    rw [map_map] at hnodes
    exact nodup_of_sortById _ hnodes
  · exact nodup_of_sortById _ (validatePorts_nodup (hports node hmem).1)
  · exact nodup_of_sortById _ (validatePorts_nodup (hports node hmem).2)
  · exact ((sortById_perm _ _).map _).nodup_iff.mp hjoins

theorem compile_encodes (h : compile enc s declared = .ok plan) : s.encodes = true := by
  simp only [compile, validateHeader, bind_ok_iff] at h
  obtain ⟨_, ⟨_, _, _, _, _, _, _, _, calculated, hcalculated, _⟩, _⟩ := h
  unfold snapshotContentHash at hcalculated
  split at hcalculated
  · assumption
  · cases hcalculated

/-- The plain encoding of a snapshot is as long in any order of its lists. -/
def LengthStable (enc : Encoding) (a : WorkerFrozenRunSnapshotV1) : Prop :=
  ∀ b, Reordered a b → enc.snapshotLength b = enc.snapshotLength a

/-- Different canonical forms of one snapshot have different digests. -/
def Separates (enc : Encoding) (a : WorkerFrozenRunSnapshotV1) : Prop :=
  ∀ b, Reordered a b → enc.snapshotDigest (canonicalizeSnapshot { b with snapshotHash := "" }) =
    enc.snapshotDigest (canonicalizeSnapshot { a with snapshotHash := "" }) →
      canonicalizeSnapshot b = canonicalizeSnapshot a

theorem Reordered.encodes (h : Reordered a b) : b.encodes = a.encodes := by
  obtain ⟨_, _, _, _, _, _, _, hbindings, _⟩ := h
  exact (hbindings.all_eq).symm

theorem Reordered.bounds (h : Reordered a b) (hlength : LengthStable enc a) :
    validateSnapshotBounds enc b = validateSnapshotBounds enc a := by
  have hsize := hlength b h
  have hencodes := h.encodes
  unfold validateSnapshotBounds
  rw [hsize, hencodes]
  obtain ⟨hports, hnodes, htransitions, hentries, hloops, hjoins, hroutes, hbindings, hrefs⟩ := h
  rw [hports.length_eq, hnodes.length_eq, htransitions.length_eq, hentries.length_eq, hloops.length_eq,
    hjoins.length_eq,
    hroutes.length_eq, hbindings.length_eq, hrefs.length_eq]

theorem contentHash_congr (h : Reordered a b) (hcanonical : canonicalizeSnapshot b = canonicalizeSnapshot a) :
    snapshotContentHash enc b = snapshotContentHash enc a := by
  have hblank : canonicalizeSnapshot { b with snapshotHash := "" } =
    canonicalizeSnapshot { a with snapshotHash := "" } :=
    congrArg (fun s : WorkerFrozenRunSnapshotV1 => { s with snapshotHash := "" }) hcanonical
  unfold snapshotContentHash
  rw [h.encodes, hblank]

private theorem compile_congr (h : Reordered a b) (hlength : LengthStable enc a)
    (hcanonical : canonicalizeSnapshot b = canonicalizeSnapshot a) :
    compile enc b b.snapshotHash = compile enc a a.snapshotHash := by
  unfold compile validateHeader
  rw [h.bounds hlength, contentHash_congr h hcanonical, hcanonical]
  cases h
  rfl

theorem Reordered.reverse_joins (a : WorkerFrozenRunSnapshotV1) :
    Reordered a { a with joinDescriptors := a.joinDescriptors.reverse } :=
  .intro (forall₂_same.mpr fun _ _ => ⟨.refl _, .refl _, rfl⟩) (.refl _) (.refl _) (.refl _) (.refl _)
    (reverse_perm _).symm (.refl _) (.refl _) (.refl _)

/-- An accepted snapshot whose join descriptors share an id has another canonical form in the other order. -/
theorem canonicalizeSnapshot_joins_ne {a : WorkerFrozenRunSnapshotV1}
    (hnodes : (a.joinDescriptors.map fun descriptor => descriptor.nodeId.val).Nodup)
    (hshared : ¬(a.joinDescriptors.map joinId).Nodup) :
    canonicalizeSnapshot { a with joinDescriptors := a.joinDescriptors.reverse } ≠ canonicalizeSnapshot a := by
  have hnodup : a.joinDescriptors.Nodup := .of_map _ hnodes
  rw [nodup_map_iff_inj_on hnodup] at hshared
  push Not at hshared
  obtain ⟨d, hd, d', hd', hid, hne⟩ := hshared
  intro hsame
  exact KeyedSort.sort_reverse_ne (fun descriptor : WorkerJoinDescriptorV1 => descriptor.joinId.val) hnodup hd hd' hne
    (congrArg val hid) (congrArg WorkerFrozenRunSnapshotV1.joinDescriptors hsame)

/-- Every reordering of an accepted snapshot's lists has the same content hash and compiles to a plan with the same
fingerprint, outgoing and route order, exactly when no two join descriptors share a join id. -/
theorem order_irrelevant_iff (enc : Encoding) (a : WorkerFrozenRunSnapshotV1) (plan : ExecutionPlanV1)
    (hlength : LengthStable enc a) (hseparates : Separates enc a)
    (haccepted : compile enc a a.snapshotHash = .ok plan) :
    (∀ b, Reordered a b → snapshotContentHash enc b = snapshotContentHash enc a ∧
      ∃ other, compile enc b b.snapshotHash = .ok other ∧ other.fingerprint = plan.fingerprint ∧
        other.outgoing = plan.outgoing ∧ other.routes = plan.routes) ↔
      (a.joinDescriptors.map joinId).Nodup := by
  obtain ⟨hkeyed, hnodes⟩ := compile_keyed haccepted
  refine ⟨fun hall => ?_, fun hjoins b h => ?_⟩
  · by_contra hshared
    have hreversed := Reordered.reverse_joins a
    have hencodes := compile_encodes haccepted
    have hhash := (hall _ hreversed).1
    unfold snapshotContentHash at hhash
    rw [hreversed.encodes, if_pos hencodes, if_pos hencodes] at hhash
    exact canonicalizeSnapshot_joins_ne hnodes hshared
      (hseparates _ hreversed (Sha256Digest.text_injective (Except.ok.inj hhash)))
  · have hids : (a.joinDescriptors.map fun descriptor => descriptor.joinId.val).Nodup := by
      have hvals := hjoins.map val_injective
      rwa [map_map] at hvals
    have hcanonical := canonicalizeSnapshot_reordered hkeyed hids h
    exact ⟨contentHash_congr h hcanonical, plan, (compile_congr h hlength hcanonical).trans haccepted, rfl, rfl, rfl⟩

def sampleJoinNode (id : StableId) : WorkerNodeV1 :=
  ⟨id, "flow.join", 1, "bbbbbbbbbbbbbbbbbbbbbbbbbbbbbbbbbbbbbbbbbbbbbbbbbbbbbbbbbbbbbbbb", [], [], .join, .null, none,
    none⟩

def sampleJoin (joinId nodeId : StableId) : WorkerJoinDescriptorV1 :=
  ⟨joinId, nodeId, [⟨"left", by decide +kernel⟩, ⟨"right", by decide +kernel⟩], "ordered_array"⟩

/-- Two join nodes, with a descriptor for each. -/
def twinJoins (first second : StableId) (snapshotHash : String) : WorkerFrozenRunSnapshotV1 :=
  { emptySnapshot snapshotHash with
    nodes := [sampleJoinNode ⟨"merge.a", by decide +kernel⟩, sampleJoinNode ⟨"merge.b", by decide +kernel⟩]
    entryNodes := [⟨"merge.a", by decide +kernel⟩]
    joinDescriptors :=
      [sampleJoin first ⟨"merge.a", by decide +kernel⟩, sampleJoin second ⟨"merge.b", by decide +kernel⟩] }

/-- The digests of the twin snapshots' canonical forms, by the ids and first node of their joins. -/
def twinDigest (shared sharedReversed distinct : Sha256Digest) (s : WorkerFrozenRunSnapshotV1) : Sha256Digest :=
  match s.joinDescriptors with
  | [first, second] =>
    if first.joinId = second.joinId then if first.nodeId.val = "merge.a" then shared else sharedReversed else distinct
  | _ => distinct

def twinEncoding : Encoding where
  sha256 _ := ⟨"e3b0c44298fc1c149afbf4c8996fb92427ae41e4649b934ca495991b7852b855", by decide +kernel, by decide +kernel⟩
  snapshotLength s := 1475 + (s.joinDescriptors.map fun descriptor => descriptor.joinId.val.length).sum
  valueLength _ := 4
  snapshotDigest := twinDigest
    ⟨"24ab2b7ca73f5479eb7d907d8bcb5d50707c08809f4631e7136604304561708d", by decide +kernel, by decide +kernel⟩
    ⟨"7da817173231758923bf7b2cc885b58009178e3757212c3e35888ee45fda8383", by decide +kernel, by decide +kernel⟩
    ⟨"7d6df32886847c52696a660003976cedfb2f7692345b47c76dd405218b86162d", by decide +kernel, by decide +kernel⟩
  planDigest := twinDigest
    ⟨"dc9842ce84f3b1f881309d87df445135670f5cc6497025b68d2b435f8356f67b", by decide +kernel, by decide +kernel⟩
    ⟨"66ca67774db2fa2ad904915709c30b8a14fda67349365f3af564b1e352d69258", by decide +kernel, by decide +kernel⟩
    ⟨"e4e95910b2a26a9ae5726be45f3245d3aad12e501748e6367bb2901f8509aa19", by decide +kernel, by decide +kernel⟩

def sharedJoins : WorkerFrozenRunSnapshotV1 :=
  twinJoins ⟨"join", by decide +kernel⟩ ⟨"join", by decide +kernel⟩
    "24ab2b7ca73f5479eb7d907d8bcb5d50707c08809f4631e7136604304561708d"

def distinctJoins : WorkerFrozenRunSnapshotV1 :=
  twinJoins ⟨"join.a", by decide +kernel⟩ ⟨"join.b", by decide +kernel⟩
    "7d6df32886847c52696a660003976cedfb2f7692345b47c76dd405218b86162d"

private theorem twinEncoding_lengthStable (a : WorkerFrozenRunSnapshotV1) : LengthStable twinEncoding a := by
  intro b h
  obtain ⟨_, _, _, _, _, hjoins, _, _, _⟩ := h
  exact congrArg (1475 + ·) (hjoins.map _).sum_eq.symm

private theorem distinctJoins_compiles : (compile twinEncoding distinctJoins distinctJoins.snapshotHash).isOk = true := by
  decide +kernel

theorem distinctJoins_nodup : (distinctJoins.joinDescriptors.map joinId).Nodup := by
  decide +kernel

/-- With distinct join ids the snapshot compiles to one plan in either order. -/
theorem sample_order_irrelevant : ∃ plan other,
    compile twinEncoding distinctJoins distinctJoins.snapshotHash = .ok plan ∧
      compile twinEncoding
        { distinctJoins with joinDescriptors := distinctJoins.joinDescriptors.reverse } distinctJoins.snapshotHash =
          .ok other ∧
      other.fingerprint = plan.fingerprint := by
  have hok := distinctJoins_compiles
  cases hplan : compile twinEncoding distinctJoins distinctJoins.snapshotHash with
  | error e =>
    rw [hplan] at hok
    cases hok
  | ok plan =>
    have hids : (distinctJoins.joinDescriptors.map fun descriptor => descriptor.joinId.val).Nodup := by
      have hvals := distinctJoins_nodup.map val_injective
      rwa [map_map] at hvals
    have hseparates : Separates twinEncoding distinctJoins :=
      fun b h _ => canonicalizeSnapshot_reordered (compile_keyed hplan).1 hids h
    obtain ⟨_, other, hother, hsame, _⟩ := (order_irrelevant_iff twinEncoding distinctJoins plan
      (twinEncoding_lengthStable _) hseparates hplan).mpr distinctJoins_nodup _ (.reverse_joins _)
    exact ⟨plan, other, rfl, hother, hsame⟩

/-- Two joins of one id are accepted in one order and refused in the other. -/
theorem shared_join_id_refused :
    (compile twinEncoding sharedJoins sharedJoins.snapshotHash).isOk = true ∧
      Reordered sharedJoins { sharedJoins with joinDescriptors := sharedJoins.joinDescriptors.reverse } ∧
      snapshotContentHash twinEncoding { sharedJoins with joinDescriptors := sharedJoins.joinDescriptors.reverse } ≠
        snapshotContentHash twinEncoding sharedJoins ∧
      (compile twinEncoding { sharedJoins with joinDescriptors := sharedJoins.joinDescriptors.reverse }
        sharedJoins.snapshotHash).isOk = false :=
  ⟨by decide +kernel, .reverse_joins _, by decide +kernel, by decide +kernel⟩

end Aworkit.Worker
