import Aworkit.Core.Authority
import Aworkit.Logic.Blame
import Aworkit.Worker.PlanSound

/-! What the core freezes the worker compiles, up to the shape of the graph. -/
namespace Aworkit.Core
open Protocol Worker Fallible OrderedMap SnapshotFreezerV1 Std StableId CapabilityBindingV1 SnapshotErrorV1 List

variable {table : BindingTable} {node : WorkerNodeV1}
  {binding : CapabilityBindingV1} {bindings : List CapabilityBindingV1}

/-- What can be wrong with a node besides its ports and its capability. -/
def malformedNode (node : WorkerNodeV1) : Bool :=
  node.nodeType.isEmpty || decide (128 < node.nodeType.utf8ByteSize) || node.nodeVersion == 0 ||
    !isSha256 node.contributionHash

/-- The compilation errors about the shape of the graph: its size, nodes, ports, entries, transitions, loops, cycles,
joins and routes. -/
inductive ShapeError (s : WorkerFrozenRunSnapshotV1) : PlanError → Prop
  | size : ShapeError s .planTooLarge
  | noNode (h : s.nodes = []) : ShapeError s .emptyGraph
  | node {node : WorkerNodeV1} (hnode : node ∈ s.nodes) (h : malformedNode node = true) :
      ShapeError s (.invalidNodeContract node.nodeId.val)
  | port {node : WorkerNodeV1} {port : WorkerPortV1} (hnode : node ∈ s.nodes)
      (hport : port ∈ node.inputs ∨ port ∈ node.outputs) : ShapeError s (.invalidPort node.nodeId.val port.name)
  | repeatedNode {node : WorkerNodeV1} (hnode : node ∈ s.nodes) : ShapeError s (.duplicateNode node.nodeId.val)
  | noEntry (h : s.entryNodes = []) : ShapeError s (.invalidEntry "<empty>")
  | entry {id : StableId} (hentry : id ∈ s.entryNodes) : ShapeError s (.invalidEntry id.val)
  | unknownNode {t : WorkerTransitionV1} (ht : t ∈ s.transitions) {id : StableId}
    (hid : id = t.fromNode ∨ id = t.toNode) :
      ShapeError s (.unknownNode t.transitionId.val id.val)
  | portMismatch {t : WorkerTransitionV1} (ht : t ∈ s.transitions) : ShapeError s (.portMismatch t.transitionId.val)
  | repeatedTransition {t : WorkerTransitionV1} (ht : t ∈ s.transitions) :
      ShapeError s (.duplicateTransition t.transitionId.val)
  | loop (id : String) : ShapeError s (.invalidLoop id)
  | cycle (transition : String) : ShapeError s (.unboundedCycle transition)
  | join {d : WorkerJoinDescriptorV1} (hd : d ∈ s.joinDescriptors) : ShapeError s (.invalidJoin d.joinId.val)
  | route {r : WorkerRouteRuleV1} (hr : r ∈ s.routeRules) : ShapeError s (.invalidRoute r.routeId.val)

section Compilation
variable {s : WorkerFrozenRunSnapshotV1}

/-- A node's capability is among those given, and is there if needed. -/
structure Resolved (capabilities : List String) (node : WorkerNodeV1) : Prop where
  found : ∀ capability, node.capabilityRef = some capability → capability.val ∈ capabilities
  needed : node.capabilityRef = none → node.executor ≠ .brokered ∧ node.executor ≠ .model ∧ node.executor ≠ .agent

theorem Resolved.validates (h : Resolved capabilities node) : validateCapability node capabilities = .ok () := by
  unfold validateCapability
  cases href : node.capabilityRef with
  | none =>
    obtain ⟨hbrokered, hmodel, hagent⟩ := h.needed href
    cases hexec : node.executor <;> first | rfl | contradiction
  | some capability =>
    have hmem : capabilities.contains capability.val = true := contains_iff_mem.mpr (h.found capability href)
    cases node.executor <;> simp [refuseIf, h.found capability href]

theorem ports_blame (hnode : node ∈ s.nodes) (hports : ∀ port ∈ ports, port ∈ node.inputs ∨ port ∈ node.outputs) :
    FailsOnly (ShapeError s) (validatePorts node ports) := by
  apply FailsOnly.map
  apply FailsOnly.collectUnique
  · intro port hport
    apply FailsOnly.refuseIf
    intro _
    exact .port hnode (hports port hport)
  · intro port hport
    exact .port hnode (hports port hport)

theorem node_blame (hnode : node ∈ s.nodes)
    (hresolved : Resolved capabilities node) : FailsOnly (ShapeError s) (validateNode capabilities node) := by
  apply FailsOnly.bind
  · apply FailsOnly.refuseIf
    intro h
    exact .node hnode h
  · intro _ _
    apply FailsOnly.bind (ports_blame hnode fun _ => .inl)
    intro _ _
    apply FailsOnly.bind (ports_blame hnode fun _ => .inr)
    intro _ _
    exact .ok hresolved.validates

theorem entries_blame (nodes : NodeTable) : FailsOnly (ShapeError s) (validateEntries nodes s.entryNodes) := by
  apply FailsOnly.bind
  · apply FailsOnly.collectUnique
    · intro entry hentry
      apply FailsOnly.refuseIf
      intro _
      exact .entry hentry
    · intro entry hentry
      exact .entry hentry
  · intro found hfound
    apply FailsOnly.refuseIf
    intro hempty
    apply ShapeError.noEntry
    rw [eq_nil_iff_forall_not_mem]
    intro entry hentry
    have hlookup := ((collectUnique_ok _ _ _ _ _ hfound).lookup entry.val entry).mpr ⟨hentry, rfl⟩
    have hmem : entry.val ∈ found := ExtTreeMap.mem_iff_isSome_getElem?.mpr (by simp [hlookup])
    rw [ExtTreeMap.isEmpty_iff] at hempty
    rw [hempty] at hmem
    simp at hmem

theorem transition_blame (enc : Encoding) (nodes : NodeTable) (ht : t ∈ s.transitions) :
    FailsOnly (ShapeError s) (validateTransition enc nodes t) := by
  apply FailsOnly.bind (.require fun _ => .unknownNode ht (.inl rfl))
  intro source _
  apply FailsOnly.bind (.require fun _ => .unknownNode ht (.inr rfl))
  intro target _
  apply FailsOnly.bind (.require fun _ => .portMismatch ht)
  intro output _
  apply FailsOnly.bind (.require fun _ => .portMismatch ht)
  intro input _
  apply FailsOnly.bind (.refuseIf fun _ => .portMismatch ht)
  intro _ _
  exact .refuseIf fun _ => .size

theorem loops_blame (descriptors : List WorkerLoopDescriptorV1) (nodes : NodeTable) (transitions : TransitionTable) :
    FailsOnly (ShapeError s) (validateLoops descriptors nodes transitions) := by
  apply FailsOnly.bind
  · apply FailsOnly.collectUnique
    · intro d _
      exact .refuseIf fun _ => .loop _
    · intro d _
      exact .loop _
  · intro loops _
    apply FailsOnly.bind
    · apply FailsOnly.checkAll
      intro t _
      unfold validateLoopTransition
      split
      · exact .ok rfl
      · apply FailsOnly.bind (.require fun _ => .loop _)
        intro d _
        exact .refuseIf fun _ => .loop _
    · intro _ _
      dsimp only
      split
      · exact .error (.loop _)
      · exact .ok rfl

theorem cycles_blame (nodes : NodeTable) (outgoing : OutgoingTable) :
    FailsOnly (ShapeError s) (validateV1Cycles nodes outgoing) := by
  unfold validateV1Cycles
  split
  · exact .error (.cycle _)
  · exact .ok rfl

private theorem joins_blame (nodes : NodeTable) : FailsOnly (ShapeError s) (validateJoins s.joinDescriptors nodes) := by
  apply FailsOnly.collectUnique
  · intro d hd
    apply FailsOnly.bind (.require fun _ => .join hd)
    intro node _
    exact .refuseIf fun _ => .join hd
  · intro d hd
    exact .join hd

private theorem routes_blame (enc : Encoding) (nodes : NodeTable) (transitions : TransitionTable) :
    FailsOnly (ShapeError s) (validateRoutes enc s.routeRules nodes transitions) := by
  apply FailsOnly.bind
  · apply FailsOnly.collectUnique
    · intro r hr
      apply FailsOnly.bind (.require fun _ => .route hr)
      intro node _
      apply FailsOnly.bind (.require fun _ => .route hr)
      intro t _
      exact .refuseIf fun _ => .route hr
    · intro r hr
      exact .route hr
  · intro _ _
    exact .ok rfl

theorem compileCanonical_blame (enc : Encoding) (hencodes : s.encodes = true)
    (hcapabilities : validateCapabilities s = .ok ())
    (hnodes : ∀ node ∈ s.nodes, Resolved (s.capabilityRefs.map val) node) :
    FailsOnly (ShapeError s) (compileCanonical enc s) := by
  apply FailsOnly.bind (.ok hcapabilities)
  intro _ _
  apply FailsOnly.bind
  · apply FailsOnly.collectUnique
    · intro node hnode
      exact node_blame hnode (hnodes node hnode)
    · intro node hnode
      exact .repeatedNode hnode
  intro nodes hcollect
  apply FailsOnly.bind
  · apply FailsOnly.refuseIf
    intro hempty
    apply ShapeError.noNode
    rw [eq_nil_iff_forall_not_mem]
    intro node hnode
    have hlookup := ((collectUnique_ok _ _ _ _ _ hcollect).lookup node.nodeId.val node).mpr ⟨hnode, rfl⟩
    rw [ExtTreeMap.isEmpty_iff] at hempty
    rw [hempty] at hlookup
    simp at hlookup
  intro _ _
  apply FailsOnly.bind (entries_blame nodes)
  intro _ _
  apply FailsOnly.bind
  · apply FailsOnly.collectUnique
    · intro t ht
      exact transition_blame enc nodes ht
    · intro t ht
      exact .repeatedTransition ht
  intro transitions _
  apply FailsOnly.bind (loops_blame _ _ _)
  intro loops _
  apply FailsOnly.bind (cycles_blame _ _)
  intro _ _
  apply FailsOnly.bind (joins_blame nodes)
  intro joins _
  apply FailsOnly.bind (routes_blame enc nodes transitions)
  intro routes _
  apply FailsOnly.bind
  · unfold planFingerprint
    rw [if_pos hencodes]
    exact .ok rfl
  · intro _ _
    exact .ok rfl

theorem mem_canonical_nodes (h : node ∈ (canonicalizeSnapshot s).nodes) :
    ∃ found ∈ s.nodes, node = { found with
      inputs := sortById WorkerPortV1.name found.inputs, outputs := sortById WorkerPortV1.name found.outputs } := by
  obtain ⟨found, hfound, rfl⟩ := mem_map.mp h
  exact ⟨found, (mem_sortById _ _ _).mp hfound, rfl⟩

theorem encodes_canonical (s : WorkerFrozenRunSnapshotV1) : (canonicalizeSnapshot s).encodes = s.encodes := by
  unfold WorkerFrozenRunSnapshotV1.encodes
  rw [Bool.eq_iff_iff, all_eq_true, all_eq_true]
  simp [canonicalizeSnapshot, mem_sortById]

theorem ShapeError.of_canonical (h : ShapeError (canonicalizeSnapshot s) e) : ShapeError s e := by
  cases h with
  | size => exact .size
  | noNode h =>
    apply ShapeError.noNode
    rw [← length_eq_zero_iff, ← (canonicalizeSnapshot_sizes s).1, h]
    rfl
  | node hnode h =>
    obtain ⟨found, hfound, rfl⟩ := mem_canonical_nodes hnode
    have hshape : ShapeError s (.invalidNodeContract found.nodeId.val) := .node hfound h
    exact hshape
  | port hnode hport =>
    obtain ⟨found, hfound, rfl⟩ := mem_canonical_nodes hnode
    rw [mem_sortById, mem_sortById] at hport
    have hshape := ShapeError.port hfound hport
    exact hshape
  | repeatedNode hnode =>
    obtain ⟨found, hfound, rfl⟩ := mem_canonical_nodes hnode
    have hshape := ShapeError.repeatedNode hfound
    exact hshape
  | noEntry h =>
    apply ShapeError.noEntry
    rw [← length_eq_zero_iff, ← (canonicalizeSnapshot_sizes s).2.1, h]
    rfl
  | entry hentry => exact .entry ((mem_sortById _ _ _).mp hentry)
  | unknownNode ht hid => exact .unknownNode ((mem_sortById _ _ _).mp ht) hid
  | portMismatch ht => exact .portMismatch ((mem_sortById _ _ _).mp ht)
  | repeatedTransition ht => exact .repeatedTransition ((mem_sortById _ _ _).mp ht)
  | loop id => exact .loop id
  | cycle transition => exact .cycle transition
  | join hd => exact .join ((mem_sortById _ _ _).mp hd)
  | route hr => exact .route ((mem_sortById _ _ _).mp hr)

theorem header_blame (enc : Encoding) (hschema : s.schemaVersion = supportedWorkerSchemaVersion)
    (hcompiler : s.compilerVersion = workerCompilerVersion) (hworkflow : isSha256 s.workflowHash = true)
    (hmanifest : isSha256 s.authorityManifestHash = true) (hencodes : s.encodes = true)
    (hcontent : snapshotContentHash enc s = .ok s.snapshotHash) :
    FailsOnly (ShapeError s) (validateHeader enc s s.snapshotHash) := by
  have hhash : isSha256 s.snapshotHash = true := by
    unfold snapshotContentHash at hcontent
    rw [if_pos hencodes] at hcontent
    rw [← Except.ok.inj hcontent]
    exact Sha256Digest.isSha256_text _
  apply FailsOnly.bind
  · unfold validateSnapshotBounds
    split
    · exact .error .size
    · rw [hencodes, if_neg (by simp)]
      split
      · exact .error .size
      · exact .ok rfl
  intro _ _
  apply FailsOnly.bind
  · rw [hschema, bne_self_eq_false]
    exact .ok rfl
  intro _ _
  apply FailsOnly.bind
  · rw [hcompiler, bne_self_eq_false]
    exact .ok rfl
  intro _ _
  apply FailsOnly.bind
  · rw [hworkflow, hmanifest, hhash]
    exact .ok rfl
  intro _ _
  apply FailsOnly.bind (.ok hcontent)
  intro calculated hcalculated
  rw [hcontent] at hcalculated
  rw [← Except.ok.inj hcalculated, bne_self_eq_false]
  exact .ok rfl

end Compilation

section Freeze
variable {enc : AuthorityEncoding} {request : SnapshotRequestV1} {snapshot : WorkerFrozenRunSnapshotV1}
  {manifest : AuthorityManifestV1}

/-- Core and worker put a snapshot into the same order and hash the same bytes. -/
theorem snapshotHashV1_eq (enc : Encoding) (s : WorkerFrozenRunSnapshotV1) :
    snapshotHashV1 enc s = (snapshotContentHash enc s).mapError fun _ => encoding := by
  have hencodes : (canonicalizeSnapshot { s with snapshotHash := "" }).encodes = s.encodes :=
    encodes_canonical { s with snapshotHash := "" }
  show (if (canonicalizeSnapshot { s with snapshotHash := "" }).encodes then _ else _) = _
  rw [hencodes]
  unfold snapshotContentHash
  split
  · rfl
  · rfl

/-- What a successful freeze has checked and built. -/
structure Frozen (enc : AuthorityEncoding) (request : SnapshotRequestV1) (snapshot : WorkerFrozenRunSnapshotV1)
    (manifest : AuthorityManifestV1) (table : BindingTable) : Prop where
  built : snapshot = { unhashed request manifest with snapshotHash := snapshot.snapshotHash }
  hashed : snapshotHashV1 enc.toEncoding (unhashed request manifest) = .ok snapshot.snapshotHash
  workflowHash : isSha256 request.workflowHash = true
  manifestHash : isSha256 manifest.manifestHash = true
  bindings : Collected validateBinding (fun binding => binding.capabilityId.val) manifest.capabilityBindings table
  nodes : ∀ node ∈ request.nodes, resolveNode table node = .ok ()

private theorem admitBinding_ok (h : admitBinding table binding = .ok table') :
    collectStep validateBinding (fun _ => .duplicateCapability)
      (fun binding => binding.capabilityId.val) table binding = .ok table' := by
  simp only [admitBinding, passes] at h
  obtain ⟨_, hnew, _, hvalid, hinsert⟩ := h
  rw [collectStep, hvalid]
  rw [hnew]
  exact hinsert

private theorem admitted_collected (h : bindings.foldlM admitBinding ∅ = .ok table) :
    Collected validateBinding (fun binding => binding.capabilityId.val) bindings table := by
  apply collectUnique_ok validateBinding (fun _ => duplicateCapability)
  -- the two loops differ only in which of their checks comes first
  apply foldlM_keeps admitBinding (fun done table =>
    collectUnique validateBinding (fun _ => duplicateCapability)
      (fun binding => binding.capabilityId.val) done = .ok table) ?_ bindings [] ∅ table rfl h
  intro done state binding next hdone hnext
  unfold collectUnique at hdone ⊢
  rw [foldlM_append, hdone, ok_bind, foldlM_cons, admitBinding_ok hnext]
  rfl

theorem freeze_ok (h : freeze enc projects request = .ok (snapshot, manifest)) :
    ∃ table, Frozen enc request snapshot manifest table := by
  simp only [freeze, passes, unmet, checkAll_eq_ok] at h
  obtain ⟨_, _, _, _, calculated, hcalculated, _, hworkflow, table, htable, _, hnodes, hash, hhash, manifestId, _,
    snapshotHash, hsnapshot, hresult⟩ := h
  obtain ⟨rfl, rfl⟩ := Prod.mk.inj (Except.ok.inj hresult)
  refine ⟨table, ⟨rfl, hsnapshot, ?_, ?_, admitted_collected htable, hnodes⟩⟩
  · rw [hworkflow, ← Except.ok.inj hcalculated]
    exact Sha256Digest.isSha256_text _
  · unfold SnapshotFreezerV1.manifestHash at hhash
    split at hhash
    · rw [← Except.ok.inj hhash]
      exact Sha256Digest.isSha256_text _
    · cases hhash

theorem frozenBinding_valid (h : validateBinding binding = .ok ()) :
    Worker.validateBinding binding.frozenExecutionBinding = .ok () := by
  simp only [validateBinding, refuseIf_eq_ok, unmet] at h
  obtain ⟨⟨⟨⟨⟨⟨⟨_, _⟩, hversion⟩, _⟩, hdescriptor⟩, hextension⟩, hisolation⟩, _⟩ := h
  simp only [Worker.validateBinding, refuseIf_eq_ok, unmet]
  refine ⟨⟨⟨hversion, hdescriptor⟩, ?_⟩, hisolation⟩
  show binding.extension.any _ = false
  cases hext : binding.extension with
  | none => rfl
  | some extension =>
    rw [hext] at hextension
    simp only [Option.any_some, Bool.or_eq_false_iff] at hextension ⊢
    obtain ⟨⟨⟨⟨⟨hgeneration, hcontribution⟩, _⟩, _⟩, hcontent⟩, hhandshake⟩ := hextension
    exact ⟨⟨⟨hgeneration, hcontribution⟩, hcontent⟩, hhandshake⟩

theorem resolveNode_resolved
    (hbindings : Collected validateBinding (fun binding => binding.capabilityId.val) bindings table)
    (h : resolveNode table node = .ok ()) : Resolved ((bindings.map capabilityId).map val) node := by
  have hmem : ∀ key : String, table[key]?.isSome = true →
      key ∈ (bindings.map capabilityId).map val := by
    intro key hkey
    obtain ⟨binding, hbinding⟩ := Option.isSome_iff_exists.mp hkey
    obtain ⟨hin, rfl⟩ := (hbindings.lookup key binding).mp hbinding
    exact mem_map_of_mem (mem_map_of_mem hin)
  constructor
  · intro capability href
    apply hmem
    unfold resolveNode at h
    rw [href] at h
    rw [← ExtTreeMap.mem_iff_isSome_getElem?]
    cases hexec : node.executor with
    | brokered | model | agent =>
      simp only [hexec, passes] at h
      obtain ⟨binding, hbinding, _⟩ := h
      exact ExtTreeMap.mem_iff_isSome_getElem?.mpr (by simp [hbinding])
    | _ => simpa [hexec] using h
  · intro href
    unfold resolveNode at h
    rw [href] at h
    refine ⟨?_, ?_, ?_⟩
    all_goals
      intro hexec
      rw [hexec] at h
      cases h

section
variable (h : Frozen enc request snapshot manifest table)
include h

theorem Frozen.capabilities : validateCapabilities (canonicalizeSnapshot snapshot) = .ok () := by
  have hids : ((manifest.capabilityBindings.map capabilityId).map val).Nodup := by
    rw [map_map]
    exact h.bindings.nodup
  have hrefs : ((canonicalizeSnapshot snapshot).capabilityRefs.map val).Perm
      ((manifest.capabilityBindings.map capabilityId).map val) := by
    rw [h.built]
    exact (sortById_perm _ _).map _
  have hfrozen : ((canonicalizeSnapshot snapshot).capabilityBindings.map fun binding => binding.capabilityId.val).Perm
      ((manifest.capabilityBindings.map capabilityId).map val) := by
    rw [h.built, map_map]
    have hperm := (sortById_perm (fun binding => binding.capabilityId.val)
      (manifest.capabilityBindings.map frozenExecutionBinding)).map
        fun binding => binding.capabilityId.val
    rw [map_map] at hperm
    exact hperm
  have hsize : ∀ keys : List String, keys.Nodup → (ExtTreeSet.ofList keys).size = keys.length := by
    intro keys hkeys
    apply ExtTreeSet.size_ofList
    exact hkeys.imp fun hne heq => hne (LawfulEqOrd.eq_of_compare heq)
  have hsame : ExtTreeSet.ofList
    ((canonicalizeSnapshot snapshot).capabilityBindings.map fun b => b.capabilityId.val) =
      ExtTreeSet.ofList ((canonicalizeSnapshot snapshot).capabilityRefs.map val) := by
    apply ExtTreeSet.ext_mem
    intro key
    rw [ExtTreeSet.mem_ofList, ExtTreeSet.mem_ofList, contains_iff_mem, contains_iff_mem,
      hfrozen.mem_iff, hrefs.mem_iff]
  simp only [validateCapabilities, passes, unmet, checkAll_eq_ok]
  refine ⟨(), ?_, (), ⟨?_, ?_⟩, ?_⟩
  · rw [hsize _ (hrefs.nodup_iff.mpr hids), length_map]
  · rw [hsize _ (hfrozen.nodup_iff.mpr hids), length_map]
  · rw [hsame]
  · intro binding hbinding
    rw [h.built] at hbinding
    obtain ⟨source, hsource, rfl⟩ := mem_map.mp ((mem_sortById _ _ _).mp hbinding)
    exact frozenBinding_valid (h.bindings.checked source hsource)

theorem Frozen.resolved (node : WorkerNodeV1) (hnode : node ∈ (canonicalizeSnapshot snapshot).nodes) :
    Resolved ((canonicalizeSnapshot snapshot).capabilityRefs.map val) node := by
  obtain ⟨source, hsource, rfl⟩ := mem_canonical_nodes hnode
  rw [h.built] at hsource
  have hresolved := resolveNode_resolved h.bindings (h.nodes source hsource)
  have hrefs : ∀ key, key ∈ (canonicalizeSnapshot snapshot).capabilityRefs.map val ↔
      key ∈ (manifest.capabilityBindings.map capabilityId).map val := by
    intro key
    rw [h.built]
    exact ((sortById_perm _ _).map _).mem_iff
  exact ⟨fun capability href => (hrefs _).mpr (hresolved.found capability href), hresolved.needed⟩

theorem Frozen.content :
    snapshot.encodes = true ∧ snapshotContentHash enc.toEncoding snapshot = .ok snapshot.snapshotHash := by
  have hhash := h.hashed
  rw [snapshotHashV1_eq, mapError_eq_ok] at hhash
  have hcontent : snapshotContentHash enc.toEncoding snapshot = .ok snapshot.snapshotHash := by
    rw [← hhash, h.built]
    rfl
  refine ⟨?_, hcontent⟩
  unfold snapshotContentHash at hcontent
  split at hcontent
  · assumption
  · cases hcontent

end

/-- A snapshot that the core froze fails to compile only by the shape of its graph, never by hashes, capabilities or
bindings. -/
theorem frozen_fails_by_shape (enc : AuthorityEncoding) (projects : FileSystem) (request : SnapshotRequestV1)
    (snapshot : WorkerFrozenRunSnapshotV1) (manifest : AuthorityManifestV1)
    (h : freeze enc projects request = .ok (snapshot, manifest)) :
    ∀ e, ExecutionPlanV1.compile enc.toEncoding snapshot snapshot.snapshotHash = .error e → ShapeError snapshot e := by
  obtain ⟨table, hfrozen⟩ := freeze_ok h
  obtain ⟨hencodes, hcontent⟩ := hfrozen.content
  have hbuilt := hfrozen.built
  apply FailsOnly.blame
  apply FailsOnly.bind
  · apply header_blame enc.toEncoding _ _ _ _ hencodes hcontent
    · rw [hbuilt]
      rfl
    · rw [hbuilt]
      rfl
    · rw [hbuilt]
      exact hfrozen.workflowHash
    · rw [hbuilt]
      exact hfrozen.manifestHash
  · intro _ _
    have hcanonical := (encodes_canonical snapshot).trans hencodes
    have hblame := compileCanonical_blame enc.toEncoding hcanonical hfrozen.capabilities hfrozen.resolved
    constructor
    intro e he
    exact (hblame.blame e he).of_canonical

end Freeze

section Sample

/-- A host with one directory. -/
def sampleRoot : PathBuf := "/workspace".toUTF8.toList

def sampleFiles : FileSystem where
  platform := "linux"
  canonicalize path := if path = sampleRoot then some path else none
  isDirectory _ := some true
  handleHash _ := some 7
  toStringLossy _ := "/workspace"
  simplified path := [path.toUTF8.toList]

def sampleBinding : CapabilityBindingV1 where
  capabilityId := .ofText "capability.search"
  adapterId := .ofText "adapter.search"
  adapterVersion := "1.0.0"
  descriptorHash := "sha256:aaaaaaaaaaaaaaaaaaaaaaaaaaaaaaaaaaaaaaaaaaaaaaaaaaaaaaaaaaaaaaaa"
  extension := none
  requiredIsolationProfile := some "sandbox"
  enabled := true
  compatible := true
  approval := .perInvocation
  allowedNodeTypes := ["search"]

def sampleNode : WorkerNodeV1 where
  nodeId := .ofText "node.search"
  nodeType := "search"
  nodeVersion := 1
  contributionHash := "bbbbbbbbbbbbbbbbbbbbbbbbbbbbbbbbbbbbbbbbbbbbbbbbbbbbbbbbbbbbbbbb"
  inputs := []
  outputs := []
  executor := .brokered
  config := .null
  capabilityRef := some (.ofText "capability.search")
  resultSchemaRef := none

def sampleGraph : WorkflowGraph := ⟨[sampleNode], [], [.ofText "node.search"], [], [], []⟩

def sampleWorkspace : WorkspaceBindingV1 := ⟨sampleRoot, "/workspace", "linux", "object:0000000000000007"⟩

/-- One brokered node under its graph's own hash. -/
def sampleRequest (enc : AuthorityEncoding) : SnapshotRequestV1 where
  toWorkflowGraph := sampleGraph
  snapshotId := .ofText "snapshot.1"
  chatId := .ofText "chat.1"
  runId := .ofText "run.1"
  workflowHash := (enc.graphDigest sampleGraph).text
  workspace := sampleWorkspace
  capabilityBindings := [sampleBinding]
  budget := ⟨10, 10, 10, 10000, 1000000, 100, 2, 4, 2, 60000⟩
  historyMode := .localSqlite

def sampleTable : BindingTable := (∅ : BindingTable).insert "capability.search" sampleBinding

private theorem sampleRequest_freezes (enc : AuthorityEncoding) :
    ∃ snapshot manifest, freeze enc sampleFiles (sampleRequest enc) = .ok (snapshot, manifest) := by
  have hid := stableIdText_digest "manifest." (enc.manifestDigest [sampleBinding]) 32 (by decide) (by decide)
  have hworkspace :
    (sampleFiles.revalidateWorkspaceV1 (sampleRequest enc).workspace).mapError workspace =
      .ok () := by
    rw [mapError_eq_ok]
    exact eq_ok_of_isOk (sampleFiles.revalidateWorkspaceV1 sampleWorkspace) () (by decide +kernel)
  have hgraph : workflowGraphHashV1 enc (sampleRequest enc).toWorkflowGraph = .ok (sampleRequest enc).workflowHash :=
    rfl
  have hbindings : (sortById (fun binding : CapabilityBindingV1 => binding.capabilityId.val)
      (sampleRequest enc).capabilityBindings).map sortNodeTypes = [sampleBinding] := rfl
  have hadmitted : [sampleBinding].foldlM admitBinding ∅ = .ok sampleTable := by rfl
  have hresolved : checkAll (resolveNode sampleTable) (sampleRequest enc).nodes = .ok () := by rfl
  have hmanifest : manifestHash enc [sampleBinding] = .ok (enc.manifestDigest [sampleBinding]).text := rfl
  have hparse := parse_val ⟨_, hid⟩
  unfold freeze
  rw [hworkspace, hgraph, hbindings]
  simp only [ok_bind, bne_self_eq_false, hadmitted, hresolved, hmanifest, hparse]
  exact ⟨_, _, rfl⟩

/-- The sample request is frozen, and its snapshot fails to compile only by its shape. -/
theorem sample_frozen :
    (∀ enc, ∃ snapshot manifest, freeze enc sampleFiles (sampleRequest enc) = .ok (snapshot, manifest)) ∧
    ∀ enc snapshot manifest, freeze enc sampleFiles (sampleRequest enc) = .ok (snapshot, manifest) →
      ∀ e, ExecutionPlanV1.compile enc.toEncoding snapshot snapshot.snapshotHash = .error e →
        ShapeError snapshot e := by
  refine ⟨sampleRequest_freezes, fun enc snapshot manifest h => ?_⟩
  exact frozen_fails_by_shape enc sampleFiles (sampleRequest enc) snapshot manifest h

end Sample
end Aworkit.Core
