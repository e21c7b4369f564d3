import Aworkit.Collections.OrderedMap
import Aworkit.Graph.DepthFirst
import Aworkit.Worker.Routing

/-! Validation and deterministic compilation of an immutable worker snapshot. -/
namespace Aworkit.Worker
open Protocol Fallible OrderedMap Std StableId

def supportedWorkerSchemaVersion : Nat := 1
def workerCompilerVersion : String := "aworkit-worker-v1"

/-- The encoders of the worker: SHA-256 of a text, lengths of plain JSON, and SHA-256 of canonical snapshots and
plans. -/
structure Encoding where
  sha256 : String → Sha256Digest
  snapshotLength : WorkerFrozenRunSnapshotV1 → Nat
  valueLength : Value → Nat
  (snapshotDigest planDigest : WorkerFrozenRunSnapshotV1 → Sha256Digest)

inductive PlanError where
  | emptyGraph
  | duplicateNode (id : String)
  | duplicateTransition (id : String)
  | unknownNode (transition node : String)
  | unboundedCycle (transition : String)
  | unsupportedSchema (version : Nat)
  | unsupportedCompiler (version : String)
  | snapshotHashMismatch
  | invalidHash
  | invalidEntry (id : String)
  | invalidNodeContract (what : String)
  | invalidPort (node port : String)
  | portMismatch (transition : String)
  | unresolvedCapability (node capability : String)
  | invalidLoop (id : String)
  | invalidJoin (id : String)
  | invalidRoute (id : String)
  | planTooLarge
  | encoding
  deriving DecidableEq

abbrev NodeTable := ExtTreeMap String WorkerNodeV1
abbrev TransitionTable := ExtTreeMap String WorkerTransitionV1
abbrev OutgoingTable := ExtTreeMap String (List WorkerTransitionV1)

structure ExecutionPlanV1 where
  snapshot : WorkerFrozenRunSnapshotV1
  nodes : NodeTable
  outgoing : OutgoingTable
  transitions : TransitionTable
  loops : ExtTreeMap String WorkerLoopDescriptorV1
  joins : ExtTreeMap String WorkerJoinDescriptorV1
  routes : ExtTreeMap String (List WorkerRouteRuleV1)
  fingerprint : String

namespace ExecutionPlanV1

variable (plan : ExecutionPlanV1)

variable (id : StableId)

def node : Option WorkerNodeV1 := plan.nodes[id.val]?

def transition : Option WorkerTransitionV1 := plan.transitions[id.val]?

def outgoingOf : List WorkerTransitionV1 := plan.outgoing[id.val]?.getD []

def loopDescriptor : Option WorkerLoopDescriptorV1 := plan.loops[id.val]?

def routeRules : List WorkerRouteRuleV1 := plan.routes[id.val]?.getD []

end ExecutionPlanV1

def validPortName (value : String) : Bool :=
  !value.isEmpty && decide (value.utf8ByteSize ≤ 128) &&
    value.toList.all fun c => c.isAlphanum || c == '.' || c == '_' || c == '-'

/-- Lists are sorted by an id in the order of its bytes. -/
def sortById {α : Type} (id : α → String) (items : List α) : List α :=
  items.insertionSort fun left right => id left ≤ id right

def canonicalizeSnapshot (snapshot : WorkerFrozenRunSnapshotV1) : WorkerFrozenRunSnapshotV1 :=
  { snapshot with
    nodes := (sortById (fun node => node.nodeId.val) snapshot.nodes).map fun node =>
      { node with
        inputs := sortById WorkerPortV1.name node.inputs, outputs := sortById WorkerPortV1.name node.outputs }
    transitions := sortById (fun transition => transition.transitionId.val) snapshot.transitions
    entryNodes := sortById val snapshot.entryNodes
    loopDescriptors := sortById (fun descriptor => descriptor.loopId.val) snapshot.loopDescriptors
    joinDescriptors := sortById (fun descriptor => descriptor.joinId.val) snapshot.joinDescriptors
    routeRules := sortById (fun rule => rule.routeId.val) snapshot.routeRules
    capabilityBindings := sortById (fun binding => binding.capabilityId.val) snapshot.capabilityBindings
    capabilityRefs := sortById val snapshot.capabilityRefs }

section Compile
variable (enc : Encoding)

variable (snapshot : WorkerFrozenRunSnapshotV1)

def snapshotContentHash : Except PlanError String :=
  if snapshot.encodes then .ok (enc.snapshotDigest (canonicalizeSnapshot { snapshot with snapshotHash := "" })).text
  else .error .encoding

def planFingerprint : Except PlanError String :=
  if snapshot.encodes then .ok (enc.planDigest snapshot).text else .error .encoding

def validateSnapshotBounds : Except PlanError Unit :=
  if 100000 < snapshot.nodes.length || 500000 < snapshot.transitions.length ||
      1024 < snapshot.entryNodes.length || 10000 < snapshot.loopDescriptors.length ||
      10000 < snapshot.joinDescriptors.length || 100000 < snapshot.routeRules.length ||
      4096 < snapshot.capabilityBindings.length || 4096 < snapshot.capabilityRefs.length then
    .error .planTooLarge
  else if !snapshot.encodes then .error .encoding
  else if 16 * 1024 * 1024 < enc.snapshotLength snapshot then .error .planTooLarge
  else .ok ()

def validatePorts (node : WorkerNodeV1) (ports : List WorkerPortV1) : Except PlanError Unit :=
  (collectUnique (fun port => refuseIf (!validPortName port.name) (.invalidPort node.nodeId.val port.name))
    (fun port => .invalidPort node.nodeId.val port.name) WorkerPortV1.name ports).map fun _ => ()

/-- Brokered, model and agent nodes need a frozen capability; others may have one. -/
def validateCapability (node : WorkerNodeV1) (capabilities : List String) : Except PlanError Unit :=
  match node.executor, node.capabilityRef with
  | .brokered, none | .model, none | .agent, none => .error (.invalidNodeContract node.nodeId.val)
  | _, none => .ok ()
  | _, some capability =>
    refuseIf (!capabilities.contains capability.val) (.unresolvedCapability node.nodeId.val capability.val)

def validateNode (capabilities : List String) (node : WorkerNodeV1) : Except PlanError Unit := do
  refuseIf (node.nodeType.isEmpty || decide (128 < node.nodeType.utf8ByteSize) || node.nodeVersion == 0 ||
    !isSha256 node.contributionHash) (.invalidNodeContract node.nodeId.val)
  validatePorts node node.inputs
  validatePorts node node.outputs
  validateCapability node capabilities

variable (nodes : NodeTable)

def validateTransition (transition : WorkerTransitionV1) : Except PlanError Unit := do
  let source ← require nodes[transition.fromNode.val]?
    (.unknownNode transition.transitionId.val transition.fromNode.val)
  let target ← require nodes[transition.toNode.val]?
    (.unknownNode transition.transitionId.val transition.toNode.val)
  let output ← require (source.outputs.find? fun port => port.name == transition.fromPort)
    (.portMismatch transition.transitionId.val)
  let input ← require (target.inputs.find? fun port => port.name == transition.toPort)
    (.portMismatch transition.transitionId.val)
  refuseIf (output.schemaRef.isSome && input.schemaRef.isSome && output.schemaRef != input.schemaRef)
    (.portMismatch transition.transitionId.val)
  refuseIf (transition.predicate.any fun predicate => decide (64 * 1024 < enc.valueLength predicate)) .planTooLarge

def validateLoopDescriptor (descriptor : WorkerLoopDescriptorV1) : Except PlanError Unit :=
  refuseIf (descriptor.maximumIterations == 0 || !nodes.contains descriptor.bodyEntry.val ||
    !nodes.contains descriptor.bodyExit.val) (.invalidLoop descriptor.loopId.val)

/-- A transition that declares a loop runs from its body's exit to the entry. -/
def validateLoopTransition (loops : ExtTreeMap String WorkerLoopDescriptorV1)
    (transition : WorkerTransitionV1) : Except PlanError Unit :=
  match transition.declaredLoopId with
  | none => .ok ()
  | some loopId => do
    let descriptor ← require loops[loopId.val]? (.invalidLoop loopId.val)
    refuseIf (transition.fromNode != descriptor.bodyExit || transition.toNode != descriptor.bodyEntry)
      (.invalidLoop loopId.val)

def validateLoops (descriptors : List WorkerLoopDescriptorV1) (nodes : NodeTable) (transitions : TransitionTable) :
    Except PlanError (ExtTreeMap String WorkerLoopDescriptorV1) := do
  let loops ← collectUnique (validateLoopDescriptor nodes) (fun descriptor => .invalidLoop descriptor.loopId.val)
    (fun descriptor => descriptor.loopId.val) descriptors
  checkAll (validateLoopTransition loops) (values transitions)
  let used := (values transitions).filterMap fun transition => transition.declaredLoopId.map val
  match loops.keys.find? fun id => !used.contains id with
  | some unused => .error (.invalidLoop unused)
  | none => .ok loops

def validateJoin (descriptor : WorkerJoinDescriptorV1) : Except PlanError Unit := do
  let node ← require nodes[descriptor.nodeId.val]? (.invalidJoin descriptor.joinId.val)
  refuseIf (node.executor != .join || decide (descriptor.expectedBranches.length < 2) ||
    (ExtTreeSet.ofList (descriptor.expectedBranches.map val)).size != descriptor.expectedBranches.length ||
    !(["require_equal", "object_union", "ordered_array"].contains descriptor.mergePolicy))
    (.invalidJoin descriptor.joinId.val)

def validateJoins (descriptors : List WorkerJoinDescriptorV1) (nodes : NodeTable) :
    Except PlanError (ExtTreeMap String WorkerJoinDescriptorV1) :=
  collectUnique (validateJoin nodes) (fun descriptor => .invalidJoin descriptor.joinId.val)
    (fun descriptor => descriptor.nodeId.val) descriptors

def validateRoute (transitions : TransitionTable) (rule : WorkerRouteRuleV1) : Except PlanError Unit := do
  let node ← require nodes[rule.nodeId.val]? (.invalidRoute rule.routeId.val)
  let transition ← require transitions[rule.destinationTransition.val]? (.invalidRoute rule.routeId.val)
  refuseIf (node.executor != .router || transition.fromNode != rule.nodeId ||
    decide (64 * 1024 < enc.valueLength rule.predicate)) (.invalidRoute rule.routeId.val)

def validateRoutes (rules : List WorkerRouteRuleV1) (nodes : NodeTable) (transitions : TransitionTable) :
    Except PlanError (ExtTreeMap String (List WorkerRouteRuleV1)) := do
  let _ ← collectUnique (validateRoute enc nodes transitions) (fun rule => .invalidRoute rule.routeId.val)
    (fun rule => rule.routeId.val) rules
  .ok ((group (fun rule : WorkerRouteRuleV1 => rule.nodeId.val) rules).map fun _ found =>
    found.insertionSort routeBefore)

end Compile

/-- Ascending priority, then transition id. -/
def transitionBefore (left right : WorkerTransitionV1) : Prop :=
  left.priority < right.priority ∨ left.priority = right.priority ∧ left.transitionId.val ≤ right.transitionId.val

instance : DecidableRel transitionBefore := fun left right => by
  unfold transitionBefore
  infer_instance

def outgoingTable (transitions : List WorkerTransitionV1) : OutgoingTable :=
  (group (fun transition : WorkerTransitionV1 => transition.fromNode.val) transitions).map fun _ edges =>
    edges.insertionSort transitionBefore

variable (outgoing : OutgoingTable)

/-- The edges the cycle check follows: transitions that declare no loop. -/
def plainEdges (node : String) : List (String × String) :=
  ((outgoing[node]?.getD []).filter fun edge => edge.declaredLoopId.isNone).map fun edge =>
    (edge.transitionId.val, edge.toNode.val)

def edgeTargets : List String :=
  (values outgoing).flatMap fun edges => edges.map fun edge => edge.toNode.val

private theorem plainEdges_target (node : String) (e : String × String)
    (he : e ∈ plainEdges outgoing node) : e.2 ∈ edgeTargets outgoing := by
  obtain ⟨edge, hedge, rfl⟩ := List.mem_map.mp he
  obtain ⟨hmem, _⟩ := List.mem_filter.mp hedge
  cases hf : outgoing[node]? with
  | none => simp [hf] at hmem
  | some edges =>
    rw [hf] at hmem
    refine List.mem_flatMap.mpr ⟨edges, (mem_values outgoing edges).mpr ⟨node, hf⟩, ?_⟩
    exact List.mem_map.mpr ⟨edge, hmem, rfl⟩

/-- A declared loop transition is the only legal back edge. -/
def validateV1Cycles (nodes : NodeTable) (outgoing : OutgoingTable) : Except PlanError Unit :=
  match DepthFirst.search (plainEdges outgoing) nodes.keys (edgeTargets outgoing) (plainEdges_target outgoing) with
  | .error transition => .error (.unboundedCycle transition)
  | .ok _ => .ok ()

/-- A text without white space at either end. -/
def trimmed (value : String) : Bool :=
  !(value.toList.head?.any whiteSpaceChar) && !(value.toList.getLast?.any whiteSpaceChar)

def validateBinding (binding : FrozenCapabilityBindingV1) : Except PlanError Unit :=
  let invalidExtension := binding.extension.any fun extension =>
    extension.hostGeneration == 0 || extension.contributionId != binding.adapterId ||
      !isCanonicalSha256 extension.identity.contentHash || !isCanonicalSha256 extension.handshakeHash
  let invalidIsolation := binding.requiredIsolationProfile.any fun profile =>
    profile.isEmpty || decide (256 < profile.utf8ByteSize) || !trimmed profile || profile.toList.any controlChar
  refuseIf (trimIsEmpty binding.adapterVersion || !isCanonicalSha256 binding.descriptorHash || invalidExtension ||
    invalidIsolation) (.invalidNodeContract ("invalid frozen capability binding " ++ binding.capabilityId.val))

/-- The capability references are distinct, those of the frozen bindings. -/
def validateCapabilities (snapshot : WorkerFrozenRunSnapshotV1) : Except PlanError Unit := do
  let refs := ExtTreeSet.ofList (snapshot.capabilityRefs.map val)
  refuseIf (refs.size != snapshot.capabilityRefs.length) (.invalidNodeContract "duplicate capability reference")
  let frozen := ExtTreeSet.ofList (snapshot.capabilityBindings.map fun binding => binding.capabilityId.val)
  refuseIf (frozen.size != snapshot.capabilityBindings.length || frozen.toList != refs.toList)
    (.invalidNodeContract "frozen capability bindings differ from capability references")
  checkAll validateBinding snapshot.capabilityBindings

def validateEntries (nodes : NodeTable) (entries : List StableId) : Except PlanError Unit := do
  let found ← collectUnique (fun entry => refuseIf (!nodes.contains entry.val) (.invalidEntry entry.val))
    (fun entry => .invalidEntry entry.val) val entries
  refuseIf found.isEmpty (.invalidEntry "<empty>")

/-- The checks on the snapshot as received, before it is put in order. -/
def validateHeader (enc : Encoding) (snapshot : WorkerFrozenRunSnapshotV1) (declaredSnapshotHash : String) :
    Except PlanError Unit := do
  validateSnapshotBounds enc snapshot
  refuseIf (snapshot.schemaVersion != supportedWorkerSchemaVersion) (.unsupportedSchema snapshot.schemaVersion)
  refuseIf (snapshot.compilerVersion != workerCompilerVersion) (.unsupportedCompiler snapshot.compilerVersion)
  refuseIf (!isSha256 snapshot.workflowHash || !isSha256 snapshot.authorityManifestHash ||
    !isSha256 snapshot.snapshotHash || !isSha256 declaredSnapshotHash) .invalidHash
  let calculated ← snapshotContentHash enc snapshot
  refuseIf (snapshot.snapshotHash != declaredSnapshotHash || calculated != snapshot.snapshotHash)
    .snapshotHashMismatch

/-- Compiles a snapshot that is already in canonical order. -/
def compileCanonical (enc : Encoding) (snapshot : WorkerFrozenRunSnapshotV1) : Except PlanError ExecutionPlanV1 := do
  validateCapabilities snapshot
  let nodes ← collectUnique (validateNode (snapshot.capabilityRefs.map val))
    (fun node => .duplicateNode node.nodeId.val) (fun node => node.nodeId.val) snapshot.nodes
  refuseIf nodes.isEmpty .emptyGraph
  validateEntries nodes snapshot.entryNodes
  let transitions ← collectUnique (validateTransition enc nodes)
    (fun transition => .duplicateTransition transition.transitionId.val)
    (fun transition => transition.transitionId.val) snapshot.transitions
  let outgoing := outgoingTable snapshot.transitions
  let loops ← validateLoops snapshot.loopDescriptors nodes transitions
  validateV1Cycles nodes outgoing
  let joins ← validateJoins snapshot.joinDescriptors nodes
  let routes ← validateRoutes enc snapshot.routeRules nodes transitions
  let fingerprint ← planFingerprint enc snapshot
  .ok ⟨snapshot, nodes, outgoing, transitions, loops, joins, routes, fingerprint⟩

def ExecutionPlanV1.compile (enc : Encoding) (snapshot : WorkerFrozenRunSnapshotV1)
    (declaredSnapshotHash : String) : Except PlanError ExecutionPlanV1 := do
  validateHeader enc snapshot declaredSnapshotHash
  compileCanonical enc (canonicalizeSnapshot snapshot)

end Aworkit.Worker
