import Aworkit.Core.InvocationLedger
import Aworkit.Worker.Plan

/-! Frozen capability authority and the snapshot of a first input (`authority.rs`), with the check of its workspace
(`project.rs`). -/
namespace Aworkit.Core
open Protocol Fallible WorkerPortV1
open Worker (sortById trimmed)

abbrev PathBuf := List UInt8

structure WorkspaceIdentityV1 where
  (canonicalPath platform filesystemObjectId : String)

structure WorkspaceBindingV1 where
  root : PathBuf
  identity : WorkspaceIdentityV1

inductive ProjectError where
  | workspaceUnavailable
  | workspaceDrift
  deriving DecidableEq

/-- What the operating system answers about paths. A handle is known by its hash, a path text by its simplified
components. -/
structure FileSystem where
  platform : String
  canonicalize : PathBuf → Option PathBuf
  isDirectory : PathBuf → Option Bool
  handleHash : PathBuf → Option UInt64
  toStringLossy : PathBuf → String
  simplified : String → List PathBuf

namespace FileSystem

/-- `{:016x}`. -/
def hex16 (n : UInt64) : String := String.ofList ((Nat.toDigits 16 n.toNat).leftpad 16 '0')

variable (fs : FileSystem)

def canonicalDirectory (path : PathBuf) : Except ProjectError PathBuf := do
  let canonical ← require (fs.canonicalize path) .workspaceUnavailable
  let directory ← require (fs.isDirectory canonical) .workspaceUnavailable
  refuseIf (!directory) .workspaceUnavailable
  return canonical

def resolveWorkspaceV1 (root : PathBuf) : Except ProjectError WorkspaceBindingV1 := do
  let canonical ← fs.canonicalDirectory root
  let handle ← require (fs.handleHash canonical) .workspaceUnavailable
  return ⟨canonical, fs.toStringLossy canonical, fs.platform, "object:" ++ hex16 handle⟩

def sameCanonicalPath (left right : String) : Bool := fs.simplified left == fs.simplified right

def revalidateWorkspaceV1 (binding : WorkspaceBindingV1) : Except ProjectError Unit := do
  let observed ← fs.resolveWorkspaceV1 binding.root
  refuseIf (observed.identity.platform != binding.identity.platform ||
    observed.identity.filesystemObjectId != binding.identity.filesystemObjectId ||
    !fs.sameCanonicalPath observed.identity.canonicalPath binding.identity.canonicalPath) .workspaceDrift

end FileSystem

/-- The JSON document of a workspace identity, its members in key order. -/
def WorkspaceIdentityV1.toValue (identity : WorkspaceIdentityV1) : Value :=
  .object [("canonicalPath", .string identity.canonicalPath),
    ("filesystemObjectId", .string identity.filesystemObjectId), ("platform", .string identity.platform)]

structure CapabilityBindingV1 where
  (capabilityId adapterId : StableId)
  (adapterVersion descriptorHash : String)
  extension : Option ExtensionRuntimeBindingV1
  requiredIsolationProfile : Option String
  (enabled compatible : Bool)
  approval : ApprovalRequirement
  allowedNodeTypes : List String

def CapabilityBindingV1.frozenExecutionBinding (binding : CapabilityBindingV1) : FrozenCapabilityBindingV1 where
  capabilityId := binding.capabilityId
  adapterId := binding.adapterId
  adapterVersion := binding.adapterVersion
  descriptorHash := binding.descriptorHash
  extension := binding.extension
  requiredIsolationProfile := binding.requiredIsolationProfile

structure AuthorityManifestV1 where
  manifestId : StableId
  manifestHash : String
  capabilityBindings : List CapabilityBindingV1
  summary : String

/-- The parts of a request that its workflow hash covers. -/
structure WorkflowGraph where
  nodes : List WorkerNodeV1
  transitions : List WorkerTransitionV1
  entryNodes : List StableId
  loopDescriptors : List WorkerLoopDescriptorV1
  joinDescriptors : List WorkerJoinDescriptorV1
  routeRules : List WorkerRouteRuleV1

structure SnapshotRequestV1 extends WorkflowGraph where
  (snapshotId chatId runId : StableId)
  workflowHash : String
  workspace : WorkspaceBindingV1
  capabilityBindings : List CapabilityBindingV1
  budget : WorkerBudgetV1
  historyMode : HistoryBackendV1

inductive SnapshotErrorV1 where
  | workspace (error : ProjectError)
  | workflowHashMismatch
  | duplicateCapability
  | invalidCapability (capability : StableId)
  | nodeCapabilityMissing (node : StableId)
  | unresolvedCapability (capability : StableId)
  | nodeTypeDenied (node : StableId)
  | invalidBudget
  | encoding
  deriving DecidableEq

/-- The encoders of the core: those of the worker, and SHA-256 of canonical workflow graphs and manifest bindings. -/
structure AuthorityEncoding extends Worker.Encoding where
  graphDigest : WorkflowGraph → Sha256Digest
  manifestDigest : List CapabilityBindingV1 → Sha256Digest

/-- Node id, then ascending priority, then route id. -/
def graphRouteBefore (left right : WorkerRouteRuleV1) : Prop :=
  left.nodeId.val < right.nodeId.val ∨ left.nodeId.val = right.nodeId.val ∧
    (left.priority < right.priority ∨ left.priority = right.priority ∧ left.routeId.val ≤ right.routeId.val)

instance : DecidableRel graphRouteBefore := fun _ _ =>
  inferInstanceAs (Decidable (_ ∨ _ ∧ (_ ∨ _ ∧ _)))

/-- `expected_branches` of a join is a declared order and stays as it is. -/
def workflowGraphHashV1 (enc : AuthorityEncoding) (graph : WorkflowGraph) : Except SnapshotErrorV1 String :=
  .ok (enc.graphDigest
    { nodes := (sortById (fun node => node.nodeId.val) graph.nodes).map fun node =>
        { node with
          inputs := sortById name node.inputs, outputs := sortById name node.outputs }
      transitions := sortById (fun transition => transition.transitionId.val) graph.transitions
      entryNodes := sortById StableId.val graph.entryNodes
      loopDescriptors := sortById (fun descriptor => descriptor.loopId.val) graph.loopDescriptors
      joinDescriptors := sortById (fun descriptor => descriptor.joinId.val) graph.joinDescriptors
      routeRules := graph.routeRules.insertionSort graphRouteBefore }).text

def snapshotHashV1 (enc : Worker.Encoding) (snapshot : WorkerFrozenRunSnapshotV1) : Except SnapshotErrorV1 String :=
  let canonical := { snapshot with
    snapshotHash := ""
    nodes := (sortById (fun node => node.nodeId.val) snapshot.nodes).map fun node =>
      { node with
        inputs := sortById name node.inputs, outputs := sortById name node.outputs }
    transitions := sortById (fun transition => transition.transitionId.val) snapshot.transitions
    entryNodes := sortById StableId.val snapshot.entryNodes
    loopDescriptors := sortById (fun descriptor => descriptor.loopId.val) snapshot.loopDescriptors
    joinDescriptors := sortById (fun descriptor => descriptor.joinId.val) snapshot.joinDescriptors
    routeRules := sortById (fun rule => rule.routeId.val) snapshot.routeRules
    capabilityBindings := sortById (fun binding => binding.capabilityId.val) snapshot.capabilityBindings
    capabilityRefs := sortById StableId.val snapshot.capabilityRefs }
  if canonical.encodes then .ok (enc.snapshotDigest canonical).text else .error .encoding

def validateBinding (binding : CapabilityBindingV1) : Except SnapshotErrorV1 Unit :=
  let invalidExtension := binding.extension.any fun extension =>
    extension.hostGeneration == 0 || extension.contributionId != binding.adapterId ||
      trimIsEmpty extension.identity.version || decide (128 < extension.identity.version.utf8ByteSize) ||
      !isCanonicalSha256 extension.identity.contentHash || !isCanonicalSha256 extension.handshakeHash
  let invalidIsolation := binding.requiredIsolationProfile.any fun profile =>
    profile.isEmpty || decide (256 < profile.utf8ByteSize) || !trimmed profile || profile.toList.any controlChar
  refuseIf (!binding.enabled || !binding.compatible || trimIsEmpty binding.adapterVersion ||
    decide (128 < binding.adapterVersion.utf8ByteSize) || !isCanonicalSha256 binding.descriptorHash ||
    invalidExtension || invalidIsolation ||
    binding.allowedNodeTypes.any fun nodeType =>
      nodeType.isEmpty || decide (128 < nodeType.utf8ByteSize) || nodeType.toList.any controlChar)
    (.invalidCapability binding.capabilityId)

def validateBudget (budget : WorkerBudgetV1) : Except SnapshotErrorV1 Unit :=
  refuseIf (budget.turns == 0 || budget.attempts == 0 || budget.actions == 0 || decide (64 < budget.depth) ||
    decide (1024 < budget.fanout) || budget.parallel == 0 || decide (max budget.fanout 1 < budget.parallel) ||
    budget.deadlineMs == 0) .invalidBudget

namespace SnapshotFreezerV1

abbrev BindingTable := Std.ExtTreeMap String CapabilityBindingV1

/-- The binding with its node types sorted, each once. -/
def sortNodeTypes (binding : CapabilityBindingV1) : CapabilityBindingV1 :=
  { binding with allowedNodeTypes := (sortById (fun nodeType => nodeType) binding.allowedNodeTypes).destutter (· ≠ ·) }

/-- One round of the binding loop; the set of ids and the map built after it are one table. -/
def admitBinding (table : BindingTable) (binding : CapabilityBindingV1) : Except SnapshotErrorV1 BindingTable := do
  refuseIf (table.contains binding.capabilityId.val) .duplicateCapability
  validateBinding binding
  return table.insert binding.capabilityId.val binding

/-- Brokered, model and agent nodes need a binding that admits their type; others may name one. -/
def resolveNode (table : BindingTable) (node : WorkerNodeV1) : Except SnapshotErrorV1 Unit :=
  match node.executor, node.capabilityRef with
  | .brokered, some capability | .model, some capability | .agent, some capability => do
    let binding ← require table[capability.val]? (.unresolvedCapability capability)
    refuseIf (!binding.allowedNodeTypes.isEmpty && !binding.allowedNodeTypes.contains node.nodeType)
      (.nodeTypeDenied node.nodeId)
  | .brokered, none | .model, none | .agent, none => .error (.nodeCapabilityMissing node.nodeId)
  | _, some capability => refuseIf (!table.contains capability.val) (.unresolvedCapability capability)
  | _, none => .ok ()

/-- SHA-256 of the bindings, up to the wire range of host generations. -/
def manifestHash (enc : AuthorityEncoding) (bindings : List CapabilityBindingV1) : Except SnapshotErrorV1 String :=
  if bindings.all fun binding => binding.extension.all fun extension =>
      decide (extension.hostGeneration ≤ maxSafeWireInteger) then
    .ok (enc.manifestDigest bindings).text
  else .error .encoding

def summary (bindings : List CapabilityBindingV1) : String :=
  toString bindings.length ++ " exact capability binding(s); " ++
    toString (bindings.countP fun binding => binding.approval == .perInvocation) ++ " require per-invocation approval"

/-- The snapshot of a request under a manifest, before its hash is known. -/
def unhashed (request : SnapshotRequestV1) (manifest : AuthorityManifestV1) : WorkerFrozenRunSnapshotV1 where
  snapshotId := request.snapshotId
  snapshotHash := ""
  chatId := request.chatId
  runId := request.runId
  schemaVersion := 1
  compilerVersion := "aworkit-worker-v1"
  workflowHash := request.workflowHash
  nodes := request.nodes
  transitions := request.transitions
  entryNodes := request.entryNodes
  loopDescriptors := request.loopDescriptors
  joinDescriptors := request.joinDescriptors
  routeRules := request.routeRules
  authorityManifestRef := manifest.manifestId
  authorityManifestHash := manifest.manifestHash
  capabilityBindings := manifest.capabilityBindings.map CapabilityBindingV1.frozenExecutionBinding
  capabilityRefs := manifest.capabilityBindings.map CapabilityBindingV1.capabilityId
  workspaceIdentity := request.workspace.identity.toValue
  budget := request.budget
  historyMode := request.historyMode

def freeze (enc : AuthorityEncoding) (projects : FileSystem) (request : SnapshotRequestV1) :
    Except SnapshotErrorV1 (WorkerFrozenRunSnapshotV1 × AuthorityManifestV1) := do
  (projects.revalidateWorkspaceV1 request.workspace).mapError .workspace
  validateBudget request.budget
  let calculated ← workflowGraphHashV1 enc request.toWorkflowGraph
  refuseIf (request.workflowHash != calculated) .workflowHashMismatch
  let bindings := (sortById (fun binding => binding.capabilityId.val) request.capabilityBindings).map sortNodeTypes
  let table ← bindings.foldlM admitBinding ∅
  checkAll (resolveNode table) request.nodes
  let hash ← manifestHash enc bindings
  let manifestId ← require (StableId.parse ("manifest." ++ String.ofList (hash.toList.take 32))) .encoding
  let manifest : AuthorityManifestV1 := ⟨manifestId, hash, bindings, summary bindings⟩
  let snapshotHash ← snapshotHashV1 enc.toEncoding (unhashed request manifest)
  return ({ unhashed request manifest with snapshotHash }, manifest)

end SnapshotFreezerV1
end Aworkit.Core
