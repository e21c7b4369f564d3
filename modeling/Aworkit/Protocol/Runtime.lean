import Aworkit.Protocol.Json

/-! The frozen snapshot a workflow worker runs, as the core sends it. -/
namespace Aworkit.Protocol

structure WorkerPortV1 where
  name : String
  schemaRef : Option String
  required : Bool

inductive WorkerExecutorKindV1 where
  | pure | brokered | model | agent | subagent | wait | router | branch | join | terminal
  deriving DecidableEq

structure WorkerNodeV1 where
  nodeId : StableId
  nodeType : String
  nodeVersion : Nat
  contributionHash : String
  (inputs outputs : List WorkerPortV1)
  executor : WorkerExecutorKindV1
  config : Value
  capabilityRef : Option StableId
  resultSchemaRef : Option String

structure WorkerTransitionV1 where
  (transitionId fromNode : StableId)
  fromPort : String
  toNode : StableId
  toPort : String
  priority : Int
  predicate : Option Value
  declaredLoopId : Option StableId

structure WorkerLoopDescriptorV1 where
  loopId : StableId
  maximumIterations : UInt32
  (bodyEntry bodyExit : StableId)

structure WorkerJoinDescriptorV1 where
  (joinId nodeId : StableId)
  expectedBranches : List StableId
  mergePolicy : String

structure WorkerRouteRuleV1 where
  (routeId nodeId : StableId)
  priority : Int
  predicate : Value
  destinationTransition : StableId

structure WorkerBudgetV1 where
  (turns attempts toolCalls tokens costMicros actions depth fanout parallel deadlineMs : Nat)

structure ExtensionIdentityV1 where
  extensionId : StableId
  (version contentHash : String)

structure ExtensionRuntimeBindingV1 where
  identity : ExtensionIdentityV1
  (contributionId hostId : StableId)
  hostGeneration : Nat
  handshakeHash : String

structure FrozenCapabilityBindingV1 where
  (capabilityId adapterId : StableId)
  (adapterVersion descriptorHash : String)
  extension : Option ExtensionRuntimeBindingV1
  requiredIsolationProfile : Option String

inductive HistoryBackendV1 where
  | localSqlite
  | portableProject (repositoryId : StableId)

structure WorkerFrozenRunSnapshotV1 where
  snapshotId : StableId
  snapshotHash : String
  (chatId runId : StableId)
  schemaVersion : Nat
  (compilerVersion workflowHash : String)
  nodes : List WorkerNodeV1
  transitions : List WorkerTransitionV1
  entryNodes : List StableId
  loopDescriptors : List WorkerLoopDescriptorV1
  joinDescriptors : List WorkerJoinDescriptorV1
  routeRules : List WorkerRouteRuleV1
  authorityManifestRef : StableId
  authorityManifestHash : String
  capabilityBindings : List FrozenCapabilityBindingV1
  capabilityRefs : List StableId
  workspaceIdentity : Value
  budget : WorkerBudgetV1
  historyMode : HistoryBackendV1

/-- Serialisation fails exactly on a generation beyond the wire range. -/
def WorkerFrozenRunSnapshotV1.encodes (snapshot : WorkerFrozenRunSnapshotV1) : Bool :=
  snapshot.capabilityBindings.all fun binding =>
    binding.extension.all fun extension => decide (extension.hostGeneration ≤ maxSafeWireInteger)

/-- `sha256:` followed by 64 lower-case hexadecimal digits. -/
def isCanonicalSha256 (value : String) : Bool :=
  value.utf8ByteSize == 71 && "sha256:".toList.isPrefixOf value.toList &&
    (value.toList.drop 7).all lowerHexChar

end Aworkit.Protocol
