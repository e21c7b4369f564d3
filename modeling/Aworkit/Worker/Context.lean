import Aworkit.Graph.Worklist
import Aworkit.Logic.Hoare
import Aworkit.Protocol.Json

/-! The store of immutable context revisions (`context.rs`): appends, projections, joins, child contexts and pruning.
A failing operation keeps what it changed. -/
namespace Aworkit.Worker
open Protocol Fallible Hoare Std Prog Value

inductive RevisionKind where
  | root | replace | patch | fork | projection | forEach | join | childRoot | childIntegration
  deriving DecidableEq

structure ContextProvenance where
  kind : RevisionKind
  operationId : String
  sourcePointer : Option String
  omittedPointers : List String
  childId : Option String

def ContextProvenance.simple (kind : RevisionKind) (operationId : String) : ContextProvenance :=
  ⟨kind, operationId, none, [], none⟩

structure ContextRevision where
  id : Nat
  parents : List Nat
  value : Value
  contentHash : String
  lineage : List String
  provenance : ContextProvenance

inductive JoinStrategy where
  | requireEqual | objectUnion | orderedArray

structure JoinContract where
  contractId : String
  commonAncestor : Nat
  orderedHeads : List Nat
  strategy : JoinStrategy

structure ChildContextSpec where
  childId : String
  parentRevision : Nat
  selectedPointers : List (List String)
  instructions : Value

inductive ChildIntegration where
  | replaceAtKey (key : String)
  | mergeObjectAtKey (key : String)
  | appendSummaryAtKey (key : String)

inductive ContextError where
  | unknownRevision (id : Nat)
  | invalidJoin
  | unequalBranches
  | conflictingJoin
  | missingPath (path : String)
  | notArray
  | tooLarge
  | revisionLimit
  | undeclaredJoin
  | revisionExhausted
  | invalidChildIntegration
  | patchRequiresObject
  deriving DecidableEq

structure ChildRecord where
  rootRevision : Nat
  integrated : Bool

/-- The length of an encoded document, and the digest of a revision's parents, value and provenance. -/
structure ContextEncoding where
  encodedSize : Value → Nat
  hashRevision : List Nat → Value → ContextProvenance → Sha256Digest

structure ContextStore where
  revisions : ExtTreeMap Nat ContextRevision
  heads : ExtTreeSet Nat
  children : ExtTreeMap String ChildRecord
  (nextId maxRevisions maxInlineBytes : Nat)

abbrev ContextProg := Prog ContextError ContextStore

/-- The members of the second object join the first; an equal key needs an equal value. -/
def unionMembers (joined object : List (String × Value)) : Except ContextError (List (String × Value)) :=
  object.foldlM (fun merged entry => do
    refuseIf ((member entry.1 merged).any fun previous => !previous.beq entry.2) .conflictingJoin
    .ok (insertMember entry.1 entry.2 merged)) joined

/-- Follows a path of keys from a document. -/
def descend (path : List String) (value : Value) : Except ContextError Value :=
  path.foldlM (fun current key => require (current.get key) (.missingPath ("/" ++ "/".intercalate path))) value

namespace ContextStore

variable (enc : ContextEncoding)

def withLimits (root : Value) (maxRevisions maxInlineBytes : Nat) : Except ContextError ContextStore := do
  refuseIf (decide (maxRevisions = 0) || decide (maxInlineBytes < enc.encodedSize root)) .tooLarge
  let provenance := .simple .root "root"
  let revision : ContextRevision := ⟨1, [], root, (enc.hashRevision [] root provenance).text, ["root"], provenance⟩
  .ok ⟨(∅ : ExtTreeMap Nat ContextRevision).insert 1 revision, (∅ : ExtTreeSet Nat).insert 1, ∅, 2,
    maxRevisions, maxInlineBytes⟩

variable (s : ContextStore)

def get (id : Nat) : Except ContextError ContextRevision :=
  require s.revisions[id]? (.unknownRevision id)

/-- Every parent is stored, and none is named twice. -/
def checkParents (parents : List Nat) : Except ContextError (ExtTreeSet Nat) :=
  parents.foldlM (fun unique parent => do
    let _ ← s.get parent
    refuseIf (unique.contains parent) .invalidJoin
    .ok (unique.insert parent)) ∅

/-- The store with one more revision, a head in place of its parents. -/
def append (revision : ContextRevision) : ContextStore :=
  { s with
    revisions := s.revisions.insert revision.id revision
    heads := (revision.parents.foldl (fun heads parent => heads.erase parent) s.heads).insert revision.id }

def appendWithProvenance (parents : List Nat) (value : Value) (provenance : ContextProvenance)
    (lineageSuffix : Option String) : ContextProg Nat := do
  let s ← read
  lift (refuseIf parents.isEmpty .invalidJoin)
  lift (refuseIf (decide (s.maxRevisions ≤ s.revisions.size)) .revisionLimit)
  lift (refuseIf (decide (s.maxInlineBytes < enc.encodedSize value)) .tooLarge)
  let _ ← lift (s.checkParents parents)
  let next ← lift (require (checkedSucc s.nextId) .revisionExhausted)
  update fun s => { s with nextId := next }
  let first ← lift (s.get (parents.headD 0))
  let lineage := first.lineage ++ lineageSuffix.toList
  update fun s' =>
    s'.append ⟨s.nextId, parents, value, (enc.hashRevision parents value provenance).text, lineage, provenance⟩
  pure s.nextId

variable (parent : Nat)

/-- The replacement revision of one parent (`append` of the source). -/
def appendReplacement (value : Value) : ContextProg Nat :=
  appendWithProvenance enc [parent] value (.simple .replace ("replace-" ++ toString parent)) none

def patchObject (operationId : String) (patch : List (String × Value)) : ContextProg Nat := do
  let s ← read
  let revision ← lift (s.get parent)
  let object ← lift (require revision.value.asObject .patchRequiresObject)
  appendWithProvenance enc [parent] (.object (overlay object patch)) (.simple .patch operationId) none

def fork (parent copies : Nat) : ContextProg (List Nat) := do
  lift (refuseIf (decide (copies = 0)) .invalidJoin)
  let s ← read
  let revision ← lift (s.get parent)
  collect (fun (index : Nat) => appendWithProvenance enc [parent] revision.value
    (.simple .fork ("fork-" ++ toString parent ++ "-" ++ toString index))
    (some ("branch-" ++ toString index))) (List.range copies)

def project (keys : List String) : ContextProg Nat := do
  let s ← read
  let revision ← lift (s.get parent)
  let value ← lift (descend keys revision.value)
  let provenance := { ContextProvenance.simple .projection ("project-" ++ toString parent ++ "-" ++ ".".intercalate keys)
    with sourcePointer := some ("/" ++ "/".intercalate keys) }
  appendWithProvenance enc [parent] value provenance none

def forEachWindow (parent start limit : Nat) : ContextProg (List Nat) := do
  let s ← read
  let revision ← lift (s.get parent)
  let items ← lift (require revision.value.asArray .notArray)
  collect (fun (entry : Value × Nat) => appendWithProvenance enc [parent] entry.1
    (.simple .forEach ("foreach-" ++ toString parent ++ "-" ++ toString entry.2))
    (some ("item-" ++ toString entry.2))) (((items.drop start).take limit).zipIdx start)

def forEach : ContextProg (List Nat) := do
  let s ← read
  let revision ← lift (s.get parent)
  let items ← lift (require revision.value.asArray .notArray)
  forEachWindow enc parent 0 items.length

/-- Neighbours are equal. -/
def allEqual : List Value → Bool
  | first :: second :: rest => first.beq second && allEqual (second :: rest)
  | _ => true

/-- The value of a join, from the values of its heads in order. -/
def joinedValue (strategy : JoinStrategy) (values : List Value) : Except ContextError Value :=
  match strategy with
  | .requireEqual => do
    refuseIf (!allEqual values) .unequalBranches
    .ok (values.headD .null)
  | .objectUnion => do
    let joined ← values.foldlM (fun joined value => do
      let object ← require value.asObject .conflictingJoin
      unionMembers joined object) []
    .ok (.object joined)
  | .orderedArray => .ok (.array values)

def joinValues (orderedHeads : List Nat) (strategy : JoinStrategy)
    (provenance : ContextProvenance) : ContextProg Nat := do
  let s ← read
  let revisions ← lift (orderedHeads.mapM s.get)
  let value ← lift (joinedValue strategy (revisions.map ContextRevision.value))
  appendWithProvenance enc orderedHeads value provenance (some "join")

def join (heads : List Nat) (strategy : JoinStrategy) : ContextProg Nat := do
  let unique := ExtTreeSet.ofList heads
  lift (refuseIf (decide (unique.size < 2)) .invalidJoin)
  joinValues enc unique.toList strategy (.simple .join "compat-join")

/-- The source's stack search: links are pushed in order, the last on top. -/
def isDescendantOf (candidate ancestor : Nat) : Bool :=
  match Worklist.explore s.revisions ContextRevision.parents (fun parents rest => parents.reverse ++ rest)
      (fun id => id == ancestor) ∅ [candidate] with
  | .error _ => true
  | .ok _ => false

def joinDeclared (contract : JoinContract) : ContextProg Nat := do
  let s ← read
  lift (refuseIf (decide (contract.orderedHeads.length < 2) ||
    decide ((ExtTreeSet.ofList contract.orderedHeads).size ≠ contract.orderedHeads.length) ||
    contract.orderedHeads.any fun head => !s.heads.contains head ||
      !s.isDescendantOf head contract.commonAncestor) .undeclaredJoin)
  joinValues enc contract.orderedHeads contract.strategy (.simple .join contract.contractId)

/-- The selected parts under their joined paths, and the instructions. -/
def selectedContext (spec : ChildContextSpec) (parent : Value) : Except ContextError (List (String × Value)) := do
  let selected ← spec.selectedPointers.foldlM (fun selected pointer => do
    let value ← descend pointer parent
    .ok (insertMember (".".intercalate pointer) value selected)) []
  .ok (insertMember "instructions" spec.instructions selected)

def spawnChild (spec : ChildContextSpec) : ContextProg Nat := do
  let s ← read
  lift (refuseIf (s.children.contains spec.childId) .invalidChildIntegration)
  let parent ← lift (s.get spec.parentRevision)
  let selected ← lift (selectedContext spec parent.value)
  let provenance := { ContextProvenance.simple .childRoot ("spawn-" ++ spec.childId) with childId := some spec.childId }
  let rootRevision ← appendWithProvenance enc [spec.parentRevision] (.object selected) provenance
    (some ("child-" ++ spec.childId))
  update fun s => { s with
    heads := s.heads.insert spec.parentRevision
    children := s.children.insert spec.childId ⟨rootRevision, false⟩ }
  pure rootRevision

/-- The parent's members with the result of a child worked in. -/
def integratedValue (parent : List (String × Value)) (result : Value) :
    ChildIntegration → Except ContextError (List (String × Value))
  | .replaceAtKey key => .ok (insertMember key result parent)
  | .mergeObjectAtKey key => do
    let fields ← require result.asObject .conflictingJoin
    let target ← require (((member key parent).getD (.object [])).asObject) .conflictingJoin
    let merged ← unionMembers target fields
    .ok (insertMember key (.object merged) parent)
  | .appendSummaryAtKey key => do
    let target ← require (((member key parent).getD (.array [])).asArray) .conflictingJoin
    .ok (insertMember key (.array (target ++ [result])) parent)

def integrateChild (childId : String) (childHead parentHead : Nat) (result : Value)
    (integration : ChildIntegration) : ContextProg Nat := do
  let s ← read
  let child ← lift (require s.children[childId]? .invalidChildIntegration)
  lift (refuseIf (child.integrated || !s.heads.contains childHead || !s.heads.contains parentHead ||
    !s.isDescendantOf childHead child.rootRevision) .invalidChildIntegration)
  let parent ← lift (s.get parentHead)
  let members ← lift (require parent.value.asObject .patchRequiresObject)
  let value ← lift (integratedValue members result integration)
  let provenance := { ContextProvenance.simple .childIntegration ("integrate-" ++ childId) with childId := some childId }
  let id ← appendWithProvenance enc [parentHead, childHead] (.object value) provenance
    (some ("integrated-" ++ childId))
  update fun s => { s with
    children := s.children.modify childId fun record => { record with integrated := true } }
  pure id

/-- The queue search of the source; a key that is not stored ends it. -/
def reachable (committedHeads : List Nat) : Except Nat (ExtTreeSet Nat) :=
  Worklist.explore s.revisions ContextRevision.parents (fun parents rest => rest ++ parents)
    (fun id => !s.revisions.contains id) ∅ committedHeads

/-- The store without the revisions, heads and children outside the set. -/
def retain (kept : ExtTreeSet Nat) : ContextStore :=
  { s with
    revisions := s.revisions.filter fun id _ => kept.contains id
    heads := s.heads.filter fun id => kept.contains id
    children := s.children.filter fun _ child => kept.contains child.rootRevision }

def pruneUnreachable (committedHeads : List Nat) : ContextProg Nat := do
  let s ← read
  let kept ← lift ((s.reachable committedHeads).mapError .unknownRevision)
  update fun s => s.retain kept
  pure (s.revisions.size - (s.retain kept).revisions.size)

end ContextStore
end Aworkit.Worker
