import Aworkit.Worker.Checkpoint

/-! Everything a scheduler operation can do, stated once as a step relation. Invariants are proved over its steps. -/
namespace Aworkit.Worker
open Protocol Fallible OrderedMap

theorem stableId_ok (enc : Encoding) (material : String) : ∃ id, stableId enc material = .ok id := by
  have htext := stableIdText_digest "worker." (enc.sha256 material) 48 (by decide) (by decide)
  exact ⟨⟨_, htext⟩, by simp [stableId, StableId.parse, htext]⟩

/-- The texts a proposal of a token is derived from. -/
inductive ProposalMaterial (fingerprint : String) (token : StableId) : String → Prop
  | transition (id : StableId) : ProposalMaterial fingerprint token (transitionMaterial fingerprint token id)
  | terminal (outcome : String) : ProposalMaterial fingerprint token (terminalMaterial fingerprint token outcome)
  | waitInput : ProposalMaterial fingerprint token (waitInputMaterial fingerprint token)

/-- What a proposal may select at a node: a transition that leaves it, with its loop, or a completion its executor
has. -/
inductive Selected (plan : ExecutionPlanV1) (node : StableId) :
    Option StableId → Option StableId → Option ExternalCompletionV1 → Prop
  | transition (id : StableId) (t : WorkerTransitionV1) (ht : plan.transition id = some t) (hfrom : t.fromNode = node) :
      Selected plan node (some id) t.declaredLoopId none
  | completion (n : WorkerNodeV1) (completion : Option ExternalCompletionV1) (hn : plan.node node = some n)
      (hc : validCompletion n.executor completion = true) : Selected plan node none none completion

namespace SchedulerV1

/-- What an operation hashes, enqueues and admits by acknowledgement. -/
structure Effect where
  hashed : List String
  (enqueued admitted : Nat)

def Effect.append (a b : Effect) : Effect := ⟨a.hashed ++ b.hashed, a.enqueued + b.enqueued, a.admitted + b.admitted⟩

def freshToken (s : SchedulerV1) (tokenId nodeId : StableId) (contextRevision : Nat) (lineage : String) : TokenV1 where
  tokenId := tokenId
  nodeId := nodeId
  contextRevision := contextRevision
  logicalTick := s.logicalTick
  branchLineage := lineage
  state := .ready
  awaitingProposalId := none
  selectedTransitionId := none
  selectedLoopId := none
  externalCompletion := none

/-- The scheduler with one more ready token. -/
def place (s : SchedulerV1) (ordinal : Nat) (token : TokenV1) : SchedulerV1 :=
  { s with
    nextTokenOrdinal := s.nextTokenOrdinal + 1
    ready := s.ready.insert ⟨token.logicalTick, ordinal, token.branchLineage, token.tokenId.val⟩
    tokens := s.tokens.insert token.tokenId.val token }

/-- When a token is enqueued, with what is derived for it. -/
structure Placeable (enc : Encoding) (s : SchedulerV1) (node : StableId) (lineage : String) (ordinal : Nat)
    (tokenId : StableId) : Prop where
  known : s.nodeOrdinals[node.val]? = some ordinal
  named : validLineage lineage = true
  derived : stableId enc (tokenMaterial s.plan.fingerprint s.nextTokenOrdinal node lineage) = .ok tokenId
  unexhausted : s.nextTokenOrdinal < u64Max

variable {enc : Encoding} {s s' : SchedulerV1} {e : Effect}

theorem enqueue_of_placeable (h : Placeable enc s node lineage ordinal tokenId) (revision : Nat) :
    s.enqueue enc node revision lineage =
      (.ok (s.freshToken tokenId node revision lineage), s.place ordinal (s.freshToken tokenId node revision lineage)) := by
  have hnext : checkedSucc s.nextTokenOrdinal = some (s.nextTokenOrdinal + 1) := if_pos h.unexhausted
  simp only [enqueue, h.known, h.named, h.derived, hnext, Bool.not_true, Bool.false_eq_true, if_false]
  rfl

theorem enqueue_cases (enc : Encoding) (s : SchedulerV1) (node : StableId) (revision : Nat) (lineage : String) :
    (∃ e, s.enqueue enc node revision lineage = (.error e, s)) ∨
      ∃ ordinal tokenId, Placeable enc s node lineage ordinal tokenId := by
  cases hordinal : s.nodeOrdinals[node.val]? with
  | none => exact .inl ⟨.unknownNode node.val, by simp [enqueue, hordinal]⟩
  | some ordinal =>
    by_cases hlineage : validLineage lineage = true
    · obtain ⟨tokenId, hid⟩ := stableId_ok enc (tokenMaterial s.plan.fingerprint s.nextTokenOrdinal node lineage)
      by_cases hnext : s.nextTokenOrdinal < u64Max
      · exact .inr ⟨ordinal, tokenId, hordinal, hlineage, hid, hnext⟩
      · have hchecked : checkedSucc s.nextTokenOrdinal = none := if_neg hnext
        exact .inl ⟨.invalidCheckpoint, by simp [enqueue, hordinal, hlineage, hid, hchecked]⟩
    · exact .inl ⟨.invalidCheckpoint, by simp [enqueue, hordinal, hlineage]⟩

/-- A waiting token that an acknowledgement at a later cursor may complete. -/
structure Acknowledgeable (s : SchedulerV1) (proposalId : StableId) (cursor : Nat) (sourceId : StableId)
    (source : TokenV1) : Prop where
  later : s.committedCursor < cursor
  unseen : s.acknowledgedProposals[proposalId.val]? = none
  found : ∃ token, s.sourceOf proposalId = some token ∧ token.tokenId = sourceId
  stored : s.tokens[sourceId.val]? = some source
  waiting : source.state = .awaitingCommit

inductive Move (enc : Encoding) (s : SchedulerV1) : Effect → SchedulerV1 → Prop
  | idle (hashed : List String) : Move enc s ⟨hashed, 0, 0⟩ s
  | enqueued {node : StableId} {lineage : String} {ordinal : Nat} {tokenId : StableId}
      (h : Placeable enc s node lineage ordinal tokenId) (revision : Nat) :
      Move enc s ⟨[tokenMaterial s.plan.fingerprint s.nextTokenOrdinal node lineage], 1, 0⟩
        (s.place ordinal (s.freshToken tokenId node revision lineage))
  | claimed {key : ReadyKeyV1} {token : TokenV1} (hfirst : s.ready.toList.head? = some key)
      (ht : s.tokens[key.tokenId]? = some token) (hs : token.state = .ready) :
      Move enc s ⟨[], 0, 0⟩ { s with
        ready := s.ready.erase key, tokens := s.tokens.insert key.tokenId { token with state := .inFlight } }
  | dropped {key : ReadyKeyV1} (hfirst : s.ready.toList.head? = some key)
      (hn : ∀ token, s.tokens[key.tokenId]? = some token → token.state ≠ .ready) :
      Move enc s ⟨[], 0, 0⟩ { s with ready := s.ready.erase key }
  | awaited {tokenId proposalId : StableId} {token : TokenV1} {material : String}
      {transition loop : Option StableId} {completion : Option ExternalCompletionV1}
      (ht : s.tokens[tokenId.val]? = some token) (hs : token.state = .inFlight)
      (hsel : Selected s.plan token.nodeId transition loop completion) (hloop : s.admitLoop loop = .ok ())
      (hm : ProposalMaterial s.plan.fingerprint tokenId material) (hid : stableId enc material = .ok proposalId) :
      Move enc s ⟨[material], 0, 0⟩ (s.awaitCommit tokenId token proposalId transition loop completion)
  | admitted {proposalId sourceId childId : StableId} {cursor ordinal : Nat} {source : TokenV1}
      {id : StableId} {t : WorkerTransitionV1} (hack : Acknowledgeable s proposalId cursor sourceId source)
      (hsel : source.selectedTransitionId = some id) (ht : s.plan.transition id = some t)
      (hext : source.externalCompletion = none)
      (hp : Placeable enc (s.advance sourceId source cursor) t.toNode source.branchLineage ordinal childId)
      (revision : Nat) :
      Move enc s ⟨[tokenMaterial s.plan.fingerprint s.nextTokenOrdinal t.toNode source.branchLineage], 0, 1⟩
        { (s.advance sourceId source cursor).place ordinal
            ((s.advance sourceId source cursor).freshToken childId t.toNode revision source.branchLineage) with
          acknowledgedProposals := s.acknowledgedProposals.insert proposalId.val (some childId.val) }
  | interrupted {proposalId sourceId : StableId} {cursor revision : Nat} {source : TokenV1}
      {id : StableId} {t : WorkerTransitionV1} {e : SchedulerErrorV1} (hashed : List String)
      (hack : Acknowledgeable s proposalId cursor sourceId source)
      (hsel : source.selectedTransitionId = some id) (ht : s.plan.transition id = some t)
      (hext : source.externalCompletion = none)
      (he : (s.advance sourceId source cursor).enqueue enc t.toNode revision source.branchLineage =
        (.error e, s.advance sourceId source cursor)) :
      Move enc s ⟨hashed, 0, 0⟩ (s.advance sourceId source cursor)
  | completed {proposalId sourceId : StableId} {cursor : Nat} {source : TokenV1}
      {executor : WorkerExecutorKindV1} {completion : Option ExternalCompletionV1}
      (hack : Acknowledgeable s proposalId cursor sourceId source)
      (hby : s.completesBy executor completion source = true) (hvalid : validCompletion executor completion = true) :
      Move enc s ⟨[], 0, 0⟩ { s.complete sourceId source cursor with
        acknowledgedProposals := s.acknowledgedProposals.insert proposalId.val none }
  | suspended {tokenId : StableId} {token : TokenV1} (ht : s.tokens[tokenId.val]? = some token)
      (hs : token.state = .inFlight) :
      Move enc s ⟨[], 0, 0⟩ { s with tokens := s.tokens.insert tokenId.val { token with state := .suspended } }
  | resumed {tokenId : StableId} {token : TokenV1} {ordinal : Nat}
      (ht : s.tokens[tokenId.val]? = some token) (hs : token.state = .suspended)
      (ho : s.nodeOrdinals[token.nodeId.val]? = some ordinal) :
      Move enc s ⟨[], 0, 0⟩ { s with
        tokens := s.tokens.insert tokenId.val { token with state := .ready }
        ready := s.ready.insert ⟨token.logicalTick, ordinal, token.branchLineage, token.tokenId.val⟩ }
  | stranded {tokenId : StableId} {token : TokenV1} (ht : s.tokens[tokenId.val]? = some token)
      (hs : token.state = .suspended) (ho : s.nodeOrdinals[token.nodeId.val]? = none) :
      Move enc s ⟨[], 0, 0⟩ { s with tokens := s.tokens.insert tokenId.val { token with state := .ready } }
  | cancelled (lineage : String) : Move enc s ⟨[], 0, 0⟩ (s.cancelLineage lineage).2

/-- Finitely many steps, with the sum of their effects. -/
inductive Moves (enc : Encoding) (start : SchedulerV1) : Effect → SchedulerV1 → Prop
  | refl : Moves enc start ⟨[], 0, 0⟩ start
  | snoc {e e' : Effect} {s s' : SchedulerV1} (h : Moves enc start e s) (hm : Move enc s e' s') :
      Moves enc start (e.append e') s'

theorem Moves.single (h : Move enc s e s') : Moves enc s e s' := by
  have hm := Moves.snoc (@Moves.refl enc s) h
  simpa [Effect.append] using hm

theorem Moves.trans (h : Moves enc a e b) (h' : Moves enc b f c) : Moves enc a (e.append f) c := by
  induction h' with
  | refl => simpa [Effect.append] using h
  | snoc _ hm ih =>
    have hs := Moves.snoc ih hm
    simpa [Effect.append, Nat.add_assoc] using hs

theorem Move.plan_eq (h : Move enc s e s') : s'.plan = s.plan := by
  cases h <;> rfl

end SchedulerV1
end Aworkit.Worker
