import Aworkit.Protocol.Runtime

/-! Deterministic evaluation of frozen route predicates. -/
namespace Aworkit.Worker
open Protocol

def maxPredicateDepth : Nat := 32
def maxPredicateTerms : Nat := 256

inductive RouteTraceOutcome where
  | matched | notMatched
  deriving DecidableEq

structure RouteTraceEntry where
  routeId : StableId
  priority : Int
  outcome : RouteTraceOutcome

structure RoutingDecisionV1 where
  (routeId transitionId : StableId)
  trace : List RouteTraceEntry

inductive RoutingError where
  | noMatch (node : String)
  | invalidPredicate (reason : String)
  | predicateTooComplex
  deriving DecidableEq

def RoutingError.display : RoutingError → String
  | .noMatch node => "no declared route matched node " ++ node
  | .invalidPredicate reason => "route predicate is malformed: " ++ reason
  | .predicateTooComplex => "route predicate exceeded its bounded complexity"

/-- A decimal index: an optional plus sign and digits, within the machine word. -/
def parseUsize (segment : List Char) : Option Nat :=
  let digits := match segment with
    | '+' :: rest => rest
    | chars => chars
  if digits.isEmpty || !digits.all Char.isDigit then none
  else
    let n := digits.foldl (fun acc c => acc * 10 + (c.toNat - '0'.toNat)) 0
    if n ≤ u64Max then some n else none

/-- One step of a dotted path: an array index or an object's member. -/
def resolveSegment (value : Value) (segment : List Char) : Option Value :=
  if segment.isEmpty then none
  else
    match parseUsize segment with
    | some index => value.asArray.bind fun items => items[index]?
    | none => value.asObject.bind fun members => members.lookup (String.ofList segment)

def resolvePath (facts : Value) (path : String) : Option Value :=
  if path.isEmpty || decide (512 < path.utf8ByteSize) then none
  else (path.toList.splitOn '.').foldlM resolveSegment facts

/-- Evaluates children in turn until one is `stop`; counts terms throughout. -/
def evaluateUntil (evaluate : Value → Nat → Except RoutingError (Bool × Nat)) (stop : Bool) :
    List Value → Nat → Except RoutingError (Bool × Nat)
  | [], terms => .ok (!stop, terms)
  | child :: rest, terms =>
    match evaluate child terms with
    | .error e => .error e
    | .ok (result, terms') => if result == stop then .ok (stop, terms') else evaluateUntil evaluate stop rest terms'

/-- Evaluates with `depthLeft` nested operators still allowed and `terms` operators counted. -/
def evaluate (facts : Value) : Nat → Value → Nat → Except RoutingError (Bool × Nat)
  | 0, _, _ => .error .predicateTooComplex
  | depthLeft + 1, predicate, terms =>
    if maxPredicateTerms ≤ terms then .error .predicateTooComplex
    else
      match predicate.asObject with
      | none => .error (.invalidPredicate "predicate must be an object")
      | some [(operator, operand)] =>
        let terms := terms + 1
        if operator == "always" then
          match operand.asBool with
          | none => .error (.invalidPredicate "always requires a boolean")
          | some b => .ok (b, terms)
        else if operator == "exists" then
          match operand.asStr with
          | none => .error (.invalidPredicate "exists requires a path")
          | some path => .ok ((resolvePath facts path).isSome, terms)
        else if operator == "eq" || operator == "neq" then
          match operand.asObject with
          | none => .error (.invalidPredicate (operator ++ " requires an object"))
          | some comparison =>
            match comparison.length == 2, comparison.lookup "path", comparison.lookup "value" with
            | true, some pathValue, some value =>
              match pathValue.asStr with
              | none => .error (.invalidPredicate (operator ++ ".path must be text"))
              | some path =>
                let equal := Value.beqOption (resolvePath facts path) (some value)
                .ok (if operator == "eq" then equal else !equal, terms)
            | _, _, _ => .error (.invalidPredicate (operator ++ " requires only path and value"))
        else if operator == "and" || operator == "or" then
          match operand.asArray with
          | none => .error (.invalidPredicate (operator ++ " requires an array"))
          | some children =>
            if children.isEmpty || decide (maxPredicateTerms < children.length) then
              .error (.invalidPredicate (operator ++ " requires a non-empty bounded array"))
            else evaluateUntil (evaluate facts depthLeft) (operator == "or") children terms
        else if operator == "not" then
          match evaluate facts depthLeft operand terms with
          | .error e => .error e
          | .ok (result, terms') => .ok (!result, terms')
        else .error (.invalidPredicate ("unknown operator " ++ operator))
      | some _ => .error (.invalidPredicate "predicate must contain exactly one operator")

def evaluatePredicate (predicate facts : Value) : Except RoutingError Bool :=
  (evaluate facts (maxPredicateDepth + 1) predicate 0).map Prod.fst

/-- Ascending priority, then route id. -/
def routeBefore (left right : WorkerRouteRuleV1) : Prop :=
  left.priority < right.priority ∨ left.priority = right.priority ∧ left.routeId.val ≤ right.routeId.val

instance : DecidableRel routeBefore := fun left right => by
  unfold routeBefore
  infer_instance

/-- The first matching rule and the trace of the rules tried. -/
def chooseFirst (nodeId : StableId) (facts : Value) :
    List WorkerRouteRuleV1 → List RouteTraceEntry → Except RoutingError RoutingDecisionV1
  | [], _ => .error (.noMatch nodeId.val)
  | rule :: rest, trace =>
    match evaluatePredicate rule.predicate facts with
    | .error e => .error e
    | .ok true => .ok ⟨rule.routeId, rule.destinationTransition, trace ++ [⟨rule.routeId, rule.priority, .matched⟩]⟩
    | .ok false => chooseFirst nodeId facts rest (trace ++ [⟨rule.routeId, rule.priority, .notMatched⟩])

def chooseRoute (nodeId : StableId) (rules : List WorkerRouteRuleV1) (facts : Value) :
    Except RoutingError RoutingDecisionV1 :=
  chooseFirst nodeId facts (rules.insertionSort routeBefore) []

theorem chooseRoute_mem (nodeId : StableId) (rules : List WorkerRouteRuleV1) (facts : Value)
    (decision : RoutingDecisionV1) (h : chooseRoute nodeId rules facts = .ok decision) :
    ∃ rule ∈ rules, decision.transitionId = rule.destinationTransition := by
  have hfirst : ∀ ordered trace,
      chooseFirst nodeId facts ordered trace = .ok decision →
        ∃ rule ∈ ordered, decision.transitionId = rule.destinationTransition := by
    intro ordered
    induction ordered with
    | nil =>
      intro trace hc
      cases hc
    | cons rule rest ih =>
      intro trace hc
      unfold chooseFirst at hc
      split at hc
      · cases hc
      · cases hc
        exact ⟨rule, List.mem_cons_self, rfl⟩
      · obtain ⟨found, hmem, heq⟩ := ih _ hc
        exact ⟨found, List.mem_cons_of_mem _ hmem, heq⟩
  obtain ⟨rule, hmem, heq⟩ := hfirst _ _ h
  exact ⟨rule, (List.mem_insertionSort routeBefore).mp hmem, heq⟩

end Aworkit.Worker
