import RecordFilter.Filter

set_option autoImplicit false

namespace RecordFilter

inductive Restriction where
  | predicate (single : Predicate)
  | all (parts : List Restriction)
  | any (parts : List Restriction)
  | negation (inner : Restriction)
  | group (inner : Restriction)

namespace Restriction

def connect : Restriction → Connector → Restriction → Restriction
  | all parts, .and, right => all (parts ++ [right])
  | any parts, .or, right => any (parts ++ [right])
  | left, .and, right => all [left, right]
  | left, .or, right => any [left, right]

mutual
def predicates : Restriction → List Predicate
  | predicate single => [single]
  | all parts | any parts => predicatesOf parts
  | negation inner | group inner => inner.predicates

def predicatesOf : List Restriction → List Predicate
  | [] => []
  | part :: rest => part.predicates ++ predicatesOf rest
end

mutual
def resolve (schema : Schema) : Restriction → Resolve Scope Condition
  | predicate single => single.resolve schema
  | all parts => return .all (← resolveParts schema parts)
  | any parts => return .any (← resolveParts schema parts)
  | negation inner => return (← inner.resolve schema).negate
  | group inner => return .group (← inner.resolve schema)

def resolveParts (schema : Schema) : List Restriction → Resolve Scope (List Condition)
  | [] => return []
  | part :: rest => do
    let condition ← part.resolve schema
    return condition :: (← resolveParts schema rest)
end

end Restriction

structure Specification where
  restriction : Option Restriction := none

namespace Specification

def unrestricted : Specification := {}

def ofPredicate (predicate : Predicate) : Specification := ⟨some (.predicate predicate)⟩

def isUnrestricted (specification : Specification) : Bool := specification.restriction.isNone

def predicates (specification : Specification) : List Predicate :=
  match specification.restriction with
  | some restriction => restriction.predicates
  | none => []

def size (specification : Specification) : Nat := specification.predicates.length

def connect (left : Specification) (connector : Connector) (right : Specification) : Specification :=
  match left.restriction, right.restriction with
  | none, _ => right
  | _, none => left
  | some first, some second => ⟨some (first.connect connector second)⟩

def negated (specification : Specification) : Specification := ⟨specification.restriction.map .negation⟩

def grouped (specification : Specification) : Specification := ⟨specification.restriction.map .group⟩

def ofUnits (units : List (Connector × Specification)) : Specification :=
  units.foldl (fun folded unit => folded.connect unit.1 unit.2) unrestricted

def ofPredicates (predicates : List Predicate) : Specification :=
  ofUnits (predicates.map fun predicate => (.and, ofPredicate predicate))

def resolve (schema : Schema) (specification : Specification) : Resolve Scope (Option Condition) :=
  match specification.restriction with
  | some restriction => return some (← restriction.resolve schema)
  | none => return none

end Specification

end RecordFilter
