import RecordFilter.Composer

set_option autoImplicit false

namespace RecordFilter

-- One round of a repetition. The two connecting kinds put what was reached to the left or to the right of the
-- specification that the repetition began with.
inductive Repetition where
  | negate
  | group
  | extend (connector : Connector)
  | precede (connector : Connector)
deriving DecidableEq

def Repetition.round (first : Specification) (reached : Specification) : Repetition → Specification
  | negate => reached.negated
  | group => (Composer.addGroup {} .and (some reached)).build
  | extend connector => reached.connect connector first
  | precede connector => first.connect connector reached

def Repetition.rounds (repetition : Repetition) (first : Specification) : Nat → Specification
  | 0 => first
  | count + 1 => repetition.round first (repetition.rounds first count)

mutual
inductive Composition where
  | unrestricted
  | filter (filter : Filter)
  | connect (left : Composition) (connector : Connector) (right : Composition)
  | negation (inner : Composition)
  | repeated (repetition : Repetition) (count : Nat) (first : Composition)
  | composed (settings : Settings) (steps : List Step)

inductive Step where
  | offer (offer : Offer)
  | append (filter : Filter)
  | distinct (flag : Bool)
  | absentGroup
  | group (connector : Connector) (composition : Composition)
end

mutual
def Composition.specification : Composition → Specification
  | .unrestricted => .unrestricted
  | .filter filter => .ofPredicates filter.predicates
  | .connect left connector right => left.specification.connect connector right.specification
  | .negation inner => inner.specification.negated
  | .repeated repetition count first => repetition.rounds first.specification count
  | .composed settings steps => (Step.applyAll { settings } steps).build

def Step.apply (composer : Composer) : Step → Composer
  | .offer offer => composer.accept offer
  | .append filter => composer.append filter.predicates
  | .distinct flag => composer.setDistinct flag
  | .absentGroup => composer
  | .group connector composition => composer.addGroup connector (some composition.specification)

def Step.applyAll (composer : Composer) : List Step → Composer
  | [] => composer
  | step :: rest => Step.applyAll (step.apply composer) rest
end

structure Progress where
  size : Nat
  isEmpty : Bool
  distinct : Bool
deriving DecidableEq

def Composer.progress (composer : Composer) : Progress :=
  ⟨composer.size, composer.isEmpty, composer.settings.distinct⟩

mutual
def Composition.trace : Composition → List Progress
  | .unrestricted | .filter _ => []
  | .connect left _ right => left.trace ++ right.trace
  | .negation inner => inner.trace
  | .repeated _ _ first => first.trace
  | .composed settings steps => Step.traceAll { settings } steps

def Step.innerTrace : Step → List Progress
  | .group _ composition => composition.trace
  | _ => []

def Step.traceAll (composer : Composer) : List Step → List Progress
  | [] => []
  | step :: rest =>
    let after := step.apply composer
    step.innerTrace ++ after.progress :: Step.traceAll after rest
end

end RecordFilter
