import RecordFilter.Proofs.Condition.Truth
import RecordFilter.Proofs.Specification.Outline

set_option autoImplicit false

namespace RecordFilter

-- From left to right, each unit under its own connector; what has no truth value is neutral, and the first connector
-- connects nothing.
def folded (units : List (Connector × Option Truth)) : Option Truth :=
  units.foldl (fun truth unit => Option.merge unit.1.truth truth unit.2) none

namespace Outline

mutual
def truth (value : Nat → Truth) : Outline → Truth
  | predicate position => value position
  | all parts => Connector.and.joined (truths value parts)
  | any parts => Connector.or.joined (truths value parts)
  | negation inner => (inner.truth value).neg
  | group inner => inner.truth value

def truths (value : Nat → Truth) : List Outline → List Truth
  | [] => []
  | part :: rest => part.truth value :: truths value rest
end

theorem truths_append (value : Nat → Truth) (first second : List Outline) :
    truths value (first ++ second) = truths value first ++ truths value second := by
  induction first with
  | nil => rfl
  | cons part rest ih => exact congrArg (part.truth value :: ·) ih

mutual
theorem truth_condition (atom : Condition → Truth) (resolved : Nat → Condition) (outline : Outline) :
    (outline.condition resolved).truth atom = outline.truth fun position => (resolved position).truth atom := by
  cases outline with
  | predicate position => rfl
  | all parts => exact congrArg Connector.and.joined (truths_conditions atom resolved parts)
  | any parts => exact congrArg Connector.or.joined (truths_conditions atom resolved parts)
  | negation inner => exact congrArg Truth.neg (truth_condition atom resolved inner)
  | group inner => exact truth_condition atom resolved inner

theorem truths_conditions (atom : Condition → Truth) (resolved : Nat → Condition) (parts : List Outline) :
    Condition.truths atom (conditions resolved parts) = truths (fun position => (resolved position).truth atom) parts := by
  cases parts with
  | nil => rfl
  | cons part rest =>
    rw [conditions, Condition.truths, truth_condition atom resolved part, truths_conditions atom resolved rest, truths]
end

end Outline

namespace Restriction

theorem predicatesOf_append (first second : List Restriction) :
    predicatesOf (first ++ second) = predicatesOf first ++ predicatesOf second := by
  induction first with
  | nil => rfl
  | cons part rest ih => rw [List.cons_append, predicatesOf, ih, predicatesOf, List.append_assoc]

theorem outlines_append (first second : List Restriction) (start : Nat) :
    outlines start (first ++ second) = outlines start first ++ outlines (start + (predicatesOf first).length) second := by
  induction first generalizing start with
  | nil => rfl
  | cons part rest ih =>
    rw [List.cons_append, outlines, ih, outlines, predicatesOf, List.length_append, Nat.add_assoc]
    rfl

theorem predicates_connect (left : Restriction) (connector : Connector) (right : Restriction) :
    (left.connect connector right).predicates = left.predicates ++ right.predicates := by
  obtain ⟨parts, rfl, flat⟩ | ⟨-, pair⟩ := left.connect_cases connector right
  · rw [flat, predicates_list, predicates_list, predicatesOf_append]
    simp [predicatesOf]
  · rw [pair, predicates_list]
    simp [predicatesOf]

def truth (value : Nat → Truth) (start : Nat) (restriction : Restriction) : Truth := (restriction.outline start).truth value

theorem truth_list (value : Nat → Truth) (start : Nat) (connector : Connector) (parts : List Restriction) :
    (list connector parts).truth value start = connector.joined (Outline.truths value (outlines start parts)) := by
  cases connector <;> rfl

theorem truth_connect (value : Nat → Truth) (start : Nat) (left : Restriction) (connector : Connector) (right : Restriction) :
    (left.connect connector right).truth value start =
      connector.truth (left.truth value start) (right.truth value (start + left.predicates.length)) := by
  obtain ⟨parts, rfl, flat⟩ | ⟨-, pair⟩ := left.connect_cases connector right
  · rw [flat, truth_list, truth_list, predicates_list, outlines_append, Outline.truths_append, Connector.joined_append]
    exact congrArg (connector.truth _) (connector.joined_singleton _)
  · rw [pair, truth_list]
    exact connector.joined_pair _ _

end Restriction

namespace Specification

variable (value : Nat → Truth) (start : Nat)

def truth (specification : Specification) : Option Truth := specification.restriction.map (Restriction.truth value start)

theorem truth_negated (specification : Specification) :
    specification.negated.truth value start = (specification.truth value start).map Truth.neg := by
  obtain ⟨restriction⟩ := specification
  cases restriction <;> rfl

theorem size_negated (specification : Specification) : specification.negated.size = specification.size := by
  obtain ⟨restriction⟩ := specification
  cases restriction <;> rfl

theorem truth_grouped (specification : Specification) :
    specification.grouped.truth value start = specification.truth value start := by
  obtain ⟨restriction⟩ := specification
  cases restriction <;> rfl

theorem size_grouped (specification : Specification) : specification.grouped.size = specification.size := by
  obtain ⟨restriction⟩ := specification
  cases restriction <;> rfl

theorem size_connect (left : Specification) (connector : Connector) (right : Specification) :
    (left.connect connector right).size = left.size + right.size := by
  obtain ⟨first⟩ := left
  obtain ⟨second⟩ := right
  cases first with
  | none => exact (Nat.zero_add _).symm
  | some first =>
    cases second with
    | none => rfl
    | some second =>
      change (first.connect connector second).predicates.length = _
      rw [Restriction.predicates_connect, List.length_append]
      rfl

theorem truth_connect (left : Specification) (connector : Connector) (right : Specification) :
    (left.connect connector right).truth value start =
      Option.merge connector.truth (left.truth value start) (right.truth value (start + left.size)) := by
  obtain ⟨first⟩ := left
  obtain ⟨second⟩ := right
  cases first with
  | none => cases second <;> rfl
  | some first =>
    cases second with
    | none => rfl
    | some second => exact congrArg some (Restriction.truth_connect value start first connector second)

def unitTruths (start : Nat) : List (Connector × Specification) → List (Connector × Option Truth)
  | [] => []
  | (connector, unit) :: rest => (connector, unit.truth value start) :: unitTruths (start + unit.size) rest

def unitsSize : List (Connector × Specification) → Nat
  | [] => 0
  | (_, unit) :: rest => unit.size + unitsSize rest

theorem unitTruths_append (first second : List (Connector × Specification)) :
    unitTruths value start (first ++ second) =
      unitTruths value start first ++ unitTruths value (start + unitsSize first) second := by
  induction first generalizing start with
  | nil => rfl
  | cons unit rest ih =>
    rw [List.cons_append, unitTruths, ih, unitTruths, unitsSize, Nat.add_assoc]
    rfl

theorem truth_ofUnits (units : List (Connector × Specification)) :
    (ofUnits units).truth value start = folded (unitTruths value start units) := by
  -- For every beginning of the fold, since each round begins with what the one before it reached.
  have further (left : Specification) :
      (units.foldl (fun folded unit => folded.connect unit.1 unit.2) left).truth value start =
        (unitTruths value (start + left.size) units).foldl (fun truth unit => Option.merge unit.1.truth truth unit.2)
          (left.truth value start) := by
    induction units generalizing left with
    | nil => rfl
    | cons unit rest ih =>
      rw [List.foldl_cons, ih, truth_connect, size_connect, unitTruths, List.foldl_cons, Nat.add_assoc]
  exact further unrestricted

theorem size_ofUnits (units : List (Connector × Specification)) : (ofUnits units).size = unitsSize units := by
  have further (left : Specification) :
      (units.foldl (fun folded unit => folded.connect unit.1 unit.2) left).size = left.size + unitsSize units := by
    induction units generalizing left with
    | nil => rfl
    | cons unit rest ih =>
      rw [List.foldl_cons, ih, size_connect, unitsSize, Nat.add_assoc]
  exact (further unrestricted).trans (Nat.zero_add _)

end Specification

end RecordFilter
