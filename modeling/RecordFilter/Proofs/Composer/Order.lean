import RecordFilter.Proofs.Composer.Range
import RecordFilter.Proofs.Specification.Meaning
import RecordFilter.Proofs.Statement.Template

set_option autoImplicit false

namespace RecordFilter

def Range.pair {α : Type} (range : Range α) : List α :=
  match range.low, range.high with
  | some low, some high => [low, high]
  | _, _ => []

def RangeForm.values (ends : Range Value) : RangeForm → List Value
  | side sign => (sign.operand ends).toList
  | between => ends.pair
  | span lower upper => Range.pair ⟨lower.operand ends, upper.operand ends⟩

def Test.values : Test → List Value
  | equal value => [value]
  | membership values => values
  | like fragment ignoreCase wildcard => [.text (searchPattern ignoreCase wildcard fragment)]
  | null => []
  | range ends form => form.values ends

def Predicate.values (predicate : Predicate) : List Value := predicate.test.values

theorem Condition.values_negatedWhen (negated : Bool) (condition : Condition) :
    (condition.negatedWhen negated).values = condition.values := by
  cases negated <;> rfl

theorem RangeForm.values_condition (column : Column) (negated : Bool) (ends : Range Value) (form : RangeForm) :
    (form.condition column negated ends).values = form.values ends := by
  cases form with
  | side sign =>
    rw [condition, values]
    cases sign.operand ends with
    | none => rfl
    | some value => exact Condition.values_negatedWhen negated _
  | between =>
    rw [condition, values, Range.pair]
    cases ends.low <;> cases ends.high <;> rfl
  | span lower upper =>
    rw [condition, values, Range.pair]
    cases lower.operand ends with
    | none => rfl
    | some low =>
      cases upper.operand ends with
      | none => rfl
      | some high => exact Condition.values_negatedWhen negated _

theorem Test.values_condition (column : Column) (negated : Bool) (test : Test) :
    (test.condition column negated).values = test.values := by
  cases test with
  | range ends form => exact form.values_condition column negated ends
  | _ => rfl

namespace Outline

mutual
theorem values_condition (resolved : Nat → Condition) (outline : Outline) :
    (outline.condition resolved).values = outline.positions.flatMap fun position => (resolved position).values := by
  cases outline with
  | predicate position => exact (List.append_nil _).symm
  | all parts | any parts => exact valuesOf_conditions resolved parts
  | negation inner | group inner => exact values_condition resolved inner

theorem valuesOf_conditions (resolved : Nat → Condition) (parts : List Outline) :
    Condition.valuesOf (conditions resolved parts) =
      (positionsOf parts).flatMap fun position => (resolved position).values := by
  cases parts with
  | nil => rfl
  | cons part rest =>
    rw [conditions, Condition.valuesOf, values_condition resolved part, valuesOf_conditions resolved rest, positionsOf,
      List.flatMap_append]
end

end Outline

theorem Scope.values_tests {schema : Schema} {scope : Scope} {predicates : List Predicate} {conditions : List Condition}
    (paired : List.Forall₂ (scope.Tests schema) predicates conditions) :
    conditions.flatMap Condition.values = predicates.flatMap Predicate.values := by
  induction paired with
  | nil => rfl
  | cons tests others ih =>
    obtain ⟨column, _, rfl⟩ := tests
    rw [List.flatMap_cons, List.flatMap_cons, Test.values_condition, ih]
    rfl

theorem map_getD_range {α : Type} (items : List α) (default : α) :
    (List.range items.length).map (fun position => items.getD position default) = items := by
  refine List.ext_getElem (by simp) fun position _ within => ?_
  simp [List.getD_eq_getElem?_getD, List.getElem?_eq_getElem within]

theorem Query.Follows.values {schema : Schema} {entity : Entity} {specification : Specification}
    {orderings : List (Path × Direction)} {conditions : List Condition} {query : Query}
    (follows : query.Follows schema entity specification orderings conditions) :
    query.filterValues = specification.predicates.flatMap Predicate.values := by
  have width : specification.predicates.length = conditions.length := follows.tests.length_eq
  rw [Query.filterValues, follows.filter, ← Scope.values_tests follows.tests]
  obtain ⟨restriction⟩ := specification
  cases restriction with
  | none =>
    rw [List.length_eq_zero_iff.mp width.symm]
    rfl
  | some restriction =>
    have everyone : (restriction.outline 0).positions = List.range conditions.length := by
      rw [restriction.positions_outline, List.range_eq_range', ← width]
      rfl
    rw [Option.map_some]
    dsimp only
    rw [Outline.values_condition, everyone]
    conv_rhs => rw [← map_getD_range conditions .always]
    rw [List.flatMap_map]

theorem Query.values_in_order {schema : Schema} {specification : Specification} {root : String}
    {orderings : List (Path × Direction)} {start query : Query} (resolved : specification.query schema root = .ok start)
    (ordered : start.orderByAll orderings = .ok query) :
    query.select.params.toList = specification.predicates.flatMap Predicate.values ∧
      query.count.params.toList = specification.predicates.flatMap Predicate.values := by
  obtain ⟨entity, conditions, _, follows⟩ := Query.follows resolved ordered
  rw [query.params_select, query.params_count, follows.values]
  exact ⟨rfl, rfl⟩

theorem Settings.rangePredicates_apart (settings : Settings) (path : Path) {ends : Range Value}
    (closed : ends.isClosed = true) (adjustments : List RangeAdjustment)
    (apart : (settings.adjustedRange path ends adjustments).isJoint = false) :
    let draft := settings.adjustedRange path ends adjustments
    settings.rangePredicates path ends adjustments = [draft.lowSide draft.lowBound, draft.highSide draft.highBound] := by
  intro draft
  rw [settings.rangePredicates_closed path closed]
  exact draft.predicates_apart (settings.adjustedRange_closed path closed adjustments) apart

theorem Composition.filters_in_order (settings : Settings) (steps : List Step) :
    let composer := Step.applyAll { settings } steps
    let built := (Composition.composed settings steps).specification
    let groups := steps.flatMap Step.groups
    built.predicates = (steps.flatMap (Step.accepted settings)).map (Predicate.withDistinct composer.settings.distinct) ++
        groups.flatMap (fun group => group.2.predicates) ∧
      composer.size = (steps.flatMap (Step.accepted settings)).length ∧
      built.size = composer.size + Specification.unitsSize groups ∧
      (∀ path ends adjustments, ends.isClosed = true → (settings.adjustedRange path ends adjustments).isJoint = false →
        let draft := settings.adjustedRange path ends adjustments
        Step.accepted settings (.offer (.between path ends adjustments)) =
          [draft.lowSide draft.lowBound, draft.highSide draft.highBound]) ∧
      ∀ schema root orderings start query, built.query schema root = .ok start →
        start.orderByAll orderings = .ok query →
        query.select.params.toList = built.predicates.flatMap Predicate.values ∧
          query.count.params.toList = built.predicates.flatMap Predicate.values := by
  intro composer built groups
  obtain ⟨accepted, grouped⟩ := Step.applyAll_eq steps { settings }
  rw [List.nil_append] at accepted grouped
  have predicates := composer.predicates_build
  rw [grouped] at predicates
  refine ⟨accepted ▸ predicates, congrArg List.length accepted, ?_, ?_, ?_⟩
  · change composer.build.predicates.length = composer.predicates.length + _
    have sized := Specification.size_ofUnits groups
    rw [Specification.size, Specification.predicates_ofUnits] at sized
    rw [predicates, List.length_append, List.length_map, sized]
  · exact fun path ends adjustments closed apart => settings.rangePredicates_apart path closed adjustments apart
  · exact fun schema root orderings start query resolved ordered => Query.values_in_order resolved ordered

theorem Composition.filters_in_order_books :
    let steps : List Step := [
      .group .or (.composed {} [.offer (.membership ⟨["genres", "name"]⟩ (some [.text "logic", .text "sets"]) [])]),
      .offer (.between ⟨["author", "name"]⟩ ⟨some (.text "A"), some (.text "M")⟩ []),
      .offer (.isNotNull ⟨["author"]⟩ true [])]
    ∃ start query, (Composition.composed {} steps).specification.query books.schema "Book" = .ok start ∧
      start.orderByAll [(⟨["author"]⟩, .ascending)] = .ok query ∧
      query.select.params.toList = [.text "A", .text "M", .text "logic", .text "sets"] := by
  intro steps
  obtain ⟨_, _, _, _, bound⟩ := Composition.filters_in_order {} steps
  have values := (bound books.schema "Book" _ _ _
    (show (Composition.composed {} steps).specification.query books.schema "Book" = .ok _ from rfl)
    (show Query.orderByAll _ [(⟨["author"]⟩, .ascending)] = .ok _ from rfl)).1
  exact ⟨_, _, rfl, rfl, values⟩

end RecordFilter
