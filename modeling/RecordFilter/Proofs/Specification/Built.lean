import RecordFilter.Composition
import RecordFilter.Proofs.Filter.Draft
import RecordFilter.Proofs.Specification.Outline

set_option autoImplicit false

namespace RecordFilter

structure Predicate.Built (predicate : Predicate) : Prop where
  nullJoin : predicate.test = .null → predicate.options.join = .left
  someValues : ∀ values, predicate.test = .membership values → values ≠ []

mutual
def Restriction.Built : Restriction → Prop
  | .predicate single => single.Built
  | .all parts | .any parts => parts ≠ [] ∧ Restriction.BuiltParts parts
  | .negation inner | .group inner => inner.Built

def Restriction.BuiltParts : List Restriction → Prop
  | [] => True
  | part :: rest => part.Built ∧ Restriction.BuiltParts rest
end

def Specification.Built (specification : Specification) : Prop :=
  ∀ restriction ∈ specification.restriction, restriction.Built

structure Composer.Built (composer : Composer) : Prop where
  predicates : ∀ predicate ∈ composer.predicates, predicate.Built
  groups : ∀ group ∈ composer.groups, group.2.Built

namespace Restriction

theorem builtParts_concat (parts : List Restriction) (last : Restriction) (built : BuiltParts parts)
    (builtLast : last.Built) : BuiltParts (parts ++ [last]) := by
  induction parts with
  | nil => exact ⟨builtLast, trivial⟩
  | cons part rest ih => exact ⟨built.1, ih built.2⟩

theorem built_list {connector : Connector} {parts : List Restriction} :
    (list connector parts).Built ↔ parts ≠ [] ∧ BuiltParts parts := by
  cases connector <;> exact Iff.rfl

theorem connect_built (left : Restriction) (connector : Connector) (right : Restriction) (builtLeft : left.Built)
    (builtRight : right.Built) : (left.connect connector right).Built := by
  obtain ⟨parts, rfl, flat⟩ | ⟨-, pair⟩ := left.connect_cases connector right
  · rw [flat, built_list]
    exact ⟨by simp, builtParts_concat parts right (built_list.mp builtLeft).2 builtRight⟩
  · rw [pair, built_list]
    exact ⟨by simp, builtLeft, builtRight, trivial⟩

mutual
theorem predicates_built (restriction : Restriction) (built : restriction.Built) :
    ∀ predicate ∈ restriction.predicates, predicate.Built := by
  cases restriction with
  | predicate single =>
    intro predicate member
    rw [List.mem_singleton.mp member]
    exact built
  | all parts | any parts => exact predicatesOf_built parts built.2
  | negation inner | group inner => exact predicates_built inner built

theorem predicatesOf_built (parts : List Restriction) (built : BuiltParts parts) :
    ∀ predicate ∈ predicatesOf parts, predicate.Built := by
  cases parts with
  | nil => exact fun _ member => absurd member List.not_mem_nil
  | cons part rest =>
    intro predicate member
    rcases List.mem_append.mp member with here | there
    · exact predicates_built part built.1 predicate here
    · exact predicatesOf_built rest built.2 predicate there
end

mutual
theorem predicates_ne_nil (restriction : Restriction) (built : restriction.Built) : restriction.predicates ≠ [] := by
  cases restriction with
  | predicate single => exact List.cons_ne_nil _ _
  | all parts | any parts => exact predicatesOf_ne_nil parts built.1 built.2
  | negation inner | group inner => exact predicates_ne_nil inner built

theorem predicatesOf_ne_nil (parts : List Restriction) (some : parts ≠ []) (built : BuiltParts parts) :
    predicatesOf parts ≠ [] := by
  cases parts with
  | nil => exact absurd rfl some
  | cons part rest => exact List.append_ne_nil_of_left_ne_nil (predicates_ne_nil part built.1) _
end

end Restriction

namespace Specification

theorem Built.predicates {specification : Specification} (built : specification.Built) :
    ∀ predicate ∈ specification.predicates, predicate.Built := by
  obtain ⟨restriction⟩ := specification
  cases restriction with
  | none => exact fun _ member => absurd member List.not_mem_nil
  | some restriction => exact restriction.predicates_built (built restriction rfl)

theorem Built.predicates_eq_nil {specification : Specification} (built : specification.Built) :
    specification.predicates = [] ↔ specification.isUnrestricted = true := by
  obtain ⟨restriction⟩ := specification
  cases restriction with
  | none => exact ⟨fun _ => rfl, fun _ => rfl⟩
  | some restriction =>
    exact ⟨fun none => absurd none (restriction.predicates_ne_nil (built restriction rfl)), fun unrestricts => nomatch unrestricts⟩

theorem unrestricted_built : unrestricted.Built := by
  intro restriction member
  cases member

theorem ofPredicate_built {predicate : Predicate} (built : predicate.Built) : (ofPredicate predicate).Built := by
  intro restriction member
  cases member
  exact built

theorem connect_built {left right : Specification} (connector : Connector) (builtLeft : left.Built)
    (builtRight : right.Built) : (left.connect connector right).Built := by
  obtain ⟨first⟩ := left
  obtain ⟨second⟩ := right
  cases first with
  | none => exact builtRight
  | some first =>
    cases second with
    | none => exact builtLeft
    | some second =>
      intro restriction member
      cases member
      exact first.connect_built connector second (builtLeft first rfl) (builtRight second rfl)

theorem negated_built {specification : Specification} (built : specification.Built) : specification.negated.Built := by
  intro restriction member
  obtain ⟨inner, held, rfl⟩ := Option.map_eq_some_iff.mp member
  exact built inner held

theorem grouped_built {specification : Specification} (built : specification.Built) : specification.grouped.Built := by
  intro restriction member
  obtain ⟨inner, held, rfl⟩ := Option.map_eq_some_iff.mp member
  exact built inner held

theorem ofUnits_built {units : List (Connector × Specification)} (built : ∀ unit ∈ units, unit.2.Built) :
    (ofUnits units).Built := by
  have folded : ∀ start : Specification, start.Built →
      (units.foldl (fun folded unit => folded.connect unit.1 unit.2) start).Built := by
    induction units with
    | nil => exact fun start builtStart => builtStart
    | cons unit rest ih =>
      intro start builtStart
      rw [List.forall_mem_cons] at built
      exact ih built.2 _ (connect_built unit.1 builtStart built.1)
  exact folded unrestricted unrestricted_built

theorem singles_built {predicates : List Predicate} (built : ∀ predicate ∈ predicates, predicate.Built) :
    ∀ unit ∈ predicates.map fun predicate => (Connector.and, ofPredicate predicate), unit.2.Built := by
  intro unit member
  obtain ⟨predicate, held, rfl⟩ := List.mem_map.mp member
  exact ofPredicate_built (built predicate held)

theorem ofPredicates_built {predicates : List Predicate} (built : ∀ predicate ∈ predicates, predicate.Built) :
    (ofPredicates predicates).Built := ofUnits_built (singles_built built)

end Specification

theorem Predicate.Drafted.built {predicate : Predicate} (drafted : predicate.Drafted) : predicate.Built := by
  cases drafted with
  | membership options values someValues =>
    refine ⟨nofun, fun others isMembership => ?_⟩
    cases isMembership
    exact someValues
  | null options => exact ⟨fun _ => rfl, nofun⟩
  | _ => exact ⟨nofun, nofun⟩

theorem Filter.predicates_built (filter : Filter) : ∀ predicate ∈ filter.predicates, predicate.Built :=
  fun predicate member => (filter.predicates_drafted predicate member).built

theorem Offer.predicates_built (settings : Settings) (offer : Offer) :
    ∀ predicate ∈ offer.predicates settings, predicate.Built :=
  fun predicate member => (offer.predicates_drafted settings predicate member).built

namespace Composer

theorem Built.append {composer : Composer} (built : composer.Built) {predicates : List Predicate}
    (more : ∀ predicate ∈ predicates, predicate.Built) : (composer.append predicates).Built := by
  refine ⟨fun predicate member => ?_, built.groups⟩
  rcases List.mem_append.mp member with old | fresh
  · exact built.predicates predicate old
  · exact more predicate fresh

theorem Built.addGroup {composer : Composer} (built : composer.Built) (connector : Connector) {group : Specification}
    (builtGroup : group.Built) : (composer.addGroup connector (some group)).Built := by
  refine ⟨built.predicates, fun unit member => ?_⟩
  rcases List.mem_append.mp member with old | fresh
  · exact built.groups unit old
  · rw [List.mem_singleton.mp fresh]
    exact builtGroup

theorem Built.units {composer : Composer} (built : composer.Built) :
    ∀ unit ∈ composer.predicateUnits ++ composer.groupUnits, unit.2.Built := by
  intro unit member
  rcases List.mem_append.mp member with single | group
  · obtain ⟨predicate, held, rfl⟩ := List.mem_map.mp single
    have old := built.predicates predicate held
    exact Specification.ofPredicate_built ⟨old.nullJoin, old.someValues⟩
  · obtain ⟨unit, held, rfl⟩ := List.mem_map.mp group
    exact Specification.grouped_built (built.groups unit held)

theorem Built.build {composer : Composer} (built : composer.Built) : composer.build.Built :=
  Specification.ofUnits_built built.units

theorem built_start (settings : Settings) : Built { settings } :=
  ⟨fun _ member => absurd member List.not_mem_nil, fun _ member => absurd member List.not_mem_nil⟩

end Composer

theorem Repetition.rounds_built (repetition : Repetition) {first : Specification} (built : first.Built) (count : Nat) :
    (repetition.rounds first count).Built := by
  induction count with
  | zero => exact built
  | succ count ih =>
    cases repetition with
    | negate => exact Specification.negated_built ih
    | group => exact ((Composer.built_start {}).addGroup .and ih).build
    | extend connector => exact Specification.connect_built connector ih built
    | precede connector => exact Specification.connect_built connector built ih

mutual
theorem Composition.specification_built (composition : Composition) : composition.specification.Built := by
  cases composition with
  | unrestricted => exact Specification.unrestricted_built
  | filter filter => exact Specification.ofPredicates_built filter.predicates_built
  | connect left connector right =>
    exact Specification.connect_built connector left.specification_built right.specification_built
  | negation inner => exact Specification.negated_built inner.specification_built
  | repeated repetition count first => exact repetition.rounds_built first.specification_built count
  | composed settings steps => exact (Step.applyAll_built steps (Composer.built_start settings)).build

theorem Step.apply_built (step : Step) {composer : Composer} (built : composer.Built) :
    (step.apply composer).Built := by
  cases step with
  | offer offer => exact built.append (offer.predicates_built composer.settings)
  | append filter => exact built.append filter.predicates_built
  | distinct flag => exact ⟨built.predicates, built.groups⟩
  | absentGroup => exact built
  | group connector composition => exact built.addGroup connector composition.specification_built

theorem Step.applyAll_built (steps : List Step) {composer : Composer} (built : composer.Built) :
    (Step.applyAll composer steps).Built := by
  cases steps with
  | nil => exact built
  | cons step rest => exact Step.applyAll_built rest (Step.apply_built step built)
end

end RecordFilter
