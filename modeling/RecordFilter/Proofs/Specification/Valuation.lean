import RecordFilter.Composer
import RecordFilter.Proofs.Specification.Truth

set_option autoImplicit false

namespace RecordFilter

-- How a predicate is tested does not depend on its connector. The tests of one collection may look at different rows.
def Predicate.truth (column : Path → Test → Column) (atom : Condition → Truth) (predicate : Predicate) : Truth :=
  (predicate.test.condition (column predicate.options.path predicate.test) predicate.options.negated).truth atom

namespace Specification

theorem predicates_connect (left : Specification) (connector : Connector) (right : Specification) :
    (left.connect connector right).predicates = left.predicates ++ right.predicates := by
  obtain ⟨first⟩ := left
  obtain ⟨second⟩ := right
  cases first with
  | none => rfl
  | some first =>
    cases second with
    | none => exact (List.append_nil _).symm
    | some second => exact Restriction.predicates_connect first connector second

theorem predicates_ofUnits (units : List (Connector × Specification)) :
    (ofUnits units).predicates = units.flatMap fun unit => unit.2.predicates := by
  have further (left : Specification) :
      (units.foldl (fun folded unit => folded.connect unit.1 unit.2) left).predicates =
        left.predicates ++ units.flatMap fun unit => unit.2.predicates := by
    induction units generalizing left with
    | nil => exact (List.append_nil _).symm
    | cons unit rest ih => rw [List.foldl_cons, ih, predicates_connect, List.flatMap_cons, List.append_assoc]
  exact further unrestricted

theorem predicates_negated (specification : Specification) : specification.negated.predicates = specification.predicates := by
  obtain ⟨restriction⟩ := specification
  cases restriction <;> rfl

theorem predicates_grouped (specification : Specification) : specification.grouped.predicates = specification.predicates := by
  obtain ⟨restriction⟩ := specification
  cases restriction <;> rfl

def truthAt (value : Predicate → Truth) (specification : Specification) : Option Truth :=
  specification.truth (fun position => (specification.predicates[position]?).elim .unknown value) 0

theorem unitTruths_singles (value : Predicate → Truth) (connector : Predicate → Connector)
    (change : Predicate → Predicate) (position : Nat → Truth) (singles : List Predicate) (start : Nat)
    (agree : ∀ offset single, singles[offset]? = some single → position (start + offset) = value (change single)) :
    unitTruths position start (singles.map fun single => (connector single, ofPredicate (change single))) =
      singles.map fun single => (connector single, some (value (change single))) := by
  induction singles generalizing start with
  | nil => rfl
  | cons single rest ih =>
    have first : (ofPredicate (change single)).truth position start = some (value (change single)) :=
      congrArg some (agree 0 single rfl)
    rw [List.map_cons, unitTruths, first, List.map_cons]
    refine congrArg _ (ih (start + 1) fun offset later found => ?_)
    rw [Nat.add_right_comm]
    exact agree (offset + 1) later found

theorem predicates_ofPredicates (predicates : List Predicate) : (ofPredicates predicates).predicates = predicates := by
  rw [ofPredicates, predicates_ofUnits, List.flatMap_map]
  exact List.flatMap_singleton' predicates

theorem truthAt_ofPredicates (value : Predicate → Truth) (predicates : List Predicate) :
    (ofPredicates predicates).truthAt value = folded (predicates.map fun predicate => (.and, some (value predicate))) := by
  rw [truthAt, predicates_ofPredicates, ofPredicates, truth_ofUnits]
  refine congrArg folded (unitTruths_singles value (fun _ => .and) id _ predicates 0 fun offset single found => ?_)
  rw [Nat.zero_add, found]
  rfl

end Specification

namespace Composer

theorem predicates_build (composer : Composer) :
    composer.build.predicates = composer.predicates.map (Predicate.withDistinct composer.settings.distinct) ++
      composer.groups.flatMap fun group => group.2.predicates := by
  have singles : composer.predicateUnits.flatMap (fun unit => unit.2.predicates) =
      composer.predicates.map (Predicate.withDistinct composer.settings.distinct) := by
    rw [predicateUnits, List.flatMap_map]
    exact List.map_eq_flatMap.symm
  rw [build, Specification.predicates_ofUnits, List.flatMap_append, singles, groupUnits, List.flatMap_map]
  simp only [Specification.predicates_grouped]

theorem truthAt_build (composer : Composer) (ungrouped : composer.groups = []) (value : Predicate → Truth) :
    composer.build.truthAt value = folded (composer.predicates.map fun predicate =>
      (predicate.options.connector, some (value (predicate.withDistinct composer.settings.distinct)))) := by
  have positions := composer.predicates_build
  rw [ungrouped, List.flatMap_nil, List.append_nil] at positions
  rw [Specification.truthAt, positions, build, groupUnits, ungrouped, List.map_nil, List.append_nil,
    Specification.truth_ofUnits, predicateUnits]
  refine congrArg folded (Specification.unitTruths_singles value _ _ _ composer.predicates 0 fun offset single found => ?_)
  rw [Nat.zero_add, List.getElem?_map, found]
  rfl

theorem truthAt_accept (composer : Composer) (ungrouped : composer.groups = []) (offer : Offer)
    (value : Predicate → Truth) :
    (composer.accept offer).build.truthAt value = (offer.predicates composer.settings).foldl
      (fun truth predicate => Option.merge predicate.options.connector.truth truth
        (some (value (predicate.withDistinct composer.settings.distinct)))) (composer.build.truthAt value) := by
  have after := (composer.accept offer).truthAt_build ungrouped value
  rw [after, truthAt_build composer ungrouped, accept, append, List.map_append, folded, List.foldl_append, List.foldl_map]
  rfl

end Composer

end RecordFilter
