import RecordFilter.Proofs.Specification.Alike

set_option autoImplicit false

namespace RecordFilter

theorem Test.alike_self (test : Test) : test.Alike Eq test := by
  have same (end? : Option Value) : Option.Rel Eq end? end? := by
    cases end? with
    | none => exact .none
    | some value => exact .some rfl
  cases test with
  | equal value => exact .equal value value rfl
  | membership values => exact .membership values values (List.forall₂_same.mpr fun _ _ => rfl)
  | like fragment ignoreCase wildcard => exact .like fragment fragment ignoreCase wildcard rfl
  | null => exact .null
  | range ends form => exact .range ends ends form ⟨same ends.low, same ends.high⟩

theorem Predicate.alike_self (predicates : List Predicate) : List.Forall₂ (Predicate.Alike Eq) predicates predicates :=
  List.forall₂_same.mpr fun predicate _ => ⟨rfl, predicate.test.alike_self⟩

namespace Specification

theorem alike_self (specification : Specification) : specification.Alike Eq specification :=
  ⟨rfl, Predicate.alike_self specification.predicates⟩

theorem alike_regrouped {first second : Specification} (connector : Connector) (third : Specification)
    (built : first.Built) (secondBuilt : second.Built) :
    ((first.connect connector second).connect connector third).Alike Eq
      (first.connect connector (second.connect connector third)) := by
  constructor
  · rw [reading_connect (connect_built connector built secondBuilt), reading_connect built, reading_connect built,
      reading_connect secondBuilt]
    cases first.reading <;> cases second.reading <;> cases third.reading <;> simp [Reading.connect_assoc]
  · rw [predicates_connect, predicates_connect, predicates_connect, predicates_connect, List.append_assoc]
    exact Predicate.alike_self _

end Specification

inductive Surrounding where
  | here
  | left (outer : Surrounding) (connector : Connector) (beside : Composition)
  | right (beside : Composition) (connector : Connector) (outer : Surrounding)
  | negation (outer : Surrounding)
  | repeated (repetition : Repetition) (count : Nat) (outer : Surrounding)
  | group (settings : Settings) (before : List Step) (connector : Connector) (outer : Surrounding) (after : List Step)

def Surrounding.fill (inner : Composition) : Surrounding → Composition
  | here => inner
  | left outer connector beside => .connect (outer.fill inner) connector beside
  | right beside connector outer => .connect beside connector (outer.fill inner)
  | negation outer => .negation (outer.fill inner)
  | repeated repetition count outer => .repeated repetition count (outer.fill inner)
  | group settings before connector outer after =>
    .composed settings (before ++ .group connector (outer.fill inner) :: after)

theorem Step.apply_alike (step : Step) {composer other : Composer} (alike : composer.Alike Eq other) :
    (step.apply composer).Alike Eq (step.apply other) := by
  cases step with
  | offer offer =>
    have same : other.settings = composer.settings := alike.settings.symm
    simp only [Step.apply, Composer.accept, same]
    exact alike.append (Predicate.alike_self _)
  | append filter => exact alike.append (Predicate.alike_self _)
  | distinct flag => exact alike.setDistinct flag
  | absentGroup => exact alike
  | group connector composition => exact alike.addGroup connector composition.specification.alike_self

theorem Step.applyAll_alike (steps : List Step) {composer other : Composer} (alike : composer.Alike Eq other) :
    (Step.applyAll composer steps).Alike Eq (Step.applyAll other steps) := by
  induction steps generalizing composer other with
  | nil => exact alike
  | cons step rest ih => exact ih (step.apply_alike alike)

theorem Step.applyAll_append (first second : List Step) (composer : Composer) :
    Step.applyAll composer (first ++ second) = Step.applyAll (Step.applyAll composer first) second := by
  induction first generalizing composer with
  | nil => rfl
  | cons step rest ih => exact ih (step.apply composer)

theorem Surrounding.fill_alike (surrounding : Surrounding) {inner other : Composition}
    (alike : inner.specification.Alike Eq other.specification) :
    (surrounding.fill inner).specification.Alike Eq (surrounding.fill other).specification := by
  induction surrounding with
  | here => exact alike
  | left outer connector beside ih =>
    exact ih.connect connector beside.specification.alike_self (outer.fill inner).specification_built
      (outer.fill other).specification_built
  | right beside connector outer ih =>
    exact beside.specification.alike_self.connect connector ih beside.specification_built beside.specification_built
  | negation outer ih => exact ih.negated
  | repeated repetition count outer ih =>
    exact repetition.alike_rounds ih (outer.fill inner).specification_built (outer.fill other).specification_built count
  | group settings before connector outer after ih =>
    have composers : (Step.applyAll { settings } (before ++ .group connector (outer.fill inner) :: after)).Alike Eq
        (Step.applyAll { settings } (before ++ .group connector (outer.fill other) :: after)) := by
      rw [Step.applyAll_append, Step.applyAll_append]
      exact Step.applyAll_alike after ((Step.applyAll_alike before (Composer.alike_start settings)).addGroup connector ih)
    exact composers.build (Step.applyAll_built _ (Composer.built_start settings))
      (Step.applyAll_built _ (Composer.built_start settings))

theorem Statement.eq_of_values {statement other : Statement} (text : statement.text = other.text)
    (values : statement.params.toList = other.params.toList) : statement = other := by
  obtain ⟨_, ⟨params⟩⟩ := statement
  obtain ⟨_, ⟨otherParams⟩⟩ := other
  cases text
  cases Array.toList_inj.mp values
  rfl

theorem Appearance.Alike.eq {seen other : Appearance} (alike : seen.Alike Eq other) : seen = other := by
  obtain ⟨⟨selectText, countText, distinct, joinCount⟩, selectValues, countValues⟩ := alike
  rw [List.forall₂_eq_eq_eq] at selectValues countValues
  obtain ⟨select, count, _, _⟩ := seen
  obtain ⟨otherSelect, otherCount, _, _⟩ := other
  cases Statement.eq_of_values selectText selectValues
  cases Statement.eq_of_values countText countValues
  cases distinct
  cases joinCount
  rfl

theorem Composition.appearance_eq_of_alike {composition other : Composition}
    (alike : composition.specification.Alike Eq other.specification) (schema : Schema) (root : String)
    (orderings : List (Path × Direction)) :
    composition.appearance schema root orderings = other.appearance schema root orderings :=
  (appearance_alike alike).eq fun _ _ seen => seen.eq

/-- Wherever they stand, compositions can be regrouped under a connector, and what restricts nothing can be left out
beside it: the statements are the same, or the error is. -/
theorem Composition.regrouped (surrounding : Surrounding) (connector : Connector) (first second third : Composition)
    (schema : Schema) (root : String) (orderings : List (Path × Direction)) :
    let seen (inner : Composition) := (surrounding.fill inner).appearance schema root orderings
    seen (.connect (.connect first connector second) connector third) =
        seen (.connect first connector (.connect second connector third)) ∧
      seen (.connect .unrestricted connector first) = seen first ∧
      seen (.connect first connector .unrestricted) = seen first := by
  have regrouped : (Composition.connect (.connect first connector second) connector third).specification.Alike Eq
      (Composition.connect first connector (.connect second connector third)).specification :=
    Specification.alike_regrouped connector third.specification first.specification_built second.specification_built
  have before : Composition.specification (.connect .unrestricted connector first) = first.specification := rfl
  have after : Composition.specification (.connect first connector .unrestricted) = first.specification :=
    first.specification.connect_unrestricted connector rfl
  refine ⟨?_, ?_, ?_⟩
  · exact appearance_eq_of_alike (surrounding.fill_alike regrouped) schema root orderings
  · exact appearance_eq_of_alike (surrounding.fill_alike (before ▸ first.specification.alike_self)) schema root orderings
  · exact appearance_eq_of_alike (surrounding.fill_alike (after ▸ first.specification.alike_self)) schema root orderings

end RecordFilter
