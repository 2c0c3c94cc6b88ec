import RecordFilter.Composition
import RecordFilter.Proofs.Filter.Draft
import RecordFilter.Statement

set_option autoImplicit false

namespace RecordFilter

def Offer.isVacuous (minChars : Nat) : Offer → Bool
  | equal _ value _ | notEqual _ value _ | atLeast _ value _ | atMost _ value _ => value.isNone
  | membership _ values _ => values.all List.isEmpty
  | like _ fragment adjustments => fragment.all fun text =>
    isBlankText text || (Text.trimmed text).length < LikeAdjustment.minCharsAfter adjustments minChars
  | between _ ends _ => ends.low.isNone && ends.high.isNone
  | isNull _ active _ | isNotNull _ active _ => !active

def Step.isVacuous (minChars : Nat) : Step → Bool
  | .offer input => input.isVacuous minChars
  | .absentGroup => true
  | .group _ composition => composition.specification.isUnrestricted
  | .append _ | .distinct _ => false

mutual
def Composition.pruned : Composition → Composition
  | .unrestricted => .unrestricted
  | .filter filter => .filter filter
  | .connect left connector right => .connect left.pruned connector right.pruned
  | .negation inner => .negation inner.pruned
  | .repeated repetition count first => .repeated repetition count first.pruned
  | .composed settings steps => .composed settings (Step.prunedAll settings.likeMinChars steps)

def Step.pruned : Step → Step
  | .group connector composition => .group connector composition.pruned
  | .offer offer => .offer offer
  | .append filter => .append filter
  | .distinct flag => .distinct flag
  | .absentGroup => .absentGroup

def Step.prunedAll (minChars : Nat) : List Step → List Step
  | [] => []
  | step :: rest =>
    if step.isVacuous minChars then Step.prunedAll minChars rest else step.pruned :: Step.prunedAll minChars rest
end

theorem Offer.predicates_isEmpty (settings : Settings) (offer : Offer) :
    (offer.predicates settings).isEmpty = offer.isVacuous settings.likeMinChars := by
  cases offer with
  | equal path value adjustments | notEqual path value adjustments => cases value <;> rfl
  | atLeast path value adjustments =>
    rw [predicates, settings.rangePredicates_isEmpty]
    exact Bool.and_true _
  | atMost path value adjustments => exact settings.rangePredicates_isEmpty path ⟨none, value⟩ adjustments
  | membership path values adjustments =>
    cases values with
    | none => rfl
    | some values => cases values <;> rfl
  | like path fragment adjustments =>
    cases fragment with
    | none => rfl
    | some text => exact settings.likePredicates_isEmpty path text adjustments
  | between path ends adjustments => exact settings.rangePredicates_isEmpty path ends adjustments
  | isNull path active adjustments | isNotNull path active adjustments => cases active <;> rfl

theorem Specification.connect_unrestricted (left : Specification) (connector : Connector) {right : Specification}
    (unrestricts : right.isUnrestricted = true) : left.connect connector right = left := by
  obtain ⟨first⟩ := left
  obtain ⟨second⟩ := right
  cases second with
  | none => cases first <;> rfl
  | some second => cases unrestricts

namespace Composer

-- Groups that restrict nothing are kept by a composer, but leave no trace in what it builds.
def trimmed (composer : Composer) : Composer :=
  { composer with groups := composer.groups.filter fun group => !group.2.isUnrestricted }

theorem build_trimmed (composer : Composer) : composer.trimmed.build = composer.build := by
  have folded (groups : List (Connector × Specification)) (start : Specification) :
      ((groups.filter fun group => !group.2.isUnrestricted).map fun group => (group.1, group.2.grouped)).foldl
          (fun folded unit => folded.connect unit.1 unit.2) start =
        (groups.map fun group => (group.1, group.2.grouped)).foldl
          (fun folded unit => folded.connect unit.1 unit.2) start := by
    induction groups generalizing start with
    | nil => rfl
    | cons group rest ih =>
      by_cases unrestricts : group.2.isUnrestricted = true
      · have neutral : group.2.grouped.isUnrestricted = true := by
          simpa [Specification.isUnrestricted, Specification.grouped] using unrestricts
        rw [List.filter_cons_of_neg (by simpa using unrestricts), List.map_cons, List.foldl_cons,
          Specification.connect_unrestricted start group.1 neutral]
        exact ih start
      · rw [List.filter_cons_of_pos (by simpa using unrestricts)]
        exact ih _
  rw [build, build, Specification.ofUnits, Specification.ofUnits, List.foldl_append, List.foldl_append]
  exact folded composer.groups _

end Composer

namespace Step

theorem apply_vacuous (step : Step) (composer : Composer)
    (vacuous : step.isVacuous composer.settings.likeMinChars = true) :
    (step.apply composer).trimmed = composer.trimmed := by
  cases step with
  | offer offer =>
    rw [isVacuous, ← offer.predicates_isEmpty composer.settings, List.isEmpty_iff] at vacuous
    rw [apply, Composer.accept, vacuous, Composer.append, List.append_nil]
  | absentGroup => rfl
  | group connector composition =>
    rw [isVacuous] at vacuous
    simp [apply, Composer.addGroup, Composer.trimmed, vacuous]
  | append filter => cases vacuous
  | distinct flag => cases vacuous

theorem apply_trimmed (step : Step) {composer other : Composer} (same : composer.trimmed = other.trimmed) :
    (step.apply composer).trimmed = (step.apply other).trimmed := by
  obtain ⟨settings, predicates, groups⟩ := composer
  obtain ⟨otherSettings, otherPredicates, otherGroups⟩ := other
  simp only [Composer.trimmed, Composer.mk.injEq] at same
  obtain ⟨rfl, rfl, sameGroups⟩ := same
  cases step with
  | group connector composition =>
    simp only [apply, Composer.addGroup, Composer.trimmed, List.filter_append, sameGroups]
  | _ => simp only [apply, Composer.accept, Composer.append, Composer.setDistinct, Composer.trimmed, sameGroups]

theorem apply_minChars (step : Step) (composer : Composer) :
    (step.apply composer).settings.likeMinChars = composer.settings.likeMinChars := by
  cases step <;> rfl

end Step

mutual
theorem Composition.specification_pruned (composition : Composition) :
    composition.pruned.specification = composition.specification := by
  cases composition with
  | unrestricted => rfl
  | filter filter => rfl
  | connect left connector right =>
    simp only [Composition.pruned, Composition.specification, left.specification_pruned, right.specification_pruned]
  | negation inner => exact congrArg Specification.negated inner.specification_pruned
  | repeated repetition count first =>
    exact congrArg (fun start => repetition.rounds start count) first.specification_pruned
  | composed settings steps =>
    have sameGroups := Step.applyAll_pruned steps (rfl : (Composer.trimmed { settings }) = Composer.trimmed { settings })
    rw [Composition.pruned, Composition.specification, ← Composer.build_trimmed, sameGroups, Composer.build_trimmed]
    rfl

theorem Step.apply_pruned (step : Step) (composer : Composer) : step.pruned.apply composer = step.apply composer := by
  cases step with
  | group connector composition => rw [Step.pruned, Step.apply, Step.apply, composition.specification_pruned]
  | _ => rfl

theorem Step.applyAll_pruned (steps : List Step) {composer other : Composer} (same : composer.trimmed = other.trimmed) :
    (Step.applyAll composer (Step.prunedAll other.settings.likeMinChars steps)).trimmed =
      (Step.applyAll other steps).trimmed := by
  cases steps with
  | nil => exact same
  | cons step rest =>
    have onward {reached : Composer} (stays : reached.trimmed = (step.apply other).trimmed) :=
      Step.applyAll_pruned rest stays
    rw [step.apply_minChars] at onward
    by_cases vacuous : step.isVacuous other.settings.likeMinChars = true
    · rw [Step.prunedAll, if_pos vacuous, Step.applyAll]
      exact onward (same.trans (step.apply_vacuous other vacuous).symm)
    · rw [Step.prunedAll, if_neg vacuous, Step.applyAll, Step.applyAll, step.apply_pruned]
      exact onward (step.apply_trimmed same)
end

mutual
def Composition.isPruned : Composition → Bool
  | .unrestricted | .filter _ => true
  | .connect left _ right => left.isPruned && right.isPruned
  | .negation inner => inner.isPruned
  | .repeated _ _ first => first.isPruned
  | .composed settings steps => Step.allPruned settings.likeMinChars steps

def Step.isPruned (minChars : Nat) : Step → Bool
  | .group connector composition => !(Step.group connector composition).isVacuous minChars && composition.isPruned
  | step => !step.isVacuous minChars

def Step.allPruned (minChars : Nat) : List Step → Bool
  | [] => true
  | step :: rest => step.isPruned minChars && Step.allPruned minChars rest
end

mutual
theorem Composition.isPruned_pruned (composition : Composition) : composition.pruned.isPruned = true := by
  cases composition with
  | unrestricted => rfl
  | filter filter => rfl
  | connect left connector right =>
    rw [Composition.pruned, Composition.isPruned, left.isPruned_pruned, right.isPruned_pruned, Bool.and_self]
  | negation inner => exact inner.isPruned_pruned
  | repeated repetition count first => exact first.isPruned_pruned
  | composed settings steps => exact Step.allPruned_prunedAll settings.likeMinChars steps

theorem Step.isPruned_pruned (minChars : Nat) (step : Step) (needed : step.isVacuous minChars = false) :
    step.pruned.isPruned minChars = true := by
  cases step with
  | group connector composition =>
    rw [Step.isVacuous] at needed
    rw [Step.pruned, Step.isPruned, Step.isVacuous, composition.specification_pruned, needed,
      composition.isPruned_pruned, Bool.not_false, Bool.and_self]
  | _ => exact congrArg not needed

theorem Step.allPruned_prunedAll (minChars : Nat) (steps : List Step) :
    Step.allPruned minChars (Step.prunedAll minChars steps) = true := by
  cases steps with
  | nil => rfl
  | cons step rest =>
    by_cases vacuous : step.isVacuous minChars = true
    · rw [Step.prunedAll, if_pos vacuous]
      exact Step.allPruned_prunedAll minChars rest
    · rw [Step.prunedAll, if_neg vacuous, Step.allPruned, step.isPruned_pruned minChars (Bool.eq_false_iff.mpr vacuous),
        Step.allPruned_prunedAll minChars rest, Bool.and_self]
end

structure Appearance where
  select : Statement
  count : Statement
  distinct : Bool
  joinCount : Nat

def Query.appearance (query : Query) : Appearance := ⟨query.select, query.count, query.isDistinct, query.joinCount⟩

def Composition.appearance (composition : Composition) (schema : Schema) (root : String)
    (orderings : List (Path × Direction)) : Except Error Appearance := do
  let start ← composition.specification.query schema root
  return (← start.orderByAll orderings).appearance

theorem Composition.vacuous_steps_omitted (composition : Composition) :
    composition.pruned.specification = composition.specification ∧ composition.pruned.isPruned = true ∧
      ∀ schema root orderings,
        composition.pruned.appearance schema root orderings = composition.appearance schema root orderings := by
  refine ⟨composition.specification_pruned, composition.isPruned_pruned, fun schema root orderings => ?_⟩
  rw [appearance, appearance, composition.specification_pruned]

example : (Composition.composed {} [
    .offer (.like ⟨["title"]⟩ (some "  Lean ") [.minChars 5]),
    .offer (.equal ⟨["title"]⟩ (some (.text "Lean")) []),
    .group .or (.composed {} [.offer (.equal ⟨[]⟩ none [.negate])])]).pruned =
    .composed {} [.offer (.equal ⟨["title"]⟩ (some (.text "Lean")) [])] := by rfl

end RecordFilter
