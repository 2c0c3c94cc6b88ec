import RecordFilter.Proofs.Specification.Built
import RecordFilter.Proofs.Specification.Meaning
import RecordFilter.Proofs.Specification.Valuation

set_option autoImplicit false

namespace RecordFilter

namespace Scope

def Event.flag? : Event → Option Bool
  | distinct flag => some flag
  | cross _ _ _ | collect _ _ => none

variable {schema : Schema} {scope after : Scope}

theorem Step.distinct_eq {event : Event} (taken : Step schema scope event after) :
    after.distinct = event.flag?.getD scope.distinct := by
  cases taken with
  | share join crossed kind fetch found => cases fetch <;> rfl
  | _ => rfl

theorem Run.distinct_eq {history : List Event} (run : Run schema scope history after) :
    after.distinct = (history.filterMap Event.flag?).getLastD scope.distinct := by
  induction run with
  | done scope => rfl
  | step scope event between rest after taken onward ih =>
    rw [ih, taken.distinct_eq]
    cases event with
    | distinct flag => exact (List.getLastD_cons ..).symm
    | cross | collect => rfl

end Scope

theorem Schema.events_flags (schema : Schema) (kind : JoinKind) (fetch : Bool) (entity : String)
    (crossed segments : List String) :
    (schema.events kind fetch entity crossed segments).filterMap Scope.Event.flag? = [] := by
  induction segments generalizing entity crossed with
  | nil => rfl
  | cons field rest ih =>
    rw [events]
    split
    · exact ih _ _
    · split <;> rfl

def Predicate.isDistinct (predicate : Predicate) : Bool := predicate.options.distinct

theorem Query.Follows.isDistinct_eq {schema : Schema} {entity : Entity} {specification : Specification}
    {orderings : List (Path × Direction)} {conditions : List Condition} {query : Query}
    (follows : query.Follows schema entity specification orderings conditions) :
    query.isDistinct = (specification.predicates.map Predicate.isDistinct).getLastD false := by
  have predicates (predicate : Predicate) :
      (predicate.events schema entity.name).filterMap Scope.Event.flag? = [predicate.isDistinct] :=
    congrArg (predicate.isDistinct :: ·) (schema.events_flags ..)
  have silent : (orderings.flatMap fun ordering => ((Request.ofOrdering ordering).events schema entity.name).filterMap
      Scope.Event.flag?) = [] :=
    List.flatMap_eq_nil_iff.mpr fun _ _ => schema.events_flags ..
  have last := follows.run.distinct_eq
  simp only [List.filterMap_append, List.filterMap_flatMap, predicates, silent, List.append_nil] at last
  rw [Query.isDistinct, last, List.map_eq_flatMap]

def Step.word? : Step → Option Bool
  | .distinct flag => some flag
  | _ => none

def Settings.lastWord (settings : Settings) (steps : List Step) : Bool :=
  (steps.filterMap Step.word?).getLastD settings.distinct

def Repetition.words (first : List Bool) (count : Nat) : Repetition → List Bool
  | negate | group => first
  | extend _ | precede _ => (List.replicate (count + 1) first).flatten

mutual
def Composition.words : Composition → List Bool
  | .unrestricted => []
  | .filter filter => filter.predicates.map fun _ => true
  | .connect left _ right => left.words ++ right.words
  | .negation inner => inner.words
  | .repeated repetition count first => repetition.words first.words count
  | .composed settings steps =>
    ((steps.flatMap (Step.accepted settings)).map fun _ => settings.lastWord steps) ++ Step.groupWords steps

def Step.groupWord : Step → List Bool
  | .group _ composition => composition.words
  | _ => []

def Step.groupWords : List Step → List Bool
  | [] => []
  | step :: rest => step.groupWord ++ Step.groupWords rest
end

theorem Step.applyAll_distinct (steps : List Step) (composer : Composer) :
    (applyAll composer steps).settings.distinct = (steps.filterMap word?).getLastD composer.settings.distinct := by
  induction steps generalizing composer with
  | nil => rfl
  | cons step rest ih =>
    rw [applyAll, ih]
    cases step with
    | distinct flag => exact (List.getLastD_cons ..).symm
    | _ => rfl

theorem Repetition.words_rounds (repetition : Repetition) (first : Specification) (count : Nat) :
    (repetition.rounds first count).predicates.map Predicate.isDistinct =
      repetition.words (first.predicates.map Predicate.isDistinct) count := by
  induction count with
  | zero => cases repetition <;> simp [rounds, words]
  | succ count ih =>
    rw [rounds]
    cases repetition with
    | negate =>
      rw [round, Specification.predicates_negated, ih]
      rfl
    | group =>
      rw [round, Composer.predicates_build]
      simpa [Composer.addGroup, words] using ih
    | extend connector =>
      rw [round, Specification.predicates_connect, List.map_append, ih, words, words, List.replicate_succ' (n := count + 1),
        List.flatten_concat]
    | precede connector =>
      rw [round, Specification.predicates_connect, List.map_append, ih, words, words, List.replicate_succ (n := count + 1),
        List.flatten_cons]

mutual
theorem Composition.words_specification (composition : Composition) :
    composition.specification.predicates.map Predicate.isDistinct = composition.words := by
  cases composition with
  | unrestricted => rfl
  | filter filter =>
    rw [Composition.specification, Specification.predicates_ofPredicates, Composition.words]
    exact List.map_congr_left fun predicate member => filter.distinct_predicates predicate member
  | connect left connector right =>
    rw [Composition.specification, Specification.predicates_connect, List.map_append, left.words_specification,
      right.words_specification, Composition.words]
  | negation inner =>
    rw [Composition.specification, Specification.predicates_negated]
    exact inner.words_specification
  | repeated repetition count first =>
    rw [Composition.specification, repetition.words_rounds, first.words_specification, Composition.words]
  | composed settings steps =>
    obtain ⟨accepted, groups⟩ := Step.applyAll_eq steps { settings }
    rw [List.nil_append] at accepted groups
    rw [Composition.specification, Composer.predicates_build, List.map_append, accepted, groups,
      Step.applyAll_distinct, Composition.words, ← Step.groupWords_specifications steps, List.map_map]
    rfl

theorem Step.groupWord_specifications (step : Step) :
    (step.groups.flatMap fun group => group.2.predicates).map Predicate.isDistinct = step.groupWord := by
  cases step with
  | group connector composition =>
    rw [Step.groups, List.flatMap_singleton]
    exact composition.words_specification
  | _ => rfl

theorem Step.groupWords_specifications (steps : List Step) :
    ((steps.flatMap Step.groups).flatMap fun group => group.2.predicates).map Predicate.isDistinct =
      Step.groupWords steps := by
  cases steps with
  | nil => rfl
  | cons step rest =>
    rw [List.flatMap_cons, List.flatMap_append, List.map_append, step.groupWord_specifications,
      Step.groupWords_specifications rest, Step.groupWords]
end

/-- Every predicate has the word that the composition gives it, and a query has the word of its last predicate: it is not
distinct without predicates, and no ordering changes it. -/
theorem Query.last_word_counts {schema : Schema} {root : String} {composition : Composition}
    {orderings : List (Path × Direction)} {start query : Query}
    (resolved : composition.specification.query schema root = .ok start) (ordered : start.orderByAll orderings = .ok query) :
    composition.specification.predicates.map Predicate.isDistinct = composition.words ∧
      (composition.specification.isUnrestricted = true ↔ composition.words = []) ∧
      query.isDistinct = composition.words.getLastD false ∧ query.isDistinct = start.isDistinct := by
  have words := composition.words_specification
  obtain ⟨entity, conditions, _, parts⟩ := Specification.query_resolved resolved
  have sorted := (parts.follows ordered).isDistinct_eq
  have unsorted := (parts.follows (rfl : start.orderByAll [] = .ok start)).isDistinct_eq
  rw [words] at sorted unsorted
  refine ⟨words, ?_, sorted, sorted.trans unsorted.symm⟩
  rw [← words, List.map_eq_nil_iff]
  exact composition.specification_built.predicates_eq_nil.symm

def booksTagged (distinct : Bool) : Composition :=
  .composed {} [
    .group .and (.composed {} [.offer (.equal ⟨["tags"]⟩ (some (.text "logic")) []), .distinct distinct]),
    .offer (.equal ⟨["author", "name"]⟩ (some (.text "Ada")) []),
    .distinct false]

theorem Query.last_word_counts_books :
    (∃ start query, (booksTagged true).specification.query books.schema "Book" = .ok start ∧
      start.orderByAll [(⟨["author"]⟩, .ascending)] = .ok query ∧ query.isDistinct = true) ∧
    ∃ start query, (booksTagged false).specification.query books.schema "Book" = .ok start ∧
      start.orderByAll [(⟨["author"]⟩, .ascending)] = .ok query ∧ query.isDistinct = false := by
  have words (distinct : Bool) : ∃ start query, (booksTagged distinct).specification.query books.schema "Book" = .ok start ∧
      start.orderByAll [(⟨["author"]⟩, .ascending)] = .ok query ∧ query.isDistinct = distinct := by
    obtain ⟨_, _, word, _⟩ := Query.last_word_counts
      (show (booksTagged distinct).specification.query books.schema "Book" = .ok _ from rfl)
      (show Query.orderByAll _ [(⟨["author"]⟩, .ascending)] = .ok _ from rfl)
    exact ⟨_, _, rfl, rfl, word⟩
  exact ⟨words true, words false⟩

end RecordFilter
