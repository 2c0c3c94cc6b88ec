import RecordFilter.Proofs.Specification.Joins
import RecordFilter.Proofs.Specification.Scoped

set_option autoImplicit false

namespace RecordFilter

theorem Scope.Shares.joined {schema : Schema} {root : String} {requests : List Request} {scope : Scope} {first : Request}
    {crossed : List String} (shares : scope.Shares schema root requests)
    (isFirst : requests.find? (Request.crosses schema root crossed) = some first) :
    ∃ join ∈ scope.joins, scope.association? crossed = some join ∧ join.clauses ≠ [] ∧
      ∀ clause ∈ join.clauses, clause.kind = first.kind := by
  have crosses : crossed ∈ first.crossings schema root :=
    List.contains_iff_mem.mp (List.find?_some (p := Request.crosses schema root crossed) isFirst)
  have reached := (shares.mem_crossed crossed).mpr ⟨first, List.mem_of_find?_eq_some isFirst, crosses⟩
  obtain ⟨join, held, rfl⟩ := List.mem_map.mp reached
  obtain ⟨other, otherFirst, some, kinds⟩ := shares.kinds join held
  cases Option.some.inj (isFirst.symm.trans otherFirst)
  exact ⟨join, (List.mem_filter.mp held).1, shares.association? held, some, fun clause inside => (kinds clause inside).1⟩

namespace Predicate

def crosses (schema : Schema) (root : String) (crossed : List String) (predicate : Predicate) : Bool :=
  predicate.request.crosses schema root crossed

-- The kind by which a null check finds an association joined: that of the first predicate before it to cross the fields.
def kindBehind (schema : Schema) (root : String) (before : List Predicate) (crossed : List String) : JoinKind :=
  ((before.find? (crosses schema root crossed)).map fun earlier => earlier.request.kind).getD .left

end Predicate

namespace Query

variable {schema : Schema} {root : String}

def SeesMissing (schema : Schema) (root : String) (check : Predicate) (query : Query) : Prop :=
  ∀ crossed ∈ check.request.crossings schema root, ∃ join ∈ query.scope.joins,
    query.scope.association? crossed = some join ∧ join.clauses ≠ [] ∧ ∀ clause ∈ join.clauses, clause.kind = .left

theorem Follows.joined {entity : Entity} {specification : Specification} {orderings : List (Path × Direction)}
    {conditions : List Condition} {query : Query} {before after : List Predicate} {check : Predicate} {crossed : List String}
    (follows : query.Follows schema entity specification orderings conditions)
    (placed : specification.predicates = before ++ check :: after) (left : check.request.kind = .left)
    (member : crossed ∈ check.request.crossings schema entity.name) :
    ∃ join ∈ query.scope.joins, query.scope.association? crossed = some join ∧ join.clauses ≠ [] ∧
      ∀ clause ∈ join.clauses, clause.kind = Predicate.kindBehind schema entity.name before crossed := by
  have crossing : check.request.crosses schema entity.name crossed = true := List.contains_iff_mem.mpr member
  have isFirst : (specification.requests ++ orderings.map Request.ofOrdering).find?
        (Request.crosses schema entity.name crossed) =
      some (((before.find? (Predicate.crosses schema entity.name crossed)).map Predicate.request).getD check.request) := by
    rw [Specification.requests, placed, List.map_append, List.map_cons, List.append_assoc, List.find?_append,
      List.find?_map, List.cons_append, List.find?_cons_of_pos crossing]
    change ((before.find? (Predicate.crosses schema entity.name crossed)).map Predicate.request).or _ = _
    cases before.find? (Predicate.crosses schema entity.name crossed) <;> rfl
  obtain ⟨join, held, found, some, kinds⟩ := follows.tracks.shares.joined isFirst
  refine ⟨join, held, found, some, fun clause inside => (kinds clause inside).trans ?_⟩
  rw [Predicate.kindBehind]
  cases before.find? (Predicate.crosses schema entity.name crossed) with
  | none => exact left
  | some earlier => rfl

end Query

/-- A null check asks for joins that lose no record. It finds the associations on its path joined so, unless a predicate
before it crossed them first and asked otherwise; then it does not see what is missing. -/
theorem Query.null_check_joins {schema : Schema} {root : String} {composition : Composition}
    {orderings : List (Path × Direction)} {start query : Query} {before after : List Predicate} {check : Predicate}
    (resolved : composition.specification.query schema root = .ok start) (ordered : start.orderByAll orderings = .ok query)
    (placed : composition.specification.predicates = before ++ check :: after) (isNull : check.test = .null) :
    ∃ entity, schema.entity root = .ok entity ∧ check.request.kind = .left ∧
      query.scope.joinsText = JoinClause.written query.scope.clauses ∧
      (∀ crossed ∈ check.request.crossings schema entity.name, ∃ join ∈ query.scope.joins,
        query.scope.association? crossed = some join ∧ join.clauses ≠ [] ∧ ∀ clause ∈ join.clauses,
          clause ∈ query.scope.clauses ∧ clause.kind = Predicate.kindBehind schema entity.name before crossed) ∧
      (query.SeesMissing schema entity.name check ↔ ∀ crossed ∈ check.request.crossings schema entity.name,
        Predicate.kindBehind schema entity.name before crossed = .left) := by
  obtain ⟨entity, conditions, found, follows⟩ := Query.follows resolved ordered
  have held : check ∈ composition.specification.predicates := by
    rw [placed]
    exact List.mem_append_right _ (List.mem_cons_self ..)
  have left : check.request.kind = .left := (composition.specification_built.predicates check held).nullJoin isNull
  have joined {crossed : List String} (member : crossed ∈ check.request.crossings schema entity.name) :=
    follows.joined placed left member
  refine ⟨entity, found, left, (follows.run.sound (Scope.sound_start ..)).joinsText_eq, ?_, fun sees crossed member => ?_,
    fun kinds crossed member => ?_⟩
  · intro crossed member
    obtain ⟨join, present, isJoin, some, kinds⟩ := joined member
    refine ⟨join, present, isJoin, some, fun clause inside => ⟨?_, kinds clause inside⟩⟩
    exact List.mem_flatMap.mpr ⟨join, present, inside⟩
  · obtain ⟨join, _, isJoin, some, kinds⟩ := joined member
    obtain ⟨other, _, isOther, _, lefts⟩ := sees crossed member
    cases Option.some.inj (isJoin.symm.trans isOther)
    obtain ⟨clause, inside⟩ := List.exists_mem_of_ne_nil _ some
    rw [← kinds clause inside, lefts clause inside]
  · obtain ⟨join, present, isJoin, some, kindsThere⟩ := joined member
    exact ⟨join, present, isJoin, some, fun clause inside => (kindsThere clause inside).trans (kinds crossed member)⟩

def booksByAda (adjustments : List Adjustment) : Step := .offer (.equal ⟨["author", "name"]⟩ (some (.text "Ada")) adjustments)

def booksUnsigned (adjustments : List Adjustment) : Step := .offer (.isNull ⟨["author", "name"]⟩ true adjustments)

theorem Query.null_check_joins_books :
    ∃ query check, (Composition.composed {} [booksUnsigned [.join .inner], booksByAda [.connector .or]]).specification.query
        books.schema "Book" = .ok query ∧
      check.request.crossings books.schema "Book" = [["author"]] ∧ query.SeesMissing books.schema "Book" check := by
  obtain ⟨entity, found, _, _, _, sees⟩ := Query.null_check_joins
    (show (Composition.composed {} [booksUnsigned [.join .inner], booksByAda [.connector .or]]).specification.query
      books.schema "Book" = .ok _ from rfl)
    (show Query.orderByAll _ [] = .ok _ from rfl)
    (show Specification.predicates _ = [] ++ nullPredicate { path := ⟨["author", "name"]⟩ } :: _ from rfl) rfl
  cases found
  exact ⟨_, _, rfl, rfl, sees.mpr fun _ _ => rfl⟩

def Query.ChecksSeeMissing : Prop :=
  ∀ (registry : Registry) (root : String) (composition : Composition) (query : Query) (entity : Entity),
    registry.Registered → registry.schema.entity root = .ok entity →
    composition.specification.query registry.schema root = .ok query →
    ∀ check ∈ composition.specification.predicates, check.test = .null → query.SeesMissing registry.schema entity.name check

theorem Query.null_check_blinded : ¬ Query.ChecksSeeMissing := by
  intro promise
  have sees := promise books "Book" (.composed {} [booksByAda [], booksUnsigned [.connector .or]]) _ _ books_registered rfl rfl
    (nullPredicate { path := ⟨["author", "name"]⟩, connector := .or }) (List.mem_cons_of_mem _ (List.mem_cons_self ..)) rfl
  obtain ⟨join, _, isJoin, _, left⟩ := sees ["author"] (List.mem_cons_self ..)
  cases Option.some.inj isJoin
  cases left _ (List.mem_singleton_self _)

end RecordFilter
