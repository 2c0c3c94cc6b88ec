import RecordFilter.Proofs.Registry
import RecordFilter.Proofs.Scope.Independence
import RecordFilter.Proofs.Specification.Query

set_option autoImplicit false

namespace RecordFilter

variable {schema : Schema} {scope : Scope}

theorem isOk_eq {α : Type} (result : Except Error α) : result.isOk = (fault? result).isNone := by
  cases result <;> rfl

def Path.alone (path : Path) (schema : Schema) (root : String) (kind : JoinKind) (fetch : Bool) : Except Error Column :=
  match schema.scope root with
  | .ok scope => ((path.resolve schema kind fetch).run scope).1
  | .error error => .error error

def Predicate.alone (predicate : Predicate) (schema : Schema) (root : String) : Except Error Column :=
  predicate.options.path.alone schema root predicate.options.join predicate.options.fetch

def Specification.paths (specification : Specification) : List Path :=
  specification.predicates.map fun predicate => predicate.options.path

namespace Restriction

theorem resolve_run {restriction : Restriction} {condition : Condition} {after : Scope} (sound : scope.Sound schema)
    (succeeded : (restriction.resolve schema).outcome scope = (.ok condition, after)) :
    ∃ history, Scope.Run schema scope history after := by
  obtain ⟨conditions, each, _⟩ := restriction.resolve_outline 0 succeeded
  exact ⟨_, (Predicate.resolveEach_run sound each).1⟩

mutual
theorem resolve_fault (restriction : Restriction) {scope : Scope} (sound : scope.Sound schema) :
    fault? ((restriction.resolve schema).outcome scope).1 =
      restriction.predicates.findSome? fun predicate => fault? (predicate.options.path.follow schema scope.entity) := by
  cases restriction with
  | predicate single =>
    rw [predicates, List.findSome?_singleton]
    exact single.resolve_fault sound
  | all parts | any parts =>
    rw [predicates, ← resolveParts_fault parts sound, resolve, Resolve.outcome_bind]
    rcases (resolveParts schema parts).outcome scope with ⟨outcome, after⟩
    cases outcome <;> rfl
  | negation inner | group inner =>
    rw [predicates, ← resolve_fault inner sound, resolve, Resolve.outcome_bind]
    rcases (inner.resolve schema).outcome scope with ⟨outcome, after⟩
    cases outcome <;> rfl

theorem resolveParts_fault (parts : List Restriction) {scope : Scope} (sound : scope.Sound schema) :
    fault? ((resolveParts schema parts).outcome scope).1 =
      (predicatesOf parts).findSome? fun predicate => fault? (predicate.options.path.follow schema scope.entity) := by
  cases parts with
  | nil => rfl
  | cons part rest =>
    have first := resolve_fault part sound
    rw [predicatesOf, List.findSome?_append, ← first, resolveParts, Resolve.outcome_bind]
    rcases resolved : (part.resolve schema).outcome scope with ⟨outcome, between⟩
    cases outcome with
    | error error => rfl
    | ok condition =>
      obtain ⟨history, run⟩ := resolve_run sound resolved
      have others := resolveParts_fault rest (run.sound sound)
      rw [run.entity] at others
      dsimp only
      rw [fault?, Option.none_or, ← others, Resolve.outcome_bind]
      rcases (resolveParts schema rest).outcome between with ⟨outcome, after⟩
      cases outcome <;> rfl
end

end Restriction

theorem Path.alone_fault {root : String} {entity : Entity} (found : schema.entity root = .ok entity) (path : Path)
    (kind : JoinKind) (fetch : Bool) :
    fault? (path.alone schema root kind fetch) = fault? (path.follow schema entity.name) := by
  rw [alone, Schema.scope, found]
  exact path.resolve_fault kind fetch (Scope.sound_start entity.table entity.name)

theorem Path.alone_fault_any (path : Path) (root : String) (kind other : JoinKind) (fetch wanted : Bool) :
    fault? (path.alone schema root kind fetch) = fault? (path.alone schema root other wanted) := by
  cases found : schema.entity root with
  | error error => simp only [alone, Schema.scope, found]
  | ok entity => rw [path.alone_fault found, path.alone_fault found]

theorem Specification.queryIn_fault (specification : Specification) (schema : Schema) (scope : Scope) :
    fault? (specification.queryIn schema scope) = fault? ((specification.resolve schema).outcome scope).1 := by
  change fault? (match (specification.resolve schema).outcome scope with
    | (.ok filter, scope) => .ok (⟨schema, scope, filter, []⟩ : Query)
    | (.error error, _) => .error error) = _
  rcases (specification.resolve schema).outcome scope with ⟨outcome, after⟩
  cases outcome <;> rfl

theorem Specification.query_fault (specification : Specification) (root : String) :
    fault? (specification.query schema root) =
      (fault? (schema.entity root)).or
        (specification.predicates.findSome? fun predicate => fault? (predicate.alone schema root)) := by
  cases found : schema.entity root with
  | error error =>
    rw [query, Schema.scope, found]
    rfl
  | ok entity =>
    have begun : Scope.Sound schema { table := entity.table, entity := entity.name } :=
      Scope.sound_start entity.table entity.name
    simp only [Predicate.alone, Path.alone_fault found]
    rw [query, Schema.scope, found, fault?, Option.none_or]
    obtain ⟨restriction⟩ := specification
    cases restriction with
    | none => rfl
    | some restriction =>
      refine Eq.trans ?_ (restriction.resolve_fault begun)
      change fault? (queryIn ⟨some restriction⟩ schema _) = _
      rw [queryIn_fault, resolve, Resolve.outcome_bind]
      rcases (restriction.resolve schema).outcome _ with ⟨outcome, after⟩
      cases outcome <;> rfl

theorem Query.orderBy_fault {query : Query} (sound : query.scope.Sound query.schema) (path : Path) (direction : Direction) :
    fault? (query.orderBy path direction) = fault? (path.follow query.schema query.scope.entity) := by
  rw [query.orderBy_eq, fault?_map, path.resolve_fault .left false sound]

theorem Specification.query_isOk (specification : Specification) (root : String) :
    (specification.query schema root).isOk = true ↔ (schema.entity root).isOk = true ∧
      ∀ path ∈ specification.paths, (path.alone schema root .inner false).isOk = true := by
  simp only [isOk_eq, Option.isNone_iff_eq_none, query_fault, Option.or_eq_none_iff, List.findSome?_eq_none_iff, paths,
    List.forall_mem_map, Predicate.alone, Path.alone_fault_any _ root _ .inner _ false]

/-- A query fails for its root or for the first of its paths that fails by itself, and an ordering if its path does. -/
theorem Query.resolved_alone (schema : Schema) (root : String) (specification : Specification) :
    fault? (specification.query schema root) = (fault? (schema.entity root)).or
      (specification.predicates.findSome? fun predicate => fault? (predicate.alone schema root)) ∧
    (∀ start query orderings, specification.query schema root = .ok start → start.orderByAll orderings = .ok query →
      ∀ path direction, fault? (query.orderBy path direction) = fault? (path.alone schema root .left false)) ∧
    (∀ path kind fetch, fault? (Path.alone path schema root kind fetch) = fault? (path.alone schema root .inner false)) ∧
    ∀ other : Specification, (∀ path, path ∈ other.paths ↔ path ∈ specification.paths) →
      (other.query schema root).isOk = (specification.query schema root).isOk := by
  refine ⟨specification.query_fault root, ?_, fun path kind fetch => path.alone_fault_any root kind .inner fetch false, ?_⟩
  · intro start query orderings resolved ordered path direction
    obtain ⟨entity, conditions, found, parts⟩ := Specification.query_resolved resolved
    have begun : Scope.Sound schema { table := entity.table, entity := entity.name } :=
      Scope.sound_start entity.table entity.name
    obtain ⟨filtering, _⟩ := Predicate.resolveEach_run begun parts.each
    have sorted := Query.orderByAll_ordered (parts.sameSchema.symm ▸ filtering.sound begun) ordered
    have sorting := sorted.run
    rw [parts.sameSchema] at sorting
    have sameSchema : query.schema = schema := sorted.sameSchema.trans parts.sameSchema
    have sound : query.scope.Sound query.schema := sameSchema ▸ (filtering.append sorting).sound begun
    have sameRoot : query.scope.entity = entity.name := (filtering.append sorting).entity
    rw [Query.orderBy_fault sound, sameSchema, sameRoot, path.alone_fault found]
  · intro other samePaths
    rw [Bool.eq_iff_iff, other.query_isOk root, specification.query_isOk root]
    simp only [samePaths]

theorem Query.resolved_alone_books :
    let either := Specification.ofUnits [
      (.and, .ofPredicate (equalPredicate { path := ⟨["author", "name"]⟩, fetch := true } (.text "Ada"))),
      (.or, .ofPredicate (nullPredicate { path := ⟨["author"]⟩ }))]
    let neither := ((Specification.ofPredicate (nullPredicate { path := ⟨["author"]⟩ })).connect .and
      (.ofPredicate (equalPredicate { path := ⟨["author", "name"]⟩, join := .right } (.text "Ada")))).negated
    ∃ start query, either.query books.schema "Book" = .ok start ∧
      start.orderByAll [(⟨["author", "name"]⟩, .ascending)] = .ok query ∧
      fault? (query.orderBy ⟨["author", "age"]⟩ .descending) = some (.unknownField "Author" "age") ∧
      (neither.query books.schema "Book").isOk = (either.query books.schema "Book").isOk := by
  intro either neither
  obtain ⟨_, ordering, _, other⟩ := Query.resolved_alone books.schema "Book" either
  refine ⟨_, _, rfl, rfl, ?_, other neither ?_⟩
  · exact ordering _ _ [(⟨["author", "name"]⟩, .ascending)] rfl rfl ⟨["author", "age"]⟩ .descending
  · intro path
    exact List.Perm.mem_iff (List.Perm.swap _ _ _)

end RecordFilter
