import Mathlib.Data.List.Forall2
import RecordFilter.Proofs.Specification.Outline

set_option autoImplicit false

namespace RecordFilter

variable {schema : Schema} {scope after : Scope}

theorem exists_of_forall₂ {α β : Type} {relation : α → β → Prop} {first : List α} {second : List β}
    (paired : List.Forall₂ relation first second) : ∀ right ∈ second, ∃ left ∈ first, relation left right := by
  induction paired with
  | nil => exact fun _ member => absurd member List.not_mem_nil
  | cons related others ih =>
    rw [List.forall_mem_cons]
    refine ⟨⟨_, List.mem_cons_self .., related⟩, fun right member => ?_⟩
    obtain ⟨left, held, relatedThere⟩ := ih right member
    exact ⟨left, List.mem_cons_of_mem _ held, relatedThere⟩

theorem RangeForm.condition_shape (column : Column) (negated : Bool) (ends : Range Value) (form : RangeForm) :
    (∃ sign value, form.condition column negated ends = (Sign.condition column sign value).negatedWhen negated) ∨
    (∃ low high, form.condition column negated ends = .between column low high negated) ∨
    (∃ lower low upper high, form.condition column negated ends =
      Condition.negatedWhen negated (.all [Sign.condition column lower low, Sign.condition column upper high])) ∨
    form.condition column negated ends = .always := by
  cases form with
  | side sign =>
    rw [RangeForm.condition]
    split
    · exact .inl ⟨sign, _, rfl⟩
    · exact .inr (.inr (.inr rfl))
  | between =>
    rw [RangeForm.condition]
    split
    · exact .inr (.inl ⟨_, _, rfl⟩)
    · exact .inr (.inr (.inr rfl))
  | span lower upper =>
    rw [RangeForm.condition]
    split
    · exact .inr (.inr (.inl ⟨lower, _, upper, _, rfl⟩))
    · exact .inr (.inr (.inr rfl))

def Scope.Tests (schema : Schema) (scope : Scope) (predicate : Predicate) (condition : Condition) : Prop :=
  ∃ column, scope.Addresses schema column ∧
    condition = predicate.test.condition column predicate.options.negated

theorem Scope.Run.tests {history : List Scope.Event} {predicate : Predicate} {condition : Condition}
    (run : Scope.Run schema scope history after) (tested : scope.Tests schema predicate condition) :
    after.Tests schema predicate condition := by
  obtain ⟨column, addressed, same⟩ := tested
  exact ⟨column, run.addresses addressed, same⟩

theorem Predicate.resolveEach_run {predicates : List Predicate} {conditions : List Condition}
    (sound : scope.Sound schema)
    (succeeded : (predicates.mapM (Predicate.resolve schema)).outcome scope = (.ok conditions, after)) :
    Scope.Run schema scope (predicates.flatMap (Predicate.events schema scope.entity)) after ∧
      List.Forall₂ (after.Tests schema) predicates conditions := by
  induction predicates generalizing scope conditions with
  | nil =>
    rw [List.mapM_nil, Resolve.outcome_pure, Prod.mk.injEq, Except.ok.injEq] at succeeded
    obtain ⟨rfl, rfl⟩ := succeeded
    exact ⟨.done scope, .nil⟩
  | cons predicate rest ih =>
    obtain ⟨condition, between, others, first, onward, rfl⟩ := Resolve.mapM_cons_ok succeeded
    obtain ⟨run, tested⟩ := Predicate.resolve_run sound first
    obtain ⟨further, testedRest⟩ := ih (run.sound sound) onward
    rw [run.entity] at further
    refine ⟨?_, .cons (further.tests tested) testedRest⟩
    rw [List.flatMap_cons]
    exact run.append further

structure Specification.Resolved (specification : Specification) (schema : Schema) (start : Scope) (query : Query)
    (conditions : List Condition) : Prop where
  sameSchema : query.schema = schema
  unordered : query.order = []
  each : (specification.predicates.mapM (Predicate.resolve schema)).outcome start = (.ok conditions, query.scope)
  filter : query.filter = specification.restriction.map fun restriction =>
    (restriction.outline 0).condition fun position => conditions.getD position .always

theorem Specification.queryIn_restricted (restriction : Restriction) (schema : Schema) (scope : Scope) :
    queryIn ⟨some restriction⟩ schema scope =
      match (restriction.resolve schema).outcome scope with
      | (.ok condition, after) => .ok { schema, scope := after, filter := some condition }
      | (.error error, _) => .error error := by
  have unfolded : queryIn ⟨some restriction⟩ schema scope =
      match (resolve schema ⟨some restriction⟩).outcome scope with
      | (.ok filter, scope) => .ok { schema, scope, filter }
      | (.error error, _) => .error error := rfl
  rw [unfolded, resolve, Resolve.outcome_bind]
  rcases (restriction.resolve schema).outcome scope with ⟨outcome, after⟩
  cases outcome <;> rfl

theorem Specification.queryIn_resolved {specification : Specification} {start : Scope} {query : Query}
    (resolved : specification.queryIn schema start = .ok query) :
    ∃ conditions, specification.Resolved schema start query conditions := by
  obtain ⟨restriction⟩ := specification
  cases restriction with
  | none =>
    cases resolved
    exact ⟨[], rfl, rfl, rfl, rfl⟩
  | some restriction =>
    rw [queryIn_restricted] at resolved
    rcases first : (restriction.resolve schema).outcome start with ⟨outcome, reached⟩
    rw [first] at resolved
    cases outcome with
    | error error => cases resolved
    | ok condition =>
      cases resolved
      obtain ⟨conditions, each, placed⟩ := restriction.resolve_outline 0 first
      refine ⟨conditions, rfl, rfl, each, ?_⟩
      rw [Option.map_some, ← placed]
      -- There is a condition for every predicate, so the default is never taken.
      intro index bound
      rw [Nat.zero_add, List.getD_eq_getElem?_getD, List.getElem?_eq_getElem bound, Option.getD_some]

theorem Specification.query_resolved {specification : Specification} {root : String} {query : Query}
    (resolved : specification.query schema root = .ok query) :
    ∃ entity conditions, schema.entity root = .ok entity ∧
      specification.Resolved schema { table := entity.table, entity := entity.name } query conditions := by
  simp only [Specification.query, Schema.scope] at resolved
  cases found : schema.entity root with
  | error error => simp [found] at resolved
  | ok entity =>
    rw [found] at resolved
    obtain ⟨conditions, parts⟩ := queryIn_resolved resolved
    exact ⟨entity, conditions, rfl, parts⟩

structure Query.Ordered (start : Query) (orderings : List (Path × Direction)) (query : Query) : Prop where
  sameSchema : query.schema = start.schema
  sameFilter : query.filter = start.filter
  run : Scope.Run start.schema start.scope
    (orderings.flatMap fun ordering => (Request.ofOrdering ordering).events start.schema start.scope.entity) query.scope
  order : ∃ items, query.order = start.order ++ items ∧
    ∀ item ∈ items, query.scope.Addresses start.schema item.column

theorem Query.orderBy_eq (query : Query) (path : Path) (direction : Direction) :
    query.orderBy path direction =
      let followed := (path.resolve query.schema .left false).outcome query.scope
      followed.1.map fun column => { query with scope := followed.2, order := query.order ++ [⟨column, direction⟩] } := by
  rw [orderBy, Resolve.outcome]
  rcases (path.resolve query.schema .left false).run query.scope with ⟨outcome, after⟩
  cases outcome <;> rfl

theorem Query.orderBy_ordered {start query : Query} {path : Path} {direction : Direction}
    (sound : start.scope.Sound start.schema) (ordered : start.orderBy path direction = .ok query) :
    start.Ordered [(path, direction)] query := by
  rw [orderBy_eq] at ordered
  rcases followed : (path.resolve start.schema .left false).outcome start.scope with ⟨outcome, reached⟩
  rw [followed] at ordered
  cases outcome with
  | error error => cases ordered
  | ok column =>
    cases ordered
    obtain ⟨run, addressed⟩ := Path.resolve_run sound followed
    refine ⟨rfl, rfl, ?_, [⟨column, direction⟩], rfl, ?_⟩
    · simpa [Request.ofOrdering] using run
    · intro item member
      rw [List.mem_singleton.mp member]
      exact addressed

theorem Query.orderByAll_ordered {start query : Query} {orderings : List (Path × Direction)}
    (sound : start.scope.Sound start.schema) (ordered : start.orderByAll orderings = .ok query) :
    start.Ordered orderings query := by
  induction orderings generalizing start with
  | nil =>
    rw [orderByAll, Except.ok.injEq] at ordered
    subst ordered
    exact ⟨rfl, rfl, .done _, [], (List.append_nil _).symm, fun _ member => absurd member List.not_mem_nil⟩
  | cons ordering rest ih =>
    obtain ⟨path, direction⟩ := ordering
    rw [orderByAll] at ordered
    cases first : start.orderBy path direction with
    | error error => simp [first] at ordered
    | ok between =>
      rw [first] at ordered
      have one := orderBy_ordered sound first
      have soundBetween := one.run.sound sound
      rw [← one.sameSchema] at soundBetween
      have more := ih soundBetween ordered
      obtain ⟨items, appended, addressed⟩ := one.order
      obtain ⟨others, appendedMore, addressedMore⟩ := more.order
      have further := more.run
      rw [one.sameSchema, one.run.entity] at further
      refine ⟨more.sameSchema.trans one.sameSchema, more.sameFilter.trans one.sameFilter, ?_, items ++ others, ?_, ?_⟩
      · simpa using one.run.append further
      · rw [appendedMore, appended, List.append_assoc]
      · intro item member
        rcases List.mem_append.mp member with old | fresh
        · exact further.addresses (addressed item old)
        · exact one.sameSchema ▸ addressedMore item fresh

structure Query.Follows (schema : Schema) (entity : Entity) (specification : Specification)
    (orderings : List (Path × Direction)) (conditions : List Condition) (query : Query) : Prop where
  run : Scope.Run schema { table := entity.table, entity := entity.name }
    (specification.predicates.flatMap (Predicate.events schema entity.name) ++
      orderings.flatMap fun ordering => (Request.ofOrdering ordering).events schema entity.name) query.scope
  tests : List.Forall₂ (query.scope.Tests schema) specification.predicates conditions
  filter : query.filter = specification.restriction.map fun restriction =>
    (restriction.outline 0).condition fun position => conditions.getD position .always
  order : ∀ item ∈ query.order, query.scope.Addresses schema item.column

theorem Specification.Resolved.follows {specification : Specification} {entity : Entity}
    {orderings : List (Path × Direction)} {conditions : List Condition} {start query : Query}
    (parts : specification.Resolved schema { table := entity.table, entity := entity.name } start conditions)
    (ordered : start.orderByAll orderings = .ok query) :
    query.Follows schema entity specification orderings conditions := by
  obtain ⟨filtering, tests⟩ := Predicate.resolveEach_run (Scope.sound_start entity.table entity.name) parts.each
  have sound := filtering.sound (Scope.sound_start entity.table entity.name)
  have sorted := Query.orderByAll_ordered (parts.sameSchema.symm ▸ sound) ordered
  have sorting := sorted.run
  rw [parts.sameSchema, filtering.entity] at sorting
  refine ⟨filtering.append sorting, ?_, sorted.sameFilter.trans parts.filter, ?_⟩
  · exact tests.imp fun _ _ tested => sorting.tests tested
  · obtain ⟨items, appended, addressed⟩ := sorted.order
    intro item member
    rw [appended, parts.unordered, List.nil_append] at member
    exact parts.sameSchema ▸ addressed item member

theorem Query.follows {specification : Specification} {root : String} {orderings : List (Path × Direction)}
    {start query : Query} (resolved : specification.query schema root = .ok start)
    (ordered : start.orderByAll orderings = .ok query) :
    ∃ entity conditions, schema.entity root = .ok entity ∧
      query.Follows schema entity specification orderings conditions := by
  obtain ⟨entity, conditions, found, parts⟩ := Specification.query_resolved resolved
  exact ⟨entity, conditions, found, parts.follows ordered⟩

theorem Query.Follows.condition_at {entity : Entity} {specification : Specification} {orderings : List (Path × Direction)}
    {conditions : List Condition} {query : Query}
    (follows : query.Follows schema entity specification orderings conditions) (position : Nat) :
    conditions.getD position .always = .always ∨
      ∃ predicate ∈ specification.predicates, query.scope.Tests schema predicate (conditions.getD position .always) := by
  rw [List.getD_eq_getElem?_getD]
  cases here : conditions[position]? with
  | none => exact .inl rfl
  | some condition => exact .inr (exists_of_forall₂ follows.tests condition (List.mem_of_getElem? here))

end RecordFilter
