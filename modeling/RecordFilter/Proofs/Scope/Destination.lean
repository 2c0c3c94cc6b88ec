import RecordFilter.Proofs.Registry
import RecordFilter.Proofs.Scope.Independence
import RecordFilter.Proofs.Scope.Reachable

set_option autoImplicit false

namespace RecordFilter

inductive Destination where
  | column (crossed : List String) (name : String)
  | element (crossed : List String) (name : String)
deriving DecidableEq

-- The reference: an entity is known by the name that it gives itself, which need not be the one it was looked up by.
def Schema.destination (schema : Schema) :
    (entity : String) → (crossed : List String) → List String → Except Error Destination
  | entity, crossed, [] => do
    let key ← schema.keyOf entity
    return .column crossed key
  | entity, crossed, field :: rest => do
    match ← schema.field entity field with
    | .scalar column => return .column crossed column
    | .collection _ _ column =>
      let _ ← schema.keyOf entity
      return .element (crossed ++ [field]) column
    | .association relation =>
      let next ← schema.crossing entity relation
      schema.destination next (crossed ++ [field]) rest

def Path.destination (path : Path) (schema : Schema) (root : String) : Except Error Destination :=
  if path.segments = [] ∨ "" ∈ path.segments then .error (.invalidPath path.text)
  else schema.destination root [] path.segments

def Destination.IsColumn (scope : Scope) : Destination → Column → Prop
  | column crossed name, found => ∃ place, (∀ other, other ∈ scope.places ∧ other.crossed = crossed ↔ other = place) ∧
      found = place.column name
  | element crossed name, found => ∃ earlier join, scope.joins = earlier ++ [join] ∧ join.entity = none ∧
      join.crossed = crossed ∧ join.clauses.map JoinClause.shortName = [tableName join.number] ∧
      tableName join.number ∉ tableName 0 :: (earlier.flatMap Join.clauses).map JoinClause.shortName ∧
      found = columnOf join.number name

section Walk

variable {schema : Schema} {scope after : Scope} {kind : JoinKind} {fetch : Bool} {place : Place} {field : String}

theorem Scope.Orderly.place_unique (orderly : scope.Orderly) (reached : place ∈ scope.places) (other : Place) :
    other ∈ scope.places ∧ other.crossed = place.crossed ↔ other = place := by
  constructor
  · intro ⟨member, same⟩
    exact List.inj_on_of_nodup_map orderly.places member reached same
  · rintro rfl
    exact ⟨reached, rfl⟩

theorem Destination.isColumn_place (orderly : scope.Orderly) (reached : place ∈ scope.places) (name : String) :
    (Destination.column place.crossed name).IsColumn scope (place.column name) :=
  ⟨place, orderly.place_unique reached, rfl⟩

theorem Destination.isColumn_collection {table foreignKey : String} {join : Join} (orderly : scope.Orderly)
    (planned : schema.collectionJoin kind place field table foreignKey scope.nextNumber = .ok join) (name : String) :
    (Destination.element (place.crossed ++ [field]) name).IsColumn (scope.extend join) (columnOf join.number name) := by
  obtain ⟨parent, parentKey, _, _, rfl⟩ := Schema.collectionJoin_ok planned
  refine ⟨scope.joins, _, rfl, rfl, rfl, rfl, fun named => ?_, rfl⟩
  -- The number is one that the counter has not given out before.
  obtain ⟨number, used, same⟩ : ∃ number ∈ 0 :: scope.clauses.map JoinClause.number,
      tableName number = tableName scope.nextNumber := by
    rcases List.mem_cons.mp named with root | joined
    · exact ⟨0, List.mem_cons_self .., root.symm⟩
    · obtain ⟨clause, member, same⟩ := List.mem_map.mp joined
      exact ⟨clause.number, List.mem_cons_of_mem _ (List.mem_map_of_mem member), same⟩
  have below := orderly.taken number used
  rw [tableName_injective same] at below
  exact Nat.lt_irrefl _ below

theorem Schema.destination_fault (schema : Schema) (segments : List String) (entity : String) (crossed : List String) :
    fault? (schema.destination entity crossed segments) = fault? (schema.follow entity segments) := by
  induction segments generalizing entity crossed with
  | nil =>
    rw [destination, follow, fault?_bind]
    cases schema.keyOf entity <;> rfl
  | cons field rest ih =>
    rw [destination, follow, fault?_bind, fault?_bind]
    cases schema.field entity field with
    | error error => rfl
    | ok found =>
      cases found with
      | scalar column => rfl
      | collection table foreignKey column =>
        dsimp only
        rw [fault?_bind]
        cases schema.keyOf entity <;> rfl
      | association relation =>
        dsimp only
        rw [fault?_bind, fault?_bind]
        cases schema.crossing entity relation with
        | error error => rfl
        | ok next => exact ih next _

theorem walk_reaches (segments : List String) {column : Column} (sound : scope.Sound schema) (orderly : scope.Orderly)
    (reached : place ∈ scope.places) (succeeded : (walk schema kind fetch segments place).outcome scope = (.ok column, after)) :
    ∃ destination, schema.destination place.entity place.crossed segments = .ok destination ∧
      destination.IsColumn after column := by
  induction segments generalizing place scope with
  | nil =>
    rw [walk] at succeeded
    obtain ⟨entity, found, afterEntity⟩ := Resolve.outcome_lift_bind_ok succeeded
    obtain ⟨key, keyFound, afterKey⟩ := Resolve.outcome_lift_bind_ok afterEntity
    rw [Resolve.outcome_pure, Prod.mk.injEq, Except.ok.injEq] at afterKey
    obtain ⟨rfl, rfl⟩ := afterKey
    refine ⟨.column place.crossed key, ?_, Destination.isColumn_place orderly reached key⟩
    simp [Schema.destination, Schema.keyOf, found, keyFound, Bind.bind, Except.bind, Pure.pure, Except.pure]
  | cons field rest ih =>
    rw [walk] at succeeded
    obtain ⟨found, declared, afterField⟩ := Resolve.outcome_lift_bind_ok succeeded
    rw [Schema.destination, declared]
    cases found with
    | scalar name =>
      simp only [Resolve.outcome_pure, Prod.mk.injEq, Except.ok.injEq] at afterField
      obtain ⟨rfl, rfl⟩ := afterField
      exact ⟨.column place.crossed name, rfl, Destination.isColumn_place orderly reached name⟩
    | collection table foreignKey name =>
      obtain ⟨join, planned, rfl, rfl⟩ := joinCollection_ok afterField
      obtain ⟨parent, parentKey, parentFound, keyFound, _⟩ := Schema.collectionJoin_ok planned
      refine ⟨.element (place.crossed ++ [field]) name, ?_, Destination.isColumn_collection orderly planned name⟩
      simp [Schema.keyOf, parentFound, keyFound, Bind.bind, Except.bind, Pure.pure, Except.pure]
    | association relation =>
      obtain ⟨next, between, crossing, onward⟩ := Resolve.outcome_bind_ok afterField
      obtain ⟨step, standing, crossed⟩ := crossAssociation_step reached declared crossing
      have passed : ((crossAssociation schema kind fetch place field relation).outcome scope).1.map Place.entity =
          schema.crossing place.entity relation := crossAssociation_crossing sound reached declared
      rw [crossing] at passed
      obtain ⟨destination, leads, isColumn⟩ := ih (step.sound sound) (step.orderly orderly) standing onward
      rw [crossed] at leads
      refine ⟨destination, ?_, isColumn⟩
      change (schema.crossing place.entity relation >>= _) = _
      rw [← passed]
      exact leads

theorem walk_trailing (segments more : List String) {last : Field} (sound : scope.Sound schema)
    (reached : place ∈ scope.places) (ends : schema.fieldAt place.entity segments = some last)
    (terminal : last.isAssociation = false) :
    (walk schema kind fetch (segments ++ more) place).outcome scope =
      (walk schema kind fetch segments place).outcome scope := by
  induction segments generalizing place scope with
  | nil => simp [Schema.fieldAt] at ends
  | cons field rest ih =>
    rw [List.cons_append, walk, walk, Resolve.outcome_bind, Resolve.outcome_bind, Resolve.outcome_lift]
    by_cases alone : rest = []
    · subst alone
      rw [Schema.fieldAt_singleton] at ends
      cases declared : schema.field place.entity field with
      | error error => rfl
      | ok found =>
        rw [declared] at ends
        cases Option.some.inj ends
        cases last with
        | association relation => cases terminal
        | scalar column | collection table foreignKey column => rfl
    · rw [Schema.fieldAt_cons schema place.entity field alone, Option.bind_eq_some_iff] at ends
      obtain ⟨next, far, onward⟩ := ends
      obtain ⟨relation, declared⟩ := Schema.association_of_across far
      rw [declared]
      dsimp only
      rw [Resolve.outcome_bind, Resolve.outcome_bind]
      rcases crossed : (crossAssociation schema kind fetch place field relation).outcome scope with ⟨outcome, between⟩
      cases outcome with
      | error error => rfl
      | ok there =>
        obtain ⟨step, standing, _⟩ := crossAssociation_step reached declared crossed
        have same := crossAssociation_across sound reached declared crossed
        rw [far, Option.some.injEq] at same
        subst same
        exact ih (step.sound sound) standing onward

end Walk

section Resolution

variable {schema : Schema} {scope : Scope}

theorem Path.destination_fault (path : Path) (root : String) :
    fault? (path.destination schema root) = fault? (path.follow schema root) := by
  rw [destination, follow, fault?_bind, check]
  by_cases broken : path.segments = [] ∨ "" ∈ path.segments
  · have refused : path.isWellFormed = false := by
      rw [← Bool.not_eq_true, path.isWellFormed_iff, not_not]
      exact broken
    simp [broken, refused, fault?]
  · have accepted := path.isWellFormed_iff.mpr broken
    rw [if_neg broken, if_pos accepted]
    exact schema.destination_fault path.segments root []

theorem Path.destination_wellFormed {path : Path} (wellFormed : path.isWellFormed = true) (root : String) :
    path.destination schema root = schema.destination root [] path.segments :=
  if_neg (path.isWellFormed_iff.mp wellFormed)

theorem Path.resolve_wellFormed {path : Path} (wellFormed : path.isWellFormed = true) (kind : JoinKind) (fetch : Bool) :
    (path.resolve schema kind fetch).outcome scope = (walk schema kind fetch path.segments scope.root).outcome scope := by
  rw [resolve, check, if_pos wellFormed]
  rfl

theorem Path.resolve_reaches {path : Path} {kind : JoinKind} {fetch : Bool} {column : Column} {after : Scope}
    (sound : scope.Sound schema) (orderly : scope.Orderly)
    (succeeded : (path.resolve schema kind fetch).outcome scope = (.ok column, after)) :
    ∃ destination, path.destination schema scope.entity = .ok destination ∧ destination.IsColumn after column := by
  by_cases wellFormed : path.isWellFormed = true
  · rw [path.destination_wellFormed wellFormed]
    rw [path.resolve_wellFormed wellFormed] at succeeded
    exact walk_reaches path.segments sound orderly (List.mem_cons_self ..) succeeded
  · rw [resolve, check, if_neg wellFormed] at succeeded
    cases succeeded

theorem Path.resolve_trailing {path : Path} {more : List String} {last : Field} (kind : JoinKind) (fetch : Bool)
    (sound : scope.Sound schema) (wellFormed : Path.isWellFormed ⟨path.segments ++ more⟩ = true)
    (ends : schema.fieldAt scope.entity path.segments = some last) (terminal : last.isAssociation = false) :
    (Path.resolve ⟨path.segments ++ more⟩ schema kind fetch).outcome scope =
      (path.resolve schema kind fetch).outcome scope := by
  have alone : path.isWellFormed = true := by
    rw [isWellFormed_iff] at wellFormed ⊢
    rintro (none | empty)
    · rw [none] at ends
      cases ends
    · exact wellFormed (.inr (List.mem_append_left more empty))
  rw [resolve_wellFormed wellFormed, path.resolve_wellFormed alone]
  exact walk_trailing path.segments more sound (List.mem_cons_self ..) ends terminal

/-- Whatever was resolved before, a path leads to the column that the metadata tells of, from the entity that answers to
the root, or fails for the first thing that it lacks. Segments after a column or a collection change nothing. -/
theorem Path.resolve_destination {root : String} (reachable : scope.Reachable schema root) (path : Path)
    (kind : JoinKind) (fetch : Bool) :
    ∃ entity, schema.entity root = .ok entity ∧
      (match path.destination schema entity.name, (path.resolve schema kind fetch).run scope with
        | .ok destination, (.ok column, after) => destination.IsColumn after column
        | .error expected, (.error error, _) => error = expected
        | _, _ => False) ∧
      ∀ more last, Path.isWellFormed ⟨path.segments ++ more⟩ = true →
        schema.fieldAt entity.name path.segments = some last → last.isAssociation = false →
        (Path.resolve ⟨path.segments ++ more⟩ schema kind fetch).run scope = (path.resolve schema kind fetch).run scope := by
  obtain ⟨sound, orderly⟩ := reachable.settled
  obtain ⟨entity, found, begins⟩ := reachable.entity
  have faults := path.resolve_fault kind fetch sound
  rw [← path.destination_fault, begins] at faults
  refine ⟨entity, found, ?_, fun more last wellFormed ends terminal => ?_⟩
  · rcases resolved : (path.resolve schema kind fetch).outcome scope with ⟨outcome, after⟩
    rw [resolved] at faults
    rw [show (path.resolve schema kind fetch).run scope = (outcome, after) from resolved]
    cases outcome with
    | error error =>
      cases leads : path.destination schema entity.name with
      | error expected => simpa [leads, fault?] using faults
      | ok destination => simp [leads, fault?] at faults
    | ok column =>
      obtain ⟨destination, leads, isColumn⟩ := path.resolve_reaches sound orderly resolved
      rw [← begins, leads]
      exact isColumn
  · exact Path.resolve_trailing kind fetch sound wellFormed (begins ▸ ends) terminal

theorem Path.resolve_destination_books :
    ∃ scope : Scope, scope.Reachable books.schema "Book" ∧ scope.joinCount = 1 ∧
      ∃ column after, (Path.resolve ⟨["tags"]⟩ books.schema .inner false).run scope = (.ok column, after) ∧
        (Destination.element ["tags"] "tag").IsColumn after column ∧
        (Path.resolve ⟨["tags", "length"]⟩ books.schema .inner false).run scope = (.ok column, after) := by
  have reachable : Scope.Reachable books.schema "Book" _ :=
    .resolve _ ⟨["author", "age"]⟩ .inner false (.resolve _ ⟨["author", "name"]⟩ .inner false (.start _ rfl))
  obtain ⟨entity, found, leads, trailing⟩ := Path.resolve_destination reachable ⟨["tags"]⟩ .inner false
  cases found
  exact ⟨_, reachable, rfl, _, _, rfl, leads, trailing ["length"] _ rfl rfl rfl⟩

end Resolution

end RecordFilter
