import RecordFilter.Proofs.Condition.Named
import RecordFilter.Proofs.Scope.Source
import RecordFilter.Proofs.Specification.Query

set_option autoImplicit false

namespace RecordFilter

namespace Condition

theorem negatedWhen_columns (negated : Bool) (condition : Condition) :
    (condition.negatedWhen negated).columns = condition.columns := by
  cases negated <;> rfl

theorem test_columns (test : Test) (column : Column) (negated : Bool) :
    ∀ used ∈ (test.condition column negated).columns, used = column := by
  intro used member
  cases test with
  | equal | membership | like | null => exact List.mem_singleton.mp member
  | range ends form =>
    rw [Test.condition] at member
    rcases form.condition_shape column negated ends with
      ⟨sign, value, same⟩ | ⟨low, high, same⟩ | ⟨lower, low, upper, high, same⟩ | same
    · rw [same, negatedWhen_columns] at member
      exact List.mem_singleton.mp member
    · rw [same] at member
      exact List.mem_singleton.mp member
    · rw [same, negatedWhen_columns] at member
      simpa [columns, columnsOf, Sign.condition] using member
    · rw [same] at member
      cases member

end Condition

namespace Outline

variable {resolved : Nat → Condition} {column : Column}

mutual
theorem condition_columns (outline : Outline) (member : column ∈ (outline.condition resolved).columns) :
    ∃ position, column ∈ (resolved position).columns := by
  cases outline with
  | predicate position => exact ⟨position, member⟩
  | all parts | any parts => exact conditions_columns parts member
  | negation inner | group inner => exact condition_columns inner member

theorem conditions_columns (parts : List Outline) (member : column ∈ Condition.columnsOf (conditions resolved parts)) :
    ∃ position, column ∈ (resolved position).columns := by
  cases parts with
  | nil => cases member
  | cons part rest =>
    rcases List.mem_append.mp member with here | there
    · exact condition_columns part here
    · exact conditions_columns rest there
end

end Outline

variable {schema : Schema} {scope : Scope}

def Scope.isLinked (schema : Schema) (scope : Scope) (join : Join) : Bool :=
  match schema.fieldAt scope.entity join.crossed with
  | some (.association (.manyToMany _ _ _ _)) => true
  | _ => false

theorem Scope.Sound.clauses_length (sound : scope.Sound schema) {join : Join} (held : join ∈ scope.joins) :
    join.clauses.length = 1 + if scope.isLinked schema join then 1 else 0 := by
  cases sound.joins join held with
  | association place field relation kind fetch number _ reached declared planned =>
    obtain ⟨parent, target, clauses, _, _, written, rfl⟩ := Schema.associationJoin_ok planned
    have shape := Relation.clausesAt_ok written
    rw [isLinked, sound.fieldAt reached declared]
    cases relation with
    | belongsTo | hasOne | hasMany =>
      obtain ⟨_, _, rfl⟩ := shape
      rfl
    | manyToMany =>
      obtain ⟨_, _, _, _, rfl⟩ := shape
      rfl
  | collection place field table foreignKey column kind number _ reached declared planned =>
    obtain ⟨parent, parentKey, _, _, rfl⟩ := Schema.collectionJoin_ok planned
    rw [isLinked, sound.fieldAt reached declared]
    rfl

theorem length_clauses {linked : Join → Bool} {joins : List Join}
    (each : ∀ join ∈ joins, join.clauses.length = 1 + if linked join then 1 else 0) :
    (joins.flatMap Join.clauses).length = joins.length + joins.countP linked := by
  induction joins with
  | nil => rfl
  | cons join rest ih =>
    rw [List.forall_mem_cons] at each
    rw [List.flatMap_cons, List.length_append, each.1, ih each.2, List.length_cons, List.countP_cons]
    omega

namespace Text

theorem concat_append (first second : List String) :
    "".intercalate (first ++ second) = "".intercalate first ++ "".intercalate second := by
  by_cases noneFirst : first = []
  · simp [noneFirst]
  · by_cases noneSecond : second = []
    · simp [noneSecond]
    · rw [String.intercalate_append_of_ne_nil noneFirst noneSecond, String.append_empty]

theorem spaced (texts : List String) (nonempty : texts ≠ []) :
    " " ++ " ".intercalate texts = "".intercalate (texts.map fun text => " " ++ text) := by
  induction texts with
  | nil => exact absurd rfl nonempty
  | cons text rest ih =>
    cases rest with
    | nil => simp
    | cons second more =>
      have onward := ih (by simp)
      rw [String.intercalate_cons_cons, List.map_cons, List.map_cons, String.intercalate_cons_cons, ← List.map_cons, ← onward]
      simp [String.append_assoc]

end Text

theorem Scope.Sound.clauses_count (sound : scope.Sound schema) :
    scope.clauses.length = scope.joinCount + scope.joins.countP (scope.isLinked schema) :=
  length_clauses fun _ held => sound.clauses_length held

def JoinClause.written (clauses : List JoinClause) : String := "".intercalate (clauses.map fun clause => " " ++ clause.text)

theorem JoinClause.written_append (first second : List JoinClause) :
    written (first ++ second) = written first ++ written second := by
  rw [written, List.map_append, Text.concat_append]
  rfl

theorem Scope.Sound.joinsText_eq (sound : scope.Sound schema) : scope.joinsText = JoinClause.written scope.clauses := by
  have each (joins : List Join) (some : ∀ join ∈ joins, join.clauses ≠ []) :
      "".intercalate (joins.map fun join => " " ++ join.text) = JoinClause.written (joins.flatMap Join.clauses) := by
    induction joins with
    | nil => rfl
    | cons join rest ih =>
      rw [List.forall_mem_cons] at some
      have here := Text.spaced (join.clauses.map JoinClause.text) (by simpa using some.1)
      rw [List.map_map] at here
      rw [List.map_cons, List.flatMap_cons, JoinClause.written_append, ← ih some.2, ← List.singleton_append,
        Text.concat_append, String.intercalate_singleton, Join.text, here]
      rfl
  -- A join without clauses would leave a blank that belongs to none.
  refine each scope.joins fun join held none => ?_
  have width := sound.clauses_length held
  rw [none, List.length_nil] at width
  omega

theorem Scope.Sound.tablesText_eq (sound : scope.Sound schema) :
    scope.tablesText = scope.table ++ " " ++ tableName 0 ++
      "".intercalate (scope.clauses.map fun clause => " " ++ clause.text) := by
  rw [tablesText, sound.joinsText_eq]
  rfl

theorem Scope.Justifies.bound {column : Column} (justified : scope.Justifies schema column) :
    column.source ∈ scope.shortNames := by
  obtain ⟨source, _, tabled, _⟩ := justified
  rcases List.mem_cons.mp tabled with root | joined
  · rw [(Prod.mk.inj root).1]
    exact List.mem_cons_self ..
  · obtain ⟨clause, member, same⟩ := List.mem_map.mp joined
    rw [← (Prod.mk.inj same).1]
    exact List.mem_cons_of_mem _ (List.mem_map.mpr ⟨clause, member, rfl⟩)

section Clauses

variable (coherent : schema.Coherent) (sound : scope.Sound schema) (rooted : scope.Rooted schema) (plain : schema.Plain)
include coherent sound rooted plain

theorem Scope.tables_bound : ∀ bound ∈ scope.tables, ∃ source, scope.Binds schema bound.1 source ∧ source.table = bound.2 := by
  intro bound member
  rcases List.mem_cons.mp member with rfl | joined
  · obtain ⟨entity, found, sameTable⟩ := rooted
    exact ⟨.records entity none, .root entity found, sameTable⟩
  · obtain ⟨clause, written, rfl⟩ := List.mem_map.mp joined
    obtain ⟨join, held, inside⟩ := List.mem_flatMap.mp written
    obtain ⟨⟨source, binds, sameTable, _⟩, _⟩ := clause_justified coherent sound rooted plain held inside
    exact ⟨source, binds, sameTable⟩

theorem Scope.clauses_justified :
    ∀ clause ∈ scope.clauses, ∀ column ∈ clause.columns, scope.Justifies schema column := by
  intro clause written column member
  obtain ⟨join, held, inside⟩ := List.mem_flatMap.mp written
  obtain ⟨⟨source, binds, sameTable, gives⟩, other⟩ := clause_justified coherent sound rooted plain held inside
  simp only [JoinClause.columns, List.mem_cons, List.not_mem_nil, or_false] at member
  rcases member with rfl | rfl
  · have tabled := mem_tables held inside
    rw [← sameTable] at tabled
    exact ⟨source, binds, tabled, gives⟩
  · exact other

end Clauses

theorem Query.Follows.addresses {entity : Entity} {specification : Specification} {orderings : List (Path × Direction)}
    {conditions : List Condition} {query : Query}
    (follows : query.Follows schema entity specification orderings conditions) :
    ∀ condition ∈ query.filter, ∀ column ∈ condition.columns, query.scope.Addresses schema column := by
  intro condition filtered column member
  rw [follows.filter, Option.mem_def, Option.map_eq_some_iff] at filtered
  obtain ⟨restriction, _, rfl⟩ := filtered
  obtain ⟨position, used⟩ := (restriction.outline 0).condition_columns member
  rcases follows.condition_at position with always | ⟨predicate, _, tested, addressed, same⟩
  · rw [always] at used
    cases used
  · rw [same] at used
    rw [Condition.test_columns predicate.test tested predicate.options.negated column used]
    exact addressed

end RecordFilter
