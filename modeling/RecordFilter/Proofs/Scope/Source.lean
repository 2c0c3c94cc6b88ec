import RecordFilter.Proofs.Registry
import RecordFilter.Proofs.Scope.Binding

set_option autoImplicit false

namespace RecordFilter

inductive Entity.Owns (entity : Entity) : String → Prop where
  | key (column : String) (primary : entity.primaryKey = some column) : Owns entity column
  | scalar (field column : String) (declared : entity.field? field = some (.scalar column)) : Owns entity column
  | foreignKey (field target column : String)
      (declared : entity.field? field = some (.association (.belongsTo target column))) : Owns entity column

def Relation.farKey? : Relation → Option String
  | hasOne _ foreignKey | hasMany _ foreignKey => some foreignKey
  | _ => none

inductive Source where
  | records (entity : Entity) (via : Option Relation)
  | links (through selfKey otherKey : String)
  | elements (table foreignKey column : String)

namespace Source

def table : Source → String
  | records entity _ => entity.table
  | links through _ _ => through
  | elements table _ _ => table

def Gives : Source → String → Prop
  | records entity via, column => entity.Owns column ∨ via.bind Relation.farKey? = some column
  | links _ selfKey otherKey, column => column = selfKey ∨ column = otherKey
  | elements _ foreignKey value, column => column = foreignKey ∨ column = value

end Source

namespace Scope

inductive Binds (schema : Schema) (scope : Scope) : String → Source → Prop where
  | root (entity : Entity) (found : schema.entity scope.entity = .ok entity) :
      Binds schema scope (tableName 0) (.records entity none)
  | related (join : Join) (relation : Relation) (entity : Entity) (held : join ∈ scope.joins)
      (crossed : schema.fieldAt scope.entity join.crossed = some (.association relation))
      (found : schema.entity relation.target = .ok entity) :
      Binds schema scope (tableName join.number) (.records entity (some relation))
  | links (join : Join) (link : JoinClause) (target through selfKey otherKey : String) (held : join ∈ scope.joins)
      (crossed : schema.fieldAt scope.entity join.crossed =
        some (.association (.manyToMany target through selfKey otherKey)))
      (first : join.clauses.head? = some link) : Binds schema scope link.shortName (.links through selfKey otherKey)
  | elements (join : Join) (table foreignKey column : String) (held : join ∈ scope.joins)
      (crossed : schema.fieldAt scope.entity join.crossed = some (.collection table foreignKey column)) :
      Binds schema scope (tableName join.number) (.elements table foreignKey column)

def tables (scope : Scope) : List (String × String) :=
  (tableName 0, scope.table) :: scope.clauses.map fun clause => (clause.shortName, clause.table)

def Justifies (schema : Schema) (scope : Scope) (column : Column) : Prop :=
  ∃ source, scope.Binds schema column.source source ∧ (column.source, source.table) ∈ scope.tables ∧
    source.Gives column.name

def Rooted (schema : Schema) (scope : Scope) : Prop :=
  ∃ entity, schema.entity scope.entity = .ok entity ∧ entity.table = scope.table

variable {schema : Schema} {scope after : Scope}

theorem Step.rooted {event : Event} (taken : Step schema scope event after) (rooted : scope.Rooted schema) :
    after.Rooted schema := by
  cases taken with
  | share join crossed kind fetch found => cases fetch <;> exact rooted
  | _ => exact rooted

theorem Run.rooted {history : List Event} (run : Run schema scope history after) (rooted : scope.Rooted schema) :
    after.Rooted schema :=
  run.keeps (Rooted schema) (fun _ _ _ taken => taken.rooted) rooted

end Scope

section Justified

variable {schema : Schema} {scope : Scope}

theorem Scope.mem_tables {join : Join} {clause : JoinClause} (held : join ∈ scope.joins) (member : clause ∈ join.clauses) :
    (clause.shortName, clause.table) ∈ scope.tables :=
  List.mem_cons_of_mem _ (List.mem_map.mpr ⟨clause, List.mem_flatMap.mpr ⟨join, held, member⟩, rfl⟩)

theorem Scope.Sound.fieldAt (sound : scope.Sound schema) {place : Place} {field : String} {kind : Field}
    (reached : place ∈ scope.places) (declared : schema.field place.entity field = .ok kind) :
    schema.fieldAt scope.entity (place.crossed ++ [field]) = some kind := by
  rw [Schema.fieldAt_snoc, sound.places place reached, Option.bind_some, declared]
  rfl

variable (coherent : schema.Coherent) (sound : scope.Sound schema) (rooted : scope.Rooted schema)
include coherent sound rooted

theorem Scope.place_bound {place : Place} {entity : Entity} (reached : place ∈ scope.places)
    (found : schema.entity place.entity = .ok entity) :
    ∃ via, scope.Binds schema (tableName place.number) (.records entity via) ∧
      (tableName place.number, entity.table) ∈ scope.tables := by
  rcases List.mem_cons.mp reached with rfl | joined
  · obtain ⟨root, rootFound, sameTable⟩ := rooted
    have same : root = entity := Except.ok.inj (rootFound.symm.trans found)
    subst same
    refine ⟨none, .root root found, ?_⟩
    rw [sameTable]
    exact List.mem_cons_self ..
  · obtain ⟨join, held, stands⟩ := List.mem_filterMap.mp joined
    cases sound.joins join held with
    | association from_ field relation kind fetch number _ start declared planned =>
      obtain ⟨parent, target, clauses, _, targetFound, written, rfl⟩ := Schema.associationJoin_ok planned
      cases stands
      have same : target = entity := by
        rw [← coherent _ _ targetFound] at targetFound
        exact Except.ok.inj (targetFound.symm.trans found)
      subst same
      have binds := Binds.related _ relation target held (sound.fieldAt start declared) targetFound
      refine ⟨some relation, binds, ?_⟩
      obtain ⟨clause, member, sameNumber, sameTable⟩ := Relation.clausesAt_target written
      have tabled := mem_tables held member
      rw [JoinClause.shortName, sameNumber, sameTable] at tabled
      exact tabled
    | collection from_ field table foreignKey column kind number _ start declared planned =>
      obtain ⟨parent, parentKey, _, _, rfl⟩ := Schema.collectionJoin_ok planned
      cases stands

theorem Scope.owned_justified {place : Place} {entity : Entity} {column : String} (reached : place ∈ scope.places)
    (found : schema.entity place.entity = .ok entity) (owned : entity.Owns column) :
    scope.Justifies schema (place.column column) := by
  obtain ⟨via, binds, tabled⟩ := place_bound coherent sound rooted reached found
  exact ⟨.records entity via, binds, tabled, .inl owned⟩

variable (plain : schema.Plain)
include plain

theorem Scope.Addresses.justified {column : Column} (addressed : scope.Addresses schema column) :
    scope.Justifies schema column := by
  cases addressed with
  | scalar place field column reached declared =>
    obtain ⟨entity, found, named⟩ := plain.field_ok declared
    exact owned_justified coherent sound rooted reached found (.scalar field column named)
  | key place entity column reached found key =>
    exact owned_justified coherent sound rooted reached found (.key column (Entity.keyColumn_ok key))
  | element place field table foreignKey column kind number join reached declared planned held =>
    obtain ⟨parent, parentKey, _, _, rfl⟩ := Schema.collectionJoin_ok planned
    have binds := Binds.elements _ table foreignKey column held (sound.fieldAt reached declared)
    have tabled := mem_tables held (List.mem_singleton_self _)
    exact ⟨_, binds, tabled, .inr rfl⟩

theorem Scope.clause_justified {join : Join} {clause : JoinClause} (held : join ∈ scope.joins)
    (member : clause ∈ join.clauses) :
    (∃ source, scope.Binds schema clause.shortName source ∧ source.table = clause.table ∧ source.Gives clause.key) ∧
      scope.Justifies schema clause.other := by
  cases sound.joins join held with
  | association place field relation kind fetch number _ reached declared planned =>
    obtain ⟨parent, target, clauses, parentFound, targetFound, written, rfl⟩ := Schema.associationJoin_ok planned
    have crossed := sound.fieldAt reached declared
    have bound := Binds.related _ relation target held crossed targetFound
    have owned (column : String) (owns : parent.Owns column) : scope.Justifies schema (place.column column) :=
      owned_justified coherent sound rooted reached parentFound owns
    have shape := Relation.clausesAt_ok written
    -- The foreign key stands on the parent's table, on the target's, or on that of the links.
    cases relation with
    | belongsTo name key =>
      obtain ⟨targetKey, keyFound, rfl⟩ := shape
      cases List.mem_singleton.mp member
      obtain ⟨found, sameParent, named⟩ := plain.field_ok declared
      cases Except.ok.inj (parentFound.symm.trans sameParent)
      exact ⟨⟨_, bound, rfl, .inl (.key targetKey (Entity.keyColumn_ok keyFound))⟩, owned key (.foreignKey field name key named)⟩
    | hasOne name key | hasMany name key =>
      obtain ⟨parentKey, keyFound, rfl⟩ := shape
      cases List.mem_singleton.mp member
      exact ⟨⟨_, bound, rfl, .inr rfl⟩, owned parentKey (.key parentKey (Entity.keyColumn_ok keyFound))⟩
    | manyToMany name through selfKey otherKey =>
      obtain ⟨parentKey, targetKey, parentKeyFound, targetKeyFound, rfl⟩ := shape
      have linked := Binds.links _ _ name through selfKey otherKey held crossed rfl
      rcases List.mem_cons.mp member with rfl | last
      · exact ⟨⟨_, linked, rfl, .inl rfl⟩, owned parentKey (.key parentKey (Entity.keyColumn_ok parentKeyFound))⟩
      · cases List.mem_singleton.mp last
        refine ⟨⟨_, bound, rfl, .inl (.key targetKey (Entity.keyColumn_ok targetKeyFound))⟩, ?_⟩
        have tabled := mem_tables held (List.mem_cons_self ..)
        exact ⟨_, linked, tabled, .inr rfl⟩
  | collection place field table foreignKey column kind number _ reached declared planned =>
    obtain ⟨parent, parentKey, parentFound, keyFound, rfl⟩ := Schema.collectionJoin_ok planned
    cases List.mem_singleton.mp member
    have crossed := sound.fieldAt reached declared
    have bound := Binds.elements _ table foreignKey column held crossed
    refine ⟨⟨_, bound, rfl, .inl rfl⟩, ?_⟩
    exact owned_justified coherent sound rooted reached parentFound (.key parentKey (Entity.keyColumn_ok keyFound))

end Justified

end RecordFilter
