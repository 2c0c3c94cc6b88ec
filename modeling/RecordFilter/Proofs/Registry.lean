import RecordFilter.Registry

set_option autoImplicit false

namespace RecordFilter

inductive Registry.Registered : Registry → Prop where
  | empty : Registered {}
  | register (registry grown : Registry) (entity : Entity) (before : Registered registry)
      (accepted : registry.register entity = .ok grown) : Registered grown

namespace Text.Keyed

variable {α : Type}

theorem mem_of_find? {name : String} {value : α} {entries : Keyed α} (found : find? name entries = some value) :
    (name, value) ∈ entries := by
  induction entries with
  | nil => cases found
  | cons entry rest ih =>
    obtain ⟨key, held⟩ := entry
    rw [find?] at found
    by_cases same : key = name
    · rw [if_pos same, Option.some.injEq] at found
      rw [same, found]
      exact List.mem_cons_self ..
    · rw [if_neg same] at found
      exact List.mem_cons_of_mem _ (ih found)

end Text.Keyed

namespace Entity

theorem firstFault_none {names : List WrittenName} (passed : firstFault names = none) :
    ∀ name ∈ names, name.check = .ok () := by
  induction names with
  | nil => exact fun _ member => absurd member List.not_mem_nil
  | cons name rest ih =>
    rw [firstFault] at passed
    cases checked : name.check with
    | error fault => simp [checked] at passed
    | ok passedName =>
      rw [checked] at passed
      rw [List.forall_mem_cons]
      exact ⟨checked, ih passed⟩

theorem check_ok {entity : Entity} (checked : entity.check = .ok ()) :
    ∀ name ∈ entity.writtenNames, name.check = .ok () := by
  rw [check] at checked
  cases fault : firstFault entity.writtenNames with
  | some fault => simp [fault] at checked
  | none => exact firstFault_none fault

theorem keyColumn_ok {entity : Entity} {column : String} (key : entity.keyColumn = .ok column) :
    entity.primaryKey = some column := by
  rw [keyColumn] at key
  cases primary : entity.primaryKey with
  | none => simp [primary] at key
  | some found => simpa [primary] using key

theorem keyColumn_checked {entity : Entity} {column : String} (checked : entity.check = .ok ())
    (key : entity.keyColumn = .ok column) : Identifier.checkPart column = .ok () := by
  refine check_ok checked (.part column) ?_
  simp [writtenNames, keyColumn_ok key]

theorem field_checked {entity : Entity} {name : String} {field : Field} (checked : entity.check = .ok ())
    (found : entity.field? name = some field) : ∀ written ∈ field.writtenNames, written.check = .ok () := by
  intro written member
  refine check_ok checked written ?_
  have held := Text.Keyed.mem_of_find? found
  simp only [writtenNames, List.mem_cons, List.mem_append, List.mem_flatMap]
  exact .inr (.inr ⟨(name, field), held, member⟩)

end Entity

def Schema.Plain (schema : Schema) : Prop := schema.field = fieldOf schema.entity

theorem Schema.Plain.field_ok {schema : Schema} (plain : schema.Plain) {entity name : String} {field : Field}
    (declared : schema.field entity name = .ok field) :
    ∃ found, schema.entity entity = .ok found ∧ found.field? name = some field := by
  rw [plain, fieldOf] at declared
  cases entityFound : schema.entity entity with
  | error error => simp [entityFound] at declared
  | ok found =>
    cases fieldFound : found.field? name with
    | none => simp [entityFound, fieldFound] at declared
    | some kind =>
      simp only [entityFound, fieldFound, Except.ok.injEq] at declared
      exact ⟨found, rfl, declared ▸ fieldFound⟩

def Schema.Coherent (schema : Schema) : Prop := ∀ name entity, schema.entity name = .ok entity → entity.name = name

structure Schema.Checked (schema : Schema) : Prop where
  entity : ∀ name entity, schema.entity name = .ok entity → entity.check = .ok ()
  field : ∀ entity name field, schema.field entity name = .ok field → ∀ written ∈ field.writtenNames, written.check = .ok ()

theorem Schema.Plain.checked {schema : Schema} (plain : schema.Plain)
    (entities : ∀ name entity, schema.entity name = .ok entity → entity.check = .ok ()) : schema.Checked := by
  refine ⟨entities, fun entity name field declared => ?_⟩
  obtain ⟨found, held, named⟩ := plain.field_ok declared
  exact Entity.field_checked (entities entity found held) named

theorem Schema.Checked.key {schema : Schema} (checked : schema.Checked) {name column : String} {entity : Entity}
    (found : schema.entity name = .ok entity) (key : entity.keyColumn = .ok column) :
    Identifier.checkPart column = .ok () :=
  Entity.keyColumn_checked (checked.entity name entity found) key

namespace Registry

variable {registry : Registry}

theorem register_ok {entity : Entity} {grown : Registry} (accepted : registry.register entity = .ok grown) :
    entity.check = .ok () ∧ grown = registry.insert entity := by
  rw [register] at accepted
  cases checked : entity.check with
  | error error => simp [checked] at accepted
  | ok passed =>
    rw [checked, Except.ok.injEq] at accepted
    exact ⟨rfl, accepted.symm⟩

theorem Registered.checked (registered : registry.Registered) : ∀ entity ∈ registry.entities, entity.check = .ok () := by
  induction registered with
  | empty => exact fun _ member => absurd member List.not_mem_nil
  | register registry grown entity before accepted ih =>
    obtain ⟨checked, rfl⟩ := register_ok accepted
    intro held member
    rcases List.mem_append.mp member with old | fresh
    · exact ih held (List.mem_filter.mp old).1
    · rw [List.mem_singleton.mp fresh]
      exact checked

theorem schema_entity_ok {name : String} {entity : Entity} (found : registry.schema.entity name = .ok entity) :
    entity ∈ registry.entities ∧ entity.name = name := by
  simp only [schema] at found
  cases held : registry.find? name with
  | none => simp [held] at found
  | some other =>
    simp only [held, Except.ok.injEq] at found
    subst found
    rw [find?] at held
    exact ⟨List.mem_of_find?_eq_some held, by simpa using List.find?_some held⟩

theorem schema_plain (registry : Registry) : registry.schema.Plain := rfl

theorem Registered.schema_checked (registered : registry.Registered) : registry.schema.Checked :=
  registry.schema_plain.checked fun _ entity found => registered.checked entity (schema_entity_ok found).1

theorem schema_coherent (registry : Registry) : registry.schema.Coherent :=
  fun _ _ found => (schema_entity_ok found).2

end Registry

def books : Registry where
  entities := [
    { name := "Author", table := "authors", primaryKey := some "id", fields := [("name", .scalar "name")] },
    { name := "Genre", table := "genres", primaryKey := some "id", fields := [("name", .scalar "name")] },
    { name := "Book", table := "books", primaryKey := some "id", fields := [
        ("author", .association (.belongsTo "Author" "author_id")),
        ("genres", .association (.manyToMany "Genre" "book_genres" "book_id" "genre_id")),
        ("tags", .collection "book_tags" "book_id" "tag")] }]

theorem books_registered : books.Registered := by
  have authors : Registry.Registered ⟨books.entities.take 1⟩ := .register {} _ (books.entities[0]) .empty rfl
  have genres : Registry.Registered ⟨books.entities.take 2⟩ := .register _ _ (books.entities[1]) authors rfl
  exact .register _ _ (books.entities[2]) genres rfl

end RecordFilter
