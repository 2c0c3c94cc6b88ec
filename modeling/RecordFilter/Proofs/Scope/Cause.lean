import RecordFilter.Proofs.Path
import RecordFilter.Proofs.Scope.Independence

set_option autoImplicit false

namespace RecordFilter

inductive Schema.Reaches (schema : Schema) (root : String) : String → Prop where
  | root : Reaches schema root root
  | target (name field : String) (relation : Relation) (reached : Reaches schema root name)
      (declared : schema.field name field = .ok (.association relation)) : Reaches schema root relation.target
  | itself (name : String) (entity : Entity) (reached : Reaches schema root name)
      (given : schema.entity name = .ok entity) : Reaches schema root entity.name

inductive Path.Cause (schema : Schema) (root : String) (path : Path) : Error → Prop where
  | malformed (broken : path.isWellFormed = false) : Cause schema root path (.invalidPath path.text)
  | answered (name : String) (error : Error) (reached : schema.Reaches root name)
      (given : schema.entity name = .error error) : Cause schema root path error
  | untold (name field : String) (error : Error) (reached : schema.Reaches root name) (asked : field ∈ path.segments)
      (given : schema.field name field = .error error) : Cause schema root path error
  | missingPrimaryKey (name : String) (entity : Entity) (reached : schema.Reaches root name)
      (given : schema.entity name = .ok entity) (absent : entity.primaryKey = none) :
      Cause schema root path (.missingPrimaryKey entity.name)

variable {schema : Schema} {root name : String} {path : Path} {error : Error}

theorem bind_error {α β : Type} {result : Except Error α} {next : α → Except Error β}
    (refused : result >>= next = .error error) :
    result = .error error ∨ ∃ first, result = .ok first ∧ next first = .error error := by
  cases result with
  | error first =>
    cases refused
    exact .inl rfl
  | ok first => exact .inr ⟨first, rfl, refused⟩

theorem map_error {α β : Type} {result : Except Error α} {change : α → β} (refused : result.map change = .error error) :
    result = .error error := by
  cases result with
  | error first =>
    cases refused
    rfl
  | ok first => cases refused

theorem Entity.keyColumn_error {entity : Entity} (refused : entity.keyColumn = .error error) :
    entity.primaryKey = none ∧ error = .missingPrimaryKey entity.name := by
  rw [keyColumn] at refused
  split at refused
  · cases refused
  · rename_i absent
    exact ⟨absent, (Except.error.inj refused).symm⟩

theorem Relation.checkKeys_error {relation : Relation} {parent target : Entity}
    (refused : relation.checkKeys parent target = .error error) :
    parent.keyColumn = .error error ∨ target.keyColumn = .error error := by
  cases relation with
  | belongsTo => exact .inr (map_error refused)
  | hasOne | hasMany => exact .inl (map_error refused)
  | manyToMany =>
    rcases bind_error refused with keyless | ⟨_, _, onward⟩
    · exact .inl keyless
    · exact .inr (map_error onward)

namespace Path

theorem cause_keyColumn {entity : Entity} (reached : schema.Reaches root name) (given : schema.entity name = .ok entity)
    (refused : entity.keyColumn = .error error) : path.Cause schema root error := by
  obtain ⟨absent, rfl⟩ := entity.keyColumn_error refused
  exact .missingPrimaryKey name entity reached given absent

theorem cause_keyOf (reached : schema.Reaches root name) (refused : schema.keyOf name = .error error) :
    path.Cause schema root error := by
  rcases bind_error refused with answer | ⟨entity, given, keyless⟩
  · exact .answered name error reached answer
  · exact cause_keyColumn reached given keyless

theorem cause_crossing {field : String} {relation : Relation} (reached : schema.Reaches root name)
    (declared : schema.field name field = .ok (.association relation))
    (refused : schema.crossing name relation = .error error) : path.Cause schema root error := by
  have further : schema.Reaches root relation.target := .target name field relation reached declared
  rcases bind_error refused with answer | ⟨parent, parentGiven, afterParent⟩
  · exact .answered name error reached answer
  rcases bind_error afterParent with answer | ⟨target, targetGiven, afterTarget⟩
  · exact .answered relation.target error further answer
  rcases bind_error afterTarget with keyless | ⟨_, _, finished⟩
  · rcases Relation.checkKeys_error keyless with parentKeyless | targetKeyless
    · exact cause_keyColumn reached parentGiven parentKeyless
    · exact cause_keyColumn further targetGiven targetKeyless
  · cases finished

theorem reaches_crossing {field next : String} {relation : Relation} (reached : schema.Reaches root name)
    (declared : schema.field name field = .ok (.association relation))
    (crosses : schema.crossing name relation = .ok next) : schema.Reaches root next := by
  obtain ⟨parent, _, afterParent⟩ := bind_ok crosses
  obtain ⟨target, given, afterTarget⟩ := bind_ok afterParent
  obtain ⟨_, _, finished⟩ := bind_ok afterTarget
  cases finished
  exact .itself relation.target target (.target name field relation reached declared) given

theorem cause_segments {segments : List String} (reached : schema.Reaches root name) (asked : segments ⊆ path.segments)
    (refused : schema.follow name segments = .error error) : path.Cause schema root error := by
  induction segments generalizing name with
  | nil => exact cause_keyOf reached (map_error refused)
  | cons field rest ih =>
    rw [List.cons_subset] at asked
    rw [Schema.follow] at refused
    rcases bind_error refused with unknown | ⟨found, declared, onward⟩
    · exact .untold name field error reached asked.1 unknown
    · cases found with
      | scalar column => cases onward
      | collection table foreignKey column => exact cause_keyOf reached (map_error onward)
      | association relation =>
        rcases bind_error onward with blocked | ⟨next, crosses, further⟩
        · exact cause_crossing reached declared blocked
        · exact ih (reaches_crossing reached declared crosses) asked.2 further

theorem cause_follow (refused : path.follow schema root = .error error) : path.Cause schema root error := by
  rcases bind_error refused with broken | ⟨_, _, onward⟩
  · obtain ⟨malformed, rfl⟩ := check_error broken
    exact .malformed malformed
  · exact cause_segments .root (List.Subset.refl _) onward

theorem resolve_cause {scope : Scope} {kind : JoinKind} {fetch : Bool} (sound : scope.Sound schema)
    (refused : ((path.resolve schema kind fetch).outcome scope).1 = .error error) :
    path.Cause schema scope.entity error := by
  have faults := path.resolve_fault kind fetch sound
  rw [refused] at faults
  cases follows : path.follow schema scope.entity with
  | ok passed => simp [follows, fault?] at faults
  | error expected =>
    simp only [follows, fault?, Option.some_inj] at faults
    exact cause_follow (faults ▸ follows)

end Path

end RecordFilter
