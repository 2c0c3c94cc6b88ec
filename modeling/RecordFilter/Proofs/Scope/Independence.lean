import RecordFilter.Proofs.Scope.History

set_option autoImplicit false

namespace RecordFilter

variable {α β : Type}

def fault? : Except Error α → Option Error
  | .ok _ => none
  | .error error => some error

theorem fault?_bind (result : Except Error α) (next : α → Except Error β) :
    fault? (result >>= next) =
      match result with
      | .ok value => fault? (next value)
      | .error error => some error := by
  cases result <;> rfl

def Relation.checkKeys (relation : Relation) (parent target : Entity) : Except Error Unit :=
  match relation with
  | .belongsTo _ _ => do
    let _ ← target.keyColumn
  | .hasOne _ _ | .hasMany _ _ => do
    let _ ← parent.keyColumn
  | .manyToMany _ _ _ _ => do
    let _ ← parent.keyColumn
    let _ ← target.keyColumn

theorem Relation.clausesAt_keys (relation : Relation) (kind : JoinKind) (parent target : Entity)
    (near number : Nat) :
    (relation.clausesAt kind parent target near number).map (fun _ => ()) = relation.checkKeys parent target := by
  cases relation with
  | belongsTo =>
    rw [clausesAt, checkKeys]
    cases target.keyColumn <;> rfl
  | hasOne | hasMany =>
    rw [clausesAt, checkKeys]
    cases parent.keyColumn <;> rfl
  | manyToMany =>
    rw [clausesAt, checkKeys]
    cases parent.keyColumn with
    | error error => rfl
    | ok parentKey => cases target.keyColumn <;> rfl

theorem fault?_map (change : α → β) (result : Except Error α) : fault? (result.map change) = fault? result := by
  cases result <;> rfl

namespace Schema

def keyOf (schema : Schema) (entity : String) : Except Error String := do
  let reached ← schema.entity entity
  reached.keyColumn

def crossing (schema : Schema) (entity : String) (relation : Relation) : Except Error String := do
  let parent ← schema.entity entity
  let target ← schema.entity relation.target
  relation.checkKeys parent target
  return target.name

def follow (schema : Schema) : (entity : String) → List String → Except Error Unit
  | entity, [] => (schema.keyOf entity).map fun _ => ()
  | entity, field :: rest => do
    match ← schema.field entity field with
    | .scalar _ => return
    | .collection _ _ _ => (schema.keyOf entity).map fun _ => ()
    | .association relation => schema.follow (← schema.crossing entity relation) rest

theorem crossing_of_associationJoin {schema : Schema} {kind : JoinKind} {fetch : Bool} {place : Place} {field : String}
    {relation : Relation} {number : Nat} {join : Join}
    (planned : schema.associationJoin kind fetch place field relation number = .ok join) :
    (schema.crossing place.entity relation).map some = .ok join.entity := by
  obtain ⟨parent, target, clauses, parentFound, targetFound, written, rfl⟩ := associationJoin_ok planned
  have keys := relation.clausesAt_keys kind parent target place.number number
  rw [written] at keys
  rw [crossing, parentFound, targetFound]
  change (relation.checkKeys parent target >>= fun _ => Except.ok target.name).map some = _
  rw [← keys]
  rfl

end Schema

section Walk

variable {schema : Schema} {scope : Scope} {kind : JoinKind} {fetch : Bool} {place : Place} {field : String}

theorem joinAssociation_crossing (relation : Relation) :
    ((joinAssociation schema kind fetch place field relation).outcome scope).1.map Place.entity =
      schema.crossing place.entity relation := by
  rw [joinAssociation, Schema.crossing, Resolve.outcome_bind, Resolve.outcome_lift]
  cases schema.entity place.entity with
  | error error => rfl
  | ok parent =>
    dsimp only
    rw [Resolve.outcome_bind, Resolve.outcome_lift]
    cases schema.entity relation.target with
    | error error => rfl
    | ok target =>
      dsimp only
      rw [Resolve.outcome_freshNumber_bind, Resolve.outcome_bind,
        Scope.outcome_clauses]
      change _ = relation.checkKeys parent target >>= fun _ => Except.ok target.name
      rw [← relation.clausesAt_keys kind parent target place.number scope.nextNumber]
      cases relation.clausesAt kind parent target place.number scope.nextNumber <;> rfl

theorem crossAssociation_crossing {relation : Relation} (sound : scope.Sound schema) (reached : place ∈ scope.places)
    (declared : schema.field place.entity field = .ok (.association relation)) :
    ((crossAssociation schema kind fetch place field relation).outcome scope).1.map Place.entity =
      schema.crossing place.entity relation := by
  simp only [crossAssociation]
  rw [Resolve.outcome_bind, Resolve.outcome_get]
  cases found : scope.association? (place.crossed ++ [field]) with
  | none =>
    simp only [found]
    exact joinAssociation_crossing relation
  | some join =>
    obtain ⟨related, crosses⟩ := (join.leadsTo_iff _).mp (List.find?_some found)
    cases sound.joins join (List.mem_of_find?_eq_some found) with
    | collection from_ name table foreignKey column earlier number _ stood declaredThen planned =>
      obtain ⟨parent, parentKey, _, _, rfl⟩ := Schema.collectionJoin_ok planned
      cases related
    | association from_ name other earlier asked number _ stood declaredThen planned =>
      have passed := Schema.crossing_of_associationJoin planned
      obtain ⟨parent, target, clauses, _, _, _, rfl⟩ := Schema.associationJoin_ok planned
      obtain ⟨sameStart, sameName⟩ := List.append_inj' crosses rfl
      -- The join was made from this very place, since the fields crossed settle the entity.
      have sameEntity : from_.entity = place.entity := by
        have there := sound.places from_ stood
        rw [sameStart, sound.places place reached] at there
        exact (Option.some.inj there).symm
      cases List.cons.inj sameName |>.1
      rw [sameEntity, declared] at declaredThen
      cases declaredThen
      rw [sameEntity] at passed
      have crossing : schema.crossing place.entity relation = .ok target.name := by
        cases leads : schema.crossing place.entity relation with
        | error error => simp [leads, Except.map] at passed
        | ok next => simpa [leads, Except.map] using passed
      rw [crossing]
      simp only [found]
      cases fetch <;> rfl

theorem joinCollection_fault (table foreignKey column : String) :
    fault? ((joinCollection schema kind place field table foreignKey column).outcome scope).1 =
      fault? (schema.keyOf place.entity) := by
  rw [joinCollection, Resolve.outcome_bind, Resolve.outcome_lift, Schema.keyOf, fault?_bind]
  cases schema.entity place.entity with
  | error error => rfl
  | ok parent =>
    dsimp only
    rw [Resolve.outcome_bind, Resolve.outcome_lift]
    cases parent.keyColumn <;> rfl

theorem walk_fault (segments : List String) (sound : scope.Sound schema) (reached : place ∈ scope.places) :
    fault? ((walk schema kind fetch segments place).outcome scope).1 = fault? (schema.follow place.entity segments) := by
  induction segments generalizing place scope with
  | nil =>
    rw [walk, Schema.follow, fault?_map, Resolve.outcome_bind, Resolve.outcome_lift, Schema.keyOf, fault?_bind]
    cases schema.entity place.entity with
    | error error => rfl
    | ok entity =>
      dsimp only
      rw [Resolve.outcome_bind, Resolve.outcome_lift]
      cases entity.keyColumn <;> rfl
  | cons field rest ih =>
    rw [walk, Schema.follow, Resolve.outcome_bind, Resolve.outcome_lift, fault?_bind]
    cases declared : schema.field place.entity field with
    | error error => rfl
    | ok found =>
      cases found with
      | scalar column => rfl
      | collection table foreignKey column => exact (joinCollection_fault table foreignKey column).trans (fault?_map _ _).symm
      | association relation =>
        dsimp only
        rw [Resolve.outcome_bind, fault?_bind, ← crossAssociation_crossing sound reached declared]
        rcases crossed : (crossAssociation schema kind fetch place field relation).outcome scope with ⟨outcome, between⟩
        cases outcome with
        | error error => rfl
        | ok next =>
          obtain ⟨step, standing, _⟩ := crossAssociation_step reached declared crossed
          exact ih (step.sound sound) standing

end Walk

section Resolution

variable {schema : Schema} {scope : Scope}

def Path.follow (schema : Schema) (root : String) (path : Path) : Except Error Unit := do
  path.check
  schema.follow root path.segments

theorem Path.resolve_fault (path : Path) (kind : JoinKind) (fetch : Bool) (sound : scope.Sound schema) :
    fault? ((path.resolve schema kind fetch).outcome scope).1 = fault? (path.follow schema scope.entity) := by
  rw [Path.resolve, Path.follow, Resolve.outcome_bind, Resolve.outcome_lift, fault?_bind]
  cases path.check with
  | error error => rfl
  | ok passed => exact walk_fault path.segments sound (List.mem_cons_self ..)

theorem Predicate.resolve_fault (predicate : Predicate) (sound : scope.Sound schema) :
    fault? ((predicate.resolve schema).outcome scope).1 =
      fault? (predicate.options.path.follow schema scope.entity) := by
  have step : Scope.Step schema scope _ _ := .distinct scope predicate.options.distinct
  have alone := predicate.options.path.resolve_fault predicate.options.join predicate.options.fetch (step.sound sound)
  refine Eq.trans ?_ alone
  rw [Predicate.resolve, Resolve.outcome_bind, Resolve.outcome_modify]
  dsimp only
  rw [Resolve.outcome_bind]
  rcases (predicate.options.path.resolve schema predicate.options.join predicate.options.fetch).outcome _ with ⟨outcome, after⟩
  cases outcome <;> rfl

end Resolution

end RecordFilter
