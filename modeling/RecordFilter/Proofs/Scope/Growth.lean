import RecordFilter.Proofs.Outcome
import RecordFilter.Statement

set_option autoImplicit false

namespace RecordFilter

theorem toList_tableName (number : Nat) : (tableName number).toList = 't' :: Nat.toDigits 10 number := by
  rw [tableName, String.toList_append, Nat.toString_eq_repr, Nat.toList_repr]
  rfl

namespace Resolve

variable {β : Type}

theorem outcome_freshNumber (scope : Scope) :
    freshNumber.outcome scope = (.ok scope.nextNumber, { scope with nextNumber := scope.nextNumber + 1 }) := rfl

theorem outcome_freshNumber_bind (next : Nat → Resolve Scope β) (scope : Scope) :
    (freshNumber >>= next).outcome scope =
      (next scope.nextNumber).outcome { scope with nextNumber := scope.nextNumber + 1 } := by
  rw [outcome_bind, outcome_freshNumber]

end Resolve

def Relation.clausesAt (relation : Relation) (kind : JoinKind) (parent target : Entity) (near number : Nat) :
    Except Error (List JoinClause) :=
  match relation with
  | .belongsTo _ foreignKey => do
    let targetKey ← target.keyColumn
    return [⟨kind, target.table, number, targetKey, columnOf near foreignKey⟩]
  | .hasOne _ foreignKey | .hasMany _ foreignKey => do
    let parentKey ← parent.keyColumn
    return [⟨kind, target.table, number, foreignKey, columnOf near parentKey⟩]
  | .manyToMany _ through selfKey otherKey => do
    let parentKey ← parent.keyColumn
    let targetKey ← target.keyColumn
    return [⟨kind, through, number + 1, selfKey, columnOf near parentKey⟩,
      ⟨kind, target.table, number, targetKey, columnOf (number + 1) otherKey⟩]

theorem Relation.outcome_clauses {σ : Type} (relation : Relation) (kind : JoinKind) (parent target : Entity)
    (near number : Nat) {next : Resolve σ Nat} (counting : Nat → σ)
    (counts : next.outcome (counting (number + 1)) = (.ok (number + 1), counting (number + 2))) :
    (relation.clauses kind parent target near number next).outcome (counting (number + 1)) =
      match relation.clausesAt kind parent target near number with
      | .ok clauses => (.ok clauses, counting (number + clauses.length))
      | .error error => (.error error, counting (number + 1)) := by
  cases relation with
  | belongsTo name key =>
    simp only [clauses, clausesAt, Resolve.outcome_bind, Resolve.outcome_lift, Resolve.outcome_pure]
    cases target.keyColumn <;> rfl
  | hasOne name key | hasMany name key =>
    simp only [clauses, clausesAt, Resolve.outcome_bind, Resolve.outcome_lift, Resolve.outcome_pure]
    cases parent.keyColumn <;> rfl
  | manyToMany name through selfKey otherKey =>
    simp only [clauses, clausesAt, Resolve.outcome_bind, Resolve.outcome_lift, Resolve.outcome_pure]
    cases parent.keyColumn with
    | error error => rfl
    | ok parentKey =>
      cases target.keyColumn with
      | error error => rfl
      | ok targetKey =>
        dsimp only
        rw [counts]
        rfl

theorem Scope.outcome_clauses (scope : Scope) (relation : Relation) (kind : JoinKind) (parent target : Entity) (near : Nat) :
    (relation.clauses kind parent target near scope.nextNumber freshNumber).outcome
        { scope with nextNumber := scope.nextNumber + 1 } =
      match relation.clausesAt kind parent target near scope.nextNumber with
      | .ok clauses => (.ok clauses, { scope with nextNumber := scope.nextNumber + clauses.length })
      | .error error => (.error error, { scope with nextNumber := scope.nextNumber + 1 }) :=
  relation.outcome_clauses kind parent target near scope.nextNumber (fun next => { scope with nextNumber := next }) rfl

theorem Relation.clausesAt_ok {relation : Relation} {kind : JoinKind} {parent target : Entity} {near number : Nat}
    {clauses : List JoinClause}
    (written : relation.clausesAt kind parent target near number = .ok clauses) :
    match relation with
    | .belongsTo _ foreignKey => ∃ targetKey, target.keyColumn = .ok targetKey ∧
      clauses = [⟨kind, target.table, number, targetKey, columnOf near foreignKey⟩]
    | .hasOne _ foreignKey | .hasMany _ foreignKey => ∃ parentKey, parent.keyColumn = .ok parentKey ∧
      clauses = [⟨kind, target.table, number, foreignKey, columnOf near parentKey⟩]
    | .manyToMany _ through selfKey otherKey => ∃ parentKey targetKey, parent.keyColumn = .ok parentKey ∧
      target.keyColumn = .ok targetKey ∧
      clauses = [⟨kind, through, number + 1, selfKey, columnOf near parentKey⟩,
        ⟨kind, target.table, number, targetKey, columnOf (number + 1) otherKey⟩] := by
  cases relation with
  | belongsTo name key =>
    rw [clausesAt] at written
    obtain ⟨targetKey, found, same⟩ := bind_ok written
    exact ⟨targetKey, found, (Except.ok.inj same).symm⟩
  | hasOne name key | hasMany name key =>
    rw [clausesAt] at written
    obtain ⟨parentKey, found, same⟩ := bind_ok written
    exact ⟨parentKey, found, (Except.ok.inj same).symm⟩
  | manyToMany name through selfKey otherKey =>
    rw [clausesAt] at written
    obtain ⟨parentKey, parentFound, onward⟩ := bind_ok written
    obtain ⟨targetKey, targetFound, same⟩ := bind_ok onward
    exact ⟨parentKey, targetKey, parentFound, targetFound, (Except.ok.inj same).symm⟩

theorem Relation.clausesAt_kind {relation : Relation} {kind : JoinKind} {parent target : Entity} {near number : Nat}
    {clauses : List JoinClause} (written : relation.clausesAt kind parent target near number = .ok clauses) :
    clauses ≠ [] ∧ ∀ clause ∈ clauses, clause.kind = kind := by
  have shape := clausesAt_ok written
  cases relation with
  | belongsTo name key | hasOne name key | hasMany name key =>
    obtain ⟨_, _, rfl⟩ := shape
    simp
  | manyToMany name through selfKey otherKey =>
    obtain ⟨_, _, _, _, rfl⟩ := shape
    simp

theorem Relation.clausesAt_target {relation : Relation} {kind : JoinKind} {parent target : Entity} {near number : Nat}
    {clauses : List JoinClause} (written : relation.clausesAt kind parent target near number = .ok clauses) :
    ∃ clause ∈ clauses, clause.number = number ∧ clause.table = target.table := by
  have shape := clausesAt_ok written
  cases relation with
  | belongsTo name key | hasOne name key | hasMany name key =>
    obtain ⟨_, _, rfl⟩ := shape
    exact ⟨_, List.mem_singleton_self _, rfl, rfl⟩
  | manyToMany name through selfKey otherKey =>
    obtain ⟨_, _, _, _, rfl⟩ := shape
    exact ⟨_, List.mem_cons_of_mem _ (List.mem_singleton_self _), rfl, rfl⟩

namespace Schema

def associationJoin (schema : Schema) (kind : JoinKind) (fetch : Bool) (place : Place) (field : String)
    (relation : Relation) (number : Nat) : Except Error Join := do
  let parent ← schema.entity place.entity
  let target ← schema.entity relation.target
  let clauses ← relation.clausesAt kind parent target place.number number
  return ⟨place.crossed ++ [field], some target.name, number, fetch, clauses⟩

def collectionJoin (schema : Schema) (kind : JoinKind) (place : Place) (field table foreignKey : String)
    (number : Nat) : Except Error Join := do
  let parent ← schema.entity place.entity
  let parentKey ← parent.keyColumn
  return ⟨place.crossed ++ [field], none, number, false,
    [⟨kind, table, number, foreignKey, place.column parentKey⟩]⟩

def across (schema : Schema) (entity field : String) : Option String :=
  match schema.field entity field with
  | .ok (.association relation) => (schema.entity relation.target).toOption.map Entity.name
  | _ => none

def entityAt (schema : Schema) (entity : String) (crossed : List String) : Option String :=
  crossed.foldlM schema.across entity

def fieldAt (schema : Schema) (entity : String) (crossed : List String) : Option Field := do
  let reached ← schema.entityAt entity crossed.dropLast
  let field ← crossed.getLast?
  (schema.field reached field).toOption

theorem fieldAt_snoc (schema : Schema) (entity field : String) (crossed : List String) :
    schema.fieldAt entity (crossed ++ [field]) =
      (schema.entityAt entity crossed).bind fun reached => (schema.field reached field).toOption := by
  simp only [fieldAt, List.dropLast_concat, List.getLast?_concat]
  rfl

theorem entityAt_snoc (schema : Schema) (entity field : String) (crossed : List String) :
    schema.entityAt entity (crossed ++ [field]) =
      (schema.entityAt entity crossed).bind fun reached => schema.across reached field := by
  simp only [entityAt, List.foldlM_append, List.foldlM_cons, List.foldlM_nil, bind_pure]
  rfl

theorem entityAt_cons (schema : Schema) (entity field : String) (rest : List String) :
    schema.entityAt entity (field :: rest) = (schema.across entity field).bind fun next => schema.entityAt next rest := rfl

theorem fieldAt_singleton (schema : Schema) (entity field : String) :
    schema.fieldAt entity [field] = (schema.field entity field).toOption := rfl

theorem fieldAt_cons (schema : Schema) (entity field : String) {rest : List String} (more : rest ≠ []) :
    schema.fieldAt entity (field :: rest) = (schema.across entity field).bind fun next => schema.fieldAt next rest := by
  obtain ⟨second, others, rfl⟩ := List.exists_cons_of_ne_nil more
  simp only [fieldAt, List.dropLast_cons_cons, entityAt_cons, List.getLast?_cons_cons]
  cases schema.across entity field <;> rfl

theorem association_of_across {schema : Schema} {entity field next : String} (far : schema.across entity field = some next) :
    ∃ relation, schema.field entity field = .ok (.association relation) := by
  rw [across] at far
  split at far
  · rename_i relation declared
    exact ⟨relation, declared⟩
  · cases far

end Schema

def Join.place? (join : Join) : Option Place := join.entity.map fun entity => ⟨join.crossed, entity, join.number⟩

namespace Scope

def places (scope : Scope) : List Place := scope.root :: scope.joins.filterMap Join.place?

def extend (scope : Scope) (join : Join) : Scope :=
  { scope with joins := scope.joins ++ [join], nextNumber := scope.nextNumber + join.clauses.length }

def share (scope : Scope) (crossed : List String) (fetch : Bool) : Scope :=
  if fetch then scope.requestFetch crossed else scope

inductive Event where
  | distinct (flag : Bool)
  | cross (crossed : List String) (kind : JoinKind) (fetch : Bool)
  | collect (crossed : List String) (kind : JoinKind)
deriving DecidableEq

-- A step says what the metadata had to declare for it, not how the walk came to ask for it.
inductive Step (schema : Schema) : Scope → Event → Scope → Prop where
  | distinct (scope : Scope) (flag : Bool) : Step schema scope (.distinct flag) (scope.setDistinct flag)
  | share (scope : Scope) (join : Join) (crossed : List String) (kind : JoinKind) (fetch : Bool)
      (found : scope.association? crossed = some join) :
      Step schema scope (.cross crossed kind fetch) (scope.share crossed fetch)
  | associate (scope : Scope) (place : Place) (field : String) (relation : Relation) (kind : JoinKind) (fetch : Bool)
      (join : Join) (reached : place ∈ scope.places)
      (declared : schema.field place.entity field = .ok (.association relation))
      (absent : scope.association? (place.crossed ++ [field]) = none)
      (planned : schema.associationJoin kind fetch place field relation scope.nextNumber = .ok join) :
      Step schema scope (.cross (place.crossed ++ [field]) kind fetch) (scope.extend join)
  | collect (scope : Scope) (place : Place) (field table foreignKey column : String) (kind : JoinKind) (join : Join)
      (reached : place ∈ scope.places)
      (declared : schema.field place.entity field = .ok (.collection table foreignKey column))
      (planned : schema.collectionJoin kind place field table foreignKey scope.nextNumber = .ok join) :
      Step schema scope (.collect (place.crossed ++ [field]) kind) (scope.extend join)

inductive Run (schema : Schema) : Scope → List Event → Scope → Prop where
  | done (scope : Scope) : Run schema scope [] scope
  | step (scope : Scope) (event : Event) (between : Scope) (rest : List Event) (after : Scope)
      (taken : Step schema scope event between) (onward : Run schema between rest after) :
      Run schema scope (event :: rest) after

theorem Run.append {schema : Schema} {scope between after : Scope} {first second : List Event}
    (left : Run schema scope first between) (right : Run schema between second after) :
    Run schema scope (first ++ second) after := by
  induction left with
  | done scope => exact right
  | step scope event middle rest between taken onward ih => exact .step scope event middle _ after taken (ih right)

theorem Run.keeps {schema : Schema} (invariant : Scope → Prop)
    (kept : ∀ scope event after, Step schema scope event after → invariant scope → invariant after)
    {scope after : Scope} {history : List Event} (run : Run schema scope history after) (holds : invariant scope) :
    invariant after := by
  induction run with
  | done scope => exact holds
  | step scope event between rest after taken onward ih => exact ih (kept scope event between taken holds)

end Scope

end RecordFilter
