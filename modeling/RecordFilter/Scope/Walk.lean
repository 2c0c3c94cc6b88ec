import RecordFilter.Path
import RecordFilter.Schema
import RecordFilter.Scope

set_option autoImplicit false

namespace RecordFilter

structure Place where
  crossed : List String
  entity : String
  number : Nat
deriving DecidableEq

def Scope.root (scope : Scope) : Place := ⟨[], scope.entity, 0⟩

def Place.column (place : Place) (name : String) : Column := columnOf place.number name

def freshNumber : Resolve Scope Nat := modifyGet fun scope => (scope.nextNumber, { scope with nextNumber := scope.nextNumber + 1 })

def joinAssociation (schema : Schema) (kind : JoinKind) (fetch : Bool) (place : Place) (field : String)
    (relation : Relation) : Resolve Scope Place := do
  let parent ← schema.entity place.entity
  let target ← schema.entity relation.target
  let number ← freshNumber
  let clauses ← relation.clauses kind parent target place.number number freshNumber
  let crossed := place.crossed ++ [field]
  modify (Scope.addJoin ⟨crossed, some target.name, number, fetch, clauses⟩)
  return ⟨crossed, target.name, number⟩

def crossAssociation (schema : Schema) (kind : JoinKind) (fetch : Bool) (place : Place) (field : String)
    (relation : Relation) : Resolve Scope Place := do
  let crossed := place.crossed ++ [field]
  match (← get).association? crossed with
  | some ⟨_, some entity, number, _, _⟩ =>
    if fetch then modify (Scope.requestFetch crossed)
    return ⟨crossed, entity, number⟩
  | _ => joinAssociation schema kind fetch place field relation

-- Every filter on a collection joins it anew, so that two filters may be met by different values.
def joinCollection (schema : Schema) (kind : JoinKind) (place : Place) (field table foreignKey column : String) :
    Resolve Scope Column := do
  let parent ← schema.entity place.entity
  let parentKey ← parent.keyColumn
  let number ← freshNumber
  let clause : JoinClause := ⟨kind, table, number, foreignKey, place.column parentKey⟩
  modify (Scope.addJoin ⟨place.crossed ++ [field], none, number, false, [clause]⟩)
  return columnOf number column

-- A column or a collection ends the walk, whatever segments are left; a walk over associations alone ends at
-- the key of the last entity.
def walk (schema : Schema) (kind : JoinKind) (fetch : Bool) : List String → Place → Resolve Scope Column
  | [], place => do
    let entity ← schema.entity place.entity
    return place.column (← entity.keyColumn)
  | field :: rest, place => do
    match ← schema.field place.entity field with
    | .scalar column => return place.column column
    | .collection table foreignKey column => joinCollection schema kind place field table foreignKey column
    | .association relation =>
      let next ← crossAssociation schema kind fetch place field relation
      walk schema kind fetch rest next

def Path.resolve (path : Path) (schema : Schema) (kind : JoinKind) (fetch : Bool) : Resolve Scope Column := do
  path.check
  walk schema kind fetch path.segments (← get).root

end RecordFilter
