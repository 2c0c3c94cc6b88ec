import RecordFilter.Entity

set_option autoImplicit false

namespace RecordFilter

def fieldOf (entity : String → Except Error Entity) (name field : String) : Except Error Field :=
  match entity name with
  | .error error => .error error
  | .ok found =>
    match found.field? field with
    | some kind => .ok kind
    | none => .error (.unknownField name field)

structure Schema where
  entity : String → Except Error Entity
  field : String → String → Except Error Field := fieldOf entity

namespace Schema

def isAssociation (schema : Schema) (entity field : String) : Except Error Bool :=
  (schema.field entity field).map Field.isAssociation

def isCollection (schema : Schema) (entity field : String) : Except Error Bool :=
  (schema.field entity field).map Field.isCollection

def aliased (schema : Schema) (aliases : Text.Keyed String) : Schema where
  entity name := schema.entity ((Text.Keyed.find? name aliases).getD name)

def failing (schema : Schema) (failures : Text.Keyed Error) : Schema where
  entity name :=
    match Text.Keyed.find? name failures with
    | some error => .error error
    | none => schema.entity name

end Schema

end RecordFilter
