import RecordFilter.Schema

set_option autoImplicit false

namespace RecordFilter

structure Registry where
  entities : List Entity := []

namespace Registry

def find? (registry : Registry) (name : String) : Option Entity :=
  registry.entities.find? fun entity => entity.name = name

def holds (registry : Registry) (name : String) : Bool := (registry.find? name).isSome

def size (registry : Registry) : Nat := registry.entities.length

def isEmpty (registry : Registry) : Bool := registry.entities.isEmpty

def insert (registry : Registry) (entity : Entity) : Registry :=
  ⟨registry.entities.filter (fun held => held.name ≠ entity.name) ++ [entity]⟩

def register (registry : Registry) (entity : Entity) : Except Error Registry :=
  match entity.check with
  | .error error => .error error
  | .ok () => .ok (registry.insert entity)

def attempt (registry : Registry) (entity : Entity) : Registry × Except Error Unit :=
  match registry.register entity with
  | .error error => (registry, .error error)
  | .ok grown => (grown, .ok ())

def registerAll : Registry → List Entity → Except Error Registry
  | registry, [] => .ok registry
  | registry, entity :: rest =>
    match registry.register entity with
    | .error error => .error error
    | .ok grown => registerAll grown rest

def schema (registry : Registry) : Schema where
  entity name :=
    match registry.find? name with
    | some entity => .ok entity
    | none => .error (.unknownEntity name)

end Registry

end RecordFilter
