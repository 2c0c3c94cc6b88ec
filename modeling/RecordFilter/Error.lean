set_option autoImplicit false

namespace RecordFilter

inductive Error where
  | unknownEntity (name : String)
  | unknownField (entity field : String)
  | invalidPath (path : String)
  | missingPrimaryKey (entity : String)
  | database
  | notFound (reason : String)
  | decode (column reason : String)
  | validation (reason : String)
  | other (reason : String)
deriving DecidableEq

namespace Error

def message : Error → String
  | unknownEntity name => "Unknown entity: " ++ name
  | unknownField entity field => "Unknown field '" ++ field ++ "' on entity '" ++ entity ++ "'"
  | invalidPath path => "Invalid attribute path '" ++ path ++ "'"
  | missingPrimaryKey entity => "Entity '" ++ entity ++ "' has no primary key"
  | database => "Query error: db error"
  | notFound reason => "Not found: " ++ reason
  | decode column reason => "Decode error on column '" ++ column ++ "': " ++ reason
  | validation reason => "Validation error: " ++ reason
  | other reason => reason

def isResolution : Error → Bool
  | unknownEntity _ | unknownField _ _ | invalidPath _ | missingPrimaryKey _ => true
  | _ => false

def isNotFound : Error → Bool
  | notFound _ => true
  | _ => false

end Error

theorem bind_ok {ε α β : Type} {result : Except ε α} {next : α → Except ε β} {value : β}
    (succeeded : result >>= next = .ok value) : ∃ first, result = .ok first ∧ next first = .ok value := by
  cases result with
  | error error => cases succeeded
  | ok first => exact ⟨first, rfl, succeeded⟩

-- An attempt that may fail, and keeps what it did to its state until then.
abbrev Resolve (σ α : Type) := ExceptT Error (StateM σ) α

end RecordFilter
