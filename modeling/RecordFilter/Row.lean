import RecordFilter.Error

set_option autoImplicit false

namespace RecordFilter

variable {ρ α : Type}

-- What a database client tells of its rows: the names of their columns, and a column read by its name, or why it cannot be.
structure RowReader (ρ α : Type) where
  names : ρ → List String
  tryGet : ρ → String → Except String α

namespace RowReader

def column (reader : RowReader ρ α) (name : String) (row : ρ) : Except Error α :=
  match reader.tryGet row name with
  | .ok value => .ok value
  | .error reason => .error (.decode name reason)

def fetched (reader : RowReader ρ (Option α)) (path : String) (row : ρ) : Except Error (Option α) :=
  if (reader.names row).all (· ≠ path) then .ok none else reader.column path row

end RowReader

end RecordFilter
