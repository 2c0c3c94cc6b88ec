set_option autoImplicit false

namespace RecordFilter.Text

variable {α : Type}

abbrev Keyed (α : Type) := List (String × α)

namespace Keyed

def find? (name : String) : Keyed α → Option α
  | [] => none
  | (key, value) :: rest => if key = name then some value else find? name rest

def put (name : String) (value : α) : Keyed α → Keyed α
  | [] => [(name, value)]
  | (key, old) :: rest => if key = name then (name, value) :: rest else (key, old) :: put name value rest

theorem find?_put_self (name : String) (value : α) (entries : Keyed α) :
    find? name (put name value entries) = some value := by
  induction entries with
  | nil => simp [put, find?]
  | cons entry rest ih =>
    obtain ⟨key, old⟩ := entry
    by_cases same : key = name <;> simp [put, find?, same, ih]

theorem find?_put_of_ne {name other : String} (different : other ≠ name) (value : α) (entries : Keyed α) :
    find? other (put name value entries) = find? other entries := by
  induction entries with
  | nil => simp [put, find?, different.symm]
  | cons entry rest ih =>
    obtain ⟨key, old⟩ := entry
    by_cases same : key = name
    · simp [put, find?, same, different.symm]
    · rw [put, if_neg same, find?, find?, ih]

end Keyed

end RecordFilter.Text
