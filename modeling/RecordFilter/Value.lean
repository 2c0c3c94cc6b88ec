set_option autoImplicit false

namespace RecordFilter

-- A double is kept as its bits, so that it reaches the database untouched.
inductive Value where
  | text (content : String)
  | bool (flag : Bool)
  | bigint (number : Int64)
  | integer (number : Int32)
  | double (bits : UInt64)
  | null
deriving DecidableEq

structure Params where
  values : Array Value := #[]

namespace Params

def toList (params : Params) : List Value := params.values.toList

def size (params : Params) : Nat := params.values.size

def isEmpty (params : Params) : Bool := params.values.isEmpty

def push (value : Value) (params : Params) : Nat × Params := (params.size + 1, ⟨params.values.push value⟩)

theorem toList_push (value : Value) (params : Params) :
    (params.push value).2.toList = params.toList ++ [value] := by
  simp [push, toList]

theorem size_push (value : Value) (params : Params) : (params.push value).2.size = params.size + 1 := by
  simp [push, size]

theorem length_toList (params : Params) : params.toList.length = params.size := by
  simp [toList, size]

end Params

end RecordFilter
