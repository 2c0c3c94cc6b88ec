import RecordFilter.Text.Blank
import RecordFilter.Text.Keyed
import RecordFilter.Text.Uppercase

set_option autoImplicit false

namespace RecordFilter

inductive Wildcard where
  | absence
  | leading
  | trailing
  | both
deriving DecidableEq, Inhabited

namespace Wildcard

def names : Text.Keyed Wildcard := [("absence", absence), ("leading", leading), ("trailing", trailing), ("both", both)]

def name : Wildcard → String
  | absence => "absence"
  | leading => "leading"
  | trailing => "trailing"
  | both => "both"

-- The fragment is not escaped: a wildcard character inside it stays one.
def apply (fragment : String) : Wildcard → String
  | absence => fragment
  | leading => "%" ++ fragment
  | trailing => fragment ++ "%"
  | both => "%" ++ fragment ++ "%"

theorem find?_name (wildcard : Wildcard) : Text.Keyed.find? wildcard.name names = some wildcard := by
  cases wildcard <;> rfl

end Wildcard

def searchPattern (ignoreCase : Bool) (wildcard : Wildcard) (fragment : String) : String :=
  wildcard.apply (if ignoreCase then Text.uppercase fragment else fragment)

def isBlankText (fragment : String) : Bool := (Text.trimmed fragment).isEmpty

-- A fragment of blanks alone says nothing, and a short one too little. Blanks at the ends do not count.
def isSearchable (minChars : Nat) (fragment : String) : Bool :=
  !isBlankText fragment && minChars ≤ (Text.trimmed fragment).length

end RecordFilter
