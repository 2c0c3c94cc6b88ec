import RecordFilter.Settings

set_option autoImplicit false

namespace RecordFilter

inductive Document where
  | null
  | bool (flag : Bool)
  | number (integer : Option Int)
  | text (content : String)
  | list (items : List Document)
  | object (members : List (String × Document))
deriving Inhabited

namespace Document

variable {α : Type}

def bool? : Document → Option Bool
  | bool flag => some flag
  | _ => none

def countLimit : Nat := 0x10000000000000000

def count? : Document → Option Nat
  | number (some (.ofNat count)) => if count < countLimit then some count else none
  | _ => none

def choice? (names : Text.Keyed α) : Document → Option α
  | text name => Text.Keyed.find? name names
  | object [(name, null)] => Text.Keyed.find? name names
  | _ => none

def memberOr (otherwise : α) (name : String) (read : Document → Option α) (members : Text.Keyed Document) : Option α :=
  match Text.Keyed.find? name members with
  | some value => read value
  | none => some otherwise

end Document

namespace Settings

def ofMembers? (members : Text.Keyed Document) : Option Settings := do
  let defaults : Settings := {}
  let distinct ← Document.memberOr defaults.distinct "distinct" Document.bool? members
  let likeMinChars ← Document.memberOr defaults.likeMinChars "like_min_chars" Document.count? members
  let likeIgnoreCase ← Document.memberOr defaults.likeIgnoreCase "like_ignore_case" Document.bool? members
  let likeWildcard ← Document.memberOr defaults.likeWildcard "like_wildcard" (Document.choice? Wildcard.names) members
  let join ← Document.memberOr defaults.join "join" (Document.choice? JoinKind.names) members
  return { distinct, likeMinChars, likeIgnoreCase, likeWildcard, join }

def ofDocument? : Document → Option Settings
  | .object members => ofMembers? members
  | _ => none

def toDocument (settings : Settings) : Document :=
  .object [("distinct", .bool settings.distinct), ("like_min_chars", .number (some (.ofNat settings.likeMinChars))),
    ("like_ignore_case", .bool settings.likeIgnoreCase), ("like_wildcard", .text settings.likeWildcard.name),
    ("join", .text settings.join.name)]

theorem ofDocument?_toDocument (settings : Settings) (fits : settings.likeMinChars < Document.countLimit) :
    ofDocument? settings.toDocument = some settings := by
  simp [toDocument, ofDocument?, ofMembers?, Document.memberOr, Text.Keyed.find?, Document.bool?, Document.count?,
    Document.choice?, Wildcard.find?_name, JoinKind.find?_name, fits]

end Settings

end RecordFilter
