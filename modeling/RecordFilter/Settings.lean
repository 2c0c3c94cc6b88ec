import RecordFilter.Filter.Draft

set_option autoImplicit false

namespace RecordFilter

structure Settings where
  distinct : Bool := true
  likeMinChars : Nat := defaultMinChars
  likeIgnoreCase : Bool := true
  likeWildcard : Wildcard := .absence
  join : JoinKind := .inner
deriving DecidableEq

inductive Setting where
  | distinct (flag : Bool)
  | likeMinChars (count : Nat)
  | likeIgnoreCase (flag : Bool)
  | likeWildcard (wildcard : Wildcard)
  | join (kind : JoinKind)
deriving DecidableEq

namespace Settings

def set (settings : Settings) : Setting → Settings
  | .distinct flag => { settings with distinct := flag }
  | .likeMinChars count => { settings with likeMinChars := count }
  | .likeIgnoreCase flag => { settings with likeIgnoreCase := flag }
  | .likeWildcard wildcard => { settings with likeWildcard := wildcard }
  | .join kind => { settings with join := kind }

def setAll (settings : Settings) (changes : List Setting) : Settings := changes.foldl set settings

end Settings

end RecordFilter
