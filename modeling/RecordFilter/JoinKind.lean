import RecordFilter.Text.Keyed
import RecordFilter.Text.Uppercase

set_option autoImplicit false

namespace RecordFilter

inductive JoinKind where
  | inner
  | left
  | right
deriving DecidableEq, Inhabited

namespace JoinKind

def names : Text.Keyed JoinKind := [("inner", inner), ("left", left), ("right", right)]

def name : JoinKind → String
  | inner => "inner"
  | left => "left"
  | right => "right"

def keyword : JoinKind → String
  | inner => "INNER JOIN"
  | left => "LEFT JOIN"
  | right => "RIGHT JOIN"

theorem keyword_eq (kind : JoinKind) : kind.keyword = Text.uppercase kind.name ++ " JOIN" := by
  cases kind <;> decide +kernel

theorem find?_name (kind : JoinKind) : Text.Keyed.find? kind.name names = some kind := by
  cases kind <;> rfl

end JoinKind

end RecordFilter
