import RecordFilter.Identifier
import RecordFilter.JoinClause
import RecordFilter.Text.Dotted

set_option autoImplicit false

namespace RecordFilter

-- The table reached by crossing the fields `crossed`: the records of an entity, or, when `entity` is absent,
-- the values of an element collection. `clauses` are read from left to right, the last one joins that table.
structure Join where
  crossed : List String
  entity : Option String
  number : Nat
  fetch : Bool
  clauses : List JoinClause
deriving DecidableEq

namespace Join

def label (join : Join) : String := Text.joinDots join.crossed

def leadsTo (crossed : List String) (join : Join) : Bool := join.entity.isSome && join.crossed = crossed

def text (join : Join) : String := " ".intercalate (join.clauses.map JoinClause.text)

def selection (join : Join) : String :=
  "to_jsonb(" ++ tableName join.number ++ ".*) AS " ++ Identifier.quoted join.label

end Join

structure Scope where
  table : String
  entity : String
  joins : List Join := []
  nextNumber : Nat := 1
  distinct : Bool := false
deriving DecidableEq

namespace Scope

def setDistinct (distinct : Bool) (scope : Scope) : Scope := { scope with distinct }

def joinCount (scope : Scope) : Nat := scope.joins.length

def association? (scope : Scope) (crossed : List String) : Option Join :=
  scope.joins.find? (Join.leadsTo crossed)

def requestFetch (crossed : List String) (scope : Scope) : Scope :=
  { scope with joins := scope.joins.map fun join => if join.leadsTo crossed then { join with fetch := true } else join }

def addJoin (join : Join) (scope : Scope) : Scope := { scope with joins := scope.joins ++ [join] }

def joinsText (scope : Scope) : String := "".intercalate (scope.joins.map fun join => " " ++ join.text)

def selectList (scope : Scope) : String :=
  ", ".intercalate ((tableName 0 ++ ".*") :: (scope.joins.filter Join.fetch).map Join.selection)

def tablesText (scope : Scope) : String := scope.table ++ " " ++ tableName 0 ++ scope.joinsText

def summary (scope : Scope) : String :=
  "QueryContext \x7b root_table: \"" ++ scope.table ++ "\", joins: " ++ toString scope.joinCount
    ++ ", distinct: " ++ toString scope.distinct ++ " \x7d"

end Scope

end RecordFilter
