import RecordFilter.Condition.Text
import RecordFilter.Specification

set_option autoImplicit false

namespace RecordFilter

inductive Direction where
  | ascending
  | descending
deriving DecidableEq

def Direction.keyword : Direction → String
  | ascending => "ASC"
  | descending => "DESC"

structure OrderItem where
  column : Column
  direction : Direction
deriving DecidableEq

def OrderItem.text (item : OrderItem) : String := item.column.text ++ " " ++ item.direction.keyword

theorem OrderItem.text_eq (item : OrderItem) : item.text =
    item.column.source ++ "." ++ item.column.name ++ if item.direction = .ascending then " ASC" else " DESC" := by
  rw [text, Column.text]
  cases item.direction <;> simp [Direction.keyword, String.append_assoc]

structure Statement where
  text : String
  params : Params

def Schema.scope (schema : Schema) (root : String) : Except Error Scope :=
  match schema.entity root with
  | .ok entity => .ok { table := entity.table, entity := entity.name }
  | .error error => .error error

structure Query where
  schema : Schema
  scope : Scope
  filter : Option Condition
  order : List OrderItem := []

namespace Specification

def queryIn (specification : Specification) (schema : Schema) (scope : Scope) : Except Error Query :=
  match (specification.resolve schema).run scope with
  | (.ok filter, scope) => .ok { schema, scope, filter }
  | (.error error, _) => .error error

def query (specification : Specification) (schema : Schema) (root : String) : Except Error Query :=
  match schema.scope root with
  | .ok scope => specification.queryIn schema scope
  | .error error => .error error

end Specification

namespace Query

def orderBy (query : Query) (path : Path) (direction : Direction) : Except Error Query :=
  match (path.resolve query.schema .left false).run query.scope with
  | (.ok column, scope) => .ok { query with scope, order := query.order ++ [⟨column, direction⟩] }
  | (.error error, _) => .error error

def orderByAll (query : Query) : List (Path × Direction) → Except Error Query
  | [] => .ok query
  | (path, direction) :: rest =>
    match query.orderBy path direction with
    | .ok ordered => ordered.orderByAll rest
    | .error error => .error error

def stages (query : Query) : List (Path × Direction) → List (Except Error Query)
  | [] => []
  | (path, direction) :: rest =>
    match query.orderBy path direction with
    | .ok ordered => .ok ordered :: ordered.stages rest
    | .error error => [.error error]

def isDistinct (query : Query) : Bool := query.scope.distinct

def joinCount (query : Query) : Nat := query.scope.joinCount

def isFiltered (query : Query) : Bool := query.filter.isSome

def filterText (query : Query) : StateM Params String :=
  match query.filter with
  | some condition => return " WHERE " ++ (← condition.render)
  | none => return ""

def rowsText (query : Query) : StateM Params String :=
  return "SELECT " ++ (if query.isDistinct then "DISTINCT " else "") ++ query.scope.selectList
    ++ " FROM " ++ query.scope.tablesText ++ (← query.filterText)

def orderText (query : Query) : String :=
  if query.order.isEmpty then "" else " ORDER BY " ++ ", ".intercalate (query.order.map OrderItem.text)

def selectText (query : Query) : StateM Params String := return (← query.rowsText) ++ query.orderText

def countText (query : Query) : StateM Params String := return "SELECT COUNT(*) FROM (" ++ (← query.rowsText) ++ ") AS q"

def statementOf (text : StateM Params String) : Statement :=
  let (text, params) := text.run {}
  ⟨text, params⟩

def select (query : Query) : Statement := statementOf query.selectText

def count (query : Query) : Statement := statementOf query.countText

end Query

end RecordFilter
