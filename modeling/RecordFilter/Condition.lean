import RecordFilter.Connector
import RecordFilter.Value

set_option autoImplicit false

namespace RecordFilter

structure Column where
  source : String
  name : String
deriving DecidableEq

def Column.text (column : Column) : String := column.source ++ "." ++ column.name

inductive Condition where
  | all (parts : List Condition)
  | any (parts : List Condition)
  | negation (inner : Condition)
  | group (inner : Condition)
  | compare (column : Column) (operator : String) (value : Value)
  | like (column : Column) (pattern : Value) (upper negated : Bool)
  | nullness (column : Column) (isNull : Bool)
  | membership (column : Column) (values : List Value) (negated : Bool)
  | between (column : Column) (low high : Value) (negated : Bool)
  | always

namespace Condition

def connect : Condition → Connector → Condition → Condition
  | all parts, .and, right => all (parts ++ [right])
  | any parts, .or, right => any (parts ++ [right])
  | left, .and, right => all [left, right]
  | left, .or, right => any [left, right]

def negate (condition : Condition) : Condition := negation condition

end Condition

end RecordFilter
