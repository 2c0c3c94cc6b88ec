import RecordFilter.Filter.Pattern
import RecordFilter.Filter.Range
import RecordFilter.Scope.Walk

set_option autoImplicit false

namespace RecordFilter

-- What every predicate carries beside its test. `distinct` is what the statement is told when the predicate is
-- resolved; the last predicate resolved decides.
structure Options where
  path : Path
  connector : Connector := .and
  negated : Bool := false
  join : JoinKind := .inner
  fetch : Bool := false
  distinct : Bool := true
deriving DecidableEq

inductive Test where
  | equal (value : Value)
  | membership (values : List Value)
  | like (fragment : String) (ignoreCase : Bool) (wildcard : Wildcard)
  | null
  | range (ends : Range Value) (form : RangeForm)
deriving DecidableEq

structure Predicate where
  options : Options
  test : Test
deriving DecidableEq

def Condition.negatedWhen (negated : Bool) (condition : Condition) : Condition :=
  if negated then condition.negate else condition

def Sign.condition (column : Column) (sign : Sign) (value : Value) : Condition := .compare column sign.text value

def RangeForm.condition (column : Column) (negated : Bool) (range : Range Value) : RangeForm → Condition
  | side sign =>
    match sign.operand range with
    | some value => (sign.condition column value).negatedWhen negated
    | none => .always
  | between =>
    match range.low, range.high with
    | some low, some high => .between column low high negated
    | _, _ => .always
  | span lower upper =>
    match lower.operand range, upper.operand range with
    | some low, some high =>
      Condition.negatedWhen negated (.all [lower.condition column low, upper.condition column high])
    | _, _ => .always

def Test.condition (column : Column) (negated : Bool) : Test → Condition
  | equal value => .compare column (if negated then "!=" else "=") value
  | membership values => .membership column values negated
  | like fragment ignoreCase wildcard =>
    .like column (.text (searchPattern ignoreCase wildcard fragment)) ignoreCase negated
  | null => .nullness column (!negated)
  | range ends form => form.condition column negated ends

namespace Predicate

def withDistinct (distinct : Bool) (predicate : Predicate) : Predicate :=
  { predicate with options := { predicate.options with distinct } }

def resolve (schema : Schema) (predicate : Predicate) : Resolve Scope Condition := do
  modify (Scope.setDistinct predicate.options.distinct)
  let column ← predicate.options.path.resolve schema predicate.options.join predicate.options.fetch
  return predicate.test.condition column predicate.options.negated

end Predicate

end RecordFilter
