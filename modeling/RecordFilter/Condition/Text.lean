import RecordFilter.Condition

set_option autoImplicit false

namespace RecordFilter

def placeholder (number : Nat) : String := "$" ++ toString number

def bind (value : Value) : StateM Params String := do
  return placeholder (← modifyGet (Params.push value))

def bindAll : List Value → StateM Params (List String)
  | [] => return []
  | value :: rest => do
    let text ← bind value
    return text :: (← bindAll rest)

namespace Condition

-- A list under the other connector would otherwise be read as part of the outer list.
def needsParentheses : Connector → Condition → Bool
  | .and, any _ | .or, all _ => true
  | _, _ => false

def parenthesized (text : String) : String := "(" ++ text ++ ")"

mutual
def render : Condition → StateM Params String
  | all parts => return Connector.and.separator.intercalate (← renderParts .and parts)
  | any parts => return Connector.or.separator.intercalate (← renderParts .or parts)
  | negation inner => return "NOT " ++ parenthesized (← inner.render)
  | group inner => return parenthesized (← inner.render)
  | compare column operator value => return column.text ++ " " ++ operator ++ " " ++ (← bind value)
  | like column pattern upper negated =>
    return (if upper then "UPPER" ++ parenthesized column.text else column.text)
      ++ (if negated then " NOT LIKE " else " LIKE ") ++ (← bind pattern)
  | nullness column isNull => return column.text ++ if isNull then " IS NULL" else " IS NOT NULL"
  | membership column values negated =>
    return column.text ++ (if negated then " NOT IN " else " IN ")
      ++ parenthesized (", ".intercalate (← bindAll values))
  | between column low high negated => do
    let low ← bind low
    let high ← bind high
    return column.text ++ (if negated then " NOT BETWEEN " else " BETWEEN ") ++ low ++ " AND " ++ high
  | always => return "1=1"

def renderParts (outer : Connector) : List Condition → StateM Params (List String)
  | [] => return []
  | part :: rest => do
    let text ← part.render
    let texts ← renderParts outer rest
    return (if part.needsParentheses outer then parenthesized text else text) :: texts
end

end Condition

end RecordFilter
