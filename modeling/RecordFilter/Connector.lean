import RecordFilter.Text.Keyed

set_option autoImplicit false

namespace RecordFilter

inductive Connector where
  | and
  | or
deriving DecidableEq, Inhabited

namespace Connector

def names : Text.Keyed Connector := [("and", and), ("or", or)]

def name : Connector → String
  | and => "and"
  | or => "or"

def separator : Connector → String
  | and => " AND "
  | or => " OR "

theorem find?_name (connector : Connector) : Text.Keyed.find? connector.name names = some connector := by
  cases connector <;> rfl

end Connector

end RecordFilter
