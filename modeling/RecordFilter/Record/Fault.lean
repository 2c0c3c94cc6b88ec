set_option autoImplicit false

namespace RecordFilter.Record

inductive Expected where
  | item
  | name
  | equals
  | string
  | parentheses
  | comma
deriving DecidableEq

def Expected.text : Expected → String
  | item => "nested attribute"
  | name => "ident"
  | equals => "`=`"
  | string => "string literal"
  | parentheses => "parentheses"
  | comma => "`,`"

inductive Fault where
  | unreadable
  | unexpectedToken
  | missingArguments
  | assignedArguments
  | notStruct
  | unnamedFields
  | missingTable
  | secondKey
  | unsupportedRecordItem
  | unsupportedFieldItem
  | unsupportedArgument
  | missingModel
  | missing (key : String)
  | literalItem
  | otherItem
  | expected (what : Expected)
  | endBefore (what : Expected)
deriving DecidableEq

def Fault.message : Fault → String
  | unreadable => "cannot parse string into token stream"
  | unexpectedToken => "unexpected token"
  | missingArguments => "expected attribute arguments in parentheses: #[orm(...)]"
  | assignedArguments => "expected parentheses: #[orm(...)]"
  | notStruct => "Entity can only be derived for structs"
  | unnamedFields => "Entity can only be derived for structs with named fields"
  | missingTable => "Entity requires #[orm(table = \"table_name\")] attribute"
  | secondKey => "Entity supports a single #[orm(id)] field"
  | unsupportedRecordItem => "unsupported orm attribute"
  | unsupportedFieldItem => "unsupported orm field attribute"
  | unsupportedArgument => "unsupported relation argument"
  | missingModel => "expected the related entity type first"
  | missing key => "missing " ++ key ++ " = \"...\""
  | literalItem => "unexpected literal in nested attribute, expected ident"
  | otherItem => "unexpected token in nested attribute, expected ident"
  | expected what => "expected " ++ what.text
  | endBefore what => "unexpected end of input, expected " ++ what.text

end RecordFilter.Record
