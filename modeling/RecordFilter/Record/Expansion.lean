import RecordFilter.Record.Marks
import RecordFilter.Record.TypeText

set_option autoImplicit false

namespace RecordFilter.Record

inductive RecordKind where
  | named
  | tuple
  | unit
  | enumeration
  | union
deriving DecidableEq

structure RecordField where
  name : String
  annotations : List Annotation

structure RecordType where
  kind : RecordKind
  name : String
  generics : List Token
  annotations : List Annotation
  fields : List RecordField

def RecordKind.check : RecordKind → Except Fault Unit
  | named => .ok ()
  | tuple | unit => .error .unnamedFields
  | enumeration | union => .error .notStruct

structure Columns where
  declarations : List Declaration := []
  key : Option String := none
deriving DecidableEq

namespace Columns

def add (columns : Columns) (field column : String) : Columns :=
  { columns with declarations := columns.declarations ++ [.scalar field column] }

def read (columns : Columns) (field : RecordField) : Except Fault Columns := do
  let marks ← FieldMarks.ofAnnotations field.annotations
  let column := marks.column.getD field.name
  if marks.isSkipped then return columns
  else if !marks.isKey then return columns.add field.name column
  else if columns.key.isSome then throw .secondKey
  else return { columns.add field.name column with key := some column }

def readAll : Columns → List RecordField → Except Fault Columns
  | columns, [] => .ok columns
  | columns, field :: rest =>
    match columns.read field with
    | .ok more => more.readAll rest
    | .error fault => .error fault

end Columns

structure Expansion where
  selfType : String
  name : String
  table : String
  declarations : List Declaration
deriving DecidableEq

namespace Expansion

def entity (expansion : Expansion) (entityOf : String → String) : Entity :=
  Entity.declareAll { name := expansion.name, table := expansion.table }
    (expansion.declarations.map fun declaration => declaration.retarget entityOf)

end Expansion

def requireTable : Option String → Except Fault String
  | some table => .ok table
  | none => .error .missingTable

-- The annotations of the record are read in full before its fields are looked at.
def expand (snakeCase : String → String) (record : RecordType) : Except Fault Expansion := do
  record.kind.check
  let marks ← RecordMarks.ofAnnotations snakeCase record.annotations
  let table ← requireTable marks.table
  let columns ← Columns.readAll {} record.fields
  let key := columns.key.toList.map Declaration.primaryKey
  return {
    selfType := selfType record.name record.generics
    name := marks.name.getD record.name
    table
    declarations := columns.declarations ++ marks.relations ++ marks.collections ++ key }

end RecordFilter.Record
