import RecordFilter.Entity
import RecordFilter.Record.Annotation

set_option autoImplicit false

namespace RecordFilter.Record

structure Arguments where
  model : Option String := none
  name : Option String := none
  foreignKey : Option String := none
  through : Option String := none
  selfKey : Option String := none
  otherKey : Option String := none
  table : Option String := none
  column : Option String := none
deriving DecidableEq

namespace Arguments

def readModel (arguments : Arguments) (item : Item) : Except Fault Arguments :=
  if arguments.model.isNone && !item.isAssignment then do
    item.flag
    return { arguments with model := some item.name }
  else .error .unsupportedArgument

def read (arguments : Arguments) (item : Item) : Except Fault Arguments :=
  match item.name with
  | "name" | "as" => return { arguments with name := some (← item.string) }
  | "foreign_key" => return { arguments with foreignKey := some (← item.string) }
  | "through" => return { arguments with through := some (← item.string) }
  | "self_key" => return { arguments with selfKey := some (← item.string) }
  | "other_key" => return { arguments with otherKey := some (← item.string) }
  | "table" => return { arguments with table := some (← item.string) }
  | "column" => return { arguments with column := some (← item.string) }
  | _ => arguments.readModel item

def ofTokens (tokens : List Token) : Except Fault Arguments := readItems read {} tokens

def require (key : String) : Option String → Except Fault String
  | some value => .ok value
  | none => .error (.missing key)

def requireModel (arguments : Arguments) : Except Fault String :=
  match arguments.model with
  | some model => .ok model
  | none => .error .missingModel

end Arguments

def lastName (path : String) : String :=
  String.ofList (path.toList.reverse.takeWhile fun char => char ≠ ':').reverse

inductive RelationKind where
  | belongsTo
  | hasOne
  | hasMany
  | manyToMany
deriving DecidableEq

namespace RelationKind

def isToMany : RelationKind → Bool
  | belongsTo | hasOne => false
  | hasMany | manyToMany => true

def defaultName (snakeCase : String → String) (kind : RelationKind) (model : String) : String :=
  snakeCase (lastName model) ++ if kind.isToMany then "s" else ""

def relation (kind : RelationKind) (target : String) (arguments : Arguments) : Except Fault Relation :=
  match kind with
  | belongsTo => return .belongsTo target (← Arguments.require "foreign_key" arguments.foreignKey)
  | hasOne => return .hasOne target (← Arguments.require "foreign_key" arguments.foreignKey)
  | hasMany => return .hasMany target (← Arguments.require "foreign_key" arguments.foreignKey)
  | manyToMany => do
    let through ← Arguments.require "through" arguments.through
    let selfKey ← Arguments.require "self_key" arguments.selfKey
    let otherKey ← Arguments.require "other_key" arguments.otherKey
    return .manyToMany target through selfKey otherKey

-- The model is asked for before the keys.
def declaration (snakeCase : String → String) (kind : RelationKind) (arguments : Arguments) : Except Fault Declaration := do
  let model ← arguments.requireModel
  let relation ← kind.relation model arguments
  return .association (arguments.name.getD (kind.defaultName snakeCase model)) relation

end RelationKind

def Arguments.collection (arguments : Arguments) : Except Fault Declaration := do
  let name ← require "name" arguments.name
  let table ← require "table" arguments.table
  let foreignKey ← require "foreign_key" arguments.foreignKey
  let column ← require "column" arguments.column
  return .collection name table foreignKey column

structure RecordMarks where
  table : Option String := none
  name : Option String := none
  relations : List Declaration := []
  collections : List Declaration := []
deriving DecidableEq

namespace RecordMarks

def addRelation (snakeCase : String → String) (marks : RecordMarks) (item : Item) (kind : RelationKind) :
    Except Fault RecordMarks := do
  let (content, rest) ← item.arguments
  let declaration ← kind.declaration snakeCase (← Arguments.ofTokens content)
  expectEnd rest
  return { marks with relations := marks.relations ++ [declaration] }

def addCollection (marks : RecordMarks) (item : Item) : Except Fault RecordMarks := do
  let (content, rest) ← item.arguments
  let declaration ← (← Arguments.ofTokens content).collection
  expectEnd rest
  return { marks with collections := marks.collections ++ [declaration] }

def read (snakeCase : String → String) (marks : RecordMarks) (item : Item) : Except Fault RecordMarks :=
  match item.name with
  | "table" => return { marks with table := some (← item.string) }
  | "name" => return { marks with name := some (← item.string) }
  | "belongs_to" => marks.addRelation snakeCase item .belongsTo
  | "has_one" => marks.addRelation snakeCase item .hasOne
  | "has_many" => marks.addRelation snakeCase item .hasMany
  | "many_to_many" => marks.addRelation snakeCase item .manyToMany
  | "element_collection" => marks.addCollection item
  | _ => .error .unsupportedRecordItem

def ofAnnotations (snakeCase : String → String) (annotations : List Annotation) : Except Fault RecordMarks :=
  readAnnotations (read snakeCase) {} annotations

end RecordMarks

structure FieldMarks where
  isKey : Bool := false
  isSkipped : Bool := false
  column : Option String := none
deriving DecidableEq

namespace FieldMarks

def read (marks : FieldMarks) (item : Item) : Except Fault FieldMarks :=
  match item.name with
  | "id" => do
    item.flag
    return { marks with isKey := true }
  | "skip" => do
    item.flag
    return { marks with isSkipped := true }
  | "column" => return { marks with column := some (← item.string) }
  | _ => .error .unsupportedFieldItem

def ofAnnotations (annotations : List Annotation) : Except Fault FieldMarks := readAnnotations read {} annotations

end FieldMarks

end RecordFilter.Record
