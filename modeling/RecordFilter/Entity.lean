import RecordFilter.Identifier
import RecordFilter.Text.Keyed

set_option autoImplicit false

namespace RecordFilter

-- How the records of two entities belong together. The foreign key stands on the declaring entity's table
-- for `belongsTo`, on the target's for `hasOne` and `hasMany`, and in a table of links for `manyToMany`.
inductive Relation where
  | belongsTo (target foreignKey : String)
  | hasOne (target foreignKey : String)
  | hasMany (target foreignKey : String)
  | manyToMany (target through selfKey otherKey : String)
deriving DecidableEq

namespace Relation

def target : Relation → String
  | belongsTo target _ | hasOne target _ | hasMany target _ | manyToMany target _ _ _ => target

def retarget (rename : String → String) : Relation → Relation
  | belongsTo target key => belongsTo (rename target) key
  | hasOne target key => hasOne (rename target) key
  | hasMany target key => hasMany (rename target) key
  | manyToMany target through selfKey otherKey => manyToMany (rename target) through selfKey otherKey

def isToMany : Relation → Bool
  | hasMany _ _ | manyToMany _ _ _ _ => true
  | _ => false

end Relation

inductive Field where
  | scalar (column : String)
  | association (relation : Relation)
  | collection (table foreignKey column : String)
deriving DecidableEq

namespace Field

def isAssociation : Field → Bool
  | association _ => true
  | _ => false

def isCollection : Field → Bool
  | collection _ _ _ => true
  | _ => false

def isScalarOn (column : String) : Field → Bool
  | scalar own => own = column
  | _ => false

end Field

inductive Declaration where
  | primaryKey (column : String)
  | scalar (field column : String)
  | association (field : String) (relation : Relation)
  | collection (field table foreignKey column : String)
deriving DecidableEq

def Declaration.retarget (rename : String → String) : Declaration → Declaration
  | association field relation => association field (relation.retarget rename)
  | declaration => declaration

structure Entity where
  name : String
  table : String
  primaryKey : Option String := none
  fields : Text.Keyed Field := []
deriving DecidableEq

namespace Entity

def field? (entity : Entity) (name : String) : Option Field := Text.Keyed.find? name entity.fields

def put (entity : Entity) (name : String) (field : Field) : Entity :=
  { entity with fields := Text.Keyed.put name field entity.fields }

def hasScalarOn (entity : Entity) (column : String) : Bool :=
  entity.fields.any fun entry => entry.2.isScalarOn column

-- The key column can be filtered on by name: a field of that name is added when no field reads the column
-- yet, unless the name is already taken.
def exposeColumn (entity : Entity) (column : String) : Entity :=
  if entity.hasScalarOn column || (entity.field? column).isSome then entity else entity.put column (.scalar column)

def declare (entity : Entity) : Declaration → Entity
  | .primaryKey column => { entity.exposeColumn column with primaryKey := some column }
  | .scalar field column => entity.put field (.scalar column)
  | .association field relation => entity.put field (.association relation)
  | .collection field table foreignKey column => entity.put field (.collection table foreignKey column)

def declareAll (entity : Entity) (declarations : List Declaration) : Entity := declarations.foldl declare entity

def keyColumn (entity : Entity) : Except Error String :=
  match entity.primaryKey with
  | some column => .ok column
  | none => .error (.missingPrimaryKey entity.name)

end Entity

inductive WrittenName where
  | qualified (name : String)
  | part (name : String)
deriving DecidableEq

def WrittenName.check : WrittenName → Except Identifier.Fault Unit
  | qualified name => Identifier.checkQualified name
  | part name => Identifier.checkPart name

def Field.writtenNames : Field → List WrittenName
  | scalar column => [.part column]
  | association (.belongsTo _ key) | association (.hasOne _ key) | association (.hasMany _ key) => [.part key]
  | association (.manyToMany _ through selfKey otherKey) => [.qualified through, .part selfKey, .part otherKey]
  | collection table key column => [.qualified table, .part key, .part column]

namespace Entity

def writtenNames (entity : Entity) : List WrittenName :=
  .qualified entity.table :: (entity.primaryKey.toList.map WrittenName.part
    ++ entity.fields.flatMap fun entry => entry.2.writtenNames)

def firstFault : List WrittenName → Option Identifier.Fault
  | [] => none
  | name :: rest =>
    match name.check with
    | .error fault => some fault
    | .ok () => firstFault rest

def check (entity : Entity) : Except Error Unit :=
  match firstFault entity.writtenNames with
  | some fault => .error fault.error
  | none => .ok ()

end Entity

end RecordFilter
