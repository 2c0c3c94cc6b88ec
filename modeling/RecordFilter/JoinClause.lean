import RecordFilter.Condition
import RecordFilter.Entity
import RecordFilter.JoinKind

set_option autoImplicit false

namespace RecordFilter

def tableName (number : Nat) : String := "t" ++ toString number

def columnOf (number : Nat) (column : String) : Column := ⟨tableName number, column⟩

structure JoinClause where
  kind : JoinKind
  table : String
  number : Nat
  key : String
  other : Column
deriving DecidableEq

def JoinClause.text (clause : JoinClause) : String :=
  clause.kind.keyword ++ " " ++ clause.table ++ " " ++ tableName clause.number ++ " ON "
    ++ (columnOf clause.number clause.key).text ++ " = " ++ clause.other.text

-- The clauses that join `target` under `number` to the parent under `near`. A table of links lies between the two sides of a
-- many-to-many relation and takes the next number.
def Relation.clauses {σ : Type} (relation : Relation) (kind : JoinKind) (parent target : Entity) (near number : Nat)
    (next : Resolve σ Nat) : Resolve σ (List JoinClause) :=
  match relation with
  | .belongsTo _ foreignKey => do
    let targetKey ← target.keyColumn
    return [⟨kind, target.table, number, targetKey, columnOf near foreignKey⟩]
  | .hasOne _ foreignKey | .hasMany _ foreignKey => do
    let parentKey ← parent.keyColumn
    return [⟨kind, target.table, number, foreignKey, columnOf near parentKey⟩]
  | .manyToMany _ through selfKey otherKey => do
    let parentKey ← parent.keyColumn
    let targetKey ← target.keyColumn
    let links ← next
    return [⟨kind, through, links, selfKey, columnOf near parentKey⟩,
      ⟨kind, target.table, number, targetKey, columnOf links otherKey⟩]

end RecordFilter
