import RecordFilter.Identifier
import RecordFilter.JoinClause
import RecordFilter.Path
import RecordFilter.Schema

set_option autoImplicit false

namespace RecordFilter

-- What was joined by crossing the field `field` of the parent: the records of an entity, or the values of a collection,
-- which have none.
structure Node where
  parent : Option Nat
  field : String
  entity : Option String
  number : Nat
  path : String
  fetch : Bool
  clauses : List JoinClause
deriving DecidableEq

namespace Node

def root (entity : String) : Node := ⟨none, "", some entity, 0, "", false, []⟩

def blank : Node := ⟨none, "", none, 0, "", false, []⟩

def text (node : Node) : String := " ".intercalate (node.clauses.map JoinClause.text)

def selection (node : Node) : String :=
  "to_jsonb(" ++ tableName node.number ++ ".*) AS " ++ Identifier.quoted node.path

end Node

structure Arena where
  table : String
  nodes : List Node
  nextNumber : Nat := 1
  distinct : Bool := false
deriving DecidableEq

namespace Arena

def start (schema : Schema) (root : String) : Except Error Arena :=
  match schema.entity root with
  | .ok entity => .ok { table := entity.table, nodes := [.root entity.name] }
  | .error error => .error error

def setDistinct (distinct : Bool) (arena : Arena) : Arena := { arena with distinct }

def joinCount (arena : Arena) : Nat := arena.nodes.length - 1

def node (arena : Arena) (index : Nat) : Node := arena.nodes[index]?.getD .blank

def entityOf (arena : Arena) (index : Nat) : Except Error String :=
  match (arena.node index).entity with
  | some entity => .ok entity
  | none => .error (.invalidPath ("'" ++ (arena.node index).path ++ "' is not an entity association"))

def childPath (arena : Arena) (parent : Nat) (field : String) : String :=
  let base := (arena.node parent).path
  if base = "" then field else base ++ "." ++ field

def association? (arena : Arena) (parent : Nat) (field : String) : Option Nat :=
  arena.nodes.findIdx? fun node => node.parent = some parent && node.entity.isSome && node.field = field

def requestFetch (index : Nat) (arena : Arena) : Arena :=
  { arena with nodes := arena.nodes.modify index fun node => { node with fetch := true } }

def push (node : Node) (arena : Arena) : Arena := { arena with nodes := arena.nodes ++ [node] }

def freshNumber : Resolve Arena Nat :=
  modifyGet fun arena => (arena.nextNumber, { arena with nextNumber := arena.nextNumber + 1 })

def joinAssociation (schema : Schema) (parent : Nat) (field : String) (relation : Relation) (kind : JoinKind)
    (fetch : Bool) : Resolve Arena Nat := do
  let arena ← get
  match arena.association? parent field with
  | some existing =>
    if fetch && !(arena.node existing).fetch then modify (requestFetch existing)
    return existing
  | none =>
    let above ← schema.entity (← arena.entityOf parent)
    let target ← schema.entity relation.target
    let number ← freshNumber
    let clauses ← relation.clauses kind above target (arena.node parent).number number freshNumber
    modify (push ⟨some parent, field, some target.name, number, arena.childPath parent field, fetch, clauses⟩)
    return (← get).nodes.length - 1

def joinCollection (schema : Schema) (parent : Nat) (field table foreignKey column : String) (kind : JoinKind) :
    Resolve Arena Column := do
  let arena ← get
  let above ← schema.entity (← arena.entityOf parent)
  let parentKey ← above.keyColumn
  let number ← freshNumber
  let clause : JoinClause := ⟨kind, table, number, foreignKey, columnOf (arena.node parent).number parentKey⟩
  modify (push ⟨some parent, field, none, number, arena.childPath parent field, false, [clause]⟩)
  return columnOf number column

def walk (schema : Schema) (kind : JoinKind) (fetch : Bool) : List String → Nat → Resolve Arena Column
  | [], index => do
    let arena ← get
    let entity ← schema.entity (← arena.entityOf index)
    return columnOf (arena.node index).number (← entity.keyColumn)
  | segment :: rest, index => do
    let arena ← get
    let entity ← arena.entityOf index
    match ← schema.field entity segment with
    | .scalar column => return columnOf (arena.node index).number column
    | .collection table foreignKey column => joinCollection schema index segment table foreignKey column kind
    | .association relation =>
      let next ← joinAssociation schema index segment relation kind fetch
      walk schema kind fetch rest next

def resolve (schema : Schema) (path : Path) (kind : JoinKind) (fetch : Bool) : Resolve Arena Column := do
  path.check
  walk schema kind fetch path.segments 0

def joinsText (arena : Arena) : String := "".intercalate (arena.nodes.tail.map fun node => " " ++ node.text)

def selectList (arena : Arena) : String :=
  ", ".intercalate ((tableName (arena.node 0).number ++ ".*") :: (arena.nodes.filter Node.fetch).map Node.selection)

end Arena

end RecordFilter
