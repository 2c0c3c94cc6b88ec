import RecordFilter.Arena
import RecordFilter.Proofs.Registry
import RecordFilter.Proofs.Scope.Binding

set_option autoImplicit false

namespace RecordFilter

inductive Relation.Prescribes (kind : JoinKind) (parent target : Entity) (near number : Nat) :
    Relation → List JoinClause → Prop where
  | belongsTo (name foreignKey key : String) (keyed : target.primaryKey = some key) :
      Prescribes kind parent target near number (.belongsTo name foreignKey)
        [⟨kind, target.table, number, key, columnOf near foreignKey⟩]
  | hasOne (name foreignKey key : String) (keyed : parent.primaryKey = some key) :
      Prescribes kind parent target near number (.hasOne name foreignKey)
        [⟨kind, target.table, number, foreignKey, columnOf near key⟩]
  | hasMany (name foreignKey key : String) (keyed : parent.primaryKey = some key) :
      Prescribes kind parent target near number (.hasMany name foreignKey)
        [⟨kind, target.table, number, foreignKey, columnOf near key⟩]
  | manyToMany (name through selfKey otherKey parentKey targetKey : String) (parentKeyed : parent.primaryKey = some parentKey)
      (targetKeyed : target.primaryKey = some targetKey) :
      Prescribes kind parent target near number (.manyToMany name through selfKey otherKey)
        [⟨kind, through, number + 1, selfKey, columnOf near parentKey⟩,
          ⟨kind, target.table, number, targetKey, columnOf (number + 1) otherKey⟩]

theorem Relation.prescribes_of_clausesAt {relation : Relation} {kind : JoinKind} {parent target : Entity} {near number : Nat}
    {clauses : List JoinClause} (written : relation.clausesAt kind parent target near number = .ok clauses) :
    relation.Prescribes kind parent target near number clauses := by
  have shape := Relation.clausesAt_ok written
  cases relation with
  | belongsTo name foreignKey =>
    obtain ⟨key, found, rfl⟩ := shape
    exact .belongsTo name foreignKey key (Entity.keyColumn_ok found)
  | hasOne name foreignKey =>
    obtain ⟨key, found, rfl⟩ := shape
    exact .hasOne name foreignKey key (Entity.keyColumn_ok found)
  | hasMany name foreignKey =>
    obtain ⟨key, found, rfl⟩ := shape
    exact .hasMany name foreignKey key (Entity.keyColumn_ok found)
  | manyToMany name through selfKey otherKey =>
    obtain ⟨parentKey, targetKey, parentFound, targetFound, rfl⟩ := shape
    exact .manyToMany name through selfKey otherKey parentKey targetKey (Entity.keyColumn_ok parentFound) (Entity.keyColumn_ok targetFound)

namespace Node

-- The last clause joins the node itself, one before it a table of links.
def numbers (node : Node) : List Nat := node.number :: node.clauses.dropLast.map JoinClause.number

def IsDeclared (schema : Schema) (near : Nat) (entity : String) (node : Node) : Prop :=
  match node.entity with
  | some name => ∃ relation parent target kind, schema.field entity node.field = .ok (.association relation) ∧
      schema.entity entity = .ok parent ∧ schema.entity relation.target = .ok target ∧ target.name = name ∧
      relation.Prescribes kind parent target near node.number node.clauses
  | none => ∃ table foreignKey column parent key kind,
      schema.field entity node.field = .ok (.collection table foreignKey column) ∧
      schema.entity entity = .ok parent ∧ parent.primaryKey = some key ∧
      node.clauses = [⟨kind, table, node.number, foreignKey, columnOf near key⟩]

structure Continues (schema : Schema) (parent : Nat) (above : Node) (entity : String) (node : Node) : Prop where
  named : node.field ≠ ""
  path : node.path = if parent = 0 then node.field else above.path ++ "." ++ node.field
  declared : node.IsDeclared schema above.number entity

theorem IsDeclared.numbers {schema : Schema} {near : Nat} {entity : String} {node : Node}
    (declared : node.IsDeclared schema near entity) : node.numbers = List.range' node.number node.clauses.length := by
  rw [IsDeclared] at declared
  split at declared
  · obtain ⟨relation, parent, target, kind, _, _, _, _, prescribed⟩ := declared
    generalize written : node.clauses = clauses at prescribed
    rw [Node.numbers, written]
    cases prescribed <;> rfl
  · obtain ⟨table, foreignKey, column, parent, key, kind, _, _, _, written⟩ := declared
    rw [Node.numbers, written]
    rfl

end Node

namespace Arena

def Keeps (arena after : Arena) : Prop := ∀ (index : Nat) (node : Node), arena.nodes[index]? = some node →
  ∃ fetch, after.nodes[index]? = some { node with fetch } ∧ (node.fetch = true → fetch = true)

def numbers (arena : Arena) : List Nat := arena.nodes.flatMap Node.numbers

structure IsTree (schema : Schema) (arena : Arena) : Prop where
  root : ∃ entity, arena.nodes[0]? = some (.root entity)
  parentless : ∀ (index : Nat) (node : Node), arena.nodes[index]? = some node → node.parent = none → index = 0
  parent : ∀ (index : Nat) (node : Node) (parent : Nat), arena.nodes[index]? = some node → node.parent = some parent →
    parent < index ∧ ∃ above entity, arena.nodes[parent]? = some above ∧ above.entity = some entity ∧
      Node.Continues schema parent above entity node
  shared : ∀ (first second : Nat) (one other : Node), arena.nodes[first]? = some one → arena.nodes[second]? = some other →
    one.entity.isSome = true → other.entity.isSome = true → one.parent = other.parent → one.field = other.field →
    first = second
  shortNames : (arena.numbers.map tableName).Nodup
  numbers : ∀ number ∈ arena.numbers, number < arena.nextNumber

def spend (arena : Arena) : Arena := { arena with nextNumber := arena.nextNumber + 1 }

def grow (node : Node) (arena : Arena) : Arena :=
  { arena with nodes := arena.nodes ++ [node], nextNumber := arena.nextNumber + node.clauses.length }

variable {schema : Schema} {arena between after : Arena} {index : Nat} {node : Node}

theorem keeps_self (arena : Arena) : arena.Keeps arena := fun _ node held => ⟨node.fetch, held, id⟩

theorem Keeps.trans (first : arena.Keeps between) (second : between.Keeps after) : arena.Keeps after := by
  intro index node held
  obtain ⟨fetch, kept, asked⟩ := first index node held
  obtain ⟨later, keptOn, askedOn⟩ := second index _ kept
  exact ⟨later, keptOn, fun fetched => askedOn (asked fetched)⟩

theorem getElem?_requestFetch (arena : Arena) (target index : Nat) :
    (arena.requestFetch target).nodes[index]? =
      arena.nodes[index]?.map fun node => if target = index then { node with fetch := true } else node := by
  rw [requestFetch, List.getElem?_modify]
  split <;> simp

theorem keeps_requestFetch (arena : Arena) (target : Nat) : arena.Keeps (arena.requestFetch target) := by
  intro index node held
  rw [getElem?_requestFetch, held]
  by_cases asked : target = index
  · exact ⟨true, by simp [asked], fun _ => rfl⟩
  · exact ⟨node.fetch, by simp [asked], id⟩

theorem requestFetch_of_fetch (held : arena.nodes[index]? = some node) (fetched : node.fetch = true) :
    arena.requestFetch index = arena := by
  have same : (arena.requestFetch index).nodes = arena.nodes := by
    refine List.ext_getElem? fun other => ?_
    rw [getElem?_requestFetch]
    by_cases here : index = other
    · subst here
      rw [held, Option.map_some, if_pos rfl, ← fetched]
    · simp [here]
  exact congrArg (fun nodes => { arena with nodes }) same

theorem keeps_grow (arena : Arena) (node : Node) : arena.Keeps (arena.grow node) := by
  intro index old held
  refine ⟨old.fetch, ?_, id⟩
  rw [grow, List.getElem?_append_left (List.getElem?_eq_some_iff.mp held).1, held]

theorem Keeps.continues (kept : arena.Keeps after) {parent : Nat} {above : Node} {entity : String}
    (held : arena.nodes[parent]? = some above) (known : above.entity = some entity)
    (continues : Node.Continues schema parent above entity node) :
    ∃ further name, after.nodes[parent]? = some further ∧ further.entity = some name ∧
      Node.Continues schema parent further name node := by
  obtain ⟨fetch, still, _⟩ := kept parent above held
  exact ⟨_, entity, still, known, continues.named, continues.path, continues.declared⟩

theorem unlike_of_absent {parent : Nat} {field : String} (absent : arena.association? parent field = none)
    (held : arena.nodes[index]? = some node) (related : node.entity.isSome = true) (child : node.parent = some parent) :
    node.field ≠ field := by
  intro named
  have unlike := List.findIdx?_eq_none_iff.mp absent node (List.mem_of_getElem? held)
  simp [related, child, named] at unlike

theorem held_requestFetch {target : Nat} (held : (arena.requestFetch target).nodes[index]? = some node) :
    ∃ old fetch, arena.nodes[index]? = some old ∧ node = { old with fetch } := by
  rw [getElem?_requestFetch, Option.map_eq_some_iff] at held
  obtain ⟨old, held, rfl⟩ := held
  by_cases asked : target = index
  · exact ⟨old, true, held, by simp [asked]⟩
  · exact ⟨old, old.fetch, held, by simp [asked]⟩

theorem numbers_requestFetch (arena : Arena) (target : Nat) : (arena.requestFetch target).numbers = arena.numbers := by
  have same : (arena.requestFetch target).nodes.map Node.numbers = arena.nodes.map Node.numbers := by
    refine List.ext_getElem? fun index => ?_
    rw [List.getElem?_map, List.getElem?_map, getElem?_requestFetch, Option.map_map]
    refine Option.map_congr fun node _ => ?_
    rw [Function.comp]
    split <;> rfl
  rw [numbers, numbers, List.flatMap_def, List.flatMap_def, same]

theorem numbers_grow (arena : Arena) (node : Node) : (arena.grow node).numbers = arena.numbers ++ node.numbers := by
  rw [numbers, grow, List.flatMap_append, List.flatMap_singleton]
  rfl

theorem shortNames_grow {new : Node} (apart : (arena.numbers.map tableName).Nodup)
    (below : ∀ number ∈ arena.numbers, number < arena.nextNumber)
    (fresh : new.numbers = List.range' arena.nextNumber new.clauses.length) :
    ((arena.grow new).numbers.map tableName).Nodup := by
  rw [numbers_grow, fresh, List.map_append, List.nodup_append']
  refine ⟨apart, List.Nodup.map (fun _ _ => tableName_injective) List.nodup_range', ?_⟩
  intro name old new
  obtain ⟨taken, member, rfl⟩ := List.mem_map.mp old
  obtain ⟨free, newMember, same⟩ := List.mem_map.mp new
  have less := below taken member
  have more := (List.mem_range'_1.mp newMember).1
  have equal := tableName_injective same
  omega

theorem numbers_lt_grow {new : Node} (below : ∀ number ∈ arena.numbers, number < arena.nextNumber)
    (fresh : new.numbers = List.range' arena.nextNumber new.clauses.length) :
    ∀ number ∈ (arena.grow new).numbers, number < (arena.grow new).nextNumber := by
  intro number member
  change number < arena.nextNumber + new.clauses.length
  rw [numbers_grow, fresh, List.mem_append] at member
  rcases member with old | added
  · exact Nat.lt_of_lt_of_le (below number old) (Nat.le_add_right ..)
  · exact (List.mem_range'_1.mp added).2

theorem held_only {only : Node} (held : [only][index]? = some node) : index = 0 ∧ node = only := by
  obtain ⟨within, rfl⟩ := List.getElem?_eq_some_iff.mp held
  rw [List.length_singleton] at within
  exact ⟨by omega, List.getElem_singleton within⟩

theorem held_grow {new : Node} (held : (arena.grow new).nodes[index]? = some node) :
    arena.nodes[index]? = some node ∨ index = arena.nodes.length ∧ node = new := by
  rw [grow, List.getElem?_append] at held
  split at held
  · exact .inl held
  · obtain ⟨last, rfl⟩ := held_only held
    exact .inr ⟨by omega, rfl⟩

namespace IsTree

theorem requestFetch (tree : arena.IsTree schema) {target : Nat} (joined : target ≠ 0) :
    (arena.requestFetch target).IsTree schema where
  root := by
    obtain ⟨entity, held⟩ := tree.root
    exact ⟨entity, by rw [getElem?_requestFetch, held, Option.map_some, if_neg joined]⟩
  parentless := by
    intro index node held orphan
    obtain ⟨old, fetch, before, rfl⟩ := held_requestFetch held
    exact tree.parentless index old before orphan
  parent := by
    intro index node parent held child
    obtain ⟨old, fetch, before, rfl⟩ := held_requestFetch held
    obtain ⟨smaller, above, entity, aboveHeld, known, continues⟩ := tree.parent index old parent before child
    have still : Node.Continues schema parent above entity { old with fetch } :=
      ⟨continues.named, continues.path, continues.declared⟩
    exact ⟨smaller, (keeps_requestFetch arena target).continues aboveHeld known still⟩
  shared := by
    intro first second one other oneHeld otherHeld
    obtain ⟨oldOne, _, oneBefore, rfl⟩ := held_requestFetch oneHeld
    obtain ⟨oldOther, _, otherBefore, rfl⟩ := held_requestFetch otherHeld
    exact tree.shared first second oldOne oldOther oneBefore otherBefore
  shortNames := by
    rw [numbers_requestFetch]
    exact tree.shortNames
  numbers := by
    rw [numbers_requestFetch]
    exact tree.numbers

theorem spend (tree : arena.IsTree schema) : arena.spend.IsTree schema :=
  ⟨tree.root, tree.parentless, tree.parent, tree.shared, tree.shortNames,
    fun number member => Nat.lt_succ_of_lt (tree.numbers number member)⟩

theorem setDistinct (tree : arena.IsTree schema) (distinct : Bool) : (arena.setDistinct distinct).IsTree schema :=
  ⟨tree.root, tree.parentless, tree.parent, tree.shared, tree.shortNames, tree.numbers⟩

theorem grow (tree : arena.IsTree schema) {parent : Nat} {above : Node} {entity : String} {new : Node}
    (held : arena.nodes[parent]? = some above) (known : above.entity = some entity) (child : new.parent = some parent)
    (continues : Node.Continues schema parent above entity new) (number : new.number = arena.nextNumber)
    (absent : new.entity.isSome = true → arena.association? parent new.field = none) : (arena.grow new).IsTree schema where
  root := by
    obtain ⟨entity, first⟩ := tree.root
    exact ⟨entity, by rw [Arena.grow, List.getElem?_append_left (List.getElem?_eq_some_iff.mp first).1, first]⟩
  parentless := by
    intro index node here orphan
    rcases held_grow here with old | ⟨_, rfl⟩
    · exact tree.parentless index node old orphan
    · cases child.symm.trans orphan
  parent := by
    intro index node origin here isParent
    rcases held_grow here with old | ⟨rfl, rfl⟩
    · obtain ⟨before, further, name, furtherHeld, furtherKnown, still⟩ := tree.parent index node origin old isParent
      exact ⟨before, (keeps_grow arena new).continues furtherHeld furtherKnown still⟩
    · cases child.symm.trans isParent
      exact ⟨(List.getElem?_eq_some_iff.mp held).1, (keeps_grow arena node).continues held known continues⟩
  shared := by
    intro first second one other oneHeld otherHeld oneRelated otherRelated sameParent sameField
    rcases held_grow oneHeld with oneOld | ⟨rfl, rfl⟩
    · rcases held_grow otherHeld with otherOld | ⟨rfl, rfl⟩
      · exact tree.shared first second one other oneOld otherOld oneRelated otherRelated sameParent sameField
      · exact absurd sameField (unlike_of_absent (absent otherRelated) oneOld oneRelated (sameParent.trans child))
    · rcases held_grow otherHeld with otherOld | ⟨rfl, rfl⟩
      · exact absurd sameField.symm
          (unlike_of_absent (absent oneRelated) otherOld otherRelated (sameParent.symm.trans child))
      · rfl
  shortNames := shortNames_grow tree.shortNames tree.numbers (number ▸ continues.declared.numbers)
  numbers := numbers_lt_grow tree.numbers (number ▸ continues.declared.numbers)

end IsTree

theorem isTree_start {root : String} (begun : start schema root = .ok arena) : arena.IsTree schema := by
  rw [start] at begun
  split at begun
  · rename_i entity _
    cases begun
    refine ⟨⟨entity.name, rfl⟩, fun index node held _ => (held_only held).1, ?_, ?_, List.nodup_singleton _, ?_⟩
    · intro index node parent held child
      rw [(held_only held).2] at child
      cases child
    · intro first second one other oneHeld otherHeld _ _ _ _
      rw [(held_only oneHeld).1, (held_only otherHeld).1]
    · simp [numbers, Node.numbers, Node.root]
  · cases begun

end Arena

end RecordFilter
