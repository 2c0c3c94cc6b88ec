import RecordFilter.Proofs.Arena.Tree
import RecordFilter.Proofs.Scope.Reachable

set_option autoImplicit false

namespace RecordFilter

namespace Text

theorem joinDots_concat {parts : List String} (named : "" ∉ parts) (part : String) :
    joinDots (parts ++ [part]) = if joinDots parts = "" then part else joinDots parts ++ "." ++ part := by
  cases parts with
  | nil => exact String.intercalate_singleton
  | cons first rest =>
    have written : joinDots (first :: rest) ≠ "" := by
      cases rest with
      | nil =>
        rw [joinDots, String.intercalate_singleton]
        exact fun empty => named (empty ▸ List.mem_cons_self ..)
      | cons second more =>
        rw [joinDots, String.intercalate_cons_cons]
        simp
    rw [if_neg written, joinDots, String.intercalate_append_of_ne_nil (List.cons_ne_nil first rest) (List.cons_ne_nil part []),
      String.intercalate_singleton]
    rfl

end Text

namespace Node

def link? (node : Node) : Option (Nat × String) := node.parent.map fun parent => (parent, node.field)

def join (crossed : List String) (node : Node) : Join := ⟨crossed, node.entity, node.number, node.fetch, node.clauses⟩

end Node

namespace Arena

def crossed (nodes : List Node) (index : Nat) : List String :=
  match nodes[index]?.bind Node.link? with
  | some (parent, field) => if _ : parent < index then crossed nodes parent ++ [field] else []
  | none => []
termination_by index

def joins (arena : Arena) : List Join := arena.nodes.mapIdx fun index node => node.join (crossed arena.nodes index)

def scope (arena : Arena) : Scope where
  table := arena.table
  entity := (arena.node 0).entity.getD ""
  joins := arena.joins.tail
  nextNumber := arena.nextNumber
  distinct := arena.distinct

theorem nextNumber_scope (arena : Arena) : arena.scope.nextNumber = arena.nextNumber := rfl

section Crossed

variable {nodes others : List Node} {index parent : Nat} {node : Node}

theorem crossed_orphan (held : nodes[index]? = some node) (orphan : node.parent = none) : crossed nodes index = [] := by
  rw [crossed, held, Option.bind_some, Node.link?, orphan]
  rfl

theorem crossed_child (held : nodes[index]? = some node) (child : node.parent = some parent) (before : parent < index) :
    crossed nodes index = crossed nodes parent ++ [node.field] := by
  rw [crossed, held, Option.bind_some, Node.link?, child]
  exact dif_pos before

theorem crossed_congr (alike : ∀ before ≤ index, nodes[before]?.bind Node.link? = others[before]?.bind Node.link?) :
    crossed nodes index = crossed others index := by
  induction index using Nat.strongRecOn with
  | ind index ih =>
    rw [crossed, crossed, alike index (Nat.le_refl index)]
    split
    · split
      · rename_i smaller
        rw [ih _ smaller fun before within => alike before (Nat.le_trans within (Nat.le_of_lt smaller))]
      · rfl
    · rfl

end Crossed

variable {schema : Schema} {arena : Arena} {index parent : Nat} {node above new : Node} {field : String}

theorem crossed_requestFetch (arena : Arena) (target index : Nat) :
    crossed (arena.requestFetch target).nodes index = crossed arena.nodes index := by
  refine crossed_congr fun before _ => ?_
  rw [getElem?_requestFetch, Option.bind_map]
  refine congrArg arena.nodes[before]?.bind (funext fun node => ?_)
  rw [Function.comp]
  split <;> rfl

theorem crossed_grow (new : Node) (within : index < arena.nodes.length) :
    crossed (arena.grow new).nodes index = crossed arena.nodes index := by
  refine crossed_congr fun before smaller => ?_
  rw [grow, List.getElem?_append_left (Nat.lt_of_le_of_lt smaller within)]

theorem crossed_new (held : arena.nodes[parent]? = some above) (child : new.parent = some parent) :
    crossed (arena.grow new).nodes arena.nodes.length = crossed arena.nodes parent ++ [new.field] := by
  have within : parent < arena.nodes.length := (List.getElem?_eq_some_iff.mp held).1
  have last : (arena.grow new).nodes[arena.nodes.length]? = some new := List.getElem?_concat_length
  rw [crossed_child last child within, crossed_grow new within]

theorem getElem?_joins (arena : Arena) (index : Nat) :
    arena.joins[index]? = arena.nodes[index]?.map (Node.join (crossed arena.nodes index)) := List.getElem?_mapIdx

theorem getElem?_scope (arena : Arena) (index : Nat) : arena.scope.joins[index]? = arena.joins[index + 1]? :=
  List.getElem?_tail

theorem map_joins {β : Type} {onJoin : Join → β} {onNode : Node → β}
    (same : ∀ (index : Nat) (node : Node), arena.nodes[index]? = some node →
      onJoin (node.join (crossed arena.nodes index)) = onNode node) :
    arena.joins.map onJoin = arena.nodes.map onNode := by
  refine List.ext_getElem? fun index => ?_
  rw [List.getElem?_map, List.getElem?_map, getElem?_joins, Option.map_map]
  exact Option.map_congr fun node held => same index node held

theorem scope_grow (held : arena.nodes[parent]? = some above) (child : new.parent = some parent) :
    (arena.grow new).scope = arena.scope.extend (new.join (crossed arena.nodes parent ++ [new.field])) := by
  have within : parent < arena.nodes.length := (List.getElem?_eq_some_iff.mp held).1
  have joins : (arena.grow new).joins = arena.joins ++ [new.join (crossed arena.nodes parent ++ [new.field])] := by
    refine List.ext_getElem? fun index => ?_
    rw [getElem?_joins, List.getElem?_append]
    split
    · rename_i old
      rw [joins, List.length_mapIdx] at old
      rw [crossed_grow new old, getElem?_joins, grow, List.getElem?_append_left old]
    · rename_i behind
      rw [joins, List.length_mapIdx] at behind ⊢
      rw [grow, List.getElem?_append_right (Nat.le_of_not_lt behind)]
      cases offset : index - arena.nodes.length with
      | zero =>
        obtain rfl : index = arena.nodes.length := by omega
        change some (new.join (crossed (arena.grow new).nodes arena.nodes.length)) = _
        rw [crossed_new held child]
        rfl
      | succ more => rfl
  have some : arena.nodes ≠ [] := fun empty => by simp [empty] at held
  have first : (arena.grow new).node 0 = arena.node 0 := by
    rw [Arena.node, Arena.node, grow, List.getElem?_append_left (Nat.lt_of_le_of_lt (Nat.zero_le parent) within)]
  rw [scope, joins, first, List.tail_append_of_ne_nil (by simpa [Arena.joins] using some)]
  rfl

namespace IsTree

theorem child (tree : arena.IsTree schema) (held : arena.nodes[index]? = some node) (joined : index ≠ 0) :
    ∃ parent above entity, node.parent = some parent ∧ parent < index ∧ arena.nodes[parent]? = some above ∧
      above.entity = some entity ∧ Node.Continues schema parent above entity node := by
  cases origin : node.parent with
  | none => exact absurd (tree.parentless index node held origin) joined
  | some parent =>
    obtain ⟨before, above, entity, aboveHeld, known, continues⟩ := tree.parent index node parent held origin
    exact ⟨parent, above, entity, rfl, before, aboveHeld, known, continues⟩

theorem crossed_root (tree : arena.IsTree schema) : crossed arena.nodes 0 = [] := by
  obtain ⟨entity, held⟩ := tree.root
  exact crossed_orphan held rfl

theorem crossed_of_parent (tree : arena.IsTree schema) (held : arena.nodes[index]? = some node)
    (child : node.parent = some parent) : crossed arena.nodes index = crossed arena.nodes parent ++ [node.field] :=
  crossed_child held child (tree.parent index node parent held child).1

-- Only entities can be continued, and each continues its parent by a field of its own.
theorem crossed_unique (tree : arena.IsTree schema) {first second : Nat} {one other : Node}
    (oneHeld : arena.nodes[first]? = some one) (otherHeld : arena.nodes[second]? = some other)
    (oneRelated : one.entity.isSome = true) (otherRelated : other.entity.isSome = true)
    (same : crossed arena.nodes first = crossed arena.nodes second) : first = second := by
  induction first using Nat.strongRecOn generalizing second one other with
  | ind first ih =>
    by_cases oneRoot : first = 0
    · by_cases otherRoot : second = 0
      · rw [oneRoot, otherRoot]
      · obtain ⟨origin, _, _, isOrigin, _⟩ := tree.child otherHeld otherRoot
        rw [oneRoot, tree.crossed_root, tree.crossed_of_parent otherHeld isOrigin] at same
        simp at same
    · obtain ⟨parent, above, entity, isParent, before, aboveHeld, known, _⟩ := tree.child oneHeld oneRoot
      rw [tree.crossed_of_parent oneHeld isParent] at same
      by_cases otherRoot : second = 0
      · rw [otherRoot, tree.crossed_root] at same
        simp at same
      · obtain ⟨origin, further, name, isOrigin, _, furtherHeld, furtherKnown, _⟩ := tree.child otherHeld otherRoot
        rw [tree.crossed_of_parent otherHeld isOrigin] at same
        obtain ⟨sameWay, sameField⟩ := List.append_inj' same rfl
        have sameParent : parent = origin :=
          ih parent before aboveHeld furtherHeld (by rw [known]; rfl) (by rw [furtherKnown]; rfl) sameWay
        exact tree.shared first second one other oneHeld otherHeld oneRelated otherRelated
          (by rw [isParent, isOrigin, sameParent]) (List.singleton_inj.mp sameField)

theorem leadsTo_iff (tree : arena.IsTree schema) (aboveHeld : arena.nodes[parent]? = some above)
    (related : above.entity.isSome = true) (held : arena.nodes[index]? = some node) :
    (node.join (crossed arena.nodes index)).leadsTo (crossed arena.nodes parent ++ [field]) = true ↔
      node.parent = some parent ∧ node.entity.isSome = true ∧ node.field = field := by
  rw [Join.leadsTo, Bool.and_eq_true, decide_eq_true_iff]
  constructor
  · rintro ⟨nodeRelated, same⟩
    change crossed arena.nodes index = _ at same
    cases origin : node.parent with
    | none =>
      rw [crossed_orphan held origin] at same
      simp at same
    | some other =>
      obtain ⟨_, further, name, furtherHeld, known, _⟩ := tree.parent index node other held origin
      rw [tree.crossed_of_parent held origin] at same
      obtain ⟨sameWay, sameField⟩ := List.append_inj' same rfl
      rw [tree.crossed_unique furtherHeld aboveHeld (by rw [known]; rfl) related sameWay]
      exact ⟨rfl, nodeRelated, List.singleton_inj.mp sameField⟩
  · rintro ⟨child, nodeRelated, rfl⟩
    exact ⟨nodeRelated, tree.crossed_of_parent held child⟩

theorem association_ok (tree : arena.IsTree schema) (found : arena.association? parent field = some index) :
    index ≠ 0 ∧ ∃ node, arena.nodes[index]? = some node ∧ node.parent = some parent ∧ node.entity.isSome = true ∧
      node.field = field := by
  obtain ⟨within, meets, _⟩ := List.findIdx?_eq_some_iff_getElem.mp found
  simp only [Bool.and_eq_true, decide_eq_true_iff] at meets
  have held := List.getElem?_eq_getElem within
  refine ⟨?_, _, held, meets.1.1, meets.1.2, meets.2⟩
  rintro rfl
  obtain ⟨entity, root⟩ := tree.root
  rw [root, Option.some_inj] at held
  rw [← held] at meets
  cases meets.1.1

theorem association_scope (tree : arena.IsTree schema) (aboveHeld : arena.nodes[parent]? = some above)
    (related : above.entity.isSome = true) (field : String) :
    arena.scope.association? (crossed arena.nodes parent ++ [field]) =
      (arena.association? parent field).bind fun index => arena.joins[index]? := by
  have led : ∀ join ∈ arena.scope.joins, join.leadsTo (crossed arena.nodes parent ++ [field]) = true →
      ∃ (index : Nat) (node : Node), arena.nodes[index]? = some node ∧ arena.joins[index]? = some join ∧ node.parent = some parent ∧
        node.entity.isSome = true ∧ node.field = field := by
    intro join member leads
    obtain ⟨before, held⟩ := List.mem_iff_getElem?.mp member
    rw [getElem?_scope] at held
    have joined := held
    rw [getElem?_joins, Option.map_eq_some_iff] at held
    obtain ⟨node, nodeHeld, rfl⟩ := held
    exact ⟨before + 1, node, nodeHeld, joined, (tree.leadsTo_iff aboveHeld related nodeHeld).mp leads⟩
  cases found : arena.association? parent field with
  | none =>
    refine List.find?_eq_none.mpr fun join member leads => ?_
    obtain ⟨index, node, held, _, child, nodeRelated, named⟩ := led join member leads
    exact unlike_of_absent found held nodeRelated child named
  | some index =>
    obtain ⟨joined, node, held, child, nodeRelated, named⟩ := tree.association_ok found
    have here : arena.joins[index]? = some (node.join (crossed arena.nodes index)) := by
      rw [getElem?_joins, held, Option.map_some]
    have member : node.join (crossed arena.nodes index) ∈ arena.scope.joins := by
      refine List.mem_iff_getElem?.mpr ⟨index - 1, ?_⟩
      rw [getElem?_scope, Nat.sub_add_cancel (Nat.one_le_iff_ne_zero.mpr joined), here]
    obtain ⟨join, first⟩ := Option.isSome_iff_exists.mp (List.find?_isSome.mpr
      ⟨_, member, (tree.leadsTo_iff aboveHeld related held).mpr ⟨child, nodeRelated, named⟩⟩)
    obtain ⟨other, next, nextHeld, atOther, nextChild, nextRelated, nextNamed⟩ :=
      led join (List.mem_of_find?_eq_some first) (List.find?_some first)
    have same : other = index :=
      tree.shared other index next node nextHeld held nextRelated nodeRelated (by rw [nextChild, child]) (by rw [nextNamed, named])
    rw [Scope.association?, first, Option.bind_some, ← same, atOther]

theorem scope_requestFetch (tree : arena.IsTree schema) (held : arena.nodes[index]? = some node)
    (related : node.entity.isSome = true) (joined : index ≠ 0) :
    (arena.requestFetch index).scope = arena.scope.requestFetch (crossed arena.nodes index) := by
  have first : (arena.requestFetch index).node 0 = arena.node 0 := by
    rw [Arena.node, Arena.node, getElem?_requestFetch, Option.map_congr fun node _ => if_neg joined]
    simp
  have joins : (arena.requestFetch index).joins.tail = arena.joins.tail.map fun join =>
      if join.leadsTo (crossed arena.nodes index) then { join with fetch := true } else join := by
    refine List.ext_getElem? fun before => ?_
    rw [List.getElem?_map, List.getElem?_tail, List.getElem?_tail, getElem?_joins, getElem?_joins, getElem?_requestFetch,
      crossed_requestFetch, Option.map_map, Option.map_map]
    refine Option.map_congr fun other otherHeld => ?_
    have leads : (other.join (crossed arena.nodes (before + 1))).leadsTo (crossed arena.nodes index) = true ↔
        index = before + 1 := by
      rw [Join.leadsTo, Bool.and_eq_true, decide_eq_true_iff]
      constructor
      · rintro ⟨otherRelated, same⟩
        exact tree.crossed_unique held otherHeld related otherRelated same.symm
      · rintro rfl
        cases held.symm.trans otherHeld
        exact ⟨related, rfl⟩
    rw [Function.comp, Function.comp]
    by_cases here : index = before + 1
    · rw [if_pos here, if_pos (leads.mpr here)]
      rfl
    · rw [if_neg here, if_neg (mt leads.mp here)]
  rw [scope, first, joins]
  rfl

theorem path_eq_empty_iff (tree : arena.IsTree schema) (held : arena.nodes[index]? = some node) :
    node.path = "" ↔ index = 0 := by
  constructor
  · intro empty
    by_contra joined
    obtain ⟨parent, above, entity, _, _, _, _, continues⟩ := tree.child held joined
    rw [continues.path] at empty
    split at empty
    · exact continues.named empty
    · simp at empty
  · rintro rfl
    obtain ⟨entity, root⟩ := tree.root
    cases held.symm.trans root
    rfl

theorem path_eq_joinDots (tree : arena.IsTree schema) (held : arena.nodes[index]? = some node) :
    "" ∉ crossed arena.nodes index ∧ node.path = Text.joinDots (crossed arena.nodes index) := by
  induction index using Nat.strongRecOn generalizing node with
  | ind index ih =>
    by_cases root : index = 0
    · rw [(tree.path_eq_empty_iff held).mpr root, root, tree.crossed_root]
      exact ⟨List.not_mem_nil, rfl⟩
    · obtain ⟨parent, above, entity, isParent, before, aboveHeld, _, continues⟩ := tree.child held root
      obtain ⟨named, written⟩ := ih parent before aboveHeld
      rw [tree.crossed_of_parent held isParent]
      refine ⟨?_, ?_⟩
      · simpa [named] using continues.named.symm
      · rw [Text.joinDots_concat named, ← written, continues.path]
        exact if_congr (tree.path_eq_empty_iff aboveHeld).symm rfl rfl

theorem selectList_scope (tree : arena.IsTree schema) : arena.scope.selectList = arena.selectList := by
  obtain ⟨entity, root⟩ := tree.root
  have same : arena.joins.map (fun join => (join.fetch, join.selection)) =
      arena.nodes.map fun node => (node.fetch, node.selection) := by
    refine map_joins fun index node held => ?_
    rw [Join.selection, Node.selection, (tree.path_eq_joinDots held).2]
    rfl
  have asked : ∀ {α : Type} (fetch : α → Bool) (selection : α → String) (items : List α),
      (items.filter fetch).map selection =
        ((items.map fun item => (fetch item, selection item)).filter Prod.fst).map Prod.snd := by
    intro α fetch selection items
    rw [List.filter_map, List.map_map]
    rfl
  obtain ⟨rest, nodes⟩ : ∃ rest, arena.nodes = .root entity :: rest := by
    cases all : arena.nodes with
    | nil => simp [all] at root
    | cons first rest =>
      rw [all, List.getElem?_cons_zero, Option.some_inj] at root
      exact ⟨rest, by rw [root]⟩
  have tail : (arena.joins.tail.filter Join.fetch).map Join.selection = (arena.nodes.filter Node.fetch).map Node.selection := by
    rw [asked _ _ arena.joins.tail, asked _ _ arena.nodes, List.map_tail, same, nodes]
    rfl
  have first : (arena.node 0).number = 0 := by
    rw [Arena.node, root]
    rfl
  rw [Scope.selectList, Arena.selectList, first, ← tail]
  rfl

end IsTree

theorem joinsText_scope (arena : Arena) : arena.scope.joinsText = arena.joinsText := by
  rw [Scope.joinsText, Arena.joinsText, scope, List.map_tail, List.map_tail]
  have same : arena.joins.map (fun join => " " ++ join.text) = arena.nodes.map fun node => " " ++ node.text :=
    map_joins fun _ _ _ => rfl
  rw [same]

theorem joinCount_scope (arena : Arena) : arena.scope.joinCount = arena.joinCount := by
  rw [Scope.joinCount, Arena.joinCount, scope, joins, List.length_tail, List.length_mapIdx]

theorem scope_start (schema : Schema) (root : String) : (start schema root).map scope = schema.scope root := by
  rw [start, Schema.scope]
  cases schema.entity root with
  | error error => rfl
  | ok entity => rfl

end Arena

end RecordFilter
