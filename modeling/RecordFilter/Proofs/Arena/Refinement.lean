import RecordFilter.Proofs.Arena.Scope
import RecordFilter.Proofs.Scope.Cause

set_option autoImplicit false

namespace RecordFilter

namespace Arena

variable {α β γ δ : Type} {schema : Schema} {arena : Arena}

-- Both sides fail alike, or succeed with results that agree, and the tree has only grown.
inductive Refines (schema : Schema) (arena : Arena) (left : Resolve Arena α) (right : Resolve Scope β)
    (agree : Arena → α → β → Prop) : Prop where
  | ok (after : Arena) (mine : α) (other : β) (here : left.outcome arena = (.ok mine, after))
      (there : right.outcome arena.scope = (.ok other, after.scope)) (tree : after.IsTree schema) (kept : arena.Keeps after)
      (agrees : agree after mine other)
  | error (after : Arena) (error : Error) (here : left.outcome arena = (.error error, after))
      (there : right.outcome arena.scope = (.error error, after.scope)) (tree : after.IsTree schema)
      (kept : arena.Keeps after)

namespace Refines

theorem bind {left : Resolve Arena α} {right : Resolve Scope β} {next : α → Resolve Arena γ} {further : β → Resolve Scope δ}
    {agree : Arena → α → β → Prop} {agreeOn : Arena → γ → δ → Prop} (first : Refines schema arena left right agree)
    (onward : ∀ after mine other, after.IsTree schema → agree after mine other →
      Refines schema after (next mine) (further other) agreeOn) :
    Refines schema arena (left >>= next) (right >>= further) agreeOn := by
  cases first with
  | error after error here there tree kept =>
    exact .error after error (Resolve.outcome_bind_of_error here next) (Resolve.outcome_bind_of_error there further) tree kept
  | ok between mine other here there tree kept agrees =>
    have hereOn := Resolve.outcome_bind_of_ok here next
    have thereOn := Resolve.outcome_bind_of_ok there further
    cases onward between mine other tree agrees with
    | ok after value result mineOn otherOn treeOn keptOn agreesOn =>
      exact .ok after value result (hereOn.trans mineOn) (thereOn.trans otherOn) treeOn (kept.trans keptOn) agreesOn
    | error after error mineOn otherOn treeOn keptOn =>
      exact .error after error (hereOn.trans mineOn) (thereOn.trans otherOn) treeOn (kept.trans keptOn)

theorem pure {mine : α} {other : β} {agree : Arena → α → β → Prop} (tree : arena.IsTree schema)
    (agrees : agree arena mine other) : Refines schema arena (Pure.pure mine) (Pure.pure other) agree :=
  .ok arena mine other rfl rfl tree arena.keeps_self agrees

theorem lift_bind {result : Except Error α} {next : α → Resolve Arena γ} {further : α → Resolve Scope δ}
    {agree : Arena → γ → δ → Prop} (tree : arena.IsTree schema)
    (onward : ∀ value, result = .ok value → Refines schema arena (next value) (further value) agree) :
    Refines schema arena (liftM result >>= next) (liftM result >>= further) agree := by
  have asked : Refines schema arena (liftM result) (liftM result) fun after mine other =>
      after = arena ∧ mine = other ∧ result = .ok mine := by
    cases result with
    | error error => exact .error arena error rfl rfl tree arena.keeps_self
    | ok value => exact .ok arena value value rfl rfl tree arena.keeps_self ⟨rfl, rfl, rfl⟩
  refine asked.bind ?_
  rintro after mine other _ ⟨rfl, rfl, given⟩
  exact onward mine given

theorem of_outcome {left leftOn : Resolve Arena α} {right rightOn : Resolve Scope β} {agree : Arena → α → β → Prop}
    (mine : left.outcome arena = leftOn.outcome arena) (other : right.outcome arena.scope = rightOn.outcome arena.scope)
    (refines : Refines schema arena leftOn rightOn agree) : Refines schema arena left right agree := by
  cases refines with
  | ok after value result here there tree kept agrees =>
    exact .ok after value result (mine.trans here) (other.trans there) tree kept agrees
  | error after error here there tree kept => exact .error after error (mine.trans here) (other.trans there) tree kept

theorem get_bind {next : Arena → Resolve Arena α} {right : Resolve Scope β} {agree : Arena → α → β → Prop}
    (refines : Refines schema arena (next arena) right agree) : Refines schema arena (get >>= next) right agree :=
  of_outcome (Resolve.outcome_bind_of_ok (Resolve.outcome_get arena) next) rfl refines

theorem ok_bind {result : Except Error γ} {value : γ} {next : γ → Resolve Arena α} {right : Resolve Scope β}
    {agree : Arena → α → β → Prop} (given : result = .ok value) (refines : Refines schema arena (next value) right agree) :
    Refines schema arena (liftM result >>= next) right agree := by
  subst given
  exact of_outcome (Resolve.outcome_bind_of_ok (Resolve.outcome_lift (.ok value) arena) next) rfl refines

end Refines

def Stands (arena : Arena) (index : Nat) (place : Place) : Prop :=
  ∃ node entity, arena.nodes[index]? = some node ∧ node.entity = some entity ∧
    place = ⟨crossed arena.nodes index, entity, node.number⟩

variable {index : Nat} {place : Place} {node : Node}

theorem node_of_held (held : arena.nodes[index]? = some node) : arena.node index = node := by
  rw [Arena.node, held]
  rfl

theorem Stands.entityOf (stands : arena.Stands index place) : arena.entityOf index = .ok place.entity := by
  obtain ⟨node, entity, held, known, rfl⟩ := stands
  rw [Arena.entityOf, node_of_held held, known]

theorem Stands.number (stands : arena.Stands index place) : (arena.node index).number = place.number := by
  obtain ⟨node, entity, held, known, rfl⟩ := stands
  rw [node_of_held held]

theorem IsTree.childPath (tree : arena.IsTree schema) (held : arena.nodes[index]? = some node) (field : String) :
    arena.childPath index field = if index = 0 then field else node.path ++ "." ++ field := by
  rw [Arena.childPath, node_of_held held]
  exact if_congr (tree.path_eq_empty_iff held) rfl rfl

theorem outcome_freshNumber_bind (arena : Arena) (next : Nat → Resolve Arena α) :
    (Arena.freshNumber >>= next).outcome arena = (next arena.nextNumber).outcome arena.spend := by
  rw [Resolve.outcome_bind]
  rfl

theorem outcome_clauses (arena : Arena) (relation : Relation) (kind : JoinKind) (parent target : Entity) (near : Nat) :
    (relation.clauses kind parent target near arena.nextNumber Arena.freshNumber).outcome arena.spend =
      match relation.clausesAt kind parent target near arena.nextNumber with
      | .ok clauses => (.ok clauses, { arena with nextNumber := arena.nextNumber + clauses.length })
      | .error error => (.error error, arena.spend) :=
  relation.outcome_clauses kind parent target near arena.nextNumber (fun next => { arena with nextNumber := next }) rfl

-- The number is taken before the keys are looked up, so a failure leaves it spent.
theorem joinAssociation_new {field : String} {relation : Relation} (kind : JoinKind) (fetch : Bool)
    (tree : arena.IsTree schema) (stands : arena.Stands index place) (named : field ≠ "")
    (declared : schema.field place.entity field = .ok (.association relation))
    (absent : arena.association? index field = none) :
    Refines schema arena (joinAssociation schema index field relation kind fetch)
      (RecordFilter.joinAssociation schema kind fetch place field relation) Stands := by
  refine .get_bind ?_
  rw [absent]
  refine .ok_bind stands.entityOf (.lift_bind tree fun parent parentFound => .lift_bind tree fun target targetFound => ?_)
  rw [stands.number]
  obtain ⟨above, entity, held, known, rfl⟩ := stands
  have mine := outcome_clauses arena relation kind parent target above.number
  have other := Scope.outcome_clauses arena.scope relation kind parent target above.number
  rw [nextNumber_scope] at other
  cases written : relation.clausesAt kind parent target above.number arena.nextNumber with
  | error error =>
    rw [written] at mine other
    refine .error arena.spend error ?_ ?_ tree.spend (keeps_self arena)
    · rw [outcome_freshNumber_bind]
      exact Resolve.outcome_bind_of_error mine _
    · rw [Resolve.outcome_freshNumber_bind]
      exact Resolve.outcome_bind_of_error other _
  | ok clauses =>
    rw [written] at mine other
    let new : Node := ⟨some index, field, some target.name, arena.nextNumber, arena.childPath index field, fetch, clauses⟩
    refine .ok (arena.grow new) arena.nodes.length ⟨crossed arena.nodes index ++ [field], target.name, arena.nextNumber⟩ ?_ ?_
      ?_ (keeps_grow arena new) ?_
    · rw [outcome_freshNumber_bind]
      refine (Resolve.outcome_bind_of_ok mine _).trans ?_
      change (Except.ok ((arena.nodes ++ [new]).length - 1), arena.grow new) = _
      rw [List.length_append, List.length_singleton, Nat.add_sub_cancel]
    · rw [Resolve.outcome_freshNumber_bind]
      refine (Resolve.outcome_bind_of_ok other _).trans ?_
      rw [scope_grow held rfl]
      rfl
    · refine tree.grow held known rfl ⟨named, tree.childPath held field, ?_⟩ rfl fun _ => absent
      exact ⟨relation, parent, target, kind, declared, parentFound, targetFound, rfl,
        Relation.prescribes_of_clausesAt written⟩
    · refine ⟨new, target.name, List.getElem?_concat_length, rfl, ?_⟩
      rw [crossed_new held rfl]

theorem joinAssociation_existing {field : String} {existing : Nat} (schema : Schema) (relation : Relation) (kind : JoinKind)
    (fetch : Bool) (found : arena.association? index field = some existing) (held : arena.nodes[existing]? = some node) :
    (joinAssociation schema index field relation kind fetch).outcome arena =
      (.ok existing, if fetch then arena.requestFetch existing else arena) := by
  rw [joinAssociation, Resolve.outcome_bind_of_ok (Resolve.outcome_get arena), found]
  dsimp only
  rw [node_of_held held]
  cases fetch with
  | false => rfl
  | true =>
    cases fetched : node.fetch with
    | false => rfl
    | true =>
      rw [requestFetch_of_fetch held fetched]
      rfl

theorem crossAssociation_existing {scope : Scope} {field entity : String} {crossed : List String} {number : Nat}
    {fetched : Bool} {clauses : List JoinClause} (schema : Schema) (relation : Relation) (kind : JoinKind) (fetch : Bool)
    (found : scope.association? (place.crossed ++ [field]) = some ⟨crossed, some entity, number, fetched, clauses⟩) :
    (crossAssociation schema kind fetch place field relation).outcome scope =
      (.ok ⟨place.crossed ++ [field], entity, number⟩, if fetch then scope.requestFetch (place.crossed ++ [field]) else scope) := by
  rw [crossAssociation, Resolve.outcome_bind_of_ok (Resolve.outcome_get scope), found]
  cases fetch <;> rfl

theorem joinAssociation_refines {field : String} {relation : Relation} (kind : JoinKind) (fetch : Bool)
    (tree : arena.IsTree schema) (stands : arena.Stands index place) (named : field ≠ "")
    (declared : schema.field place.entity field = .ok (.association relation)) :
    Refines schema arena (joinAssociation schema index field relation kind fetch)
      (crossAssociation schema kind fetch place field relation) Stands := by
  obtain ⟨above, entity, aboveHeld, known, same⟩ := id stands
  have found := tree.association_scope aboveHeld (by rw [known]; rfl) field
  have crossed : place.crossed = crossed arena.nodes index := by rw [same]
  rw [← crossed] at found
  cases here : arena.association? index field with
  | none =>
    rw [here, Option.bind_none] at found
    refine .of_outcome rfl ?_ (joinAssociation_new kind fetch tree stands named declared here)
    rw [crossAssociation, Resolve.outcome_bind_of_ok (Resolve.outcome_get arena.scope), found]
  | some existing =>
    obtain ⟨joined, node, held, child, related, field_⟩ := tree.association_ok here
    obtain ⟨name, nodeKnown⟩ := Option.isSome_iff_exists.mp related
    have way : Arena.crossed arena.nodes existing = place.crossed ++ [field] := by
      rw [tree.crossed_of_parent held child, crossed, field_]
    rw [here, Option.bind_some, getElem?_joins, held, Option.map_some, Node.join, nodeKnown] at found
    have mine := joinAssociation_existing schema relation kind fetch here held
    have other := crossAssociation_existing schema relation kind fetch found
    cases fetch with
    | false =>
      refine .ok arena existing _ mine other tree arena.keeps_self ?_
      exact ⟨node, name, held, nodeKnown, by rw [way]⟩
    | true =>
      refine .ok (arena.requestFetch existing) existing ⟨place.crossed ++ [field], name, node.number⟩ mine ?_
        (tree.requestFetch joined) (keeps_requestFetch arena existing) ?_
      · rw [tree.scope_requestFetch held related joined, way]
        exact other
      · obtain ⟨asked, kept, _⟩ := keeps_requestFetch arena existing existing node held
        exact ⟨_, name, kept, nodeKnown, by rw [crossed_requestFetch, way]⟩

theorem joinCollection_refines {field table foreignKey column : String} (kind : JoinKind) (tree : arena.IsTree schema)
    (stands : arena.Stands index place) (named : field ≠ "")
    (declared : schema.field place.entity field = .ok (.collection table foreignKey column)) :
    Refines schema arena (joinCollection schema index field table foreignKey column kind)
      (RecordFilter.joinCollection schema kind place field table foreignKey column) fun _ mine other => mine = other := by
  refine .get_bind (.ok_bind stands.entityOf ?_)
  refine .lift_bind tree fun parent parentFound => .lift_bind tree fun key keyed => ?_
  have near := stands.number
  obtain ⟨above, entity, held, known, rfl⟩ := stands
  let new : Node := ⟨some index, field, none, arena.nextNumber, arena.childPath index field, false,
    [⟨kind, table, arena.nextNumber, foreignKey, columnOf above.number key⟩]⟩
  refine .ok (arena.grow new) (columnOf arena.nextNumber column) _ ?_ ?_ ?_ (keeps_grow arena new) rfl
  · rw [outcome_freshNumber_bind, near]
    rfl
  · rw [Resolve.outcome_freshNumber_bind, scope_grow held rfl]
    rfl
  · refine tree.grow held known rfl ⟨named, tree.childPath held field, ?_⟩ rfl nofun
    exact ⟨table, foreignKey, column, parent, key, kind, declared, parentFound, Entity.keyColumn_ok keyed, rfl⟩

theorem walk_refines {segments : List String} (kind : JoinKind) (fetch : Bool) (tree : arena.IsTree schema)
    (stands : arena.Stands index place) (named : "" ∉ segments) :
    Refines schema arena (walk schema kind fetch segments index) (RecordFilter.walk schema kind fetch segments place)
      fun _ mine other => mine = other := by
  induction segments generalizing arena index place with
  | nil =>
    refine .get_bind (.ok_bind stands.entityOf ?_)
    refine .lift_bind tree fun entity found => .lift_bind tree fun key keyed => .pure tree ?_
    rw [stands.number]
    rfl
  | cons field rest ih =>
    obtain ⟨nameless, namedOn⟩ := not_or.mp (mt List.mem_cons.mpr named)
    refine .get_bind (.ok_bind stands.entityOf (.lift_bind tree fun found declared => ?_))
    cases found with
    | scalar column =>
      refine .pure tree ?_
      rw [stands.number]
      rfl
    | collection table foreignKey column => exact joinCollection_refines kind tree stands (Ne.symm nameless) declared
    | association relation =>
      refine (joinAssociation_refines kind fetch tree stands (Ne.symm nameless) declared).bind ?_
      exact fun after next place treeOn standsOn => ih treeOn standsOn namedOn

theorem resolve_refines (path : Path) (kind : JoinKind) (fetch : Bool) (tree : arena.IsTree schema) :
    Refines schema arena (resolve schema path kind fetch) (path.resolve schema kind fetch) fun _ mine other => mine = other := by
  refine .lift_bind tree fun _ checked => ?_
  refine .of_outcome rfl (Resolve.outcome_bind_of_ok (Resolve.outcome_get arena.scope) _) ?_
  refine walk_refines kind fetch tree ?_ (path.check_ok_iff.mp checked).2
  obtain ⟨entity, root⟩ := tree.root
  refine ⟨_, entity, root, rfl, ?_⟩
  rw [tree.crossed_root, Scope.root, scope, node_of_held root]
  rfl

end Arena

end RecordFilter
