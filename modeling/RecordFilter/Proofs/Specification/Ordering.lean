import RecordFilter.Proofs.Specification.Scoped

set_option autoImplicit false

namespace RecordFilter

namespace Scope

def Event.IsOuter : Event → Prop
  | cross _ kind fetch => kind = .left ∧ fetch = false
  | collect _ kind => kind = .left
  | distinct _ => False

-- Nothing that the scope held is renamed, joined otherwise or fetched; `added` stands behind it.
structure Widens (scope : Scope) (added : List Join) (after : Scope) : Prop where
  grown : after = { scope with joins := scope.joins ++ added, nextNumber := after.nextNumber }
  unfetched : ∀ join ∈ added, join.fetch = false
  outer : ∀ join ∈ added, ∀ clause ∈ join.clauses, clause.kind = .left

variable {schema : Schema} {scope between after : Scope} {added more : List Join}

theorem widens_self (scope : Scope) : scope.Widens [] scope :=
  ⟨by rw [List.append_nil], nofun, nofun⟩

theorem widens_extend {join : Join} (unfetched : join.fetch = false) (outer : ∀ clause ∈ join.clauses, clause.kind = .left) :
    scope.Widens [join] (scope.extend join) :=
  ⟨rfl, List.forall_mem_singleton.mpr unfetched, List.forall_mem_singleton.mpr outer⟩

theorem Widens.trans (first : scope.Widens added between) (second : between.Widens more after) :
    scope.Widens (added ++ more) after := by
  refine ⟨?_, List.forall_mem_append.mpr ⟨first.unfetched, second.unfetched⟩,
    List.forall_mem_append.mpr ⟨first.outer, second.outer⟩⟩
  rw [second.grown, first.grown, List.append_assoc]

theorem Step.widens {event : Event} (taken : Step schema scope event after) (outer : event.IsOuter) :
    ∃ added, scope.Widens added after := by
  cases taken with
  | distinct flag => exact outer.elim
  | share join crossed kind fetch found =>
    rw [outer.2]
    exact ⟨[], scope.widens_self⟩
  | associate place field relation kind fetch join reached declared absent planned =>
    obtain ⟨parent, target, clauses, _, _, written, rfl⟩ := Schema.associationJoin_ok planned
    refine ⟨_, widens_extend outer.2 fun clause member => ?_⟩
    exact ((Relation.clausesAt_kind written).2 clause member).trans outer.1
  | collect place field table foreignKey column kind join reached declared planned =>
    obtain ⟨parent, parentKey, _, _, rfl⟩ := Schema.collectionJoin_ok planned
    exact ⟨_, widens_extend rfl (List.forall_mem_singleton.mpr outer)⟩

theorem Run.widens {history : List Event} (run : Run schema scope history after)
    (outer : ∀ event ∈ history, event.IsOuter) : ∃ added, scope.Widens added after := by
  induction run with
  | done scope => exact ⟨[], scope.widens_self⟩
  | step scope event between rest after taken onward ih =>
    rw [List.forall_mem_cons] at outer
    obtain ⟨first, here⟩ := taken.widens outer.1
    obtain ⟨others, there⟩ := ih outer.2
    exact ⟨first ++ others, here.trans there⟩

theorem Widens.selectList (widens : scope.Widens added after) : after.selectList = scope.selectList := by
  have none : added.filter Join.fetch = [] :=
    List.filter_eq_nil_iff.mpr fun join member => Bool.eq_false_iff.mp (widens.unfetched join member)
  rw [Scope.selectList, widens.grown, List.filter_append, none, List.append_nil, Scope.selectList]

theorem Widens.clauses (widens : scope.Widens added after) : after.clauses = scope.clauses ++ added.flatMap Join.clauses := by
  rw [Scope.clauses, widens.grown, List.flatMap_append, Scope.clauses]

end Scope

theorem Schema.events_outer (schema : Schema) (entity : String) (crossed segments : List String) :
    ∀ event ∈ schema.events .left false entity crossed segments, event.IsOuter := by
  induction segments generalizing entity crossed with
  | nil => exact List.forall_mem_nil _
  | cons field rest ih =>
    rw [events]
    cases schema.across entity field with
    | some next => exact List.forall_mem_cons.mpr ⟨⟨rfl, rfl⟩, ih next _⟩
    | none =>
      dsimp only
      split
      · exact List.forall_mem_singleton.mpr rfl
      · exact List.forall_mem_nil _

def OrderItem.resolve (schema : Schema) (ordering : Path × Direction) : Resolve Scope OrderItem := do
  let column ← ordering.1.resolve schema .left false
  return ⟨column, ordering.2⟩

theorem OrderItem.resolve_directions {schema : Schema} {orderings : List (Path × Direction)} {items : List OrderItem}
    {scope after : Scope} (succeeded : (orderings.mapM (resolve schema)).outcome scope = (.ok items, after)) :
    items.map direction = orderings.map Prod.snd := by
  induction orderings generalizing scope items with
  | nil =>
    rw [List.mapM_nil, Resolve.outcome_pure, Prod.mk.injEq, Except.ok.injEq] at succeeded
    rw [← succeeded.1]
    rfl
  | cons ordering rest ih =>
    obtain ⟨item, between, others, first, onward, rfl⟩ := Resolve.mapM_cons_ok succeeded
    obtain ⟨column, reached, _, finished⟩ := Resolve.outcome_bind_ok first
    rw [Resolve.outcome_pure, Prod.mk.injEq, Except.ok.injEq] at finished
    rw [List.map_cons, List.map_cons, ih onward, ← finished.1]

namespace Query

theorem orderByAll_eq (query : Query) (orderings : List (Path × Direction)) :
    query.orderByAll orderings =
      let resolved := (orderings.mapM (OrderItem.resolve query.schema)).outcome query.scope
      resolved.1.map fun items => { query with scope := resolved.2, order := query.order ++ items } := by
  induction orderings generalizing query with
  | nil => simp [orderByAll, Resolve.outcome_pure, Except.map]
  | cons ordering rest ih =>
    obtain ⟨path, direction⟩ := ordering
    rw [orderByAll, orderBy_eq, List.mapM_cons, Resolve.outcome_bind, OrderItem.resolve, Resolve.outcome_bind]
    rcases (path.resolve query.schema .left false).outcome query.scope with ⟨outcome, between⟩
    cases outcome with
    | error error => rfl
    | ok column =>
      dsimp only [Except.map]
      rw [ih, Resolve.outcome_pure]
      dsimp only
      rw [Resolve.outcome_bind]
      rcases (rest.mapM (OrderItem.resolve query.schema)).outcome between with ⟨outcomes, after⟩
      cases outcomes with
      | error error => rfl
      | ok items => simp [Resolve.outcome_pure, Except.map]

theorem orderByAll_ok {query sorted : Query} {orderings : List (Path × Direction)}
    (ordered : query.orderByAll orderings = .ok sorted) :
    ∃ items, (orderings.mapM (OrderItem.resolve query.schema)).outcome query.scope = (.ok items, sorted.scope) ∧
      sorted.schema = query.schema ∧ sorted.filter = query.filter ∧ sorted.order = query.order ++ items := by
  rw [orderByAll_eq] at ordered
  rcases resolved : (orderings.mapM (OrderItem.resolve query.schema)).outcome query.scope with ⟨outcome, after⟩
  rw [resolved] at ordered
  cases outcome with
  | error error => cases ordered
  | ok items =>
    cases ordered
    exact ⟨items, rfl, rfl, rfl, rfl⟩

def unordered (query : Query) : Statement := statementOf query.rowsText

def opening (query : Query) : String :=
  "SELECT " ++ (if query.isDistinct then "DISTINCT " else "") ++ query.scope.selectList
    ++ " FROM " ++ query.scope.tablesText

def ending (query : Query) : Statement := statementOf query.filterText

theorem unordered_eq (query : Query) :
    query.unordered = ⟨query.opening ++ query.ending.text, query.ending.params⟩ := rfl

theorem select_unordered (query : Query) :
    query.select = ⟨query.unordered.text ++ (if query.order = [] then "" else
      " ORDER BY " ++ ", ".intercalate (query.order.map fun item => item.column.source ++ "." ++ item.column.name ++
        if item.direction = .ascending then " ASC" else " DESC")), query.unordered.params⟩ := by
  have unfolded : query.select = ⟨query.unordered.text ++ query.orderText, query.unordered.params⟩ := rfl
  rw [unfolded, orderText]
  simp only [List.isEmpty_iff, funext OrderItem.text_eq]

theorem count_unordered (query : Query) :
    query.count = ⟨"SELECT COUNT(*) FROM (" ++ query.unordered.text ++ ") AS q", query.unordered.params⟩ := rfl

structure Frames (query : Query) (added : List JoinClause) (sorted : Query) : Prop where
  distinct : sorted.isDistinct = query.isDistinct
  filtered : sorted.isFiltered = query.isFiltered
  selectList : sorted.scope.selectList = query.scope.selectList
  filterText : sorted.filterText = query.filterText
  joinsText : sorted.scope.joinsText = query.scope.joinsText ++ JoinClause.written added
  outer : ∀ clause ∈ added, clause.kind = .left ∧ ∃ rest, clause.text = "LEFT JOIN " ++ rest
  unordered : sorted.unordered = ⟨query.opening ++ JoinClause.written added ++ query.ending.text, query.ending.params⟩

theorem orderByAll_frames {query sorted : Query} {orderings : List (Path × Direction)}
    (sound : query.scope.Sound query.schema) (ordered : query.orderByAll orderings = .ok sorted) :
    ∃ added, query.Frames added sorted := by
  obtain ⟨_, sameFilter, run, _⟩ := orderByAll_ordered sound ordered
  have outer : ∀ event ∈ orderings.flatMap fun ordering =>
      (Request.ofOrdering ordering).events query.schema query.scope.entity, event.IsOuter := by
    intro event member
    obtain ⟨ordering, _, called⟩ := List.mem_flatMap.mp member
    exact query.schema.events_outer _ _ _ event called
  obtain ⟨joins, widens⟩ := run.widens outer
  have selectList := widens.selectList
  have distinct : sorted.isDistinct = query.isDistinct := by rw [isDistinct, widens.grown, isDistinct]
  have filterText : sorted.filterText = query.filterText := by rw [Query.filterText, Query.filterText, sameFilter]
  have joinsText : sorted.scope.joinsText = query.scope.joinsText ++ JoinClause.written (joins.flatMap Join.clauses) := by
    rw [(run.sound sound).joinsText_eq, sound.joinsText_eq, widens.clauses, JoinClause.written_append]
  have opening : sorted.opening = query.opening ++ JoinClause.written (joins.flatMap Join.clauses) := by
    have table : sorted.scope.table = query.scope.table := by rw [widens.grown]
    rw [Query.opening, Query.opening, distinct, selectList, Scope.tablesText, Scope.tablesText, table, joinsText]
    simp only [String.append_assoc]
  refine ⟨joins.flatMap Join.clauses, distinct, ?_, selectList, filterText, joinsText, ?_, ?_⟩
  · rw [isFiltered, sameFilter, isFiltered]
  · intro clause member
    obtain ⟨join, held, inside⟩ := List.mem_flatMap.mp member
    have left := widens.outer join held clause inside
    obtain ⟨rest, written⟩ := clause.text_begins
    rw [left] at written
    exact ⟨left, rest, written⟩
  · rw [unordered_eq, opening, ending, ending, filterText]

end Query

/-- Orderings add items and joins to a query, the items in their own order and the joins behind the old ones; otherwise both
of its statements are made as before. -/
theorem Query.orderings_frame {schema : Schema} {root : String} {specification : Specification}
    {earlier orderings : List (Path × Direction)} {start query sorted : Query}
    (resolved : specification.query schema root = .ok start) (orderedBefore : start.orderByAll earlier = .ok query)
    (ordered : query.orderByAll orderings = .ok sorted) :
    start.order = [] ∧ start.select = start.unordered ∧
      query.unordered = ⟨query.opening ++ query.ending.text, query.ending.params⟩ ∧
      (∃ items, (orderings.mapM (OrderItem.resolve schema)).outcome query.scope = (.ok items, sorted.scope) ∧
        items.map OrderItem.direction = orderings.map Prod.snd ∧ sorted.order = query.order ++ items) ∧
      (∃ added, query.Frames added sorted) ∧
      sorted.select = ⟨sorted.unordered.text ++ (if sorted.order = [] then "" else
        " ORDER BY " ++ ", ".intercalate (sorted.order.map fun item => item.column.source ++ "." ++ item.column.name ++
          if item.direction = .ascending then " ASC" else " DESC")), sorted.unordered.params⟩ ∧
      sorted.count = ⟨"SELECT COUNT(*) FROM (" ++ sorted.unordered.text ++ ") AS q", sorted.unordered.params⟩ := by
  obtain ⟨entity, conditions, _, parts⟩ := Specification.query_resolved resolved
  obtain ⟨before, _, sameSchema, _, _⟩ := orderByAll_ok orderedBefore
  obtain ⟨items, each, _, _, appended⟩ := orderByAll_ok ordered
  rw [sameSchema, parts.sameSchema] at each
  have directions := OrderItem.resolve_directions each
  have sound := (parts.follows orderedBefore).run.sound (Scope.sound_start entity.table entity.name)
  refine ⟨parts.unordered, ?_, query.unordered_eq, ⟨items, each, directions, appended⟩, ?_, sorted.select_unordered,
    sorted.count_unordered⟩
  · rw [start.select_unordered, parts.unordered, if_pos rfl, String.append_empty]
  · rw [← parts.sameSchema, ← sameSchema] at sound
    exact orderByAll_frames sound ordered

theorem Query.orderings_frame_books :
    ∃ start query sorted, (Specification.ofPredicate (equalPredicate { path := ⟨["author", "name"]⟩, fetch := true }
        (.text "Ada"))).query books.schema "Book" = .ok start ∧
      start.orderByAll [(⟨["author"]⟩, .ascending)] = .ok query ∧
      query.orderByAll [(⟨["genres", "name"]⟩, .descending), (⟨["author", "name"]⟩, .ascending)] = .ok sorted ∧
      sorted.order.map OrderItem.direction = [.ascending, .descending, .ascending] ∧
      query.scope.shortNames = ["t0", "t1"] ∧ sorted.scope.shortNames = ["t0", "t1", "t3", "t2"] ∧
      ∃ added, query.Frames added sorted := by
  obtain ⟨_, _, _, _, frames, _⟩ := Query.orderings_frame
    (show (Specification.ofPredicate (equalPredicate { path := ⟨["author", "name"]⟩, fetch := true }
      (.text "Ada"))).query books.schema "Book" = .ok _ from rfl)
    (show Query.orderByAll _ [(⟨["author"]⟩, .ascending)] = .ok _ from rfl)
    (show Query.orderByAll _ [(⟨["genres", "name"]⟩, .descending), (⟨["author", "name"]⟩, .ascending)] = .ok _ from rfl)
  exact ⟨_, _, _, rfl, rfl, rfl, rfl, rfl, rfl, frames⟩

end RecordFilter
