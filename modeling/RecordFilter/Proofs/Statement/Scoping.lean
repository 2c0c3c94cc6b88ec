import RecordFilter.Proofs.Statement.Select

set_option autoImplicit false

namespace RecordFilter

def ClauseText.columns (clause : ClauseText) : List Column := [clause.key, clause.other]

namespace SelectText

def tables (text : SelectText) : List (String × String) :=
  text.first :: text.clauses.map fun clause => (clause.shortName, clause.table)

def bound (text : SelectText) : List String := text.tables.map Prod.fst

def Justifies (schema : Schema) (scope : Scope) (text : SelectText) (column : Column) : Prop :=
  ∃ source, scope.Binds schema column.source source ∧ (column.source, source.table) ∈ text.tables ∧ source.Gives column.name

structure WellScoped (schema : Schema) (scope : Scope) (text : SelectText) : Prop where
  counted : text.bound.Perm
    ((List.range (scope.joinCount + scope.joins.countP (scope.isLinked schema) + 1)).map tableName)
  once : text.bound.Nodup
  tables : ∀ table ∈ text.tables, ∃ source, scope.Binds schema table.1 source ∧ source.table = table.2
  leftward : ∀ before clause after, text.clauses = before ++ clause :: after → ∀ column ∈ clause.columns,
    column.source ∈ text.first.1 :: (before ++ [clause]).map ClauseText.shortName
  joined : ∀ clause ∈ text.clauses, ∀ column ∈ clause.columns, text.Justifies schema scope column
  selected : text.star ∈ text.bound ∧ ∀ output ∈ text.outputs, output.source ∈ text.bound
  named : ∀ column ∈ text.named, column.source ∈ text.bound ∧ text.Justifies schema scope column

end SelectText

theorem Leftward.split {bound : List String} {before after : List JoinClause} {clause : JoinClause}
    (leftward : Leftward bound (before ++ clause :: after)) :
    ∀ column ∈ clause.columns, column.source ∈ bound ++ (before ++ [clause]).map JoinClause.shortName := by
  induction before generalizing bound with
  | nil => exact leftward.1
  | cons first rest ih =>
    have onward := ih leftward.2
    simpa using onward

namespace Query

variable {schema : Schema} {entity : Entity} {specification : Specification} {orderings : List (Path × Direction)}
  {conditions : List Condition} {query : Query}

theorem Follows.columns_addressed (follows : query.Follows schema entity specification orderings conditions) :
    ∀ column ∈ query.columns, query.scope.Addresses schema column := by
  intro column member
  rw [columns, List.mem_append] at member
  rcases member with filtered | sorted
  · cases filter : query.filter with
    | none =>
      rw [filter] at filtered
      cases filtered
    | some condition =>
      rw [filter] at filtered
      exact follows.addresses condition filter column filtered
  · obtain ⟨item, held, rfl⟩ := List.mem_map.mp sorted
    exact follows.order item held

theorem tables_asText (query : Query) : query.asText.tables = query.scope.tables := by
  rw [SelectText.tables, asText, List.map_map]
  rfl

theorem bound_asText (query : Query) : query.asText.bound = query.scope.shortNames := by
  rw [SelectText.bound, tables_asText, Scope.tables, List.map_cons, List.map_map]
  rfl

theorem justifies_asText {column : Column} (justified : query.scope.Justifies schema column) :
    query.asText.Justifies schema query.scope column := by
  rw [SelectText.Justifies, tables_asText]
  exact justified

theorem leftward_asText (leftward : Leftward [tableName 0] query.scope.clauses) (before : List ClauseText)
    (clause : ClauseText) (after : List ClauseText) (split : query.asText.clauses = before ++ clause :: after) :
    ∀ column ∈ clause.columns, column.source ∈ tableName 0 :: (before ++ [clause]).map ClauseText.shortName := by
  intro column member
  obtain ⟨earlier, further, whole, rfl, rest⟩ := List.map_eq_append_iff.mp split
  obtain ⟨here, later, rfl, rfl, rfl⟩ := List.map_eq_cons_iff.mp rest
  rw [whole] at leftward
  have known := leftward.split column member
  simpa [JoinClause.asText, Function.comp_def] using known

theorem selected_asText (sound : query.scope.Sound schema) :
    ∀ output ∈ query.asText.outputs, output.source ∈ query.scope.shortNames := by
  intro output selected
  obtain ⟨join, fetched, rfl⟩ := List.mem_map.mp selected
  obtain ⟨held, _⟩ := List.mem_filter.mp fetched
  obtain ⟨clause, member, number⟩ := List.mem_map.mp (sound.joins join held).number_mem
  change tableName join.number ∈ query.scope.shortNames
  rw [← number]
  exact List.mem_cons_of_mem _ (List.mem_map.mpr ⟨clause, List.mem_flatMap.mpr ⟨join, held, member⟩, rfl⟩)

theorem asText_wellScoped (coherent : schema.Coherent) (plain : schema.Plain) (sound : query.scope.Sound schema)
    (numbered : query.scope.Numbered) (rooted : query.scope.Rooted schema)
    (addressed : ∀ column ∈ query.columns, query.scope.Addresses schema column) :
    query.asText.WellScoped schema query.scope := by
  constructor
  case counted =>
    rw [bound_asText]
    have counted := numbered.shortNames_perm
    rwa [numbered.nextNumber_eq, sound.clauses_count] at counted
  case once =>
    rw [bound_asText]
    exact numbered.shortNames_nodup
  case tables =>
    rw [tables_asText]
    exact Scope.tables_bound coherent sound rooted plain
  case leftward => exact leftward_asText numbered.leftward
  case joined =>
    intro clause written column member
    obtain ⟨joined, held, rfl⟩ := List.mem_map.mp written
    exact justifies_asText (Scope.clauses_justified coherent sound rooted plain joined held column member)
  case selected =>
    rw [bound_asText]
    exact ⟨List.mem_cons_self .., selected_asText sound⟩
  case named =>
    intro column member
    have justified := (addressed column member).justified coherent sound rooted plain
    rw [bound_asText]
    exact ⟨justified.bound, justifies_asText justified⟩

/-- The statement of a query over a registry, read back from its text, binds every short name once and before it is used, and
names only columns that the metadata gives to the tables behind them. -/
theorem well_scoped {registry : Registry} {root : String} {start : Query} (registered : registry.Registered)
    (resolved : specification.query registry.schema root = .ok start) (ordered : start.orderByAll orderings = .ok query) :
    ∃ text, SelectText.read? query.select.text = some text ∧ text.WellScoped registry.schema query.scope := by
  obtain ⟨entity, conditions, found, follows⟩ := Query.follows resolved ordered
  have coherent := registry.schema_coherent
  have checked := registered.schema_checked
  have begun : Scope.Sound registry.schema { table := entity.table, entity := entity.name } :=
    Scope.sound_start entity.table entity.name
  have sound := follows.run.sound begun
  have numbered := follows.run.numbered begun (Scope.numbered_start entity.table entity.name)
  have rooted : query.scope.Rooted registry.schema := by
    refine follows.run.rooted ⟨entity, ?_, rfl⟩
    rwa [← coherent root entity found] at found
  have spelled : ∀ clause ∈ query.scope.clauses, clause.IsSpelled := by
    intro clause written
    obtain ⟨join, held, inside⟩ := List.mem_flatMap.mp written
    exact (sound.joins join held).spelled checked clause inside
  have read := select_read sound (follows.table_checked checked found) spelled (follows.filter_spelled checked)
    fun item held => (follows.order item held).readable checked
  exact ⟨query.asText, read,
    asText_wellScoped coherent registry.schema_plain sound numbered rooted follows.columns_addressed⟩

end Query

theorem Query.well_scoped_books :
    let specification : Specification :=
      .ofPredicate (equalPredicate { path := ⟨["genres", "name"]⟩, fetch := true } (.text "Logic"))
    let statement := "SELECT DISTINCT t0.*, to_jsonb(t1.*) AS \"genres\" FROM books t0 " ++
      "INNER JOIN book_genres t2 ON t2.book_id = t0.id INNER JOIN genres t1 ON t1.id = t2.genre_id " ++
      "LEFT JOIN authors t3 ON t3.id = t0.author_id WHERE t1.name = $1 ORDER BY t3.name ASC"
    ∃ start query text, specification.query books.schema "Book" = .ok start ∧
      start.orderByAll [(⟨["author", "name"]⟩, .ascending)] = .ok query ∧ query.select.text = statement ∧
      SelectText.read? statement = some text ∧ text.WellScoped books.schema query.scope ∧
      text.bound = ["t0", "t2", "t1", "t3"] ∧ text.named = [⟨"t1", "name"⟩, ⟨"t3", "name"⟩] := by
  intro specification statement
  obtain ⟨start, query, resolved, ordered, written⟩ : ∃ start query, specification.query books.schema "Book" = .ok start ∧
      start.orderByAll [(⟨["author", "name"]⟩, .ascending)] = .ok query ∧ query.select.text = statement :=
    ⟨_, _, rfl, rfl, by decide +kernel⟩
  obtain ⟨text, read, wellScoped⟩ := Query.well_scoped books_registered resolved ordered
  have spelled : SelectText.read? statement = some ⟨"t0", [⟨"t1", "genres"⟩], ("t0", "books"),
      [⟨"t2", "book_genres", ⟨"t2", "book_id"⟩, ⟨"t0", "id"⟩⟩, ⟨"t1", "genres", ⟨"t1", "id"⟩, ⟨"t2", "genre_id"⟩⟩,
        ⟨"t3", "authors", ⟨"t3", "id"⟩, ⟨"t0", "author_id"⟩⟩], [⟨"t1", "name"⟩, ⟨"t3", "name"⟩]⟩ := by decide +kernel
  rw [written, spelled, Option.some_inj] at read
  subst read
  exact ⟨start, query, _, resolved, ordered, written, spelled, wellScoped, rfl, rfl⟩

end RecordFilter
