import RecordFilter.Proofs.Statement.Quoting
import RecordFilter.Proofs.Statement.Unquoted

set_option autoImplicit false

namespace RecordFilter

def Labelled (text : String) (labels : List (List Char)) : Prop :=
  ∃ pieces, Piece.charsOf pieces = text.toList ∧ Piece.Apart pieces ∧
    (∀ char, .plain char ∈ pieces → isUnquoted char = true) ∧ pieces.filterMap Piece.content? = labels

-- What comes after the text is left open, but it may not begin with a quote: that would go on with the last label.
def WritesLabels (text : String) (labels : List (List Char)) : Prop :=
  ∀ rest more, rest.toList.head? ≠ some '"' → Labelled rest more → Labelled (text ++ rest) (labels ++ more)

theorem Labelled.unquoted_append {opening rest : String} {labels : List (List Char)} (unquoted : Unquoted opening)
    (labelled : Labelled rest labels) : Labelled (opening ++ rest) labels := by
  have noQuote : isUnquoted '"' = false := by decide
  have further (chars : List Char) (each : ∀ char ∈ chars, isUnquoted char = true) :
      ∃ pieces, Piece.charsOf pieces = chars ++ rest.toList ∧ Piece.Apart pieces ∧
        (∀ char, .plain char ∈ pieces → isUnquoted char = true) ∧ pieces.filterMap Piece.content? = labels := by
    induction chars with
    | nil => exact labelled
    | cons char chars ih =>
      rw [List.forall_mem_cons] at each
      obtain ⟨pieces, written, apart, plain, same⟩ := ih each.2
      refine ⟨.plain char :: pieces, congrArg (char :: ·) written, ⟨?_, apart⟩, fun other member => ?_, same⟩
      · rintro rfl
        exact Bool.false_ne_true (noQuote.symm.trans each.1)
      · rcases List.mem_cons.mp member with here | later
        · rw [Piece.plain.inj here]
          exact each.1
        · exact plain other later
  rw [Labelled, String.toList_append]
  exact further opening.toList unquoted

theorem Unquoted.labelled {text : String} (unquoted : Unquoted text) : Labelled text [] := by
  have empty : Labelled "" [] := ⟨[], rfl, trivial, fun _ member => absurd member List.not_mem_nil, rfl⟩
  have whole := empty.unquoted_append unquoted
  rwa [String.append_empty] at whole

namespace WritesLabels

variable {left right : String} {first second : List (List Char)}

theorem of_unquoted (unquoted : Unquoted left) : WritesLabels left [] :=
  fun _ _ _ labelled => labelled.unquoted_append unquoted

theorem quoted (label : String) : WritesLabels (Identifier.quoted label) [Identifier.withoutNull label] := by
  rintro rest more apart ⟨pieces, written, apartRest, plain, same⟩
  refine ⟨.label (Identifier.withoutNull label) :: pieces, ?_, ⟨written ▸ apart, apartRest⟩, fun char member => ?_,
    congrArg _ same⟩
  · rw [Piece.charsOf_label, String.toList_append, Identifier.toList_quoted, written, List.cons_append, List.cons_append,
      List.append_assoc]
    rfl
  · rcases List.mem_cons.mp member with here | later
    · cases here
    · exact plain char later

theorem unquoted_append (unquoted : Unquoted left) (writes : WritesLabels right second) :
    WritesLabels (left ++ right) second := by
  intro rest more apart labelled
  rw [String.append_assoc]
  exact (writes rest more apart labelled).unquoted_append unquoted

theorem listed (before : WritesLabels left first) (writes : WritesLabels right second) :
    WritesLabels (left ++ ", " ++ right) (first ++ second) := by
  intro rest more apart labelled
  have onward := (writes rest more apart labelled).unquoted_append (by decide : Unquoted ", ")
  rw [String.append_assoc, String.append_assoc, List.append_assoc]
  refine before _ _ ?_ onward
  rw [String.toList_append]
  exact fun same => absurd (Option.some.inj same) (by decide)

end WritesLabels

theorem Join.selection_writes (join : Join) : WritesLabels join.selection [Identifier.withoutNull join.label] := by
  have opening : Unquoted ("to_jsonb(" ++ tableName join.number ++ ".*) AS ") :=
    ((by decide : Unquoted "to_jsonb(").append (.tableName join.number)).append (by decide)
  exact .unquoted_append opening (.quoted join.label)

theorem Scope.selectList_writes (scope : Scope) : WritesLabels scope.selectList
    ((scope.joins.filter Join.fetch).map fun join => Identifier.withoutNull join.label) := by
  have further (joins : List Join) (opening : String) (labels : List (List Char)) (writes : WritesLabels opening labels) :
      WritesLabels (", ".intercalate (opening :: joins.map Join.selection))
        (labels ++ joins.map fun join => Identifier.withoutNull join.label) := by
    induction joins generalizing opening labels with
    | nil =>
      rw [List.map_nil, List.map_nil, String.intercalate_singleton, List.append_nil]
      exact writes
    | cons join rest ih =>
      rw [List.map_cons, List.map_cons, String.intercalate_cons_cons]
      exact writes.listed (ih join.selection _ join.selection_writes)
  exact further _ _ [] (.of_unquoted (.append (.tableName 0) (by decide)))

theorem Query.select_labelled {query : Query} (tables : Unquoted query.scope.tablesText)
    (filter : ∀ condition ∈ query.filter, condition.IsSpelled)
    (order : ∀ item ∈ query.order, Unquoted item.column.text) :
    Labelled query.select.text
      ((query.scope.joins.filter Join.fetch).map fun join => Identifier.withoutNull join.label) := by
  have written : query.select.text = "SELECT " ++ (if query.isDistinct then "DISTINCT " else "") ++ query.scope.selectList
      ++ " FROM " ++ query.scope.tablesText ++ (query.filterText.run {}).1 ++ query.orderText := rfl
  have filterText : Unquoted (query.filterText.run {}).1 := by
    rw [Query.filterText]
    cases filtered : query.filter with
    | none => exact (by decide : Unquoted "")
    | some condition => exact .append (by decide) (condition.rendered_unquoted (filter condition filtered) {})
  have orderText : Unquoted query.orderText := by
    rw [Query.orderText]
    split
    · decide
    · refine .append (by decide) (.intercalate (by decide) fun text member => ?_)
      obtain ⟨item, held, rfl⟩ := List.mem_map.mp member
      refine ((order item held).append (by decide)).append ?_
      cases item.direction <;> decide
  have opening : Unquoted ("SELECT " ++ if query.isDistinct then "DISTINCT " else "") := by
    cases query.isDistinct <;> decide
  have ending := (((by decide : Unquoted " FROM ").append tables).append filterText).append orderText
  have selected := query.scope.selectList_writes _ _ ?_ ending.labelled
  · rw [written]
    rw [List.append_nil] at selected
    have whole := selected.unquoted_append opening
    simpa only [String.append_assoc] using whole
  · simp only [String.toList_append]
    exact fun same => absurd (Option.some.inj same) (by decide)

structure Query.SplitsInto (query : Query) (pieces : List Piece) : Prop where
  written : Piece.charsOf pieces = query.select.text.toList
  apart : Piece.Apart pieces
  unique : ∀ other, Piece.charsOf other = query.select.text.toList → Piece.Apart other → other = pieces
  unquoted : ∀ char, .plain char ∈ pieces → isUnquoted char = true
  labels : pieces.filterMap Piece.content? =
    (query.scope.joins.filter Join.fetch).map fun join => Identifier.withoutNull join.label
  scanned : ∀ before content after, pieces = before ++ .label content :: after →
    ∃ rest, query.select.text.toList = Piece.charsOf before ++ '"' :: rest ∧
      Identifier.readLabel rest = some (content, Piece.charsOf after)

/-- A statement is unquoted but for the labels of its fetched joins, and there is one way to tell them apart. -/
theorem Query.only_labels_quoted {registry : Registry} {schema : Schema} {rename : String → String}
    {specification : Specification} {root : String} {orderings : List (Path × Direction)} {start query : Query}
    (registered : registry.Registered) (renamed : ∀ name, schema.entity name = registry.schema.entity (rename name))
    (told : ∀ name field kind, schema.field name field = .ok kind → registry.schema.field (rename name) field = .ok kind)
    (resolved : specification.query schema root = .ok start) (ordered : start.orderByAll orderings = .ok query) :
    ∃ pieces, query.SplitsInto pieces := by
  have checked : schema.Checked :=
    ⟨fun name entity found => registered.schema_checked.entity (rename name) entity (renamed name ▸ found),
      fun name field kind declared => registered.schema_checked.field (rename name) field kind (told name field kind declared)⟩
  obtain ⟨entity, conditions, found, follows⟩ := Query.follows resolved ordered
  have sound := follows.run.sound (Scope.sound_start entity.table entity.name)
  have table := follows.table_checked checked found
  obtain ⟨pieces, written, apart, plain, labels⟩ := Query.select_labelled (sound.tables_unquoted checked table)
    (follows.filter_spelled checked) fun item held => ((follows.order item held).readable checked).unquoted
  refine ⟨pieces, written, apart, ?_, plain, labels, ?_⟩
  · exact fun other same otherApart => otherApart.unique apart (same.trans written.symm)
  · rintro before content after rfl
    refine ⟨_, ?_, Piece.readLabel_charsOf apart.append⟩
    rw [← written, ← Piece.charsOf_label]
    exact List.flatMap_append

-- Field names are never checked: the label of a field with a quote in it is the only place for that quote.
def shelf : Entity where
  name := "Shelf"
  table := "shelves"
  primaryKey := some "id"
  fields := [("best\"book", .association (.belongsTo "Book" "book_id"))]

theorem Query.only_labels_quoted_shelves :
    let schema := (books.insert shelf).schema.aliased [("Rack", "Shelf")]
    let specification : Specification :=
      .ofPredicate (equalPredicate { path := ⟨["best\"book", "tags"]⟩, fetch := true } (.text "new \"one\""))
    ∃ start query pieces, specification.query schema "Rack" = .ok start ∧
      start.orderByAll [(⟨["best\"book"]⟩, .ascending)] = .ok query ∧
      query.select.text = "SELECT DISTINCT t0.*, to_jsonb(t1.*) AS \"best\"\"book\" FROM shelves t0 " ++
        "INNER JOIN books t1 ON t1.id = t0.book_id INNER JOIN book_tags t2 ON t2.book_id = t1.id " ++
        "WHERE t2.tag = $1 ORDER BY t1.id ASC" ∧
      query.SplitsInto pieces ∧ pieces.filterMap Piece.content? = ["best\"book".toList] := by
  intro schema specification
  have registered : (books.insert shelf).Registered := .register books _ shelf books_registered rfl
  have renamed (name : String) : schema.entity name =
      (books.insert shelf).schema.entity ((Text.Keyed.find? name [("Rack", "Shelf")]).getD name) := rfl
  have told (name field : String) (kind : Field) (declared : schema.field name field = .ok kind) :
      (books.insert shelf).schema.field ((Text.Keyed.find? name [("Rack", "Shelf")]).getD name) field = .ok kind := by
    obtain ⟨found, given, named⟩ := Schema.Plain.field_ok (show schema.Plain from rfl) declared
    rw [renamed] at given
    rw [Registry.schema_plain, fieldOf, given]
    simp only [named]
  obtain ⟨pieces, split⟩ := Query.only_labels_quoted registered renamed told
    (show specification.query schema "Rack" = .ok _ from rfl)
    (show Query.orderByAll _ [(⟨["best\"book"]⟩, .ascending)] = .ok _ from rfl)
  exact ⟨_, _, pieces, rfl, rfl, by decide +kernel, split, split.labels⟩

end RecordFilter
