import RecordFilter.Proofs.Path
import RecordFilter.Proofs.Specification.Joins
import RecordFilter.Proofs.Statement.Labels
import RecordFilter.Proofs.Statement.Outputs
import RecordFilter.Row
import RecordFilter.Settings.Document

set_option autoImplicit false

namespace RecordFilter

section Rows

variable {ρ α β : Type} {reader : RowReader ρ (Option α)} {contents : ρ → List (Option β)} {decode : β → Option α}

-- What the documentation of the client promises. A row holds one content for each column, and a name is that of the first
-- column called exactly so; null is read as nothing, and other contents are decoded.
structure RowReader.ReadsDocuments (reader : RowReader ρ (Option α)) (contents : ρ → List (Option β))
    (decode : β → Option α) : Prop where
  width : ∀ row, (contents row).length = (reader.names row).length
  null : ∀ row before name after, reader.names row = before ++ name :: after → name ∉ before →
    (contents row)[before.length]? = some none → reader.tryGet row name = .ok none
  document : ∀ row before name after content value, reader.names row = before ++ name :: after → name ∉ before →
    (contents row)[before.length]? = some (some content) → decode content = some value →
    reader.tryGet row name = .ok (some value)
  other : ∀ row before name after content, reader.names row = before ++ name :: after → name ∉ before →
    (contents row)[before.length]? = some (some content) → decode content = none →
    ∃ reason, reader.tryGet row name = .error reason

inductive Fetches (decode : β → Option α) (name : String) : Option β → Except Error (Option α) → Prop where
  | null : Fetches decode name none (.ok none)
  | document (content : β) (value : α) (decoded : decode content = some value) :
      Fetches decode name (some content) (.ok (some value))
  | other (content : β) (reason : String) (refused : decode content = none) :
      Fetches decode name (some content) (.error (.decode name reason))

theorem RowReader.fetched_absent {row : ρ} {name : String} (absent : name ∉ reader.names row) :
    reader.fetched name row = .ok none := by
  have none : (reader.names row).all (· ≠ name) = true := by
    rw [List.all_eq_true]
    exact fun other held => decide_eq_true (ne_of_mem_of_not_mem held absent)
  rw [fetched, if_pos none]

theorem RowReader.ReadsDocuments.fetches (reads : reader.ReadsDocuments contents decode) {row : ρ}
    {before after : List String} {name : String} (names : reader.names row = before ++ name :: after)
    (first : name ∉ before) :
    ∃ content, (contents row)[before.length]? = some content ∧ Fetches decode name content (reader.fetched name row) := by
  have within : before.length < (contents row).length := by
    rw [reads.width, names]
    simp
  have present : ¬ (reader.names row).all (· ≠ name) = true := by
    rw [names]
    simp
  have held := List.getElem?_eq_getElem within
  refine ⟨_, held, ?_⟩
  rw [fetched, if_neg present, column]
  cases here : (contents row)[before.length] with
  | none =>
    rw [here] at held
    rw [reads.null row before name after names first held]
    exact .null
  | some content =>
    rw [here] at held
    cases decoded : decode content with
    | none =>
      obtain ⟨reason, refused⟩ := reads.other row before name after content names first held decoded
      rw [refused]
      exact .other content reason decoded
    | some value =>
      rw [reads.document row before name after content value names first held decoded]
      exact .document content value decoded

end Rows

structure Text.Legible (parts : List String) : Prop where
  some : parts ≠ []
  dotless : ∀ part ∈ parts, '.' ∉ part.toList
  whole : ∀ part ∈ parts, '\x00' ∉ part.toList

namespace Text.Legible

variable {parts others : List String}

theorem injective (legible : Legible parts) (otherwise : Legible others) (same : joinDots parts = joinDots others) :
    parts = others := by
  rw [← splitDots_joinDots legible.some legible.dotless, same, splitDots_joinDots otherwise.some otherwise.dotless]

theorem withoutNull (legible : Legible parts) : Identifier.withoutNull (joinDots parts) = (joinDots parts).toList := by
  have dot : '\x00' ∉ ".".toList := by decide
  have whole : ∀ char ∈ (joinDots parts).toList, char ≠ '\x00' :=
    forall_mem_intercalate (fun _ held => ne_of_mem_of_not_mem held dot) fun part member _ held =>
      ne_of_mem_of_not_mem held (legible.whole part member)
  rw [Identifier.withoutNull, List.filter_eq_self]
  exact fun char member => decide_eq_true (whole char member)

end Text.Legible

def Specification.fetched (specification : Specification) (schema : Schema) (root : String) : List (List String) :=
  (specification.requests.filter Request.fetch).flatMap (Request.crossings schema root)

section Crossed

variable {schema : Schema} {root : String} {crossed : List String}

theorem Specification.mem_fetched_iff (specification : Specification) (orderings : List (Path × Direction)) :
    crossed ∈ specification.fetched schema root ↔
      (specification.requests ++ orderings.map Request.ofOrdering).any
        (fun request => request.fetch && request.crosses schema root crossed) = true := by
  have unasked : (orderings.map Request.ofOrdering).any
      (fun request => request.fetch && request.crosses schema root crossed) = false := by
    simp [Request.ofOrdering]
  rw [List.any_append, unasked, Bool.or_false, fetched, List.mem_flatMap, List.any_eq_true]
  simp only [List.mem_filter, Bool.and_eq_true, Request.crosses, List.contains_iff_mem, and_assoc]

theorem Request.crossings_legible {request : Request} (dotted : request.path.IsDotted)
    (member : crossed ∈ request.crossings schema root) : Text.Legible crossed := by
  have beginning := (List.mem_filter.mp member).1
  have within : crossed <+: request.path.segments := (List.mem_inits _ _).mp (List.mem_of_mem_tail beginning)
  exact ⟨Schema.ne_nil_of_mem_prefixes beginning, fun part held => (dotted.segment (within.subset held)).1,
    fun part held => (dotted.segment (within.subset held)).2⟩

theorem Join.output_eq {join : Join} (legible : Text.Legible join.crossed) :
    join.output = ⟨tableName join.number, Text.joinDots join.crossed⟩ := by
  rw [Join.output, Join.label, legible.withoutNull, String.ofList_toList]

end Crossed

namespace Scope

variable {schema : Schema} {root : String} {requests : List Request} {scope : Scope}

theorem Sound.filter_fetch (sound : scope.Sound schema) :
    scope.joins.filter Join.fetch = scope.associations.filter Join.fetch := by
  rw [associations, List.filter_filter]
  refine List.filter_congr fun join held => ?_
  cases sound.joins join held with
  | association place field relation kind fetch number join reached declared planned =>
    obtain ⟨parent, target, clauses, _, _, _, rfl⟩ := Schema.associationJoin_ok planned
    simp
  | collection place field table foreignKey column kind number join reached declared planned =>
    obtain ⟨parent, parentKey, _, _, rfl⟩ := Schema.collectionJoin_ok planned
    simp

end Scope

theorem Query.Selects.unique {query : Query} {outputs others : List Output} (selects : query.Selects outputs)
    (otherwise : query.Selects others) : others = outputs := by
  obtain ⟨list, rest, written, begins⟩ := selects
  obtain ⟨otherList, otherRest, otherWritten, otherBegins⟩ := otherwise
  rw [written, List.append_cancel_left_eq] at otherWritten
  exact ((otherWritten ▸ begins).unique otherBegins).1.symm

section Fetching

variable {schema : Schema} {entity : Entity} {specification : Specification} {orderings : List (Path × Direction)}
  {conditions : List Condition} {query : Query}

theorem Specification.fetched_legible (dotted : ∀ predicate ∈ specification.predicates, predicate.options.path.IsDotted)
    {root : String} {crossed : List String} (member : crossed ∈ specification.fetched schema root) :
    Text.Legible crossed := by
  obtain ⟨request, asked, crosses⟩ := List.mem_flatMap.mp member
  obtain ⟨predicate, held, rfl⟩ := List.mem_map.mp (List.mem_filter.mp asked).1
  exact Request.crossings_legible (dotted predicate held) crosses

theorem Query.Follows.fetch_iff (follows : query.Follows schema entity specification orderings conditions) {join : Join}
    (held : join ∈ query.scope.associations) :
    join.fetch = true ↔ join.crossed ∈ specification.fetched schema entity.name := by
  rw [follows.tracks.shares.fetches join held, specification.mem_fetched_iff orderings]

theorem Query.Follows.fetched_join (follows : query.Follows schema entity specification orderings conditions)
    {crossed : List String} (member : crossed ∈ specification.fetched schema entity.name) :
    ∃ join ∈ query.scope.associations, join.crossed = crossed ∧ query.scope.association? crossed = some join := by
  have shares := follows.tracks.shares
  obtain ⟨request, asked, crosses⟩ := List.mem_flatMap.mp member
  have called := (shares.mem_crossed crossed).mpr
    ⟨request, List.mem_append_left _ (List.mem_filter.mp asked).1, crosses⟩
  obtain ⟨join, held, rfl⟩ := List.mem_map.mp called
  exact ⟨join, held, rfl, shares.association? held⟩

theorem Query.Follows.mem_fetched (follows : query.Follows schema entity specification orderings conditions)
    (crossed : List String) : crossed ∈ (query.scope.associations.filter Join.fetch).map Join.crossed ↔
      crossed ∈ specification.fetched schema entity.name := by
  constructor
  · intro member
    obtain ⟨join, selected, rfl⟩ := List.mem_map.mp member
    obtain ⟨held, fetch⟩ := List.mem_filter.mp selected
    exact (follows.fetch_iff held).mp fetch
  · intro member
    obtain ⟨join, held, rfl, _⟩ := follows.fetched_join member
    exact List.mem_map.mpr ⟨join, List.mem_filter.mpr ⟨held, (follows.fetch_iff held).mpr member⟩, rfl⟩

theorem Query.Follows.outputs_eq (follows : query.Follows schema entity specification orderings conditions)
    (dotted : ∀ predicate ∈ specification.predicates, predicate.options.path.IsDotted) :
    query.scope.outputs = (query.scope.associations.filter Join.fetch).map
      fun join => ⟨tableName join.number, Text.joinDots join.crossed⟩ := by
  have sound := follows.run.sound (Scope.sound_start entity.table entity.name)
  rw [Scope.outputs, sound.filter_fetch]
  refine List.map_congr_left fun join selected => ?_
  obtain ⟨held, fetch⟩ := List.mem_filter.mp selected
  exact Join.output_eq (Specification.fetched_legible dotted ((follows.fetch_iff held).mp fetch))

theorem Query.Follows.labels_eq (follows : query.Follows schema entity specification orderings conditions)
    (dotted : ∀ predicate ∈ specification.predicates, predicate.options.path.IsDotted) :
    query.scope.outputs.map Output.label =
      ((query.scope.associations.filter Join.fetch).map Join.crossed).map Text.joinDots := by
  rw [follows.outputs_eq dotted, List.map_map, List.map_map]
  rfl

theorem Query.Follows.labels_nodup (follows : query.Follows schema entity specification orderings conditions)
    (dotted : ∀ predicate ∈ specification.predicates, predicate.options.path.IsDotted) :
    (query.scope.outputs.map Output.label).Nodup := by
  rw [follows.labels_eq dotted]
  refine List.Nodup.map_on (fun crossed member other otherMember same => ?_)
    (follows.tracks.shares.once.sublist (List.filter_sublist.map Join.crossed))
  exact (Specification.fetched_legible dotted ((follows.mem_fetched crossed).mp member)).injective
    (Specification.fetched_legible dotted ((follows.mem_fetched other).mp otherMember)) same

structure Query.SelectsFetched (query : Query) (outputs : List Output) (prefixes : List (List String)) : Prop where
  selected : query.Selects outputs
  read : ∀ others, query.Selects others → others = outputs
  labels : ∀ label, label ∈ outputs.map Output.label ↔ ∃ crossed ∈ prefixes, label = Text.joinDots crossed
  once : (outputs.map Output.label).Nodup
  sources : ∀ crossed ∈ prefixes, ∃ join, query.scope.association? crossed = some join ∧
    ∀ output ∈ outputs, output.label = Text.joinDots crossed → output.source = tableName join.number

theorem Query.Follows.selectsFetched (follows : query.Follows schema entity specification orderings conditions)
    (dotted : ∀ predicate ∈ specification.predicates, predicate.options.path.IsDotted) :
    query.SelectsFetched query.scope.outputs (specification.fetched schema entity.name) := by
  have once := follows.labels_nodup dotted
  refine ⟨query.selects, fun others selects => query.selects.unique selects, fun label => ?_, once, ?_⟩
  · rw [follows.labels_eq dotted, List.mem_map]
    simp only [follows.mem_fetched, eq_comm]
  · intro crossed member
    obtain ⟨join, held, rfl, found⟩ := follows.fetched_join member
    refine ⟨join, found, fun output listed same => ?_⟩
    have own : (⟨tableName join.number, Text.joinDots join.crossed⟩ : Output) ∈ query.scope.outputs := by
      rw [follows.outputs_eq dotted]
      exact List.mem_map.mpr ⟨join, List.mem_filter.mpr ⟨held, (follows.fetch_iff held).mpr member⟩, rfl⟩
    rw [List.inj_on_of_nodup_map once listed own same]

end Fetching

section Answers

variable {query : Query} {outputs : List Output} {prefixes : List (List String)} {ρ α β : Type}
  {reader : RowReader ρ (Option α)} {contents : ρ → List (Option β)} {decode : β → Option α} {own : List String} {row : ρ}

theorem Query.SelectsFetched.read_row (selects : query.SelectsFetched outputs prefixes)
    (reads : reader.ReadsDocuments contents decode) (names : reader.names row = own ++ outputs.map Output.label)
    {crossed : List String} (member : crossed ∈ prefixes) (apart : Text.joinDots crossed ∉ own) :
    ∃ position join content, query.scope.association? crossed = some join ∧
      outputs[position]? = some ⟨tableName join.number, Text.joinDots crossed⟩ ∧
      (contents row)[own.length + position]? = some content ∧
      Fetches decode (Text.joinDots crossed) content (reader.fetched (Text.joinDots crossed) row) := by
  have labelled := (selects.labels _).mpr ⟨crossed, member, rfl⟩
  obtain ⟨output, listed, label⟩ := List.mem_map.mp labelled
  obtain ⟨before, after, rfl⟩ := List.append_of_mem listed
  obtain ⟨join, found, attached⟩ := selects.sources crossed member
  have source := attached output listed label
  have once := selects.once
  rw [List.map_append, List.map_cons, List.nodup_append] at once
  rw [List.map_append, List.map_cons, ← List.append_assoc, label] at names
  have first : Text.joinDots crossed ∉ own ++ before.map Output.label := by
    intro earlier
    rcases List.mem_append.mp earlier with record | selected
    · exact apart record
    · exact once.2.2 _ selected _ (List.mem_cons_self ..) label.symm
  obtain ⟨content, held, fetches⟩ := reads.fetches names first
  rw [List.length_append, List.length_map] at held
  refine ⟨before.length, join, content, found, ?_, held, fetches⟩
  rw [List.getElem?_append_right (Nat.le_refl _), Nat.sub_self, List.getElem?_cons_zero, ← source, ← label]

theorem Query.SelectsFetched.absent_row (selects : query.SelectsFetched outputs prefixes)
    (names : reader.names row = own ++ outputs.map Output.label) {name : String} (apart : name ∉ own)
    (unfetched : ∀ crossed ∈ prefixes, name ≠ Text.joinDots crossed) : reader.fetched name row = .ok none := by
  refine RowReader.fetched_absent fun held => ?_
  rw [names] at held
  rcases List.mem_append.mp held with record | labelled
  · exact apart record
  · obtain ⟨crossed, member, same⟩ := (selects.labels _).mp labelled
    exact unfetched crossed member same

end Answers

/-- The rows that predicates fetch are selected under the texts of their prefixes, and are read from a row by them. -/
theorem Query.fetched_by_label {schema : Schema} {root : String} {specification : Specification}
    {orderings : List (Path × Direction)} {start query : Query}
    (dotted : ∀ predicate ∈ specification.predicates, predicate.options.path.IsDotted)
    (resolved : specification.query schema root = .ok start) (ordered : start.orderByAll orderings = .ok query) :
    ∃ entity outputs, schema.entity root = .ok entity ∧
      let prefixes := specification.fetched schema entity.name
      query.SelectsFetched outputs prefixes ∧
      ∀ {ρ α β : Type} (reader : RowReader ρ (Option α)) (contents : ρ → List (Option β)) (decode : β → Option α),
        reader.ReadsDocuments contents decode → ∀ (own : List String) (row : ρ) (name : String),
        reader.names row = own ++ outputs.map Output.label → name ∉ own →
          (∀ crossed ∈ prefixes, name = Text.joinDots crossed →
            ∃ position join content, query.scope.association? crossed = some join ∧
              outputs[position]? = some ⟨tableName join.number, name⟩ ∧
              (contents row)[own.length + position]? = some content ∧
              Fetches decode name content (reader.fetched name row)) ∧
          ((∀ crossed ∈ prefixes, name ≠ Text.joinDots crossed) → reader.fetched name row = .ok none) := by
  obtain ⟨entity, conditions, found, follows⟩ := Query.follows resolved ordered
  have selects := follows.selectsFetched dotted
  refine ⟨entity, query.scope.outputs, found, selects, ?_⟩
  intro ρ α β reader contents decode reads own row name names apart
  constructor
  · rintro crossed member rfl
    exact selects.read_row reads names member apart
  · exact fun unfetched => selects.absent_row names apart unfetched

def shelvesBy (author tag : String) : Specification :=
  .ofPredicates [
    equalPredicate { path := ⟨["best\"book", "tags"]⟩ } (.text tag),
    equalPredicate { path := ⟨["best\"book", "author", "name"]⟩, fetch := true } (.text author)]

def cellReader {α β : Type} (decode : β → Option α) : RowReader (List (String × Option β)) (Option α) where
  names row := row.map Prod.fst
  tryGet row name :=
    match row.find? (·.1 = name) with
    | none => .error ("invalid column `" ++ name ++ "`")
    | some (_, none) => .ok none
    | some (_, some content) =>
      match decode content with
      | some value => .ok (some value)
      | none => .error ("error deserializing column " ++ name)

theorem cellReader_reads {α β : Type} (decode : β → Option α) :
    (cellReader decode).ReadsDocuments (List.map Prod.snd) decode := by
  have found (row : List (String × Option β)) (before : List String) (name : String) (after : List String)
      (content : Option β) (names : row.map Prod.fst = before ++ name :: after) (first : name ∉ before)
      (held : (row.map Prod.snd)[before.length]? = some content) : row.find? (·.1 = name) = some (name, content) := by
    obtain ⟨front, back, rfl, rfl, cells⟩ := List.map_eq_append_iff.mp names
    obtain ⟨cell, rest, rfl, rfl, rfl⟩ := List.map_eq_cons_iff.mp cells
    obtain rfl : cell.2 = content := by simpa using held
    have earlier : front.find? (·.1 = cell.1) = none := by
      rw [List.find?_eq_none]
      exact fun other member same => first (List.mem_map.mpr ⟨other, member, of_decide_eq_true same⟩)
    rw [List.find?_append, earlier, Option.none_or, List.find?_cons_of_pos (by simp)]
  constructor
  · intro row
    rw [cellReader, List.length_map, List.length_map]
  · intro row before name after names first held
    simp only [cellReader, found row before name after none names first held]
  · intro row before name after content value names first held decoded
    simp only [cellReader, found row before name after (some content) names first held, decoded]
  · intro row before name after content names first held refused
    simp only [cellReader, found row before name after (some content) names first held, refused]
    exact ⟨_, rfl⟩

def numberOf? : Document → Option Int
  | .object [("id", .number number)] => number
  | _ => none

-- The second predicate asks for the row of a join that the first one made; the row has no author.
theorem Query.fetched_by_label_shelves :
    let schema := (books.insert shelf).schema
    let outputs : List Output := [⟨"t1", "best\"book"⟩, ⟨"t3", "best\"book.author"⟩]
    let row := [("id", some (.number (some 4))), ("best\"book", some (.object [("id", .number (some 7))])),
      ("best\"book.author", none)]
    let reader := cellReader numberOf?
    ∃ start query, (shelvesBy "Ada" "logic").query schema "Shelf" = .ok start ∧
      start.orderByAll [(⟨["best\"book"]⟩, .ascending)] = .ok query ∧
      query.SelectsFetched outputs [["best\"book"], ["best\"book", "author"]] ∧
      reader.ReadsDocuments (List.map Prod.snd) numberOf? ∧
      (∃ position join content, query.scope.association? ["best\"book", "author"] = some join ∧
        outputs[position]? = some ⟨tableName join.number, "best\"book.author"⟩ ∧
        (row.map Prod.snd)[1 + position]? = some content ∧
        Fetches numberOf? "best\"book.author" content (reader.fetched "best\"book.author" row)) ∧
      reader.fetched "best\"book.author" row = .ok none ∧ reader.fetched "best\"book" row = .ok (some 7) ∧
      reader.fetched "author" row = .ok none := by
  intro schema outputs row reader
  have dotted : ∀ predicate ∈ (shelvesBy "Ada" "logic").predicates, predicate.options.path.IsDotted := by
    intro predicate member
    rcases List.mem_cons.mp member with rfl | rest
    · exact ⟨"best\"book.tags", by decide, by decide +kernel⟩
    · cases List.mem_singleton.mp rest
      exact ⟨"best\"book.author.name", by decide, by decide +kernel⟩
  obtain ⟨entity, read, found, selects, rows⟩ := Query.fetched_by_label dotted
    (show (shelvesBy "Ada" "logic").query schema "Shelf" = .ok _ from rfl)
    (show Query.orderByAll _ [(⟨["best\"book"]⟩, .ascending)] = .ok _ from rfl)
  cases found
  obtain rfl : read = outputs := (selects.read _ (Query.selects _)).symm.trans (by decide +kernel)
  have prefixes : (shelvesBy "Ada" "logic").fetched schema shelf.name = [["best\"book"], ["best\"book", "author"]] := rfl
  rw [prefixes] at selects rows
  have reads := cellReader_reads numberOf?
  have author := (rows reader _ numberOf? reads ["id"] row "best\"book.author" rfl (by decide)).1
    ["best\"book", "author"] (by decide) (by decide +kernel)
  have other := (rows reader _ numberOf? reads ["id"] row "author" rfl (by decide)).2 (by decide +kernel)
  exact ⟨_, _, rfl, rfl, selects, reads, author, rfl, rfl, other⟩

end RecordFilter
