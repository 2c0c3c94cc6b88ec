import RecordFilter.Proofs.Specification.Scoped
import RecordFilter.Proofs.Statement.Outputs
import RecordFilter.Proofs.Statement.Unquoted

set_option autoImplicit false

namespace RecordFilter

def readMany {α β : Type} (read : List α → Option (β × List α)) : Nat → List α → List β × List α
  | 0, input => ([], input)
  | bound + 1, input =>
    match read input with
    | some (item, rest) => ((readMany read bound rest).1.cons item, (readMany read bound rest).2)
    | none => ([], input)

def readToken (token : Token) : List Token → Option (List Token)
  | found :: rest => if found = token then some rest else none
  | [] => none

def readName : List Token → Option (String × List Token)
  | .word part :: .mark '.' :: rest => (readName rest).map fun (name, rest) => (part ++ "." ++ name, rest)
  | .word part :: rest => some (part, rest)
  | _ => none

def readTable (tokens : List Token) : Option ((String × String) × List Token) := do
  match ← readName tokens with
  | (table, .word shortName :: rest) => return ((shortName, table), rest)
  | _ => none

structure ClauseText where
  shortName : String
  table : String
  key : Column
  other : Column
deriving DecidableEq

def readKind : List Token → Option (List Token)
  | .word kind :: rest => if kind ∈ ["INNER", "LEFT", "RIGHT"] then some rest else none
  | _ => none

def readClause (tokens : List Token) : Option (ClauseText × List Token) := do
  let ((shortName, table), rest) ← readTable (← readToken (.word "JOIN") (← readKind tokens))
  let (key, rest) ← readColumn (← readToken (.word "ON") rest)
  let (other, rest) ← readColumn (← readToken (.operator "=") rest)
  return (⟨shortName, table, key, other⟩, rest)

-- What the text of a SELECT says: whose columns are selected, and which rows beside them; the tables with their short names,
-- the first one and the joined ones; and the columns that its conditions and its order name.
structure SelectText where
  star : String
  outputs : List Output
  first : String × String
  clauses : List ClauseText
  named : List Column
deriving DecidableEq

def Token.opensConditions (token : Token) : Bool := [Token.word "WHERE", .word "ORDER"].contains token

def readStar (text : List Char) : Option (String × List Char) := do
  let opened ← "SELECT ".toList.isPrefixOf? text
  let listed := ("DISTINCT ".toList.isPrefixOf? opened).getD opened
  let rest ← ".*".toList.isPrefixOf? (listed.dropWhile (· ≠ '.'))
  return (String.ofList (listed.takeWhile (· ≠ '.')), rest)

def SelectText.read? (text : String) : Option SelectText := do
  let (star, rest) ← readStar text.toList
  let (outputs, rest) := readMany Output.read rest.length rest
  let (first, rest) ← readTable (← readToken (.word "FROM") (Token.ofChars rest))
  let (clauses, rest) := readMany readClause rest.length rest
  if rest.head?.all Token.opensConditions then some ⟨star, outputs, first, clauses, columnsIn rest⟩ else none

example : SelectText.read? ("SELECT DISTINCT t0.*, to_jsonb(t1.*) AS \"best\"\"book\" FROM shelves t0 " ++
    "INNER JOIN public.books t1 ON t1.id = t0.book_id WHERE t1.name = $1 ORDER BY t0.id ASC") =
    some ⟨"t0", [⟨"t1", "best\"book"⟩], ("t0", "shelves"),
      [⟨"t1", "public.books", ⟨"t1", "id"⟩, ⟨"t0", "book_id"⟩⟩], [⟨"t1", "name"⟩, ⟨"t0", "id"⟩]⟩ := by
  decide +kernel

section Many

variable {α β γ : Type} {read : List α → Option (β × List α)} {input between rest : List α} {item : β} {items : List β}
  {bound : Nat}

theorem readMany_end (ended : read input = none) : readMany read bound input = ([], input) := by
  cases bound with
  | zero => rfl
  | succ bound => rw [readMany, ended]

theorem readMany_next (first : read input = some (item, between)) (onward : readMany read bound between = (items, rest)) :
    readMany read (bound + 1) input = (item :: items, rest) := by
  rw [readMany, first]
  simp only [onward]

theorem length_le_flatMap {write : γ → List α} (some : ∀ piece, write piece ≠ []) (written : List γ) (rest : List α) :
    written.length ≤ (written.flatMap write ++ rest).length := by
  induction written with
  | nil => exact Nat.zero_le _
  | cons piece others ih =>
    have here := List.length_pos_iff.mpr (some piece)
    rw [List.flatMap_cons, List.append_assoc, List.length_append, List.length_cons]
    omega

end Many

theorem Output.chars_ne_nil (output : Output) : output.chars ≠ [] := List.cons_ne_nil _ _

theorem Output.Begin.readMany {text rest : List Char} {outputs : List Output} (begins : Begin text outputs rest) {bound : Nat}
    (enough : outputs.length ≤ bound) : readMany Output.read bound text = (outputs, rest) := by
  induction begins generalizing bound with
  | none text ended => exact readMany_end ended
  | one text output between outputs rest first onward ih =>
    obtain ⟨fewer, rfl⟩ : ∃ fewer, bound = fewer + 1 := ⟨bound - 1, by simp at enough; omega⟩
    exact readMany_next first (ih (Nat.le_of_succ_le_succ enough))

section Tables

def nameTokens (name : String) : List Token := ((Text.splitDots name).map Token.word).intersperse (.mark '.')

theorem read_qualified {name : String} (checked : Identifier.checkQualified name = .ok ()) :
    Token.read name = nameTokens name := by
  have shaped := Identifier.isQualified_iff.mp (Identifier.checkQualified_ok_iff.mp checked)
  have further (parts : List String) (each : ∀ part ∈ parts, Identifier.IsPart part) :
      Token.read (Text.joinDots parts) = (parts.map Token.word).intersperse (.mark '.') := by
    induction parts with
    | nil => rfl
    | cons part rest ih =>
      rw [List.forall_mem_cons] at each
      have word := Token.read_word (Identifier.checkPart_ok_iff.mpr each.1)
      cases rest with
      | nil =>
        rw [Text.joinDots, String.intercalate_singleton, word]
        rfl
      | cons second more =>
        have dot : Token.read "." = [.mark '.'] := by decide
        have onward := ih each.2
        rw [Text.joinDots] at onward
        rw [Text.joinDots, String.intercalate_cons_cons, Token.read_glued _ _ (by decide), onward, word, dot]
        rfl
  conv => lhs; rw [← Text.joinDots_splitDots name]
  exact further (Text.splitDots name) shaped

theorem readName_tokens (name : String) {rest : List Token} (apart : rest.head? ≠ some (.mark '.')) :
    readName (nameTokens name ++ rest) = some (name, rest) := by
  have further (parts : List String) (nonempty : parts ≠ []) :
      readName ((parts.map Token.word).intersperse (.mark '.') ++ rest) = some (Text.joinDots parts, rest) := by
    induction parts with
    | nil => exact absurd rfl nonempty
    | cons part others ih =>
      cases others with
      | nil =>
        rw [Text.joinDots, String.intercalate_singleton]
        refine readName.eq_2 part rest fun more same => apart ?_
        rw [same]
        rfl
      | cons second more =>
        have onward := ih (List.cons_ne_nil second more)
        change (readName (((second :: more).map Token.word).intersperse (.mark '.') ++ rest)).map _ = _
        rw [onward, Option.map_some, Text.joinDots, Text.joinDots, String.intercalate_cons_cons]
  have whole := further (Text.splitDots name) (Text.splitDots_ne_nil name)
  rwa [Text.joinDots_splitDots] at whole

theorem readTable_tokens (table shortName : String) (rest : List Token) :
    readTable (nameTokens table ++ .word shortName :: rest) = some ((shortName, table), rest) := by
  rw [readTable, readName_tokens table (by simp)]
  rfl

end Tables

namespace JoinClause

def asText (clause : JoinClause) : ClauseText :=
  ⟨clause.shortName, clause.table, columnOf clause.number clause.key, clause.other⟩

def tokens (clause : JoinClause) : List Token :=
  .word (Text.uppercase clause.kind.name) :: .word "JOIN" :: (nameTokens clause.table ++ .word clause.shortName ::
    .word "ON" :: ((columnOf clause.number clause.key).tokens ++ .operator "=" :: clause.other.tokens))

variable {clause : JoinClause}

theorem read_text (spelled : clause.IsSpelled) : Token.read clause.text = clause.tokens := by
  have kind : Token.read (Text.uppercase clause.kind.name ++ " JOIN") =
      [.word (Text.uppercase clause.kind.name), .word "JOIN"] := by
    cases clause.kind <;> decide +kernel
  have blank : Token.read " " = [] := by decide
  have on : Token.read " ON " = [.word "ON"] := by decide
  have equal : Token.read " = " = [.operator "="] := by decide
  have key := columnOf_readable clause.number spelled.key
  rw [text, clause.kind.keyword_eq, Token.read_glued _ _ (by decide), Token.read_glued _ _ (by decide),
    Token.read_glued _ _ (by decide), Token.read_glued _ _ (by decide), kind, blank, on, equal,
    read_qualified spelled.table, Token.read_word (tableName_checked clause.number), Column.read_text key,
    Column.read_text spelled.other, tokens, shortName]
  simp

theorem readClause_tokens (spelled : clause.IsSpelled) (rest : List Token) :
    readClause (clause.tokens ++ rest) = some (clause.asText, rest) := by
  have kind : Text.uppercase clause.kind.name ∈ ["INNER", "LEFT", "RIGHT"] := by
    cases clause.kind <;> decide +kernel
  have key := columnOf_readable clause.number spelled.key
  rw [tokens, readClause, List.cons_append, List.cons_append, readKind, if_pos kind]
  simp only [Option.bind_eq_bind, Option.bind_some, readToken, if_true, List.append_assoc, List.cons_append,
    readTable_tokens, readColumn_tokens key, readColumn_tokens spelled.other]
  rfl

theorem tokens_ne_nil (clause : JoinClause) : clause.tokens ≠ [] := List.cons_ne_nil _ _

theorem readMany_tokens {clauses : List JoinClause} (spelled : ∀ clause ∈ clauses, clause.IsSpelled) {rest : List Token}
    (ended : readClause rest = none) {bound : Nat} (enough : clauses.length ≤ bound) :
    readMany readClause bound (clauses.flatMap tokens ++ rest) = (clauses.map asText, rest) := by
  induction clauses generalizing bound with
  | nil => exact readMany_end ended
  | cons clause others ih =>
    rw [List.forall_mem_cons] at spelled
    obtain ⟨fewer, rfl⟩ : ∃ fewer, bound = fewer + 1 := ⟨bound - 1, by simp at enough; omega⟩
    rw [List.flatMap_cons, List.append_assoc]
    exact readMany_next (readClause_tokens spelled.1 _) (ih spelled.2 (Nat.le_of_succ_le_succ enough))

theorem written_apart (clauses : List JoinClause) : (written clauses).toList.head?.all Token.isApart = true := by
  cases clauses with
  | nil => rfl
  | cons clause rest =>
    rw [← List.singleton_append, written_append, written, List.map_singleton, String.intercalate_singleton, String.append_assoc]
    exact Token.isApart_append (by decide)

theorem read_written {clauses : List JoinClause} (spelled : ∀ clause ∈ clauses, clause.IsSpelled) :
    Token.read (written clauses) = clauses.flatMap tokens := by
  induction clauses with
  | nil => rfl
  | cons clause rest ih =>
    rw [List.forall_mem_cons] at spelled
    have single : Token.read (written [clause]) = clause.tokens := by
      have text : written [clause] = " " ++ clause.text := String.intercalate_singleton
      rw [text, Token.read_append (.inl (by decide)), read_text spelled.1]
      rfl
    rw [← List.singleton_append, written_append, Token.read_append (.inr (written_apart rest)), single, ih spelled.2,
      List.singleton_append, List.flatMap_cons]

end JoinClause

namespace Query

variable {query : Query}

def conditionTokens (query : Query) : List Token := Token.read (query.filterText.run {}).1 ++ Token.read query.orderText

def columns (query : Query) : List Column := query.filter.elim [] Condition.columns ++ query.order.map OrderItem.column

def asText (query : Query) : SelectText where
  star := tableName 0
  outputs := query.scope.outputs
  first := (tableName 0, query.scope.table)
  clauses := query.scope.clauses.map JoinClause.asText
  named := query.columns

theorem filterText_names (spelled : ∀ condition ∈ query.filter, condition.IsSpelled) :
    Names (Token.read (query.filterText.run {}).1) (query.filter.elim [] Condition.columns) ∧
      (Token.read (query.filterText.run {}).1).head?.all Token.opensConditions = true := by
  rw [filterText]
  cases filtered : query.filter with
  | none => exact ⟨.nil, rfl⟩
  | some condition =>
    have written : Token.read (" WHERE " ++ (condition.rendered {}).1) = .word "WHERE" :: Token.read (condition.rendered {}).1 :=
      Token.read_append (.inl (by decide))
    change Names (Token.read (" WHERE " ++ (condition.rendered {}).1)) condition.columns ∧
      (Token.read (" WHERE " ++ (condition.rendered {}).1)).head?.all Token.opensConditions = true
    rw [written]
    exact ⟨(condition.rendered_names (spelled condition filtered) {}).cons (by decide),
      (by decide : (Token.word "WHERE").opensConditions = true)⟩

theorem item_names {item : OrderItem} (readable : item.column.Readable) : Names (Token.read item.text) [item.column] := by
  have text : item.text = item.column.text ++ if item.direction = .ascending then " ASC" else " DESC" := item.text_eq
  have word : Token.read (if item.direction = .ascending then " ASC" else " DESC") = [.word item.direction.keyword] := by
    cases item.direction <;> decide
  have apart : (if item.direction = .ascending then " ASC" else " DESC").toList.head?.all Token.isApart = true := by
    cases item.direction <;> decide
  rw [text, Token.read_append (.inr apart), word, Column.read_text readable]
  exact (Names.column item.column).append (.plain (by simp))

theorem items_names {items : List OrderItem} (readable : ∀ item ∈ items, item.column.Readable) :
    Names (Token.read (", ".intercalate (items.map OrderItem.text))) (items.map OrderItem.column) := by
  induction items with
  | nil => exact .nil
  | cons item rest ih =>
    rw [List.forall_mem_cons] at readable
    exact .intercalate_cons (by decide) (.plain (by decide)) (item_names readable.1) (ih readable.2)

theorem orderText_names (readable : ∀ item ∈ query.order, item.column.Readable) :
    Names (Token.read query.orderText) (query.order.map OrderItem.column) ∧
      (Token.read query.orderText).head?.all Token.opensConditions = true := by
  rw [orderText]
  split
  · rename_i unordered
    rw [List.isEmpty_iff.mp unordered]
    exact ⟨.nil, rfl⟩
  · have words : Token.read " ORDER BY " = [.word "ORDER", .word "BY"] := by decide
    rw [Token.read_append (.inl (by decide)), words]
    exact ⟨((items_names readable).cons (by decide)).cons (by decide),
      (by decide : (Token.word "ORDER").opensConditions = true)⟩

theorem filterText_apart (query : Query) : (query.filterText.run {}).1.toList.head?.all Token.isApart = true := by
  rw [filterText]
  cases query.filter with
  | none => rfl
  | some condition => exact Token.isApart_append (by decide : " WHERE ".toList.head?.any Token.isApart = true)

theorem orderText_apart (query : Query) : query.orderText.toList.head?.all Token.isApart = true := by
  rw [orderText]
  split
  · rfl
  · exact Token.isApart_append (by decide)

theorem conditionTokens_names (spelled : ∀ condition ∈ query.filter, condition.IsSpelled)
    (readable : ∀ item ∈ query.order, item.column.Readable) :
    Names query.conditionTokens query.columns ∧ query.conditionTokens.head?.all Token.opensConditions = true := by
  obtain ⟨filter, filterOpens⟩ := filterText_names spelled
  obtain ⟨order, orderOpens⟩ := orderText_names readable
  refine ⟨filter.append order, ?_⟩
  rw [conditionTokens, List.head?_append]
  cases begun : (Token.read (query.filterText.run {}).1).head? with
  | none => exact orderOpens
  | some token =>
    rw [begun] at filterOpens
    exact filterOpens

theorem readClause_end {tokens : List Token} (opens : tokens.head?.all Token.opensConditions = true) :
    readClause tokens = none := by
  cases tokens with
  | nil => rfl
  | cons token rest =>
    simp only [List.head?_cons, Option.all_some, Token.opensConditions, List.contains_iff_mem, List.mem_cons,
      List.not_mem_nil, or_false] at opens
    rcases opens with rfl | rfl <;> rfl

theorem read_tablesText {schema : Schema} (sound : query.scope.Sound schema)
    (table : Identifier.checkQualified query.scope.table = .ok ())
    (joined : ∀ clause ∈ query.scope.clauses, clause.IsSpelled) :
    Token.read query.scope.tablesText = nameTokens query.scope.table ++
      .word (tableName 0) :: query.scope.clauses.flatMap JoinClause.tokens := by
  have text : query.scope.tablesText = query.scope.table ++ " " ++ tableName 0 ++ JoinClause.written query.scope.clauses :=
    sound.tablesText_eq
  have blank : Token.read " " = [] := by decide
  have root : Token.read (tableName 0) = [.word (tableName 0)] := by decide
  rw [text, Token.read_append (.inr (JoinClause.written_apart _)), Token.read_glued _ _ (by decide), read_qualified table, blank,
    root, JoinClause.read_written joined]
  simp

theorem readStar_text (distinct : Bool) (rest : List Char) :
    readStar (("SELECT " ++ (if distinct then "DISTINCT " else "") ++ (tableName 0 ++ ".*")).toList ++ rest) =
      some (tableName 0, rest) := by
  have star : (tableName 0 ++ ".*").toList ++ rest = 't' :: '0' :: ".*".toList ++ rest := rfl
  have listed : ("DISTINCT ".toList.isPrefixOf? ((if distinct then "DISTINCT " else "").toList ++
      ((tableName 0 ++ ".*").toList ++ rest))).getD ((if distinct then "DISTINCT " else "").toList ++
        ((tableName 0 ++ ".*").toList ++ rest)) = (tableName 0 ++ ".*").toList ++ rest := by
    cases distinct with
    | false => rfl
    | true => rw [if_pos rfl, Output.isPrefixOf?_append, Option.getD_some]
  rw [readStar, String.toList_append, String.toList_append, List.append_assoc, List.append_assoc, Output.isPrefixOf?_append]
  simp only [Option.bind_eq_bind, Option.bind_some, listed]
  rfl

theorem read_afterList {schema : Schema} (sound : query.scope.Sound schema)
    (table : Identifier.checkQualified query.scope.table = .ok ())
    (joined : ∀ clause ∈ query.scope.clauses, clause.IsSpelled) :
    Token.ofChars query.afterList.toList = .word "FROM" :: (nameTokens query.scope.table ++
      .word (tableName 0) :: (query.scope.clauses.flatMap JoinClause.tokens ++ query.conditionTokens)) := by
  have word : Token.read " FROM " = [.word "FROM"] := by decide
  change Token.read query.afterList = _
  rw [afterList, Token.read_append (.inr query.orderText_apart), Token.read_append (.inr query.filterText_apart),
    Token.read_append (.inl (by decide)), word, read_tablesText sound table joined, conditionTokens]
  simp

theorem select_read {schema : Schema} (sound : query.scope.Sound schema)
    (table : Identifier.checkQualified query.scope.table = .ok ())
    (joined : ∀ clause ∈ query.scope.clauses, clause.IsSpelled)
    (filtered : ∀ condition ∈ query.filter, condition.IsSpelled) (sorted : ∀ item ∈ query.order, item.column.Readable) :
    SelectText.read? query.select.text = some query.asText := by
  obtain ⟨names, opens⟩ := conditionTokens_names filtered sorted
  have tokens := read_afterList sound table joined
  have listed := query.afterList_begin.readMany
    (length_le_flatMap Output.chars_ne_nil query.scope.outputs query.afterList.toList)
  have clauses := JoinClause.readMany_tokens joined (readClause_end opens)
    (length_le_flatMap JoinClause.tokens_ne_nil query.scope.clauses query.conditionTokens)
  rw [SelectText.read?, query.select_chars, readStar_text]
  simp only [Option.bind_eq_bind, Option.bind_some]
  rw [listed]
  simp only [tokens, readToken, if_true, Option.bind_some, readTable_tokens, clauses, opens, names.read_all]
  rfl

end Query

end RecordFilter
