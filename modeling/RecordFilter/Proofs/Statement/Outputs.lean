import RecordFilter.Proofs.Scope.Binding
import RecordFilter.Proofs.Statement.Quoting
import RecordFilter.Statement

set_option autoImplicit false

namespace RecordFilter

structure Output where
  source : String
  label : String
deriving DecidableEq

namespace Output

def opening : List Char := ", to_jsonb(".toList

def middle : List Char := ".*) AS \"".toList

def read (text : List Char) : Option (Output × List Char) := do
  let opened ← opening.isPrefixOf? text
  let named ← middle.isPrefixOf? (opened.dropWhile (· ≠ '.'))
  let (label, rest) ← Identifier.readLabel named
  return (⟨String.ofList (opened.takeWhile (· ≠ '.')), String.ofList label⟩, rest)

-- The text begins with these outputs and no others; the last list is what follows them.
inductive Begin : List Char → List Output → List Char → Prop where
  | none (text : List Char) (ended : read text = .none) : Begin text [] text
  | one (text : List Char) (output : Output) (between : List Char) (outputs : List Output) (rest : List Char)
      (first : read text = some (output, between)) (onward : Begin between outputs rest) :
      Begin text (output :: outputs) rest

theorem Begin.unique {text rest otherRest : List Char} {outputs others : List Output} (begins : Begin text outputs rest)
    (otherwise : Begin text others otherRest) : outputs = others ∧ rest = otherRest := by
  induction begins generalizing others with
  | none text ended =>
    cases otherwise with
    | none => exact ⟨rfl, rfl⟩
    | one _ output between outputs _ first onward => exact absurd (first.symm.trans ended) (by simp)
  | one text output between outputs rest first onward ih =>
    cases otherwise with
    | none _ ended => exact absurd (first.symm.trans ended) (by simp)
    | one _ other otherBetween others _ otherFirst otherOnward =>
      rw [first, Option.some.injEq, Prod.mk.injEq] at otherFirst
      obtain ⟨rfl, rfl⟩ := otherFirst
      obtain ⟨rfl, rfl⟩ := ih otherOnward
      exact ⟨rfl, rfl⟩

def chars (output : Output) : List Char :=
  opening ++ (output.source.toList ++ (middle ++ (output.label.toList.flatMap Identifier.doubled ++ ['"'])))

theorem isPrefixOf?_append (first rest : List Char) : first.isPrefixOf? (first ++ rest) = some rest :=
  List.isPrefixOf?_eq_some_iff_append_eq.mpr rfl

theorem read_chars {output : Output} (dotless : '.' ∉ output.source.toList) {rest : List Char}
    (apart : rest.head? ≠ some '"') : read (output.chars ++ rest) = some (output, rest) := by
  have other : ∀ char ∈ output.source.toList, decide (char ≠ '.') = true := by
    intro char member
    exact decide_eq_true fun dot => dotless (dot ▸ member)
  have stop (more : List Char) : (middle ++ more).takeWhile (· ≠ '.') = [] ∧
      (middle ++ more).dropWhile (· ≠ '.') = middle ++ more := ⟨rfl, rfl⟩
  simp only [chars, List.append_assoc, List.singleton_append]
  rw [read, isPrefixOf?_append]
  simp only [Option.bind_eq_bind, Option.bind_some, List.takeWhile_append_of_pos other, List.dropWhile_append_of_pos other,
    stop, isPrefixOf?_append, Identifier.readLabel_doubled output.label.toList apart, List.append_nil,
    String.ofList_toList, Option.pure_def]

end Output

namespace Join

def output (join : Join) : Output := ⟨tableName join.number, String.ofList (Identifier.withoutNull join.label)⟩

theorem chars_output (join : Join) : join.output.chars = (", " ++ join.selection).toList := by
  have opened : Output.opening = ", ".toList ++ "to_jsonb(".toList := rfl
  have named : Output.middle = ".*) AS ".toList ++ ['"'] := rfl
  rw [Output.chars, opened, named, output, selection]
  simp only [String.toList_append, String.toList_ofList, Identifier.toList_quoted, List.append_assoc, List.cons_append,
    List.nil_append]

theorem read_output (join : Join) {rest : List Char} (apart : rest.head? ≠ some '"') :
    Output.read (join.output.chars ++ rest) = some (join.output, rest) := by
  refine Output.read_chars ?_ apart
  rw [output, toList_tableName, List.mem_cons]
  rintro (letter | member)
  · exact absurd letter (by decide)
  · have digit := Nat.isDigit_of_mem_toDigits (by decide) (by decide) member
    exact absurd digit (by decide)

end Join

namespace Scope

def outputs (scope : Scope) : List Output := (scope.joins.filter Join.fetch).map Join.output

theorem toList_selectList (scope : Scope) :
    scope.selectList.toList = (tableName 0 ++ ".*").toList ++ scope.outputs.flatMap Output.chars := by
  have further (opening : String) (joins : List Join) :
      (", ".intercalate (opening :: joins.map Join.selection)).toList =
        opening.toList ++ (joins.map Join.output).flatMap Output.chars := by
    induction joins generalizing opening with
    | nil => simp
    | cons join rest ih =>
      rw [List.map_cons, String.intercalate_cons_cons, String.toList_append, String.toList_append, ih, List.map_cons,
        List.flatMap_cons, join.chars_output, String.toList_append]
      simp only [List.append_assoc]
  exact further _ _

theorem outputs_begin (scope : Scope) {rest : List Char} (apart : rest.head? ≠ some '"') (ended : Output.read rest = none) :
    Output.Begin (scope.outputs.flatMap Output.chars ++ rest) scope.outputs rest := by
  rw [outputs]
  induction scope.joins.filter Join.fetch with
  | nil => exact .none rest ended
  | cons join others ih =>
    rw [List.map_cons, List.flatMap_cons, List.append_assoc]
    refine .one _ _ _ _ _ (join.read_output ?_) ih
    -- The label before is followed by a comma, or by what follows the list.
    cases others with
    | nil => exact apart
    | cons next others => exact fun quote => absurd (Option.some.inj quote) (by decide)

end Scope

namespace Query

def afterList (query : Query) : String :=
  " FROM " ++ query.scope.tablesText ++ (query.filterText.run {}).1 ++ query.orderText

def Selects (query : Query) (outputs : List Output) : Prop :=
  ∃ list rest, query.select.text.toList =
      ("SELECT " ++ (if query.isDistinct then "DISTINCT " else "") ++ (tableName 0 ++ ".*")).toList ++ list ∧
    Output.Begin list outputs (" FROM ".toList ++ rest)

theorem select_chars (query : Query) : query.select.text.toList =
    ("SELECT " ++ (if query.isDistinct then "DISTINCT " else "") ++ (tableName 0 ++ ".*")).toList ++
      (query.scope.outputs.flatMap Output.chars ++ query.afterList.toList) := by
  have written : query.select.text = "SELECT " ++ (if query.isDistinct then "DISTINCT " else "") ++ query.scope.selectList
      ++ " FROM " ++ query.scope.tablesText ++ (query.filterText.run {}).1 ++ query.orderText := rfl
  rw [written, afterList]
  simp only [String.toList_append, query.scope.toList_selectList, List.append_assoc]

theorem afterList_chars (query : Query) : query.afterList.toList =
    " FROM ".toList ++ (query.scope.tablesText ++ (query.filterText.run {}).1 ++ query.orderText).toList := by
  simp only [afterList, String.toList_append, List.append_assoc]

theorem afterList_begin (query : Query) :
    Output.Begin (query.scope.outputs.flatMap Output.chars ++ query.afterList.toList) query.scope.outputs
      query.afterList.toList := by
  rw [afterList_chars]
  exact query.scope.outputs_begin (fun quote => absurd (Option.some.inj quote) (by decide)) rfl

theorem selects (query : Query) : query.Selects query.scope.outputs := by
  refine ⟨_, (query.scope.tablesText ++ (query.filterText.run {}).1 ++ query.orderText).toList, query.select_chars, ?_⟩
  rw [← afterList_chars]
  exact query.afterList_begin

end Query

end RecordFilter
