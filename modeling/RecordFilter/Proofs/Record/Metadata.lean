import RecordFilter.Proofs.Entity
import RecordFilter.Proofs.Record.Reading

set_option autoImplicit false

namespace RecordFilter.Record

namespace RecordField

def items (field : RecordField) : List Item := itemsOf (partsOf field.annotations)

def isSkipped (field : RecordField) : Bool := field.items.any fun item => item.name = "skip"

def isKey (field : RecordField) : Bool := !field.isSkipped && field.items.any fun item => item.name = "id"

def column (field : RecordField) : String := (lastContent ["column"] field.items).getD field.name

def declared? (field : RecordField) : Option Declaration :=
  if field.isSkipped then none else some (.scalar field.name field.column)

end RecordField

structure Columns.Hold (columns : Columns) (fields : List RecordField) : Prop where
  declarations : columns.declarations = fields.filterMap RecordField.declared?
  key : columns.key.toList = (fields.filter RecordField.isKey).map RecordField.column

namespace Columns

variable {columns final : Columns} {before : List RecordField}

def take (columns : Columns) (field : RecordField) : Except Fault Columns :=
  if field.isSkipped then .ok columns
  else if !field.isKey then .ok (columns.add field.name field.column)
  else if columns.key.isSome then .error .secondKey
  else .ok { columns.add field.name field.column with key := some field.column }

theorem read_eq (columns : Columns) (field : RecordField) :
    columns.read field = FieldMarks.ofAnnotations field.annotations >>= fun _ => columns.take field := by
  rw [Columns.read]
  cases read : FieldMarks.ofAnnotations field.annotations with
  | error fault => rfl
  | ok marks =>
    obtain rfl := FieldMarks.ofAnnotations_told read
    have skipped : (FieldMarks.told (itemsOf (partsOf field.annotations))).isSkipped = field.isSkipped := rfl
    have key : field.isKey = (!field.isSkipped && (FieldMarks.told (itemsOf (partsOf field.annotations))).isKey) := rfl
    simp only [bind, Except.bind, skipped, take, key]
    cases field.isSkipped <;> rfl

theorem readAll_cons (columns : Columns) (field : RecordField) (rest : List RecordField) :
    columns.readAll (field :: rest) = columns.read field >>= fun more => more.readAll rest := by
  rw [readAll]
  cases columns.read field <;> rfl

theorem Hold.take {field : RecordField} (hold : columns.Hold before) (accepted : columns.take field = .ok final) :
    final.Hold (before ++ [field]) := by
  rw [Columns.take] at accepted
  cases left : field.isSkipped with
  | true =>
    have key : field.isKey = false := by simp [RecordField.isKey, left]
    rw [left, if_pos rfl] at accepted
    cases accepted
    exact ⟨by simp [hold.declarations, RecordField.declared?, left], by simp [hold.key, key]⟩
  | false =>
    rw [left, if_neg Bool.false_ne_true] at accepted
    cases key : field.isKey with
    | false =>
      rw [key] at accepted
      cases accepted
      exact ⟨by simp [add, hold.declarations, RecordField.declared?, left], by simp [add, hold.key, key]⟩
    | true =>
      rw [key, if_neg (by decide)] at accepted
      cases free : columns.key with
      | some column => simp [free] at accepted
      | none =>
        simp only [free, Option.isSome_none, Bool.false_eq_true, if_false, Except.ok.injEq] at accepted
        subst accepted
        have unkeyed := hold.key
        rw [free] at unkeyed
        exact ⟨by simp [add, hold.declarations, RecordField.declared?, left], by simp [key, ← unkeyed]⟩

theorem Hold.readAll {rest : List RecordField} (hold : columns.Hold before) (accepted : columns.readAll rest = .ok final) :
    final.Hold (before ++ rest) := by
  induction rest generalizing columns before with
  | nil =>
    cases accepted
    rwa [List.append_nil]
  | cons field rest ih =>
    rw [readAll_cons] at accepted
    obtain ⟨next, read, onward⟩ := bind_ok accepted
    rw [read_eq] at read
    obtain ⟨_, _, taken⟩ := bind_ok read
    have whole := ih (hold.take taken) onward
    rwa [List.append_assoc] at whole

end Columns

namespace RecordType

def items (record : RecordType) : List Item := itemsOf (partsOf record.annotations)

def scalars (record : RecordType) : List Declaration := record.fields.filterMap RecordField.declared?

def relations (snakeCase : String → String) (record : RecordType) : List Declaration :=
  record.items.filterMap (Item.relation? snakeCase)

def collections (record : RecordType) : List Declaration := record.items.filterMap Item.collection?

end RecordType

def lastDeclared (entityOf : String → String) (name : String) (declarations : List Declaration) : Option Field :=
  lastUnder name ((declarations.map (Declaration.retarget entityOf)).filterMap Declaration.asField?)

namespace RecordType

variable {snakeCase : String → String}

def declared? (snakeCase : String → String) (record : RecordType) (entityOf : String → String) (name : String) :
    Option Field :=
  (lastDeclared entityOf name record.collections).or
    ((lastDeclared entityOf name (record.relations snakeCase)).or (lastDeclared entityOf name record.scalars))

end RecordType

def loans : RecordType where
  kind := .named
  name := "Loan"
  generics := []
  annotations := [
    ⟨[.word "orm"], [.group .parenthesis [.word "table", .mark '=' false, .text "loans", .mark ',' false,
      .word "belongs_to", .group .parenthesis [.word "as", .mark '=' false, .text "copy", .mark ',' false,
        .word "Copy", .mark ',' false, .word "foreign_key", .mark '=' false, .text "copy_id"]]]⟩]
  fields := [
    ⟨"copy", [⟨[.word "orm"], [.group .parenthesis [.word "id", .mark ',' false, .word "column", .mark '=' false,
      .text "loan_id"]]⟩]⟩,
    ⟨"note", [⟨[.word "orm"], [.group .parenthesis [.word "skip"]]⟩]⟩,
    ⟨"due", [⟨[.word "doc"], [.mark '=' false, .text "the last day"]⟩]⟩]

-- Snake case for names whose capitals each begin a word.
def underscored (name : String) : String :=
  String.ofList ((name.toList.flatMap fun char => if char.isUpper then ['_', char.toLower] else [char]).dropWhile (· = '_'))

end RecordFilter.Record
