import RecordFilter.Proofs.Record.Metadata
import RecordFilter.Proofs.Record.Requirement

set_option autoImplicit false

namespace RecordFilter.Record

theorem Part.prepend_ne_nil (token : Token) (parts : List Part) : prepend token parts ≠ [] := by
  cases parts <;> exact List.cons_ne_nil _ _

theorem Part.ofTokens_ne_nil {token : Token} {rest : List Token} : ofTokens (token :: rest) ≠ [] := by
  unfold ofTokens
  split
  · contradiction
  · exact List.cons_ne_nil _ _
  · exact prepend_ne_nil _ _

theorem expectEnd_judged (tokens : List Token) : Judges [⟨tokens.isEmpty, .expected .comma⟩] (expectEnd tokens) := by
  cases tokens <;> rfl

namespace Item

def startsWithText : List Token → Bool
  | .text _ :: _ => true
  | _ => false

def valueRequirements (item : Item) : List Requirement :=
  [⟨item.isAssignment, .expected .equals⟩,
    ⟨2 ≤ item.tail.length, faultAtEnd item.comma .string⟩,
    ⟨startsWithText item.tail.tail, .expected .string⟩,
    ⟨item.tail.length ≤ 2, .expected .comma⟩]

def bareRequirements (item : Item) : List Requirement := [⟨item.tail.isEmpty, .expected .comma⟩]

def isCall (item : Item) : Bool :=
  match item.tail with
  | .group .parenthesis _ :: _ => true
  | _ => false

def callRequirements (item : Item) : List Requirement :=
  [⟨!item.tail.isEmpty, faultAtEnd item.comma .parentheses⟩,
    ⟨item.isCall, .expected .parentheses⟩,
    ⟨!item.parts.isEmpty, .endBefore .item⟩]

theorem flag_judged (item : Item) : Judges item.bareRequirements item.flag := expectEnd_judged item.tail

theorem string_judged (item : Item) : Judges item.valueRequirements item.string := by
  rw [string, Judges]
  split
  · rename_i joint content rest tail
    cases rest <;> simp [valueRequirements, tail, isAssignment, startsWithText, expectEnd]
  · rename_i joint tail
    simp [valueRequirements, tail, isAssignment]
  · rename_i joint rest noText some tail
    have other : startsWithText rest = false := by
      rw [startsWithText]
      exact noText
    cases rest with
    | nil => exact absurd rfl some
    | cons token rest => simp [valueRequirements, tail, isAssignment, other]
  · rename_i unassigned
    have none : item.isAssignment = false := by
      rw [isAssignment]
      split
      · exact (unassigned _ _ ‹_›).elim
      · rfl
    simp [valueRequirements, none]

theorem arguments_judged (item : Item) : Judges item.callRequirements item.arguments := by
  rw [arguments, Judges]
  split
  · rename_i rest tail
    simp [callRequirements, isCall, parts, tail, Part.ofTokens]
  · rename_i content rest some tail
    cases content with
    | nil => exact absurd rfl some
    | cons token content => simp [callRequirements, isCall, parts, tail, Part.ofTokens_ne_nil]
  · rename_i tail
    simp [callRequirements, tail]
  · rename_i uncalled some
    have none : item.isCall = false := by
      rw [isCall]
      split
      · exact (uncalled _ _ ‹_›).elim
      · rfl
    have begun : item.tail.isEmpty = false := List.isEmpty_eq_false_iff.mpr some
    simp only [callRequirements, none, begun]
    rfl

end Item

namespace Arguments

def requirements (modelGiven : Bool) (item : Item) : List Requirement :=
  if isKey item then item.valueRequirements
  else ⟨!modelGiven && !item.isAssignment, .unsupportedArgument⟩ :: item.bareRequirements

def requirementsFrom (modelGiven : Bool) : List Part → List Requirement
  | [] => []
  | part :: rest => part.requirements (requirements modelGiven)
      ++ requirementsFrom (modelGiven || part.item?.any fun item => !isKey item) rest

theorem read_judged (arguments : Arguments) (item : Item) :
    Judges (requirements arguments.model.isSome item) (arguments.read item) := by
  cases key : isKey item with
  | true =>
    rw [requirements, if_pos key, read_key key]
    exact item.string_judged.map
  | false =>
    rw [requirements, if_neg (by simp [key]), read_other key, readModel]
    rw [← Option.not_isSome]
    cases !arguments.model.isSome && !item.isAssignment with
    | true => exact item.flag_judged.map.met _
    | false => exact .unmet _ _

theorem model_put (arguments : Arguments) (key content : String) : (arguments.put key content).model = arguments.model := by
  unfold put
  split <;> rfl

theorem model_read {arguments next : Arguments} {item : Item} (accepted : arguments.read item = .ok next) :
    next.model.isSome = (arguments.model.isSome || !isKey item) := by
  cases key : isKey item with
  | true =>
    rw [read_key key] at accepted
    obtain ⟨content, _, same⟩ := bind_ok accepted
    cases same
    rw [model_put, Bool.not_true, Bool.or_false]
  | false =>
    rw [read_other key, readModel] at accepted
    split at accepted
    · obtain ⟨_, _, same⟩ := bind_ok accepted
      cases same
      exact (Bool.or_true _).symm
    · cases accepted

theorem readParts_judged (arguments : Arguments) (parts : List Part) :
    Judges (requirementsFrom arguments.model.isSome parts) (readParts read arguments parts) := by
  induction parts generalizing arguments with
  | nil => exact .ok arguments
  | cons part rest ih =>
    rw [requirementsFrom, readParts_cons]
    refine (Part.requirements_judged fun item _ => read_judged arguments item).bind fun next accepted => ?_
    obtain ⟨item, opened, readItem⟩ := bind_ok accepted
    have onward := ih next
    rw [model_read readItem] at onward
    rw [Part.item?, opened]
    exact onward

def keyRequirements (keys : List String) (items : List Item) : List Requirement :=
  keys.map fun key => ⟨(given key items).isSome, .missing key⟩

theorem require_judged (key : String) (found : Option String) :
    Judges [⟨found.isSome, .missing key⟩] (require key found) := by
  cases found <;> rfl

theorem requireModel_judged (items : List Item) :
    Judges [⟨(modelOf items).isSome, .missingModel⟩] (told items).requireModel := by
  have model : (told items).model = modelOf items := rfl
  rw [requireModel, model]
  cases modelOf items <;> rfl

def collectionKeys : List String := ["name", "table", "foreign_key", "column"]

theorem collection_judged (items : List Item) : Judges (keyRequirements collectionKeys items) (told items).collection :=
  (require_judged "name" _).bind fun _ _ => (require_judged "table" _).bind fun _ _ =>
    (require_judged "foreign_key" _).bind fun _ _ => (require_judged "column" _).map

end Arguments

namespace RelationKind

def keys : RelationKind → List String
  | belongsTo | hasOne | hasMany => ["foreign_key"]
  | manyToMany => ["through", "self_key", "other_key"]

-- The model is asked for before the keys.
def requirements (kind : RelationKind) (items : List Item) : List Requirement :=
  ⟨(Arguments.modelOf items).isSome, .missingModel⟩ :: Arguments.keyRequirements kind.keys items

theorem relation_judged (kind : RelationKind) (model : String) (items : List Item) :
    Judges (Arguments.keyRequirements kind.keys items) (kind.relation model (.told items)) := by
  cases kind with
  | belongsTo | hasOne | hasMany => exact (Arguments.require_judged "foreign_key" _).map
  | manyToMany =>
    exact (Arguments.require_judged "through" _).bind fun _ _ => (Arguments.require_judged "self_key" _).bind fun _ _ =>
      (Arguments.require_judged "other_key" _).map

theorem declaration_judged (snakeCase : String → String) (kind : RelationKind) (items : List Item) :
    Judges (kind.requirements items) (kind.declaration snakeCase (.told items)) :=
  (Arguments.requireModel_judged items).bind fun model _ => (kind.relation_judged model items).map

end RelationKind

namespace Item

-- What a declaration requires of its arguments comes after the arguments themselves, and before what follows them.
def declarationRequirements (own : List Item → List Requirement) (item : Item) : List Requirement :=
  item.callRequirements ++ (Arguments.requirementsFrom false item.parts ++
    (own item.enclosed ++ [⟨item.tail.length ≤ 1, .expected .comma⟩]))

def recordRequirements (item : Item) : List Requirement :=
  if item.name = "table" ∨ item.name = "name" then item.valueRequirements
  else if item.name = "element_collection" then
    item.declarationRequirements (Arguments.keyRequirements Arguments.collectionKeys)
  else
    match RelationKind.ofKeyword? item.name with
    | some kind => item.declarationRequirements kind.requirements
    | none => [⟨false, .unsupportedRecordItem⟩]

def fieldRequirements (item : Item) : List Requirement :=
  if item.name = "id" ∨ item.name = "skip" then item.bareRequirements
  else if item.name = "column" then item.valueRequirements
  else [⟨false, .unsupportedFieldItem⟩]

theorem declaration_judged (item : Item) {own : List Item → List Requirement}
    {declare : Arguments → Except Fault Declaration} (judges : ∀ items, Judges (own items) (declare (.told items)))
    (add : Declaration → RecordMarks) :
    Judges (item.declarationRequirements own) (do
      let (content, rest) ← item.arguments
      let declaration ← declare (← Arguments.ofTokens content)
      expectEnd rest
      return add declaration) := by
  refine item.arguments_judged.bind fun ⟨content, rest⟩ opened => ?_
  obtain ⟨tail, parts⟩ := arguments_ok opened
  have inside := Arguments.readParts_judged {} item.parts
  have length : decide (item.tail.length ≤ 1) = rest.isEmpty := by
    rw [tail]
    cases rest <;> simp
  rw [length]
  rw [← parts] at inside ⊢
  refine inside.bind fun arguments read => ?_
  obtain rfl := Arguments.ofTokens_told read
  rw [parts]
  exact (judges item.enclosed).bind fun _ _ => (expectEnd_judged rest).map

theorem recordRequirements_relation {item : Item} {kind : RelationKind}
    (named : RelationKind.ofKeyword? item.name = some kind) :
    item.recordRequirements = item.declarationRequirements kind.requirements := by
  rw [recordRequirements, named]
  rcases RelationKind.keyword_cases named with keyword | keyword | keyword | keyword <;> simp [keyword]

end Item

namespace RecordMarks

variable (snakeCase : String → String)

theorem read_judged (marks : RecordMarks) (item : Item) :
    Judges item.recordRequirements (marks.read snakeCase item) := by
  rw [read]
  split <;> rename_i named
  case h_1 | h_2 =>
    rw [Item.recordRequirements, if_pos (by simp [named])]
    exact item.string_judged.map
  case h_7 =>
    rw [Item.recordRequirements, if_neg (by simp [named]), if_pos named]
    exact item.declaration_judged Arguments.collection_judged _
  case h_8 =>
    have unknown : RelationKind.ofKeyword? item.name = none := by
      unfold RelationKind.ofKeyword?
      split <;> simp_all
    rw [Item.recordRequirements, if_neg (by simp_all), if_neg (by simp_all), unknown]
    exact .unmet _ []
  all_goals
    rw [Item.recordRequirements_relation (by rw [named]; rfl)]
    exact item.declaration_judged (RelationKind.declaration_judged snakeCase _) _

theorem ofAnnotations_judged (annotations : List Annotation) :
    Judges (requirementsOf Item.recordRequirements annotations) (ofAnnotations snakeCase annotations) :=
  readAnnotations_judged (read_judged snakeCase) {} annotations

end RecordMarks

namespace FieldMarks

theorem read_judged (marks : FieldMarks) (item : Item) : Judges item.fieldRequirements (marks.read item) := by
  rw [read]
  split <;> rename_i named
  case h_1 | h_2 =>
    rw [Item.fieldRequirements, if_pos (by simp [named])]
    exact item.flag_judged.map
  case h_3 =>
    rw [Item.fieldRequirements, if_neg (by simp [named]), if_pos named]
    exact item.string_judged.map
  case h_4 =>
    rw [Item.fieldRequirements, if_neg (by simp_all), if_neg named]
    exact .unmet _ []

theorem ofAnnotations_judged (annotations : List Annotation) :
    Judges (requirementsOf Item.fieldRequirements annotations) (ofAnnotations annotations) :=
  readAnnotations_judged read_judged {} annotations

end FieldMarks

namespace RecordField

def requirements (keyed : Bool) (field : RecordField) : List Requirement :=
  requirementsOf Item.fieldRequirements field.annotations ++ [⟨!(keyed && field.isKey), .secondKey⟩]

def requirementsFrom (keyed : Bool) : List RecordField → List Requirement
  | [] => []
  | field :: rest => field.requirements keyed ++ requirementsFrom (keyed || field.isKey) rest

end RecordField

namespace Columns

theorem take_judged (columns : Columns) (field : RecordField) :
    Judges [⟨!(columns.key.isSome && field.isKey), .secondKey⟩] (columns.take field) ∧
      ∀ next, columns.take field = .ok next → next.key.isSome = (columns.key.isSome || field.isKey) := by
  rw [take]
  cases left : field.isSkipped with
  | true =>
    have key : field.isKey = false := by simp [RecordField.isKey, left]
    rw [key]
    exact ⟨by simp [Judges], by rintro _ ⟨⟩; simp⟩
  | false =>
    cases field.isKey with
    | false => exact ⟨by simp [Judges], by rintro _ ⟨⟩; simp [add]⟩
    | true =>
      cases taken : columns.key with
      | some column => exact ⟨rfl, by rintro _ ⟨⟩⟩
      | none => exact ⟨rfl, by rintro _ ⟨⟩; rfl⟩

theorem readAll_judged (columns : Columns) (fields : List RecordField) :
    Judges (RecordField.requirementsFrom columns.key.isSome fields) (columns.readAll fields) := by
  induction fields generalizing columns with
  | nil => exact .ok columns
  | cons field rest ih =>
    obtain ⟨taken, key⟩ := columns.take_judged field
    rw [readAll_cons, read_eq, RecordField.requirementsFrom]
    refine ((FieldMarks.ofAnnotations_judged field.annotations).bind fun _ _ => taken).bind fun next accepted => ?_
    obtain ⟨_, _, nextTaken⟩ := bind_ok accepted
    rw [← key next nextTaken]
    exact ih next

end Columns

namespace RecordType

def requirements (record : RecordType) : List Requirement :=
  [⟨record.kind != .enumeration && record.kind != .union, .notStruct⟩, ⟨record.kind == .named, .unnamedFields⟩] ++
    (requirementsOf Item.recordRequirements record.annotations ++
      ([⟨(lastContent ["table"] record.items).isSome, .missingTable⟩] ++
        RecordField.requirementsFrom false record.fields))

theorem expand_judged (snakeCase : String → String) (record : RecordType) :
    Judges record.requirements (expand snakeCase record) := by
  have kind : Judges [⟨record.kind != .enumeration && record.kind != .union, .notStruct⟩,
      ⟨record.kind == .named, .unnamedFields⟩] record.kind.check := by
    cases record.kind <;> rfl
  refine kind.bind fun _ _ => (RecordMarks.ofAnnotations_judged snakeCase record.annotations).bind fun marks read => ?_
  obtain rfl := RecordMarks.ofAnnotations_told read
  have table : Judges [⟨(lastContent ["table"] record.items).isSome, .missingTable⟩]
      (requireTable (lastContent ["table"] record.items)) := by
    cases lastContent ["table"] record.items <;> rfl
  exact table.bind fun _ _ => (Columns.readAll_judged {} record.fields).map

end RecordType

end RecordFilter.Record
