import RecordFilter.Proofs.Record.Grammar

set_option autoImplicit false

namespace RecordFilter.Record

def Part.Is (sort : Item → Prop) (part : Part) : Prop := ∃ item, Item.ofPart part = .ok item ∧ sort item

theorem Part.Is.of_mem {sort : Item → Prop} {parts : List Part} (each : ∀ part ∈ parts, part.Is sort) {item : Item}
    (member : item ∈ itemsOf parts) : sort item := by
  obtain ⟨part, held, opened⟩ := mem_itemsOf.mp member
  obtain ⟨other, otherOpened, sorted⟩ := each part held
  rw [opened] at otherOpened
  cases otherOpened
  exact sorted

namespace Item

def IsText (item : Item) : Prop := ∃ joint content, item.tail = [.mark '=' joint, .text content]

def IsBare (item : Item) : Prop := item.tail = []

def IsArgument (item : Item) : Prop := if Arguments.isKey item then item.IsText else item.IsBare

structure IsCall (item : Item) : Prop where
  called : ∃ content, item.tail = [.group .parenthesis content]
  arguments : ∀ part ∈ item.parts, part.Is IsArgument
  oneModel : (item.enclosed.filter fun argument => !Arguments.isKey argument).length ≤ 1

def HasModel (item : Item) : Prop := ∃ argument ∈ item.enclosed, Arguments.isKey argument = false

def HasKey (item : Item) (key : String) : Prop := ∃ argument ∈ item.enclosed, argument.name ∈ Arguments.spellings key

def IsRelation (item : Item) : Prop :=
  ∃ kind, RelationKind.ofKeyword? item.name = some kind ∧ item.IsCall ∧ item.HasModel ∧ ∀ key ∈ kind.keys, item.HasKey key

def IsCollection (item : Item) : Prop :=
  item.name = "element_collection" ∧ item.IsCall ∧ ∀ key ∈ Arguments.collectionKeys, item.HasKey key

def IsRecordItem (item : Item) : Prop :=
  (item.name = "table" ∨ item.name = "name") ∧ item.IsText ∨ item.IsRelation ∨ item.IsCollection

def IsFieldItem (item : Item) : Prop :=
  (item.name = "id" ∨ item.name = "skip") ∧ item.IsBare ∨ item.name = "column" ∧ item.IsText

theorem isText_iff (item : Item) : item.IsText ↔ item.content?.isSome = true := by
  rw [IsText, content?]
  split
  · rename_i joint content tail
    exact ⟨fun _ => rfl, fun _ => ⟨joint, content, tail⟩⟩
  · rename_i other
    constructor
    · rintro ⟨joint, content, tail⟩
      exact (other joint content tail).elim
    · rintro ⟨⟩

theorem valueRequirements_met (item : Item) : AllMet item.valueRequirements ↔ item.IsText := by
  rw [← item.string_judged.accepted, isText_iff, Option.isSome_iff_exists]
  simp only [string_ok]

theorem bareRequirements_met (item : Item) : AllMet item.bareRequirements ↔ item.IsBare := by
  simp [bareRequirements, IsBare]

end Item

theorem lastContent_isSome {names : List String} {items : List Item}
    (said : ∀ item ∈ items, item.name ∈ names → item.IsText) :
    (lastContent names items).isSome = true ↔ ∃ item ∈ items, item.name ∈ names := by
  rw [lastContent, List.getLast?_isSome]
  constructor
  · intro some
    obtain ⟨content, member⟩ := List.exists_mem_of_ne_nil _ some
    obtain ⟨item, held, told⟩ := List.mem_filterMap.mp member
    rw [Item.contentOf] at told
    split at told
    · exact ⟨item, held, ‹_›⟩
    · cases told
  · rintro ⟨item, held, named⟩
    obtain ⟨content, told⟩ := Option.isSome_iff_exists.mp ((Item.isText_iff item).mp (said item held named))
    exact List.ne_nil_of_mem (List.mem_filterMap.mpr ⟨item, held, (if_pos named).trans told⟩)

namespace Arguments

theorem requirements_met (modelGiven : Bool) (item : Item) :
    AllMet (requirements modelGiven item) ↔ item.IsArgument ∧ (isKey item = false → modelGiven = false) := by
  rw [requirements, Item.IsArgument]
  cases key : isKey item with
  | true => simp [item.valueRequirements_met]
  | false =>
    have bare (empty : item.IsBare) : item.isAssignment = false := by rw [Item.isAssignment, empty]
    simp only [Bool.false_eq_true, if_false, allMet_cons, item.bareRequirements_met, Bool.and_eq_true, Bool.not_eq_true',
      forall_const]
    exact ⟨fun met => ⟨met.2, met.1.1⟩, fun met => ⟨⟨met.2, bare met.1⟩, met.1⟩⟩

theorem requirementsFrom_met (modelGiven : Bool) (parts : List Part) :
    AllMet (requirementsFrom modelGiven parts) ↔ (∀ part ∈ parts, part.Is Item.IsArgument) ∧
      ((itemsOf parts).filter fun argument => !isKey argument).length ≤ if modelGiven then 0 else 1 := by
  induction parts generalizing modelGiven with
  | nil => simp [requirementsFrom, itemsOf]
  | cons part rest ih =>
    rw [requirementsFrom, allMet_append, ih, Part.allMet_requirements, List.forall_mem_cons]
    cases opened : Item.ofPart part with
    | error fault => simp [Part.Is, opened]
    | ok item =>
      have read : part.item? = some item := congrArg Except.toOption opened
      simp only [Part.Is, opened, Except.ok.injEq, exists_eq_left', requirements_met, itemsOf_cons opened, read,
        Option.any_some, List.filter_cons]
      cases key : isKey item with
      | true => simp [and_assoc]
      | false => cases modelGiven <;> simp [and_assoc]

theorem keyRequirements_met {item : Item} (call : item.IsCall) (names : List String)
    (known : ∀ key ∈ names, ∀ name ∈ spellings key, name ∈ keys) :
    AllMet (keyRequirements names item.enclosed) ↔ ∀ key ∈ names, item.HasKey key := by
  rw [keyRequirements, AllMet, List.forall_mem_map]
  refine forall₂_congr fun key member => lastContent_isSome fun argument held named => ?_
  have sort := Part.Is.of_mem call.arguments held
  rwa [Item.IsArgument, isKey, if_pos (List.contains_iff_mem.mpr (known key member _ named))] at sort

end Arguments

namespace Item

theorem parts_eq_nil {item : Item} (empty : item.parts = []) : item.enclosed = [] := by
  rw [enclosed, empty]
  rfl

-- Parentheses with nothing in them are refused as well; what is required of the arguments cannot be met then either.
theorem declarationRequirements_met {own : List Item → List Requirement} (needs : ¬ AllMet (own [])) (item : Item) :
    AllMet (item.declarationRequirements own) ↔ item.IsCall ∧ AllMet (own item.enclosed) := by
  simp only [declarationRequirements, callRequirements, allMet_append, allMet_cons, allMet_nil, and_true,
    Arguments.requirementsFrom_met, Bool.false_eq_true, if_false]
  constructor
  · rintro ⟨⟨_, called, _⟩, ⟨each, oneModel⟩, met, alone⟩
    refine ⟨⟨?_, each, oneModel⟩, met⟩
    rw [isCall] at called
    split at called
    · rename_i content rest tail
      rw [tail] at alone
      cases rest with
      | nil => exact ⟨content, tail⟩
      | cons token rest => simp at alone
    · cases called
  · rintro ⟨⟨⟨content, tail⟩, each, oneModel⟩, met⟩
    have inside : item.parts.isEmpty = false := by
      cases parts : item.parts with
      | nil => exact absurd (parts_eq_nil parts ▸ met) needs
      | cons part rest => rfl
    exact ⟨⟨by simp [tail], by simp [isCall, tail], by simp [inside]⟩, ⟨each, oneModel⟩, met, by simp [tail]⟩

theorem hasModel_iff (item : Item) : (Arguments.modelOf item.enclosed).isSome = true ↔ item.HasModel := by
  rw [Arguments.modelOf, Option.isSome_map, List.find?_isSome]
  simp [HasModel]

theorem relation_met (item : Item) (kind : RelationKind) :
    AllMet (item.declarationRequirements kind.requirements) ↔
      item.IsCall ∧ item.HasModel ∧ ∀ key ∈ kind.keys, item.HasKey key := by
  have needs : ¬ AllMet (kind.requirements []) := fun met => Bool.false_ne_true (met _ (List.mem_cons_self ..))
  rw [declarationRequirements_met needs]
  refine and_congr_right fun call => ?_
  rw [RelationKind.requirements, allMet_cons, hasModel_iff, Arguments.keyRequirements_met call]
  cases kind <;> decide

theorem collection_met (item : Item) :
    AllMet (item.declarationRequirements (Arguments.keyRequirements Arguments.collectionKeys)) ↔
      item.IsCall ∧ ∀ key ∈ Arguments.collectionKeys, item.HasKey key := by
  have needs : ¬ AllMet (Arguments.keyRequirements Arguments.collectionKeys []) :=
    fun met => Bool.false_ne_true (met _ (List.mem_cons_self ..))
  rw [declarationRequirements_met needs]
  exact and_congr_right fun call => Arguments.keyRequirements_met call _ (by decide)

theorem recordRequirements_met (item : Item) : AllMet item.recordRequirements ↔ item.IsRecordItem := by
  rw [recordRequirements, IsRecordItem, IsRelation, IsCollection]
  split
  · rename_i named
    have unrelated : RelationKind.ofKeyword? item.name = none := by rcases named with named | named <;> rw [named] <;> rfl
    have uncollected : item.name ≠ "element_collection" := by rcases named with named | named <;> simp [named]
    simp [item.valueRequirements_met, named, unrelated, uncollected]
  · rename_i unnamed
    split
    · rename_i named
      have unrelated : RelationKind.ofKeyword? "element_collection" = none := rfl
      rw [collection_met]
      simp [named, unrelated]
    · rename_i uncollected
      cases related : RelationKind.ofKeyword? item.name with
      | none => simp [unnamed, uncollected]
      | some kind =>
        rw [relation_met]
        simp [unnamed, uncollected]

theorem fieldRequirements_met (item : Item) : AllMet item.fieldRequirements ↔ item.IsFieldItem := by
  rw [fieldRequirements, IsFieldItem]
  split
  · rename_i named
    have other : item.name ≠ "column" := by rcases named with named | named <;> simp [named]
    simp [item.bareRequirements_met, named, other]
  · rename_i unnamed
    split
    · rename_i named
      simp [item.valueRequirements_met, named]
    · rename_i other
      simp [unnamed, other]

end Item

structure Conform (sort : Item → Prop) (annotations : List Annotation) : Prop where
  lists : ∀ note ∈ annotations, note.isOwn = true → note.isList = true
  items : ∀ part ∈ partsOf annotations, part.Is sort

theorem annotations_met {required : Item → List Requirement} {sort : Item → Prop}
    (same : ∀ item, AllMet (required item) ↔ sort item) (annotations : List Annotation) :
    AllMet (requirementsOf required annotations) ↔ Conform sort annotations := by
  simp only [requirementsOf, allMet_flatMap, Annotation.allMet_requirements, same, List.mem_filter]
  constructor
  · intro met
    refine ⟨fun note held own => (met note ⟨held, own⟩).1, fun part member => ?_⟩
    obtain ⟨note, held, inside⟩ := List.mem_flatMap.mp member
    exact (met note (List.mem_filter.mp held)).2 part inside
  · rintro ⟨lists, items⟩ note ⟨held, own⟩
    exact ⟨lists note held own, fun part inside =>
      items part (List.mem_flatMap.mpr ⟨note, List.mem_filter.mpr ⟨held, own⟩, inside⟩)⟩

theorem RecordField.requirementsFrom_met (keyed : Bool) (fields : List RecordField) :
    AllMet (requirementsFrom keyed fields) ↔ (∀ field ∈ fields, Conform Item.IsFieldItem field.annotations) ∧
      (fields.filter isKey).length ≤ if keyed then 0 else 1 := by
  induction fields generalizing keyed with
  | nil => simp [requirementsFrom]
  | cons field rest ih =>
    rw [requirementsFrom, allMet_append, ih, requirements, allMet_append, annotations_met Item.fieldRequirements_met,
      List.forall_mem_cons, List.filter_cons]
    cases key : field.isKey <;> cases keyed <;> simp [and_assoc]

structure RecordType.Conforms (record : RecordType) : Prop where
  named : record.kind = .named
  own : Conform Item.IsRecordItem record.annotations
  table : ∃ item ∈ record.items, item.name = "table"
  fields : ∀ field ∈ record.fields, Conform Item.IsFieldItem field.annotations
  oneKey : (record.fields.filter RecordField.isKey).length ≤ 1

theorem RecordType.requirements_met (record : RecordType) : AllMet record.requirements ↔ record.Conforms := by
  have kind : (record.kind != .enumeration && record.kind != .union) = true ∧ (record.kind == .named) = true ↔
      record.kind = .named := by
    cases record.kind <;> decide
  have tabled (own : Conform Item.IsRecordItem record.annotations) :
      (lastContent ["table"] record.items).isSome = true ↔ ∃ item ∈ record.items, item.name = "table" := by
    rw [lastContent_isSome]
    · simp
    · intro item held named
      rcases Part.Is.of_mem own.items held with ⟨_, text⟩ | ⟨kind, known, _⟩ | ⟨other, _⟩
      · exact text
      · rw [List.mem_singleton.mp named] at known
        cases known
      · rw [List.mem_singleton.mp named] at other
        exact absurd other (by decide)
  simp only [requirements, allMet_append, allMet_cons, allMet_nil, and_true, kind,
    annotations_met Item.recordRequirements_met, RecordField.requirementsFrom_met, Bool.false_eq_true, if_false]
  constructor
  · rintro ⟨named, own, table, fields, oneKey⟩
    exact ⟨named, own, (tabled own).mp table, fields, oneKey⟩
  · rintro ⟨named, own, table, fields, oneKey⟩
    exact ⟨named, own, (tabled own).mpr table, fields, oneKey⟩

/-- A record type is accepted if and only if it conforms to the grammar; otherwise the first requirement that is not met is
the fault. -/
theorem expand_verdict (snakeCase : String → String) (record : RecordType) :
    ((∃ expansion, expand snakeCase record = .ok expansion) ↔ record.Conforms) ∧
      ∀ fault, expand snakeCase record = .error fault ↔ firstFault record.requirements = some fault :=
  ⟨(record.expand_judged snakeCase).accepted.trans record.requirements_met, (record.expand_judged snakeCase).refused⟩

end RecordFilter.Record
