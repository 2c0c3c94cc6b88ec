import RecordFilter.Record.Expansion

set_option autoImplicit false

namespace RecordFilter.Record

def Part.item? (part : Part) : Option Item := (Item.ofPart part).toOption

def itemsOf (parts : List Part) : List Item := parts.filterMap Part.item?

def Annotation.parts (note : Annotation) : List Part :=
  match note.tail with
  | .group _ content :: _ => Part.ofTokens content
  | _ => []

def partsOf (annotations : List Annotation) : List Part := (annotations.filter Annotation.isOwn).flatMap Annotation.parts

theorem toOption_eq_some {α : Type} (outcome : Except Fault α) (value : α) :
    outcome.toOption = some value ↔ outcome = .ok value := by
  cases outcome <;> simp [Except.toOption]

theorem itemsOf_cons {part : Part} {item : Item} (opened : Item.ofPart part = .ok item) (rest : List Part) :
    itemsOf (part :: rest) = item :: itemsOf rest := by
  have read : part.item? = some item := (toOption_eq_some _ _).mpr opened
  rw [itemsOf, List.filterMap_cons, read]
  rfl

theorem mem_itemsOf {item : Item} {parts : List Part} :
    item ∈ itemsOf parts ↔ ∃ part ∈ parts, Item.ofPart part = .ok item := by
  simp only [itemsOf, List.mem_filterMap, Part.item?, toOption_eq_some]

theorem itemsOf_append (first second : List Part) : itemsOf (first ++ second) = itemsOf first ++ itemsOf second :=
  List.filterMap_append

namespace Annotation

theorem arguments_ok {note : Annotation} {content : List Token} (accepted : note.arguments = .ok content) :
    Part.ofTokens content = note.parts := by
  obtain ⟨path, tail⟩ := note
  cases tail with
  | nil => cases accepted
  | cons token rest =>
    cases token with
    | group delimiter inner =>
      cases accepted
      rfl
    | _ => cases accepted

end Annotation

namespace Item

def content? (item : Item) : Option String :=
  match item.tail with
  | [.mark '=' _, .text content] => some content
  | _ => none

theorem string_ok {item : Item} {content : String} : item.string = .ok content ↔ item.content? = some content := by
  constructor
  · intro accepted
    rw [string] at accepted
    split at accepted
    · rename_i joint text rest tail
      cases rest with
      | nil =>
        cases accepted
        simp [content?, tail]
      | cons token rest => cases accepted
    all_goals cases accepted
  · intro said
    rw [content?] at said
    split at said
    · rename_i joint text tail
      cases said
      rw [string, tail]
      rfl
    · cases said

def contentOf (names : List String) (item : Item) : Option String := if item.name ∈ names then item.content? else none

theorem contentOf_other {item : Item} {names : List String} (other : item.name ∉ names) : item.contentOf names = none :=
  if_neg other

end Item

def lastContent (names : List String) (items : List Item) : Option String :=
  (items.filterMap (Item.contentOf names)).getLast?

theorem lastContent_concat (names : List String) (items : List Item) (item : Item) :
    lastContent names (items ++ [item]) = (item.contentOf names).or (lastContent names items) := by
  rw [lastContent, List.filterMap_append]
  cases told : item.contentOf names <;> simp [lastContent, told]

section Telling

variable {σ : Type} {read : σ → Item → Except Fault σ} {told : List Item → σ}

theorem readParts_after
    (step : ∀ before item next, read (told before) item = .ok next → next = told (before ++ [item]))
    {before : List Item} {parts : List Part} {final : σ} (accepted : readParts read (told before) parts = .ok final) :
    final = told (before ++ itemsOf parts) := by
  induction parts generalizing before with
  | nil =>
    cases accepted
    rw [itemsOf, List.filterMap_nil, List.append_nil]
  | cons part rest ih =>
    rw [readParts] at accepted
    obtain ⟨item, opened, afterItem⟩ := bind_ok accepted
    obtain ⟨next, readNext, onward⟩ := bind_ok afterItem
    rw [step before item next readNext] at onward
    rw [ih onward, itemsOf_cons opened, List.append_assoc, List.singleton_append]

theorem readAnnotations_after
    (step : ∀ before item next, read (told before) item = .ok next → next = told (before ++ [item]))
    {before : List Item} {annotations : List Annotation} {final : σ}
    (accepted : readAnnotations read (told before) annotations = .ok final) :
    final = told (before ++ itemsOf (partsOf annotations)) := by
  induction annotations generalizing before with
  | nil =>
    cases accepted
    simp [partsOf, itemsOf]
  | cons note rest ih =>
    rw [readAnnotations] at accepted
    cases own : note.isOwn with
    | false =>
      rw [own, if_neg Bool.false_ne_true] at accepted
      rw [ih accepted, partsOf, partsOf, List.filter_cons_of_neg (by simp [own])]
    | true =>
      rw [own, if_pos rfl] at accepted
      obtain ⟨content, opened, afterContent⟩ := bind_ok accepted
      obtain ⟨next, readNext, onward⟩ := bind_ok afterContent
      rw [readItems, Annotation.arguments_ok opened] at readNext
      rw [readParts_after step readNext] at onward
      rw [ih onward, partsOf, partsOf, List.filter_cons_of_pos own, List.flatMap_cons, itemsOf_append, List.append_assoc]

theorem readAnnotations_told {start final : σ} (blank : start = told [])
    (step : ∀ before item next, read (told before) item = .ok next → next = told (before ++ [item]))
    {annotations : List Annotation} (accepted : readAnnotations read start annotations = .ok final) :
    final = told (itemsOf (partsOf annotations)) := by
  rw [blank] at accepted
  exact readAnnotations_after step accepted

end Telling

namespace Arguments

def keys : List String := ["name", "as", "foreign_key", "through", "self_key", "other_key", "table", "column"]

def spellings (key : String) : List String := if key = "name" then ["name", "as"] else [key]

def given (key : String) (items : List Item) : Option String := lastContent (spellings key) items

def isKey (item : Item) : Bool := keys.contains item.name

def modelOf (items : List Item) : Option String := (items.find? fun item => !isKey item).map Item.name

def told (items : List Item) : Arguments where
  model := modelOf items
  name := given "name" items
  foreignKey := given "foreign_key" items
  through := given "through" items
  selfKey := given "self_key" items
  otherKey := given "other_key" items
  table := given "table" items
  column := given "column" items

theorem modelOf_concat (items : List Item) (item : Item) :
    modelOf (items ++ [item]) = (modelOf items).or (if isKey item then none else some item.name) := by
  rw [modelOf, List.find?_append, Option.map_or, ← modelOf]
  cases named : isKey item <;> simp [named]

def put (key content : String) (arguments : Arguments) : Arguments :=
  match key with
  | "name" | "as" => { arguments with name := some content }
  | "foreign_key" => { arguments with foreignKey := some content }
  | "through" => { arguments with through := some content }
  | "self_key" => { arguments with selfKey := some content }
  | "other_key" => { arguments with otherKey := some content }
  | "table" => { arguments with table := some content }
  | "column" => { arguments with column := some content }
  | _ => arguments

theorem key_cases {item : Item} (key : isKey item = true) :
    item.name = "name" ∨ item.name = "as" ∨ item.name = "foreign_key" ∨ item.name = "through" ∨ item.name = "self_key" ∨
      item.name = "other_key" ∨ item.name = "table" ∨ item.name = "column" := by
  simpa only [isKey, List.contains_iff_mem, keys, List.mem_cons, List.not_mem_nil, or_false] using key

theorem read_key {item : Item} (key : isKey item = true) (arguments : Arguments) :
    arguments.read item = do return arguments.put item.name (← item.string) := by
  rcases key_cases key with named | named | named | named | named | named | named | named <;> simp [read, put, named]

theorem read_other {item : Item} (other : isKey item = false) (arguments : Arguments) :
    arguments.read item = arguments.readModel item := by
  simp only [isKey, keys, List.contains_eq_mem, decide_eq_false_iff_not, List.mem_cons, List.not_mem_nil, or_false,
    not_or] at other
  rw [read]
  split <;> simp_all

theorem told_put {before : List Item} {item : Item} {content : String} (key : isKey item = true)
    (said : item.content? = some content) : told (before ++ [item]) = (told before).put item.name content := by
  simp only [told, given, lastContent_concat, modelOf_concat, key, Item.contentOf, said, spellings]
  rcases key_cases key with named | named | named | named | named | named | named | named <;> simp [put, named]

theorem told_model {before : List Item} {item : Item} (other : isKey item = false) :
    told (before ++ [item]) = { told before with model := (modelOf before).or (some item.name) } := by
  have unnamed (key : String) (known : ∀ name ∈ spellings key, name ∈ keys) :
      item.contentOf (spellings key) = none := by
    refine Item.contentOf_other fun member => ?_
    simp [isKey, known _ member] at other
  simp (disch := decide) only [told, given, lastContent_concat, modelOf_concat, other, unnamed, Option.none_or,
    Bool.false_eq_true, if_false]

theorem read_told (before : List Item) (item : Item) (next : Arguments)
    (accepted : (told before).read item = .ok next) : next = told (before ++ [item]) := by
  cases key : isKey item with
  | true =>
    rw [read_key key] at accepted
    obtain ⟨content, said, same⟩ := bind_ok accepted
    cases same
    rw [told_put key (Item.string_ok.mp said)]
  | false =>
    rw [read_other key, readModel] at accepted
    split at accepted
    · rename_i free
      obtain ⟨_, _, same⟩ := bind_ok accepted
      cases same
      have unset : modelOf before = none := Option.isNone_iff_eq_none.mp (Bool.and_eq_true_iff.mp free).1
      rw [told_model key, unset]
      rfl
    · cases accepted

theorem ofTokens_told {tokens : List Token} {arguments : Arguments} (accepted : ofTokens tokens = .ok arguments) :
    arguments = told (itemsOf (Part.ofTokens tokens)) := by
  have blank : ({} : Arguments) = told [] := rfl
  rw [ofTokens, readItems, blank] at accepted
  exact readParts_after read_told accepted

end Arguments

namespace Item

def parts (item : Item) : List Part :=
  match item.tail with
  | .group .parenthesis content :: _ => Part.ofTokens content
  | _ => []

def enclosed (item : Item) : List Item := itemsOf item.parts

theorem arguments_ok {item : Item} {content rest : List Token} (accepted : item.arguments = .ok (content, rest)) :
    item.tail = .group .parenthesis content :: rest ∧ Part.ofTokens content = item.parts := by
  rw [arguments] at accepted
  split at accepted <;> cases accepted
  rename_i tail
  exact ⟨tail, by rw [parts, tail]⟩

end Item

theorem Item.declaration_ok {item : Item} {declare : Arguments → Except Fault Declaration}
    {add : Declaration → RecordMarks} {next : RecordMarks}
    (accepted : (do
      let (content, rest) ← item.arguments
      let declaration ← declare (← Arguments.ofTokens content)
      expectEnd rest
      return add declaration) = .ok next) :
    ∃ declaration, declare (.told item.enclosed) = .ok declaration ∧ next = add declaration := by
  obtain ⟨⟨content, rest⟩, opened, afterContent⟩ := bind_ok accepted
  obtain ⟨arguments, read, afterArguments⟩ := bind_ok afterContent
  obtain ⟨declaration, declared, afterDeclaration⟩ := bind_ok afterArguments
  obtain ⟨_, _, same⟩ := bind_ok afterDeclaration
  rw [Arguments.ofTokens_told read, (arguments_ok opened).2] at declared
  exact ⟨declaration, declared, (Except.ok.inj same).symm⟩

theorem Arguments.require_ok {key value : String} {found : Option String} (accepted : require key found = .ok value) :
    found = some value := by
  cases found with
  | none => cases accepted
  | some held =>
    cases accepted
    rfl

def lastSegment (path : String) : String := String.ofList ((path.toList.splitOn ':').getLastD [])

theorem getLastD_splitOn (separator : Char) (text : List Char) :
    (text.splitOn separator).getLastD [] = (text.reverse.takeWhile (· ≠ separator)).reverse := by
  have apart : separator ∉ (text.reverse.takeWhile (· ≠ separator)).reverse := by
    intro held
    simpa using List.all_eq_true.mp List.all_takeWhile _ (List.mem_reverse.mp held)
  have whole : text = (text.reverse.dropWhile (· ≠ separator)).reverse ++ (text.reverse.takeWhile (· ≠ separator)).reverse := by
    rw [← List.reverse_append, List.takeWhile_append_dropWhile, List.reverse_reverse]
  generalize (text.reverse.takeWhile (· ≠ separator)).reverse = last at apart whole
  cases front : text.reverse.dropWhile (· ≠ separator) with
  | nil =>
    rw [front] at whole
    rw [whole, List.reverse_nil, List.nil_append, List.splitOn_eq_singleton apart]
    rfl
  | cons char more =>
    have first := List.head?_dropWhile_not (· ≠ separator) text.reverse
    rw [front] at first
    have same : char = separator := by simpa using first
    rw [front, List.reverse_cons, List.append_assoc, List.singleton_append, same] at whole
    rw [whole, List.splitOn_append_cons_self, List.splitOn_eq_singleton apart]
    simp

theorem lastName_eq (path : String) : lastName path = lastSegment path := by
  rw [lastName, lastSegment, getLastD_splitOn]

namespace RelationKind

def ofKeyword? : String → Option RelationKind
  | "belongs_to" => some .belongsTo
  | "has_one" => some .hasOne
  | "has_many" => some .hasMany
  | "many_to_many" => some .manyToMany
  | _ => none

theorem keyword_cases {name : String} {kind : RelationKind} (named : ofKeyword? name = some kind) :
    name = "belongs_to" ∨ name = "has_one" ∨ name = "has_many" ∨ name = "many_to_many" := by
  unfold ofKeyword? at named
  split at named <;> simp_all

def relation? (kind : RelationKind) (model : String) (items : List Item) : Option Relation :=
  match kind with
  | belongsTo => do return .belongsTo model (← Arguments.given "foreign_key" items)
  | hasOne => do return .hasOne model (← Arguments.given "foreign_key" items)
  | hasMany => do return .hasMany model (← Arguments.given "foreign_key" items)
  | manyToMany => do
    return .manyToMany model (← Arguments.given "through" items) (← Arguments.given "self_key" items)
      (← Arguments.given "other_key" items)

def impliedName (snakeCase : String → String) (model : String) : RelationKind → String
  | belongsTo | hasOne => snakeCase (lastSegment model)
  | hasMany | manyToMany => snakeCase (lastSegment model) ++ "s"

theorem defaultName_eq (snakeCase : String → String) (kind : RelationKind) (model : String) :
    kind.defaultName snakeCase model = kind.impliedName snakeCase model := by
  rw [defaultName, lastName_eq]
  cases kind <;> simp [isToMany, impliedName]

def declared? (snakeCase : String → String) (kind : RelationKind) (items : List Item) : Option Declaration := do
  let model ← Arguments.modelOf items
  let relation ← kind.relation? model items
  return .association ((Arguments.given "name" items).getD (kind.impliedName snakeCase model)) relation

theorem relation_ok {kind : RelationKind} {model : String} {items : List Item} {relation : Relation}
    (accepted : kind.relation model (.told items) = .ok relation) : kind.relation? model items = some relation := by
  cases kind with
  | belongsTo | hasOne | hasMany =>
    obtain ⟨foreignKey, required, same⟩ := bind_ok accepted
    cases same
    have given : Arguments.given "foreign_key" items = some foreignKey := Arguments.require_ok required
    simp [relation?, given]
  | manyToMany =>
    obtain ⟨through, throughRequired, afterThrough⟩ := bind_ok accepted
    obtain ⟨selfKey, selfRequired, afterSelf⟩ := bind_ok afterThrough
    obtain ⟨otherKey, otherRequired, same⟩ := bind_ok afterSelf
    cases same
    have throughGiven : Arguments.given "through" items = some through := Arguments.require_ok throughRequired
    have selfGiven : Arguments.given "self_key" items = some selfKey := Arguments.require_ok selfRequired
    have otherGiven : Arguments.given "other_key" items = some otherKey := Arguments.require_ok otherRequired
    simp [relation?, throughGiven, selfGiven, otherGiven]

theorem declaration_ok {snakeCase : String → String} {kind : RelationKind} {items : List Item} {declaration : Declaration}
    (accepted : kind.declaration snakeCase (.told items) = .ok declaration) :
    kind.declared? snakeCase items = some declaration := by
  obtain ⟨model, required, afterModel⟩ := bind_ok accepted
  obtain ⟨relation, related, same⟩ := bind_ok afterModel
  cases same
  have given : Arguments.modelOf items = some model := by
    rw [Arguments.requireModel] at required
    split at required <;> cases required
    assumption
  simp [declared?, given, relation_ok related, Arguments.told, defaultName_eq]

end RelationKind

def Arguments.collection? (items : List Item) : Option Declaration := do
  return .collection (← given "name" items) (← given "table" items) (← given "foreign_key" items) (← given "column" items)

theorem Arguments.collection_ok {items : List Item} {declaration : Declaration}
    (accepted : (told items).collection = .ok declaration) : collection? items = some declaration := by
  obtain ⟨name, nameRequired, afterName⟩ := bind_ok accepted
  obtain ⟨table, tableRequired, afterTable⟩ := bind_ok afterName
  obtain ⟨foreignKey, keyRequired, afterKey⟩ := bind_ok afterTable
  obtain ⟨column, columnRequired, same⟩ := bind_ok afterKey
  cases same
  have nameGiven : given "name" items = some name := require_ok nameRequired
  have tableGiven : given "table" items = some table := require_ok tableRequired
  have keyGiven : given "foreign_key" items = some foreignKey := require_ok keyRequired
  have columnGiven : given "column" items = some column := require_ok columnRequired
  simp [collection?, nameGiven, tableGiven, keyGiven, columnGiven]

namespace Item

def relation? (snakeCase : String → String) (item : Item) : Option Declaration :=
  (RelationKind.ofKeyword? item.name).bind fun kind => kind.declared? snakeCase item.enclosed

def collection? (item : Item) : Option Declaration :=
  if item.name = "element_collection" then Arguments.collection? item.enclosed else none

end Item

namespace RecordMarks

variable {snakeCase : String → String}

def told (snakeCase : String → String) (items : List Item) : RecordMarks where
  table := lastContent ["table"] items
  name := lastContent ["name"] items
  relations := items.filterMap (Item.relation? snakeCase)
  collections := items.filterMap Item.collection?

theorem told_concat (before : List Item) (item : Item) : told snakeCase (before ++ [item]) =
    { table := (item.contentOf ["table"]).or (told snakeCase before).table
      name := (item.contentOf ["name"]).or (told snakeCase before).name
      relations := (told snakeCase before).relations ++ (item.relation? snakeCase).toList
      collections := (told snakeCase before).collections ++ item.collection?.toList } := by
  have one (declares : Item → Option Declaration) : [item].filterMap declares = (declares item).toList := by
    cases declared : declares item <;> simp [declared]
  simp only [told, lastContent_concat, List.filterMap_append, one]

theorem addRelation_told {before : List Item} {item : Item} {kind : RelationKind} {next : RecordMarks}
    (named : RelationKind.ofKeyword? item.name = some kind)
    (accepted : (told snakeCase before).addRelation snakeCase item kind = .ok next) :
    next = told snakeCase (before ++ [item]) := by
  obtain ⟨declaration, declared, rfl⟩ := Item.declaration_ok accepted
  have own : item.relation? snakeCase = some declaration := by
    rw [Item.relation?, named, Option.bind_some, RelationKind.declaration_ok declared]
  rw [told_concat, own, Item.collection?, Item.contentOf, Item.contentOf]
  rcases RelationKind.keyword_cases named with keyword | keyword | keyword | keyword <;> simp [keyword]

theorem addCollection_told {before : List Item} {item : Item} {next : RecordMarks}
    (named : item.name = "element_collection") (accepted : (told snakeCase before).addCollection item = .ok next) :
    next = told snakeCase (before ++ [item]) := by
  obtain ⟨declaration, declared, rfl⟩ := Item.declaration_ok accepted
  rw [told_concat, Item.collection?, if_pos named, Arguments.collection_ok declared, Item.relation?, Item.contentOf,
    Item.contentOf]
  simp [named, RelationKind.ofKeyword?]

theorem read_told (before : List Item) (item : Item) (next : RecordMarks)
    (accepted : (told snakeCase before).read snakeCase item = .ok next) : next = told snakeCase (before ++ [item]) := by
  rw [read] at accepted
  split at accepted <;> rename_i named
  case h_1 | h_2 =>
    obtain ⟨content, said, same⟩ := bind_ok accepted
    cases same
    simp [told_concat, Item.contentOf, Item.string_ok.mp said, Item.relation?, Item.collection?,
      RelationKind.ofKeyword?, named]
  case h_7 => exact addCollection_told named accepted
  case h_8 => cases accepted
  all_goals exact addRelation_told (by rw [named]; rfl) accepted

theorem ofAnnotations_told {annotations : List Annotation} {marks : RecordMarks}
    (accepted : ofAnnotations snakeCase annotations = .ok marks) : marks = told snakeCase (itemsOf (partsOf annotations)) :=
  readAnnotations_told rfl read_told accepted

end RecordMarks

namespace FieldMarks

def told (items : List Item) : FieldMarks where
  isKey := items.any fun item => item.name = "id"
  isSkipped := items.any fun item => item.name = "skip"
  column := lastContent ["column"] items

theorem read_told (before : List Item) (item : Item) (next : FieldMarks)
    (accepted : (told before).read item = .ok next) : next = told (before ++ [item]) := by
  rw [read] at accepted
  simp only [told, lastContent_concat, List.any_append, List.any_cons, List.any_nil, Bool.or_false]
  split at accepted <;> rename_i named
  · obtain ⟨_, _, same⟩ := bind_ok accepted
    cases same
    simp [told, named, Item.contentOf]
  · obtain ⟨_, _, same⟩ := bind_ok accepted
    cases same
    simp [told, named, Item.contentOf]
  · obtain ⟨content, said, same⟩ := bind_ok accepted
    cases same
    simp [told, named, Item.contentOf, Item.string_ok.mp said]
  · cases accepted

theorem ofAnnotations_told {annotations : List Annotation} {marks : FieldMarks}
    (accepted : ofAnnotations annotations = .ok marks) : marks = told (itemsOf (partsOf annotations)) :=
  readAnnotations_told rfl read_told accepted

end FieldMarks

end RecordFilter.Record
