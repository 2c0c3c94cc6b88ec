import Mathlib.Data.List.Forall2
import Mathlib.Logic.Relation
import RecordFilter.Proofs.Record.Conformity

set_option autoImplicit false

namespace RecordFilter.Record

def Annotation.written (note : Annotation) : List (List Token) := note.parts.map Part.tokens

def writtenIn (annotations : List Annotation) : List (List Token) := (partsOf annotations).map Part.tokens

def AreLists (annotations : List Annotation) : Prop := ∀ note ∈ annotations, note.isOwn = true → note.isList = true

-- One change of the layout. Pieces that are adjacent are merged by a change the other way.
inductive Edit : List Annotation → List Annotation → Prop where
  | split (before after pieces : List Annotation) (whole : Annotation) (own : whole.isOwn = true) (list : whole.isList = true)
      (ownPieces : ∀ piece ∈ pieces, piece.isOwn = true ∧ piece.isList = true)
      (same : pieces.flatMap Annotation.written = whole.written) :
      Edit (before ++ whole :: after) (before ++ pieces ++ after)
  | blank (before after : List Annotation) (note : Annotation) (own : note.isOwn = true) (list : note.isList = true)
      (empty : note.written = []) : Edit (before ++ after) (before ++ note :: after)
  | foreign (before after : List Annotation) (note : Annotation) (other : note.isOwn = false) :
      Edit (before ++ after) (before ++ note :: after)

def Relaid : List Annotation → List Annotation → Prop := Relation.EqvGen Edit

structure RecordField.Relaid (first second : RecordField) : Prop where
  name : first.name = second.name
  annotations : Record.Relaid first.annotations second.annotations

structure RecordType.Relaid (first second : RecordType) : Prop where
  kind : first.kind = second.kind
  name : first.name = second.name
  generics : first.generics = second.generics
  annotations : Record.Relaid first.annotations second.annotations
  fields : List.Forall₂ RecordField.Relaid first.fields second.fields

section Written

theorem partsOf_append (first second : List Annotation) : partsOf (first ++ second) = partsOf first ++ partsOf second := by
  rw [partsOf, List.filter_append, List.flatMap_append, ← partsOf, ← partsOf]

theorem writtenIn_append (first second : List Annotation) :
    writtenIn (first ++ second) = writtenIn first ++ writtenIn second := by
  rw [writtenIn, partsOf_append, List.map_append, ← writtenIn, ← writtenIn]

theorem writtenIn_own {notes : List Annotation} (own : ∀ note ∈ notes, note.isOwn = true) :
    writtenIn notes = notes.flatMap Annotation.written := by
  rw [writtenIn, partsOf, List.filter_eq_self.mpr own, List.map_flatMap]
  rfl

theorem writtenIn_foreign {note : Annotation} (other : note.isOwn = false) : writtenIn [note] = [] := by
  rw [writtenIn, partsOf, List.filter_cons_of_neg (by simp [other])]
  rfl

theorem areLists_append (first second : List Annotation) :
    AreLists (first ++ second) ↔ AreLists first ∧ AreLists second := List.forall_mem_append

structure SameItems (first second : List Annotation) : Prop where
  lists : AreLists first ↔ AreLists second
  written : writtenIn first = writtenIn second

theorem SameItems.within {first second : List Annotation} (same : SameItems first second) (before after : List Annotation) :
    SameItems (before ++ first ++ after) (before ++ second ++ after) := by
  constructor
  · rw [areLists_append, areLists_append, areLists_append, areLists_append, same.lists]
  · rw [writtenIn_append, writtenIn_append, writtenIn_append, writtenIn_append, same.written]

theorem Edit.sameItems {first second : List Annotation} (edit : Edit first second) : SameItems first second := by
  have inserted (before after : List Annotation) {note : Annotation} (list : note.isOwn = true → note.isList = true)
      (nothing : writtenIn [note] = []) : SameItems (before ++ after) (before ++ note :: after) := by
    have alone : SameItems [] [note] :=
      ⟨iff_of_true (List.forall_mem_nil _) (List.forall_mem_singleton.mpr list), nothing.symm⟩
    simpa using alone.within before after
  cases edit with
  | split before after pieces whole own list ownPieces same =>
    have cut : SameItems [whole] pieces := by
      refine ⟨iff_of_true (List.forall_mem_singleton.mpr fun _ => list) fun piece member _ => (ownPieces piece member).2, ?_⟩
      rw [writtenIn_own (List.forall_mem_singleton.mpr own), writtenIn_own fun piece member => (ownPieces piece member).1, same,
        List.flatMap_singleton]
    simpa using cut.within before after
  | blank before after note own list empty =>
    refine inserted before after (fun _ => list) ?_
    rw [writtenIn_own (List.forall_mem_singleton.mpr own), List.flatMap_singleton, empty]
  | foreign before after note other =>
    exact inserted before after (fun own => absurd own (by simp [other])) (writtenIn_foreign other)

theorem Relaid.sameItems {first second : List Annotation} (relaid : Relaid first second) : SameItems first second := by
  induction relaid with
  | rel first second edit => exact edit.sameItems
  | refl annotations => exact ⟨Iff.rfl, rfl⟩
  | symm first second _ ih => exact ⟨ih.lists.symm, ih.written.symm⟩
  | trans first second third _ _ left right => exact ⟨left.lists.trans right.lists, left.written.trans right.written⟩

end Written

section Comma

def Item.plain (item : Item) : Item := { item with comma := false }

def itemOf? (tokens : List Token) : Option Item := Part.item? ⟨tokens, false⟩

theorem Item.readNames_plain (comma : Bool) (name : String) (tokens : List Token) :
    (readNames comma name tokens).toOption.map plain = (readNames false name tokens).toOption := by
  fun_induction readNames comma name tokens <;> simp_all [readNames, Except.toOption, plain]

theorem Item.readFirstName_plain (comma : Bool) (lead : String) (tokens : List Token) :
    (readFirstName comma lead tokens).toOption.map plain = (readFirstName false lead tokens).toOption := by
  fun_cases readFirstName comma lead tokens
  case case1 name rest => exact readNames_plain comma (lead ++ name) rest
  all_goals simp_all [readFirstName, Except.toOption]

theorem Part.item?_plain (part : Part) : part.item?.map Item.plain = itemOf? part.tokens := by
  rw [itemOf?, item?, item?, Item.ofPart, Item.ofPart]
  dsimp only
  split
  · exact Item.readFirstName_plain part.comma "::" _
  · exact Item.readFirstName_plain part.comma "" part.tokens

theorem itemsOf_plain (parts : List Part) : (itemsOf parts).map Item.plain = (parts.map Part.tokens).filterMap itemOf? := by
  rw [itemsOf, List.map_filterMap, List.filterMap_map]
  exact congrArg (fun read => parts.filterMap read) (funext Part.item?_plain)

theorem Part.is_iff {sort : Item → Prop} (blind : ∀ item, sort item.plain ↔ sort item) (part : Part) :
    part.Is sort ↔ ∃ item, itemOf? part.tokens = some item ∧ sort item := by
  rw [← item?_plain]
  simp only [Is, ← toOption_eq_some, ← item?.eq_def, Option.map_eq_some_iff]
  constructor
  · rintro ⟨item, opened, sorted⟩
    exact ⟨item.plain, ⟨item, opened, rfl⟩, (blind item).mpr sorted⟩
  · rintro ⟨_, ⟨item, opened, rfl⟩, sorted⟩
    exact ⟨item, opened, (blind item).mp sorted⟩

end Comma

section Reading

variable {α β σ : Type}

structure Reads (read : List Annotation → Except Fault σ) (sort : Item → Prop) (told : List Item → σ) : Prop where
  accepts : ∀ annotations, (∃ marks, read annotations = .ok marks) ↔ Conform sort annotations
  tells : ∀ annotations marks, read annotations = .ok marks → marks = told (itemsOf (partsOf annotations))
  blind : ∀ item : Item, sort item.plain ↔ sort item
  plain : ∀ items, told (items.map Item.plain) = told items

theorem lastContent_plain (names : List String) (items : List Item) :
    lastContent names (items.map Item.plain) = lastContent names items := by
  rw [lastContent, List.filterMap_map]
  rfl

theorem Item.isCall_plain (item : Item) : item.plain.IsCall ↔ item.IsCall :=
  ⟨fun call => ⟨call.called, call.arguments, call.oneModel⟩, fun call => ⟨call.called, call.arguments, call.oneModel⟩⟩

theorem RecordMarks.reads (snakeCase : String → String) :
    Reads (ofAnnotations snakeCase) Item.IsRecordItem (told snakeCase) where
  accepts annotations := (ofAnnotations_judged snakeCase annotations).accepted.trans (annotations_met Item.recordRequirements_met annotations)
  tells _ _ := ofAnnotations_told
  blind item := by
    simp only [Item.IsRecordItem, Item.IsRelation, Item.IsCollection, item.isCall_plain]
    rfl
  plain items := by
    simp only [told, lastContent_plain, List.filterMap_map]
    rfl

theorem FieldMarks.reads : Reads ofAnnotations Item.IsFieldItem told where
  accepts annotations := (ofAnnotations_judged annotations).accepted.trans (annotations_met Item.fieldRequirements_met annotations)
  tells _ _ := ofAnnotations_told
  blind _ := Iff.rfl
  plain items := by
    simp only [told, lastContent_plain, List.any_map]
    rfl

theorem Conform.iff_written {sort : Item → Prop} (blind : ∀ item : Item, sort item.plain ↔ sort item)
    (annotations : List Annotation) : Conform sort annotations ↔
      AreLists annotations ∧ ∀ tokens ∈ writtenIn annotations, ∃ item, itemOf? tokens = some item ∧ sort item := by
  rw [writtenIn, List.forall_mem_map]
  simp only [← Part.is_iff blind]
  exact ⟨fun conform => ⟨conform.lists, conform.items⟩, fun ⟨lists, items⟩ => ⟨lists, items⟩⟩

theorem Reads.eq_some {read : List Annotation → Except Fault σ} {sort : Item → Prop} {told : List Item → σ}
    (reads : Reads read sort told) (annotations : List Annotation) (marks : σ) : (read annotations).toOption = some marks ↔
      Conform sort annotations ∧ marks = told ((writtenIn annotations).filterMap itemOf?) := by
  rw [toOption_eq_some, writtenIn, ← itemsOf_plain, reads.plain]
  constructor
  · intro accepted
    exact ⟨(reads.accepts annotations).mp ⟨marks, accepted⟩, reads.tells annotations marks accepted⟩
  · rintro ⟨conform, rfl⟩
    obtain ⟨marks, accepted⟩ := (reads.accepts annotations).mpr conform
    rw [accepted, reads.tells annotations marks accepted]

theorem Reads.same {read : List Annotation → Except Fault σ} {sort : Item → Prop} {told : List Item → σ}
    (reads : Reads read sort told) {first second : List Annotation} (lists : AreLists first ↔ AreLists second)
    (members : ∀ tokens, tokens ∈ writtenIn first ↔ tokens ∈ writtenIn second)
    (tellsSame : told ((writtenIn first).filterMap itemOf?) = told ((writtenIn second).filterMap itemOf?)) :
    (read first).toOption = (read second).toOption := by
  have conform : Conform sort first ↔ Conform sort second := by
    rw [Conform.iff_written reads.blind, Conform.iff_written reads.blind, lists]
    simp only [members]
  ext marks
  rw [reads.eq_some, reads.eq_some, conform, tellsSame]

theorem Reads.relaid {read : List Annotation → Except Fault σ} {sort : Item → Prop} {told : List Item → σ}
    (reads : Reads read sort told) {first second : List Annotation} (relaid : Relaid first second) :
    (read first).toOption = (read second).toOption := by
  obtain ⟨lists, written⟩ := relaid.sameItems
  exact reads.same lists (fun tokens => by rw [written]) (by rw [written])

theorem toOption_bind (outcome : Except Fault α) (next : α → Except Fault β) :
    (outcome >>= next).toOption = outcome.toOption.bind fun value => (next value).toOption := by
  cases outcome <;> rfl

theorem Columns.read_relaid {first second : RecordField} (relaid : first.Relaid second) (columns : Columns) :
    (columns.read first).toOption = (columns.read second).toOption := by
  rw [Columns.read, toOption_bind, FieldMarks.reads.relaid relaid.annotations, relaid.name, ← toOption_bind]
  rfl

theorem Columns.readAll_relaid {first second : List RecordField} (relaid : List.Forall₂ RecordField.Relaid first second)
    (columns : Columns) : (columns.readAll first).toOption = (columns.readAll second).toOption := by
  induction relaid generalizing columns with
  | nil => rfl
  | cons here _ ih => simp only [readAll_cons, toOption_bind, Columns.read_relaid here, ih]

theorem expand_same {snakeCase : String → String} {first second : RecordType} (kind : first.kind = second.kind) (name : first.name = second.name)
    (generics : first.generics = second.generics) (fields : List.Forall₂ RecordField.Relaid first.fields second.fields)
    (marks : (RecordMarks.ofAnnotations snakeCase first.annotations).toOption =
      (RecordMarks.ofAnnotations snakeCase second.annotations).toOption) :
    (expand snakeCase first).toOption = (expand snakeCase second).toOption := by
  simp only [expand, toOption_bind, kind, name, generics, marks, Columns.readAll_relaid fields]

end Reading

section Order

def groups : List (List String) :=
  [["table"], ["name"], ["belongs_to", "has_one", "has_many", "many_to_many"], ["element_collection"]]

def isUnder (group : List String) (tokens : List Token) : Bool := (itemOf? tokens).any fun item => group.contains item.name

structure RecordType.Reordered (first second : RecordType) : Prop where
  kind : first.kind = second.kind
  name : first.name = second.name
  generics : first.generics = second.generics
  fields : first.fields = second.fields
  lists : AreLists second.annotations
  moved : (writtenIn first.annotations).Perm (writtenIn second.annotations)
  inOrder : ∀ group ∈ groups,
    (writtenIn first.annotations).filter (isUnder group) = (writtenIn second.annotations).filter (isUnder group)

theorem tells_inOrder {α : Type} {group : List String} {tell : Item → Option α}
    (only : ∀ item : Item, item.name ∉ group → tell item = none) {first second : List (List Token)}
    (inOrder : first.filter (isUnder group) = second.filter (isUnder group)) :
    (first.filterMap itemOf?).filterMap tell = (second.filterMap itemOf?).filterMap tell := by
  have selected (written : List (List Token)) : (written.filterMap itemOf?).filterMap tell =
      (written.filter (isUnder group)).filterMap fun tokens => (itemOf? tokens).bind tell := by
    rw [List.filterMap_filterMap, List.filterMap_filter]
    congr 1
    funext tokens
    rw [isUnder]
    cases itemOf? tokens with
    | none => rfl
    | some item =>
      by_cases under : item.name ∈ group
      · simp [under]
      · simp [under, only item under]
  rw [selected, selected, inOrder]

theorem RecordMarks.told_inOrder (snakeCase : String → String) {first second : List (List Token)}
    (inOrder : ∀ group ∈ groups, first.filter (isUnder group) = second.filter (isUnder group)) :
    told snakeCase (first.filterMap itemOf?) = told snakeCase (second.filterMap itemOf?) := by
  simp only [groups, List.forall_mem_cons] at inOrder
  obtain ⟨table, name, relations, collections, _⟩ := inOrder
  have unrelated (item : Item) (other : item.name ∉ ["belongs_to", "has_one", "has_many", "many_to_many"]) :
      item.relation? snakeCase = none := by
    cases keyword : RelationKind.ofKeyword? item.name with
    | none => rw [Item.relation?, keyword, Option.bind_none]
    | some kind =>
      have known := RelationKind.keyword_cases keyword
      simp_all
  have uncollected (item : Item) (other : item.name ∉ ["element_collection"]) : item.collection? = none :=
    if_neg fun named => other (List.mem_singleton.mpr named)
  simp only [told, lastContent, tells_inOrder (fun _ other => Item.contentOf_other other) table,
    tells_inOrder (fun _ other => Item.contentOf_other other) name, tells_inOrder unrelated relations,
    tells_inOrder uncollected collections]

theorem RecordMarks.ofAnnotations_reordered (snakeCase : String → String) {first second : List Annotation}
    (lists : AreLists first ↔ AreLists second) (moved : (writtenIn first).Perm (writtenIn second))
    (inOrder : ∀ group ∈ groups, (writtenIn first).filter (isUnder group) = (writtenIn second).filter (isUnder group)) :
    (ofAnnotations snakeCase first).toOption = (ofAnnotations snakeCase second).toOption :=
  (reads snakeCase).same lists (fun _ => moved.mem_iff) (told_inOrder snakeCase inOrder)

end Order

/-- A change of the layout leaves the verdict as it is: the same expansion is accepted, or none. An accepted record type is
also expanded as before when its items change places, if those of one group stay in order. -/
theorem expand_layout (snakeCase : String → String) (record other : RecordType) :
    (record.Relaid other →
        ∀ expansion, expand snakeCase record = .ok expansion ↔ expand snakeCase other = .ok expansion) ∧
      (record.Reordered other →
        ∀ expansion, expand snakeCase record = .ok expansion → expand snakeCase other = .ok expansion) := by
  constructor
  · intro relaid expansion
    have marks := (RecordMarks.reads snakeCase).relaid relaid.annotations
    have same := expand_same relaid.kind relaid.name relaid.generics relaid.fields marks
    rw [← toOption_eq_some, same, toOption_eq_some]
  · intro reordered expansion accepted
    obtain ⟨_, _, afterKind⟩ := bind_ok accepted
    obtain ⟨told, read, _⟩ := bind_ok afterKind
    have conform := ((RecordMarks.reads snakeCase).accepts record.annotations).mp ⟨told, read⟩
    have lists : AreLists record.annotations ↔ AreLists other.annotations := iff_of_true conform.lists reordered.lists
    have marks := RecordMarks.ofAnnotations_reordered snakeCase lists reordered.moved reordered.inOrder
    have fields : List.Forall₂ RecordField.Relaid record.fields other.fields := by
      rw [reordered.fields]
      exact List.forall₂_same.mpr fun field _ => ⟨rfl, .refl _⟩
    have same := expand_same reordered.kind reordered.name reordered.generics fields marks
    rwa [← toOption_eq_some, ← same, toOption_eq_some]

def Annotation.ofItems (tokens : List Token) : Annotation := ⟨[.word "orm"], [.group .parenthesis tokens]⟩

def loansTable : List Token := [.word "table", .mark '=' false, .text "loans"]

def loansCopy : List Token := [.word "belongs_to", .group .parenthesis [.word "as", .mark '=' false, .text "copy",
  .mark ',' false, .word "Copy", .mark ',' false, .word "foreign_key", .mark '=' false, .text "copy_id"]]

def loansSpread : RecordType where
  kind := .named
  name := "Loan"
  generics := []
  annotations := [⟨[.word "doc"], [.mark '=' false, .text "Who has which copy."]⟩, .ofItems loansTable, .ofItems [],
    .ofItems (loansCopy ++ [.mark ',' false])]
  fields := [
    ⟨"copy", [.ofItems [.word "id"], .ofItems [.word "column", .mark '=' false, .text "loan_id"]]⟩,
    ⟨"note", [.ofItems [.word "skip"]]⟩,
    ⟨"due", []⟩]

def loansTurned : RecordType := { loans with annotations := [.ofItems loansCopy, .ofItems loansTable] }

theorem loans_relaid : loans.Relaid loansSpread := by
  have apart : Edit loans.annotations [.ofItems loansTable, .ofItems (loansCopy ++ [.mark ',' false])] :=
    .split [] [] _ _ rfl rfl (List.forall_mem_cons.mpr ⟨⟨rfl, rfl⟩, List.forall_mem_singleton.mpr ⟨rfl, rfl⟩⟩) rfl
  have blank : Edit _ [.ofItems loansTable, .ofItems [], .ofItems (loansCopy ++ [.mark ',' false])] :=
    .blank [.ofItems loansTable] [.ofItems (loansCopy ++ [.mark ',' false])] (.ofItems []) rfl rfl rfl
  have documented : Edit _ loansSpread.annotations := .foreign [] _ _ rfl
  have key : Edit [.ofItems [.word "id", .mark ',' false, .word "column", .mark '=' false, .text "loan_id"]]
      [.ofItems [.word "id"], .ofItems [.word "column", .mark '=' false, .text "loan_id"]] :=
    .split [] [] _ _ rfl rfl (List.forall_mem_cons.mpr ⟨⟨rfl, rfl⟩, List.forall_mem_singleton.mpr ⟨rfl, rfl⟩⟩) rfl
  have undocumented : Edit [] [⟨[.word "doc"], [.mark '=' false, .text "the last day"]⟩] := .foreign [] [] _ rfl
  refine ⟨rfl, rfl, rfl, .trans _ _ _ (.rel _ _ apart) (.trans _ _ _ (.rel _ _ blank) (.rel _ _ documented)), ?_⟩
  exact .cons ⟨rfl, .rel _ _ key⟩ (.cons ⟨rfl, .refl _⟩ (.cons ⟨rfl, .symm _ _ (.rel _ _ undocumented)⟩ .nil))

theorem loans_reordered : loans.Reordered loansTurned := by
  refine ⟨rfl, rfl, rfl, rfl, ?_, .swap _ _ _, ?_⟩
  · exact List.forall_mem_cons.mpr ⟨fun _ => rfl, List.forall_mem_singleton.mpr fun _ => rfl⟩
  · simp only [groups, List.forall_mem_cons]
    exact ⟨rfl, rfl, rfl, rfl, List.forall_mem_nil _⟩

theorem expand_layout_loans : loans.Relaid loansSpread ∧ loans.Reordered loansTurned ∧
    ∃ expansion, expand underscored loans = .ok expansion ∧ expand underscored loansSpread = .ok expansion ∧
      expand underscored loansTurned = .ok expansion := by
  have accepted : expand underscored loans = .ok _ := rfl
  have spread := ((expand_layout underscored loans loansSpread).1 loans_relaid _).mp accepted
  have turned := (expand_layout underscored loans loansTurned).2 loans_reordered _ accepted
  exact ⟨loans_relaid, loans_reordered, _, accepted, spread, turned⟩

end RecordFilter.Record
