import RecordFilter.Identifier
import RecordFilter.Proofs.Path

set_option autoImplicit false

namespace RecordFilter.Identifier

def IsLetter (char : Char) : Prop := ('A' ≤ char ∧ char ≤ 'Z') ∨ ('a' ≤ char ∧ char ≤ 'z')

def Starts (char : Char) : Prop := IsLetter char ∨ char = '_'

def Continues (char : Char) : Prop := Starts char ∨ ('0' ≤ char ∧ char ≤ '9') ∨ char = '$'

def IsPart (name : String) : Prop :=
  ∃ first rest, name.toList = first :: rest ∧ Starts first ∧ ∀ char ∈ rest, Continues char

def IsQualified (name : String) : Prop := ∃ parts, parts ≠ [] ∧ name = Text.joinDots parts ∧ ∀ part ∈ parts, IsPart part

inductive BreaksPart (name : String) : Fault → Prop where
  | empty (nothing : name = "") : BreaksPart name .empty
  | start {first : Char} {rest : List Char} (spelled : name.toList = first :: rest) (wrong : ¬ Starts first) :
    BreaksPart name (.start first name)
  | character {first char : Char} {before after : List Char} (spelled : name.toList = first :: (before ++ char :: after))
    (starts : Starts first) (continues : ∀ earlier ∈ before, Continues earlier) (wrong : ¬ Continues char) :
    BreaksPart name (.character char name)

inductive BreaksQualified (name : String) : Fault → Prop where
  | empty (nothing : name = "") : BreaksQualified name .empty
  | segment {before after : List String} (some : name ≠ "") (split : Text.splitDots name = before ++ "" :: after)
    (earlier : ∀ part ∈ before, IsPart part) : BreaksQualified name (.emptySegment name)
  | part {before after : List String} {part : String} {fault : Fault} (split : Text.splitDots name = before ++ part :: after)
    (earlier : ∀ part ∈ before, IsPart part) (some : part ≠ "") (broken : BreaksPart part fault) :
    BreaksQualified name fault

section Shapes

variable {name : String}

theorem startsPart_iff (char : Char) : startsPart char = true ↔ Starts char := by
  have upper : char.isUpper = true ↔ 'A' ≤ char ∧ char ≤ 'Z' := decide_eq_true_iff
  have lower : char.isLower = true ↔ 'a' ≤ char ∧ char ≤ 'z' :=
    Bool.and_eq_true_iff.trans (and_congr decide_eq_true_iff decide_eq_true_iff)
  have letter : char.isAlpha = true ↔ IsLetter char := Bool.or_eq_true_iff.trans (or_congr upper lower)
  rw [startsPart, Bool.or_eq_true, letter, beq_iff_eq]
  exact or_comm

theorem continuesPart_iff (char : Char) : continuesPart char = true ↔ Continues char := by
  have digit : char.isDigit = true ↔ '0' ≤ char ∧ char ≤ '9' := by
    simp only [Char.isDigit, Bool.and_eq_true, decide_eq_true_eq]
    rfl
  rw [Continues, ← startsPart_iff, ← digit]
  simp only [continuesPart, startsPart, Char.isAlphanum, Bool.or_eq_true, beq_iff_eq]
  tauto

theorem checkPart_ok (checked : checkPart name = .ok ()) :
    ∃ first rest, name.toList = first :: rest ∧ startsPart first = true ∧ ∀ char ∈ rest, continuesPart char = true := by
  rw [checkPart] at checked
  cases spelled : name.toList with
  | nil => simp [spelled] at checked
  | cons first rest =>
    rw [spelled] at checked
    by_cases starts : startsPart first = true
    · simp only [if_pos starts] at checked
      cases fault : rest.find? fun char => !continuesPart char with
      | some char => simp [fault] at checked
      | none =>
        refine ⟨first, rest, rfl, starts, fun char member => ?_⟩
        simpa using List.find?_eq_none.mp fault char member
    · simp [starts] at checked

theorem checkPart_of {first : Char} {rest : List Char} (spelled : name.toList = first :: rest)
    (starts : startsPart first = true) (continues : ∀ char ∈ rest, continuesPart char = true) : checkPart name = .ok () := by
  have faultless : (rest.find? fun char => !continuesPart char) = none :=
    List.find?_eq_none.mpr fun char member => by simp [continues char member]
  rw [checkPart, spelled]
  simp only [if_pos starts, faultless]

theorem checkPart_ok_iff : checkPart name = .ok () ↔ IsPart name := by
  constructor
  · intro checked
    obtain ⟨first, rest, spelled, starts, continues⟩ := checkPart_ok checked
    exact ⟨first, rest, spelled, (startsPart_iff first).mp starts, fun char member =>
      (continuesPart_iff char).mp (continues char member)⟩
  · rintro ⟨first, rest, spelled, starts, continues⟩
    exact checkPart_of spelled ((startsPart_iff first).mpr starts) fun char member =>
      (continuesPart_iff char).mpr (continues char member)

theorem checkPart_breaks {fault : Fault} (refused : checkPart name = .error fault) : BreaksPart name fault := by
  rw [checkPart] at refused
  cases spelled : name.toList with
  | nil =>
    rw [spelled] at refused
    cases refused
    exact .empty (String.toList_eq_nil_iff.mp spelled)
  | cons first rest =>
    rw [spelled] at refused
    by_cases starts : startsPart first = true
    · simp only [if_pos starts] at refused
      cases found : rest.find? fun char => !continuesPart char with
      | none => simp [found] at refused
      | some char =>
        simp only [found, Except.error.injEq] at refused
        subst refused
        obtain ⟨wrong, before, after, rfl, earlier⟩ := List.find?_eq_some_iff_append.mp found
        refine .character spelled ((startsPart_iff first).mp starts) (fun other member => ?_) ?_
        · simpa [continuesPart_iff] using earlier other member
        · simpa [← continuesPart_iff] using wrong
    · simp only [if_neg starts, Except.error.injEq] at refused
      subst refused
      exact .start spelled (mt (startsPart_iff first).mpr starts)

theorem not_isPart_empty : ¬ IsPart "" := by
  rintro ⟨first, rest, spelled, -⟩
  cases spelled

theorem IsPart.dotless (part : IsPart name) : '.' ∉ name.toList := by
  obtain ⟨first, rest, spelled, starts, continues⟩ := part
  have stray : ¬ Continues '.' := mt (continuesPart_iff '.').mpr (by decide)
  rw [spelled]
  intro member
  rcases List.mem_cons.mp member with rfl | later
  · exact stray (.inl starts)
  · exact stray (continues '.' later)

theorem isQualified_iff : IsQualified name ↔ ∀ part ∈ Text.splitDots name, IsPart part := by
  constructor
  · rintro ⟨parts, some, rfl, shaped⟩
    rw [Text.splitDots_joinDots some fun part member => (shaped part member).dotless]
    exact shaped
  · intro shaped
    exact ⟨Text.splitDots name, Text.splitDots_ne_nil name, (Text.joinDots_splitDots name).symm, shaped⟩

theorem checkParts_ok_iff (parts : List String) : checkParts name parts = .ok () ↔ ∀ part ∈ parts, IsPart part := by
  induction parts with
  | nil => simp [checkParts]
  | cons part rest ih =>
    rw [checkParts, List.forall_mem_cons, ← checkPart_ok_iff, ← ih]
    by_cases empty : part = ""
    · subst empty
      simp [checkPart]
    · cases checked : checkPart part with
      | error fault => simp [empty]
      | ok passed => simp [empty]

theorem checkParts_breaks {parts : List String} {fault : Fault} (refused : checkParts name parts = .error fault) :
    ∃ before part after, parts = before ++ part :: after ∧ (∀ earlier ∈ before, IsPart earlier) ∧
      (part = "" ∧ fault = .emptySegment name ∨ part ≠ "" ∧ BreaksPart part fault) := by
  induction parts with
  | nil => cases refused
  | cons part rest ih =>
    rw [checkParts] at refused
    by_cases empty : part = ""
    · subst empty
      cases refused
      exact ⟨[], "", rest, rfl, fun _ none => absurd none List.not_mem_nil, .inl ⟨rfl, rfl⟩⟩
    · cases checked : checkPart part with
      | error found =>
        simp only [checked, String.isEmpty_iff, if_neg empty, Except.error.injEq] at refused
        subst refused
        have broken := checkPart_breaks checked
        exact ⟨[], part, rest, rfl, fun _ none => absurd none List.not_mem_nil, .inr ⟨empty, broken⟩⟩
      | ok passed =>
        simp only [checked, String.isEmpty_iff, if_neg empty] at refused
        obtain ⟨before, broken, after, rfl, earlier, breaks⟩ := ih refused
        have shaped := List.forall_mem_cons.mpr ⟨checkPart_ok_iff.mp checked, earlier⟩
        exact ⟨part :: before, broken, after, rfl, shaped, breaks⟩

theorem checkQualified_ok_iff : checkQualified name = .ok () ↔ IsQualified name := by
  rw [isQualified_iff, checkQualified]
  by_cases empty : name = ""
  · subst empty
    have unshaped : ¬ ∀ part ∈ Text.splitDots "", IsPart part := fun shaped => not_isPart_empty (shaped "" (by decide))
    simp [unshaped]
  · rw [if_neg (by simpa using empty), checkParts_ok_iff]

theorem checkQualified_breaks {fault : Fault} (refused : checkQualified name = .error fault) : BreaksQualified name fault := by
  rw [checkQualified] at refused
  by_cases empty : name = ""
  · subst empty
    cases refused
    exact .empty rfl
  · rw [if_neg (by simpa using empty)] at refused
    obtain ⟨before, part, after, split, earlier, ⟨rfl, rfl⟩ | ⟨some, broken⟩⟩ := checkParts_breaks refused
    · exact .segment empty split earlier
    · exact .part split earlier some broken

end Shapes

end RecordFilter.Identifier
