import Mathlib.Data.List.Infix
import RecordFilter.Path

set_option autoImplicit false

namespace RecordFilter

namespace Text

theorem pieces_eq_splitOn (text : List Char) : pieces text = text.splitOn '.' := by
  induction text with
  | nil => rfl
  | cons char rest ih =>
    have split := List.splitOn_ne_nil '.' rest
    rw [pieces, List.splitOn_cons_eq_if_modifyHead, ih]
    cases more : rest.splitOn '.' with
    | nil => exact absurd more split
    | cons piece others => simp [List.modifyHead]

theorem mem_of_mem_pieces {text piece : List Char} (member : piece ∈ pieces text) :
    ∀ char ∈ piece, char ∈ text ∧ char ≠ '.' := by
  induction text generalizing piece with
  | nil => simp_all [pieces]
  | cons first rest ih =>
    have further (char : Char) (earlier : char ∈ rest ∧ char ≠ '.') : char ∈ first :: rest ∧ char ≠ '.' :=
      ⟨List.mem_cons_of_mem _ earlier.1, earlier.2⟩
    rw [pieces] at member
    split at member
    · rcases List.mem_cons.mp member with rfl | later
      · exact fun _ none => absurd none List.not_mem_nil
      · exact fun char held => further char (ih later char held)
    · rename_i noDot
      cases more : pieces rest with
      | nil => exact absurd more (pieces_ne_nil rest)
      | cons head others =>
        rw [more] at member ih
        rcases List.mem_cons.mp member with rfl | later
        · rw [List.forall_mem_cons]
          exact ⟨⟨List.mem_cons_self .., noDot⟩, fun char held => further char (ih (List.mem_cons_self ..) char held)⟩
        · exact fun char held => further char (ih (List.mem_cons_of_mem _ later) char held)

theorem splitDots_ne_nil (text : String) : splitDots text ≠ [] :=
  List.map_eq_nil_iff.not.mpr (pieces_ne_nil text.toList)

theorem dotless_of_mem_splitDots {text part : String} (member : part ∈ splitDots text) : '.' ∉ part.toList := by
  obtain ⟨piece, split, rfl⟩ := List.mem_map.mp member
  rw [String.toList_ofList]
  exact fun dot => (mem_of_mem_pieces split _ dot).2 rfl

theorem splitDots_joinDots {parts : List String} (some : parts ≠ []) (dotless : ∀ part ∈ parts, '.' ∉ part.toList) :
    splitDots (joinDots parts) = parts := by
  have written : (joinDots parts).toList = List.intercalate ['.'] (parts.map String.toList) := by
    rw [joinDots, String.toList_intercalate]
    rfl
  rw [splitDots, written, pieces_eq_splitOn, List.splitOn_intercalate]
  · simp [Function.comp_def]
  · simpa using dotless
  · simpa using some

theorem forall_mem_intercalate {property : Char → Prop} {separator : String}
    (between : ∀ char ∈ separator.toList, property char) {texts : List String}
    (each : ∀ text ∈ texts, ∀ char ∈ text.toList, property char) :
    ∀ char ∈ (separator.intercalate texts).toList, property char := by
  induction texts with
  | nil => exact fun char member => absurd member (by simp)
  | cons text rest ih =>
    rw [List.forall_mem_cons] at each
    cases rest with
    | nil =>
      rw [String.intercalate_singleton]
      exact each.1
    | cons second more =>
      rw [String.intercalate_cons_cons, String.toList_append, String.toList_append, List.forall_mem_append,
        List.forall_mem_append]
      exact ⟨⟨each.1, between⟩, ih each.2⟩

end Text

namespace Path

def IsDotted (path : Path) : Prop := ∃ dotted, '\x00' ∉ dotted.toList ∧ path = parse dotted

theorem IsDotted.segment {path : Path} (dotted : path.IsDotted) {segment : String} (member : segment ∈ path.segments) :
    '.' ∉ segment.toList ∧ '\x00' ∉ segment.toList := by
  obtain ⟨text, noNull, rfl⟩ := dotted
  obtain ⟨piece, split, rfl⟩ := List.mem_map.mp member
  rw [String.toList_ofList]
  have held := Text.mem_of_mem_pieces split
  exact ⟨fun dot => (held _ dot).2 rfl, fun null => noNull (held _ null).1⟩

theorem isWellFormed_iff (path : Path) :
    path.isWellFormed = true ↔ ¬ (path.segments = [] ∨ "" ∈ path.segments) := by
  have inhabited : (∀ segment ∈ path.segments, segment ≠ "") ↔ "" ∉ path.segments :=
    ⟨fun each empty => each "" empty rfl, fun none segment member empty => none (empty ▸ member)⟩
  rw [not_or, ← inhabited]
  simp [isWellFormed]

theorem check_ok_iff (path : Path) : path.check = .ok () ↔ path.segments ≠ [] ∧ "" ∉ path.segments := by
  rw [check, ← not_or, ← isWellFormed_iff]
  split <;> simp_all

theorem check_error {path : Path} {error : Error} (refused : path.check = .error error) :
    path.isWellFormed = false ∧ error = .invalidPath path.text := by
  rw [check] at refused
  split at refused
  · cases refused
  · rename_i broken
    exact ⟨Bool.eq_false_iff.mpr broken, (Except.error.inj refused).symm⟩

end Path

end RecordFilter
