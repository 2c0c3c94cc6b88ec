import RecordFilter.Proofs.Path
import RecordFilter.Proofs.Registry
import RecordFilter.Statement

set_option autoImplicit false

namespace RecordFilter

namespace Text

theorem splitDots_joinDots_iff (parts : List String) :
    splitDots (joinDots parts) = parts ↔ parts ≠ [] ∧ ∀ part ∈ parts, '.' ∉ part.toList := by
  constructor
  · intro same
    rw [← same]
    exact ⟨splitDots_ne_nil _, fun part => dotless_of_mem_splitDots⟩
  · rintro ⟨some, dotless⟩
    exact splitDots_joinDots some dotless

theorem head?_pieces_iff (text : List Char) : (pieces text).head? = some [] ↔ text = [] ∨ text.head? = some '.' := by
  cases text with
  | nil => simp [pieces]
  | cons char rest =>
    rw [pieces]
    by_cases dot : char = '.'
    · simp [dot]
    · cases pieces rest <;> simp [dot]

theorem nil_mem_pieces_split (text : List Char) :
    [] ∈ pieces text ↔ (pieces text).head? = some [] ∨ [] ∈ (pieces text).tail := by
  cases pieces text with
  | nil => simp
  | cons piece more =>
    rw [List.mem_cons, List.head?_cons, Option.some_inj, List.tail_cons]
    exact or_congr_left eq_comm

theorem nil_mem_tail_pieces_iff (text : List Char) :
    [] ∈ (pieces text).tail ↔ text.getLast? = some '.' ∨ ['.', '.'] <:+: text := by
  induction text with
  | nil => simp [pieces]
  | cons char rest ih =>
    rw [pieces, List.infix_cons_iff]
    by_cases dot : char = '.'
    · subst dot
      rw [if_pos rfl, List.tail_cons, nil_mem_pieces_split, head?_pieces_iff, ih]
      cases rest with
      | nil => simp
      | cons next more =>
        simp only [List.getLast?_cons_cons, List.cons_prefix_cons, List.nil_prefix, List.head?_cons, Option.some_inj,
          reduceCtorEq, false_or, true_and, and_true]
        rw [@eq_comm _ '.' next]
        exact or_left_comm
    · have later : [] ∈ (pieces rest).tail ↔ (char :: rest).getLast? = some '.' ∨ ['.', '.'] <:+: rest := by
        rw [ih]
        cases rest <;> simp [dot]
      have start : ¬ ['.', '.'] <+: char :: rest := fun begins => dot (List.cons_prefix_cons.mp begins).1.symm
      rw [if_neg dot, or_iff_right start, ← later]
      cases split : pieces rest with
      | nil => exact absurd split (pieces_ne_nil rest)
      | cons piece more => rfl

theorem mem_splitDots_empty_iff (text : String) : "" ∈ splitDots text ↔ text = "" ∨ text.toList.head? = some '.' ∨
    text.toList.getLast? = some '.' ∨ ['.', '.'] <:+: text.toList := by
  have piece : "" ∈ splitDots text ↔ [] ∈ pieces text.toList := by
    simp [splitDots]
  rw [piece, nil_mem_pieces_split, head?_pieces_iff, nil_mem_tail_pieces_iff, or_assoc, String.toList_eq_nil_iff]

end Text

def Predicate.along (predicate : Predicate) (path : Path) : Predicate :=
  { predicate with options := { predicate.options with path } }

namespace Path

theorem parse_text_iff (path : Path) :
    parse path.text = path ↔ path.segments ≠ [] ∧ ∀ segment ∈ path.segments, '.' ∉ segment.toList := by
  rw [← Text.splitDots_joinDots_iff]
  exact ⟨congrArg segments, congrArg mk⟩

/-- A text is that of the path it is read as; the path is well formed just if the text is not empty, has no dot at either end
and no two dots in a row. A path is what its text is read as just if it has segments and none holds a dot, and then predicates
and orderings resolve alike on the two. -/
theorem text_round_trip (dotted : String) (path : Path) :
    (parse dotted).text = dotted ∧
      ((parse dotted).check = .ok () ↔ dotted ≠ "" ∧ dotted.toList.head? ≠ some '.' ∧
        dotted.toList.getLast? ≠ some '.' ∧ ¬ ['.', '.'] <:+: dotted.toList) ∧
      (∀ error, (parse dotted).check = .error error → error = .invalidPath dotted) ∧
      (parse path.text = path ↔ path.segments ≠ [] ∧ ∀ segment ∈ path.segments, '.' ∉ segment.toList) ∧
      (path.segments ≠ [] → (∀ segment ∈ path.segments, '.' ∉ segment.toList) →
        (∀ (schema : Schema) (scope : Scope) (predicate : Predicate),
          ((predicate.along (parse path.text)).resolve schema).run scope = ((predicate.along path).resolve schema).run scope) ∧
        ∀ (query : Query) (direction : Direction),
          query.orderBy (parse path.text) direction = query.orderBy path direction) := by
  refine ⟨text_parse dotted, ?_, fun error refused => ?_, path.parse_text_iff, fun some dotless => ?_⟩
  · have segments : (parse dotted).segments = Text.splitDots dotted := rfl
    rw [check_ok_iff, segments, Text.mem_splitDots_empty_iff, and_iff_right (Text.splitDots_ne_nil dotted)]
    simp only [not_or, ne_eq]
  · rw [(check_error refused).2, text_parse]
  · have same := path.parse_text_iff.mpr ⟨some, dotless⟩
    rw [same]
    exact ⟨fun _ _ _ => rfl, fun _ _ => rfl⟩

theorem text_round_trip_books :
    let path : Path := ⟨["author", "name"]⟩
    path.text = "author.name" ∧ path.segments ≠ [] ∧ (∀ segment ∈ path.segments, '.' ∉ segment.toList) ∧
      ∃ scope after, books.schema.scope "Book" = .ok scope ∧
        (((nullPredicate { path }).along (parse path.text)).resolve books.schema).run scope =
          (.ok (.nullness (columnOf 1 "name") true), after) ∧
        (((nullPredicate { path }).along path).resolve books.schema).run scope = (.ok (.nullness (columnOf 1 "name") true), after) := by
  intro path
  have dotless : ∀ segment ∈ path.segments, '.' ∉ segment.toList := by decide
  have alike := (text_round_trip path.text path).2.2.2.2 (List.cons_ne_nil _ _) dotless
  refine ⟨by decide, List.cons_ne_nil _ _, dotless, _, _, rfl, ?_, rfl⟩
  rw [alike.1]
  rfl

end Path

end RecordFilter
