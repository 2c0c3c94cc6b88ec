set_option autoImplicit false

namespace RecordFilter.Text

def pieces : List Char → List (List Char)
  | [] => [[]]
  | c :: rest =>
    if c = '.' then [] :: pieces rest
    else
      match pieces rest with
      | piece :: more => (c :: piece) :: more
      | [] => [[c]]

def splitDots (text : String) : List String := (pieces text.toList).map String.ofList

def joinDots (parts : List String) : String := ".".intercalate parts

theorem pieces_ne_nil (text : List Char) : pieces text ≠ [] := by
  cases text with
  | nil => simp [pieces]
  | cons c rest =>
    rw [pieces]
    split
    · simp
    · split <;> simp

theorem intercalate_pieces (text : List Char) : List.intercalate ['.'] (pieces text) = text := by
  induction text with
  | nil => rfl
  | cons c rest ih =>
    rw [pieces]
    cases h : pieces rest with
    | nil => exact absurd h (pieces_ne_nil rest)
    | cons piece more =>
      rw [h] at ih
      split
      · rename_i dot
        rw [List.intercalate_cons_cons, ih, dot]
        rfl
      · cases more <;> simp_all [List.intercalate]

theorem joinDots_splitDots (text : String) : joinDots (splitDots text) = text := by
  apply String.toList_inj.mp
  simp [joinDots, splitDots, Function.comp_def, intercalate_pieces]

end RecordFilter.Text
