import Mathlib.Data.List.SplitBy
import RecordFilter.Condition.Text
import RecordFilter.Proofs.Identifier

set_option autoImplicit false

namespace RecordFilter

inductive Token where
  | word (text : String)
  | hole (number : Nat)
  | numeral (value : Nat)
  | operator (text : String)
  | mark (char : Char)
  | stray (text : String)
deriving DecidableEq

namespace Token

def marks : List Char := ['(', ')', ',', '.']

def operatorChars : List Char := ['=', '!', '<', '>', '+', '-', '*', '/', '%', '~', '@', '#', '^', '&', '|', '?']

def together (left right : Char) : Bool :=
  (Identifier.continuesPart left && Identifier.continuesPart right)
    || (operatorChars.contains left && operatorChars.contains right)

def ofRun : List Char → Option Token
  | [] => none
  | first :: rest =>
    if first.isWhitespace then none
    else if Identifier.startsPart first then some (.word (String.ofList (first :: rest)))
    else if first = '$' && !rest.isEmpty && rest.all Char.isDigit then some (.hole (Nat.ofDigitChars 10 rest 0))
    else if (first :: rest).all Char.isDigit then some (.numeral (Nat.ofDigitChars 10 (first :: rest) 0))
    else if operatorChars.contains first then some (.operator (String.ofList (first :: rest)))
    else if marks.contains first then some (.mark first)
    else some (.stray (String.ofList (first :: rest)))

def ofChars (chars : List Char) : List Token := (chars.splitBy together).filterMap ofRun

def read (text : String) : List Token := ofChars text.toList

def isApart (char : Char) : Bool := !Identifier.continuesPart char && !operatorChars.contains char

def isGlue (text : String) : Bool := text.toList.head?.any isApart && text.toList.getLast?.any isApart

theorem together_of_isApart_left {left right : Char} (apart : isApart left = true) : together left right = false := by
  simp only [isApart, Bool.and_eq_true, Bool.not_eq_true'] at apart
  simp only [together, apart.1, apart.2, Bool.false_and, Bool.or_false]

theorem together_of_isApart_right {left right : Char} (apart : isApart right = true) : together left right = false := by
  simp only [isApart, Bool.and_eq_true, Bool.not_eq_true'] at apart
  simp only [together, apart.1, apart.2, Bool.and_false, Bool.or_false]

theorem isApart_append {left right : String} (apart : left.toList.head?.any isApart = true) :
    (left ++ right).toList.head?.all isApart = true := by
  obtain ⟨char, first, separates⟩ := (Option.any_eq_true _ _).mp apart
  rw [String.toList_append, List.head?_append, first, Option.some_or, Option.all_some, separates]

theorem ofChars_append {left right : List Char}
    (parted : ∀ last ∈ left.getLast?, ∀ first ∈ right.head?, together last first = false) :
    ofChars (left ++ right) = ofChars left ++ ofChars right := by
  rw [ofChars, List.splitBy_append parted, List.filterMap_append]
  rfl

theorem read_append {left right : String}
    (apart : left.toList.getLast?.all isApart = true ∨ right.toList.head?.all isApart = true) :
    read (left ++ right) = read left ++ read right := by
  rw [read, String.toList_append]
  refine ofChars_append fun last isLast first isFirst => ?_
  rw [Option.mem_def] at isLast isFirst
  rcases apart with ends | begins
  · exact together_of_isApart_left (by simpa [isLast] using ends)
  · exact together_of_isApart_right (by simpa [isFirst] using begins)

theorem read_glued (left right : String) {glue : String} (apart : isGlue glue = true) :
    read (left ++ glue ++ right) = read left ++ read glue ++ read right := by
  obtain ⟨begins, ends⟩ := Bool.and_eq_true_iff.mp apart
  have closed : (left ++ glue).toList.getLast?.all isApart = true := by
    cases last : glue.toList.getLast? with
    | none => simp [last] at ends
    | some char => simpa [last] using ends
  have opened : glue.toList.head?.all isApart = true := by
    cases first : glue.toList.head? with
    | none => rfl
    | some char => simpa [first] using begins
  rw [read_append (.inl closed), read_append (.inr opened)]

theorem ofChars_run {run : List Char} {token : Token} (continues : ∀ char ∈ run, Identifier.continuesPart char = true)
    (classified : ofRun run = some token) : ofChars run = [token] := by
  have nonempty : run ≠ [] := by
    rintro rfl
    cases classified
  have chain : run.IsChain fun left right => together left right = true := by
    refine List.Pairwise.isChain (List.pairwise_of_forall_mem_list fun left isLeft right isRight => ?_)
    rw [together, continues left isLeft, continues right isRight]
    rfl
  rw [ofChars, List.splitBy_of_isChain nonempty chain, List.filterMap_cons_some classified, List.filterMap_nil]

theorem continuesPart_of_startsPart {char : Char} (starts : Identifier.startsPart char = true) :
    Identifier.continuesPart char = true := by
  simp only [Identifier.startsPart, Identifier.continuesPart, Char.isAlphanum, Bool.or_eq_true] at starts ⊢
  rcases starts with underscore | letter
  · exact .inl (.inl underscore)
  · exact .inr (.inl letter)

theorem not_isWhitespace_of_startsPart {char : Char} (starts : Identifier.startsPart char = true) :
    char.isWhitespace = false := by
  rw [Bool.eq_false_iff]
  intro blank
  simp only [Char.isWhitespace, Bool.or_eq_true, decide_eq_true_eq] at blank
  rcases blank with ((rfl | rfl) | rfl) | rfl <;> exact absurd starts (by decide)

theorem read_word {name : String} (checked : Identifier.checkPart name = .ok ()) : read name = [.word name] := by
  obtain ⟨first, rest, spelled, starts, continues⟩ := Identifier.checkPart_ok checked
  have same : name = String.ofList (first :: rest) := by rw [← spelled, String.ofList_toList]
  rw [read, spelled]
  refine ofChars_run ?_ ?_
  · rintro char (_ | ⟨_, member⟩)
    · exact continuesPart_of_startsPart starts
    · exact continues char member
  · rw [ofRun, not_isWhitespace_of_startsPart starts, if_neg Bool.false_ne_true, if_pos starts, ← same]

theorem read_placeholder (number : Nat) : read (placeholder number) = [.hole number] := by
  have digits : ∀ char ∈ Nat.toDigits 10 number, char.isDigit = true := fun char member =>
    Nat.isDigit_of_mem_toDigits (by decide) (by decide) member
  have spelled : (placeholder number).toList = '$' :: Nat.toDigits 10 number := by
    rw [placeholder, String.toList_append, Nat.toString_eq_repr, Nat.toList_repr]
    rfl
  have numbered : (Nat.toDigits 10 number).isEmpty = false := List.isEmpty_eq_false_iff.mpr Nat.toDigits_ne_nil
  rw [read, spelled]
  refine ofChars_run ?_ ?_
  · rintro char (_ | ⟨_, member⟩)
    · decide
    · simp [Identifier.continuesPart, Char.isAlphanum, digits char member]
  · have all : (Nat.toDigits 10 number).all Char.isDigit = true := List.all_eq_true.mpr digits
    have blank : ('$').isWhitespace = false := by decide
    have letter : Identifier.startsPart '$' = false := by decide
    simp [ofRun, blank, letter, numbered, all, Nat.ofDigitChars_ten_toDigits]

theorem read_parenthesized (text : String) :
    read (Condition.parenthesized text) = .mark '(' :: read text ++ [.mark ')'] := by
  have opened : read ("(" ++ text) = .mark '(' :: read text := read_append (.inl (by decide))
  rw [Condition.parenthesized, read_append (.inr (by decide)), opened]
  rfl

example : read "NOT (t0.name != $12)" =
    [.word "NOT", .mark '(', .word "t0", .mark '.', .word "name", .operator "!=", .hole 12, .mark ')'] := by decide

end Token

end RecordFilter
