import RecordFilter.Identifier

set_option autoImplicit false

namespace RecordFilter

namespace Identifier

def doubled (char : Char) : List Char := if char = '"' then ['"', '"'] else [char]

def withoutNull (label : String) : List Char := label.toList.filter (· ≠ '\x00')

theorem toList_quoted (label : String) : (quoted label).toList = '"' :: (withoutNull label).flatMap doubled ++ ['"'] := by
  have each (chars : List Char) : chars.flatMap quoteChar = (chars.filter (· ≠ '\x00')).flatMap doubled := by
    induction chars with
    | nil => rfl
    | cons char rest ih =>
      rw [List.flatMap_cons, ih, quoteChar]
      by_cases isQuote : char = '"'
      · subst isQuote
        rfl
      · by_cases isNull : char = '\x00'
        · subst isNull
          rfl
        · rw [if_neg isQuote, if_neg isNull, List.filter_cons_of_pos (by simpa using isNull), List.flatMap_cons, doubled,
            if_neg isQuote]
  rw [quoted, String.toList_ofList, each, withoutNull]

def readLabel : List Char → Option (List Char × List Char)
  | [] => none
  | '"' :: '"' :: rest => (readLabel rest).map fun read => ('"' :: read.1, read.2)
  | char :: rest => if char = '"' then some ([], rest) else (readLabel rest).map fun read => (char :: read.1, read.2)

theorem readLabel_quote {rest : List Char} (apart : rest.head? ≠ some '"') : readLabel ('"' :: rest) = some ([], rest) := by
  cases rest with
  | nil => rfl
  | cons char rest =>
    have other : char ≠ '"' := fun same => apart (congrArg some same)
    rw [readLabel]
    · rfl
    · exact fun _ _ same => other (List.cons.inj same).1

theorem readLabel_other {char : Char} (other : char ≠ '"') (rest : List Char) :
    readLabel (char :: rest) = (readLabel rest).map fun read => (char :: read.1, read.2) := by
  rw [readLabel, if_neg other]
  exact fun _ same => absurd same other

theorem readLabel_doubled (content : List Char) {rest : List Char} (apart : rest.head? ≠ some '"') :
    readLabel (content.flatMap doubled ++ '"' :: rest) = some (content, rest) := by
  induction content with
  | nil => exact readLabel_quote apart
  | cons char content ih =>
    rw [List.flatMap_cons, doubled]
    by_cases isQuote : char = '"'
    · subst isQuote
      rw [if_pos rfl]
      change readLabel ('"' :: '"' :: (content.flatMap doubled ++ '"' :: rest)) = _
      rw [readLabel, ih]
      rfl
    · rw [if_neg isQuote, List.append_assoc, List.singleton_append, readLabel_other isQuote, ih]
      rfl

end Identifier

inductive Piece where
  | plain (char : Char)
  | label (content : List Char)
deriving DecidableEq

namespace Piece

def chars : Piece → List Char
  | plain char => [char]
  | label content => '"' :: content.flatMap Identifier.doubled ++ ['"']

def content? : Piece → Option (List Char)
  | plain _ => none
  | label content => some content

def charsOf (pieces : List Piece) : List Char := pieces.flatMap chars

def Apart : List Piece → Prop
  | [] => True
  | plain char :: rest => char ≠ '"' ∧ Apart rest
  | label _ :: rest => (charsOf rest).head? ≠ some '"' ∧ Apart rest

theorem charsOf_label (content : List Char) (rest : List Piece) :
    charsOf (label content :: rest) = '"' :: (content.flatMap Identifier.doubled ++ '"' :: charsOf rest) := by
  rw [charsOf, List.flatMap_cons, chars, List.cons_append, List.cons_append, List.append_assoc]
  rfl

theorem readLabel_charsOf {content : List Char} {rest : List Piece} (apart : Apart (label content :: rest)) :
    Identifier.readLabel (content.flatMap Identifier.doubled ++ '"' :: charsOf rest) = some (content, charsOf rest) :=
  Identifier.readLabel_doubled content apart.1

theorem Apart.unique {first second : List Piece} (apart : Apart first) (other : Apart second)
    (same : charsOf first = charsOf second) : first = second := by
  induction first generalizing second with
  | nil =>
    cases second with
    | nil => rfl
    | cons piece rest => cases piece <;> cases same
  | cons piece rest ih =>
    cases piece with
    | plain char =>
      cases second with
      | nil => cases same
      | cons piece others =>
        cases piece with
        | plain char' =>
          obtain ⟨rfl, onward⟩ := List.cons.inj same
          rw [ih apart.2 other.2 onward]
        | label content =>
          rw [charsOf_label] at same
          exact absurd (List.cons.inj same).1 apart.1
    | label content =>
      cases second with
      | nil =>
        rw [charsOf_label] at same
        cases same
      | cons piece others =>
        cases piece with
        | plain char =>
          rw [charsOf_label] at same
          exact absurd (List.cons.inj same).1.symm other.1
        | label content' =>
          rw [charsOf_label, charsOf_label] at same
          -- The scanner says where the first label of either text ends.
          have read := readLabel_charsOf apart
          rw [(List.cons.inj same).2, readLabel_charsOf other, Option.some.injEq, Prod.mk.injEq] at read
          rw [read.1, ih apart.2 other.2 read.2.symm]

theorem Apart.append {first second : List Piece} (joined : Apart (first ++ second)) : Apart second := by
  induction first with
  | nil => exact joined
  | cons piece rest ih =>
    cases piece with
    | plain char => exact ih joined.2
    | label content => exact ih joined.2

end Piece

end RecordFilter
