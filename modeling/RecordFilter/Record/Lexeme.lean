import RecordFilter.Record.Fault
import RecordFilter.Record.Token.Lexer
import RecordFilter.Text.Blank

set_option autoImplicit false

namespace RecordFilter.Record

inductive Lexeme where
  | leaf (token : Token)
  | opening (delimiter : Delimiter)
  | closing (delimiter : Delimiter)

def isGap (char : Char) : Bool := Text.isBlank char || char = '\u200e' || char = '\u200f'

def bracket? : Char → Option Lexeme
  | '(' => some (.opening .parenthesis)
  | ')' => some (.closing .parenthesis)
  | '[' => some (.opening .bracket)
  | ']' => some (.closing .bracket)
  | '\x7b' => some (.opening .brace)
  | '\x7d' => some (.closing .brace)
  | _ => none

def CommentKind.lexemes : CommentKind → List Lexeme
  | plain => []
  | outer => [.leaf (.mark '#' false), .leaf (.group .bracket [.word "doc"])]
  | inner => [.leaf (.mark '#' false), .leaf (.mark '!' false), .leaf (.group .bracket [.word "doc"])]

def unknownValue : List Char := "/*ERROR*/)".toList

def readLexemes (char : Char) (rest : List Char) : Option (List Lexeme × List Char) :=
  if isGap char then some ([], rest)
  else if beginsComment (char :: rest) then (readComment rest).map fun (kind, left) => (kind.lexemes, left)
  else if char = '(' && unknownValue.isPrefixOf rest then some ([.leaf .constant], rest.drop unknownValue.length)
  else
    match bracket? char with
    | some bracket => some ([bracket], rest)
    | none => (readToken char rest).map fun (token, left) => ([.leaf token], left)

theorem readLexemes_suffix {char : Char} {rest left : List Char} {found : List Lexeme}
    (read : readLexemes char rest = some (found, left)) : left <:+ rest := by
  unfold readLexemes at read
  split at read
  · cases read
    exact List.suffix_refl _
  split at read
  · obtain ⟨⟨kind, after⟩, holds, same⟩ := Option.map_eq_some_iff.mp read
    cases same
    exact readComment_suffix holds
  split at read
  · cases read
    exact List.drop_suffix _ _
  split at read
  · cases read
    exact List.suffix_refl _
  · obtain ⟨⟨token, after⟩, holds, same⟩ := Option.map_eq_some_iff.mp read
    cases same
    exact readToken_suffix holds

namespace Lexeme

def ofText? (text : List Char) : Option (List Lexeme) :=
  match text with
  | [] => some []
  | char :: rest =>
    match _step : readLexemes char rest with
    | none => none
    | some (first, left) => (ofText? left).map fun more => first ++ more
termination_by text.length
decreasing_by exact Nat.lt_succ_of_le (readLexemes_suffix _step).length_le

-- The tokens in front of the lexemes come in reverse, those of the groups still open from the innermost on.
def nest (outside : List (Delimiter × List Token)) (before : List Token) : List Lexeme → Option (List Token)
  | [] => if outside.isEmpty then some before.reverse else none
  | leaf token :: rest => nest outside (token :: before) rest
  | opening delimiter :: rest => nest ((delimiter, before) :: outside) [] rest
  | closing delimiter :: rest =>
    match outside with
    | [] => none
    | (opened, above) :: further =>
      if opened = delimiter then nest further (.group delimiter before.reverse :: above) rest else none

end Lexeme

def Token.ofSource (source : String) : Except Fault (List Token) :=
  match (Lexeme.ofText? source.toList).bind (Lexeme.nest [] []) with
  | some tokens => .ok tokens
  | none => .error .unreadable

end RecordFilter.Record
