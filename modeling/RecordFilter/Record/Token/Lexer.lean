import RecordFilter.Record.Comment
import RecordFilter.Record.Literal
import RecordFilter.Record.Number
import RecordFilter.Record.Token

set_option autoImplicit false

namespace RecordFilter.Record

def isMark (char : Char) : Bool := "~!@#$%^&*-=+|;:,<.>/?".toList.contains char

def beginsMark : List Char → Bool
  | [] => false
  | char :: rest => !beginsComment (char :: rest) && (isMark char || char = '\'')

def textToken (read : List Char × List Char) : Token × List Char := (.text (String.ofList read.1), dropSuffix read.2)

def constantToken (left : List Char) : Token × List Char := (.constant, dropSuffix left)

def reservedNames : List String := ["_", "self", "Self", "super", "crate"]

def readMarkedName : List Char → Option (String × List Char)
  | '#' :: char :: rest =>
    let name := String.ofList (char :: rest.takeWhile Text.isNameChar)
    if Text.isNameStart char && !reservedNames.contains name then some ("r#" ++ name, rest.dropWhile Text.isNameChar)
    else none
  | _ => none

def readHashedConstant (kind : LiteralKind) (text : List Char) : Option (Token × List Char) :=
  (readHashed kind text).map fun read => constantToken read.2

def readQuotedConstant (kind : LiteralKind) (text : List Char) : Option (Token × List Char) :=
  (readQuoted kind .plain text).map fun read => constantToken read.2

def readWord (word left : List Char) : Option (Token × List Char) :=
  match word, left with
  | ['r'], '"' :: _ | ['r'], '#' :: _ =>
    match readHashed .string left with
    | some read => some (textToken read)
    | none => (readMarkedName left).map fun (name, after) => (.word name, after)
  | ['b', 'r'], '"' :: _ | ['b', 'r'], '#' :: _ => readHashedConstant .bytes left
  | ['c', 'r'], '"' :: _ | ['c', 'r'], '#' :: _ => readHashedConstant .terminated left
  | ['b'], '"' :: body => readQuotedConstant .bytes body
  | ['c'], '"' :: body => readQuotedConstant .terminated body
  | ['b'], '\'' :: body => (skipCharacter .bytes body).map constantToken
  | _, _ => some (.word (String.ofList word), left)

def readLifetimeName : List Char → Option (String × List Char)
  | 'r' :: '#' :: rest => readMarkedName ('#' :: rest)
  | char :: rest =>
    let after := rest.dropWhile Text.isNameChar
    if Text.isNameStart char && after.head? ≠ some '#' then
      some (String.ofList (char :: rest.takeWhile Text.isNameChar), after)
    else none
  | [] => none

def readLifetime (text : List Char) : Option (Token × List Char) :=
  match readLifetimeName text with
  | some (name, after) => if after.head? = some '\'' then none else some (.lifetime name, after)
  | none => none

def readToken (char : Char) (rest : List Char) : Option (Token × List Char) :=
  if char = '"' then (readQuoted .string .plain rest).map textToken
  else if char = '\'' then
    match skipCharacter .string rest with
    | some left => some (constantToken left)
    | none => readLifetime rest
  else if char.isDigit then (readNumber char rest).map fun left => (.number, left)
  else if Text.isNameStart char then
    readWord (char :: rest.takeWhile Text.isNameChar) (rest.dropWhile Text.isNameChar)
  else if isMark char then some (.mark char (beginsMark rest), rest)
  else none

theorem textToken_suffix (read : List Char × List Char) : (textToken read).2 <:+ read.2 := dropSuffix_suffix read.2

theorem constantToken_suffix (left : List Char) : (constantToken left).2 <:+ left := dropSuffix_suffix left

theorem readMarkedName_suffix {text left : List Char} {name : String}
    (read : readMarkedName text = some (name, left)) : left <:+ text := by
  unfold readMarkedName at read
  split at read
  · rename_i char rest
    dsimp only at read
    split at read
    · cases read
      exact (List.dropWhile_suffix _).trans ((List.suffix_cons char rest).trans (List.suffix_cons '#' _))
    · cases read
  · cases read

theorem readHashedConstant_suffix {kind : LiteralKind} {text left : List Char} {token : Token}
    (read : readHashedConstant kind text = some (token, left)) : left <:+ text := by
  obtain ⟨found, holds, same⟩ := Option.map_eq_some_iff.mp read
  have shorter := (constantToken_suffix found.2).trans (readHashed_suffix holds)
  rwa [same] at shorter

theorem readQuotedConstant_suffix {kind : LiteralKind} {text left : List Char} {token : Token}
    (read : readQuotedConstant kind text = some (token, left)) : left <:+ text := by
  obtain ⟨found, holds, same⟩ := Option.map_eq_some_iff.mp read
  have shorter := (constantToken_suffix found.2).trans (readQuoted_suffix holds)
  rwa [same] at shorter

theorem readWord_suffix {word text left : List Char} {token : Token}
    (read : readWord word text = some (token, left)) : left <:+ text := by
  unfold readWord at read
  split at read
  iterate 2
    split at read
    · rename_i found
      cases read
      exact (textToken_suffix _).trans (readHashed_suffix found)
    · obtain ⟨⟨name, after⟩, found, same⟩ := Option.map_eq_some_iff.mp read
      cases same
      exact readMarkedName_suffix found
  iterate 4 exact readHashedConstant_suffix read
  iterate 2 exact (readQuotedConstant_suffix read).trans (List.suffix_cons '"' _)
  · rename_i body
    obtain ⟨after, found, same⟩ := Option.map_eq_some_iff.mp read
    have shorter :=
      (constantToken_suffix after).trans ((skipCharacter_suffix found).trans (List.suffix_cons '\'' body))
    rwa [same] at shorter
  · cases read
    exact List.suffix_refl _

theorem readLifetimeName_suffix {text left : List Char} {name : String}
    (read : readLifetimeName text = some (name, left)) : left <:+ text := by
  unfold readLifetimeName at read
  split at read
  · exact (readMarkedName_suffix read).trans (List.suffix_cons 'r' _)
  · rename_i char rest _
    dsimp only at read
    split at read
    · cases read
      exact (List.dropWhile_suffix _).trans (List.suffix_cons char rest)
    · cases read
  · cases read

theorem readLifetime_suffix {text left : List Char} {token : Token} (read : readLifetime text = some (token, left)) :
    left <:+ text := by
  unfold readLifetime at read
  split at read
  · rename_i name after found
    split at read
    · cases read
    · cases read
      exact readLifetimeName_suffix found
  · cases read

theorem readToken_suffix {char : Char} {rest left : List Char} {token : Token}
    (read : readToken char rest = some (token, left)) : left <:+ rest := by
  unfold readToken at read
  split at read
  · obtain ⟨found, holds, same⟩ := Option.map_eq_some_iff.mp read
    have shorter := (textToken_suffix found).trans (readQuoted_suffix holds)
    rwa [same] at shorter
  split at read
  · split at read
    · rename_i after found
      cases read
      exact (constantToken_suffix after).trans (skipCharacter_suffix found)
    · exact readLifetime_suffix read
  split at read
  · obtain ⟨after, found, same⟩ := Option.map_eq_some_iff.mp read
    cases same
    exact readNumber_suffix found
  split at read
  · exact (readWord_suffix read).trans (List.dropWhile_suffix _)
  split at read
  · cases read
    exact List.suffix_refl _
  · cases read

end RecordFilter.Record
