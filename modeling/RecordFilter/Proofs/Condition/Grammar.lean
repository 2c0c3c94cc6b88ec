import RecordFilter.Proofs.Condition.Token
import RecordFilter.Proofs.Condition.Truth

set_option autoImplicit false

namespace RecordFilter

inductive Keyword where
  | not
  | connector (connector : Connector)
  | in
  | is
  | null
  | like
  | between
deriving DecidableEq

namespace Keyword

def word : Keyword → String
  | not => "NOT"
  | connector .and => "AND"
  | connector .or => "OR"
  | .in => "IN"
  | is => "IS"
  | null => "NULL"
  | like => "LIKE"
  | between => "BETWEEN"

def names : Text.Keyed Keyword :=
  [Keyword.not, .connector .and, .connector .or, .in, .is, .null, .like, .between].map fun keyword =>
    (keyword.word, keyword)

def upperWord (word : String) : String := String.ofList (word.toList.map Char.toUpper)

def ofWord? (word : String) : Option Keyword := Text.Keyed.find? (upperWord word) names

def token (keyword : Keyword) : Token := .word keyword.word

end Keyword

def Token.keyword? : Token → Option Keyword
  | .word text => Keyword.ofWord? text
  | _ => none

def readKeyword (keyword : Keyword) : List Token → Option (List Token)
  | token :: rest => if token.keyword? = some keyword then some rest else none
  | [] => none

def readMark (char : Char) : List Token → Option (List Token)
  | .mark found :: rest => if found = char then some rest else none
  | _ => none

def readColumn : List Token → Option (Column × List Token)
  | .word source :: .mark '.' :: .word name :: rest =>
    if Keyword.ofWord? source = none then some (⟨source, name⟩, rest) else none
  | _ => none

def readHole (values : List Value) : List Token → Option (Value × List Token)
  | .hole (number + 1) :: rest => values[number]?.map fun value => (value, rest)
  | _ => none

def readHoles (values : List Value) : List Token → Option (List Value × List Token)
  | .hole (number + 1) :: .mark ',' :: rest => do
    let value ← values[number]?
    let (others, rest) ← readHoles values rest
    return (value :: others, rest)
  | .hole (number + 1) :: rest => values[number]?.map fun value => ([value], rest)
  | _ => none

def readLike (values : List Value) (column : Column) (upper negated : Bool) (tokens : List Token) :
    Option (Condition × List Token) := do
  let (pattern, rest) ← readHole values (← readKeyword .like tokens)
  return (.like column pattern upper negated, rest)

def readMembership (values : List Value) (column : Column) (negated : Bool) (tokens : List Token) :
    Option (Condition × List Token) := do
  let (members, rest) ← readHoles values (← readMark '(' (← readKeyword .in tokens))
  return (.membership column members negated, ← readMark ')' rest)

def readBetween (values : List Value) (column : Column) (negated : Bool) (tokens : List Token) :
    Option (Condition × List Token) := do
  let (low, rest) ← readHole values (← readKeyword .between tokens)
  let (high, rest) ← readHole values (← readKeyword (.connector .and) rest)
  return (.between column low high negated, rest)

def readNullness (column : Column) (tokens : List Token) : Option (Condition × List Token) := do
  let rest ← readKeyword .is tokens
  match readKeyword .not rest with
  | some rest => return (.nullness column false, ← readKeyword .null rest)
  | none => return (.nullness column true, ← readKeyword .null rest)

def readComparison (values : List Value) (column : Column) : List Token → Option (Condition × List Token)
  | .operator operator :: rest => (readHole values rest).map fun (value, rest) => (.compare column operator value, rest)
  | _ => none

def readNegatable (values : List Value) (column : Column) (negated : Bool) (tokens : List Token) :
    Option (Condition × List Token) :=
  readLike values column false negated tokens <|> readMembership values column negated tokens
    <|> readBetween values column negated tokens

def readTest (values : List Value) (column : Column) (tokens : List Token) : Option (Condition × List Token) :=
  match readKeyword .not tokens with
  | some rest => readNegatable values column true rest
  | none => readComparison values column tokens <|> readNullness column tokens <|> readNegatable values column false tokens

def readUpper (values : List Value) (tokens : List Token) : Option (Condition × List Token) := do
  let (column, rest) ← readColumn tokens
  let rest ← readMark ')' rest
  match readKeyword .not rest with
  | some rest => readLike values column true true rest
  | none => readLike values column true false rest

def readAtom (values : List Value) : List Token → Option (Condition × List Token)
  | .numeral 1 :: .operator "=" :: .numeral 1 :: rest => some (.always, rest)
  | .word function :: .mark '(' :: rest => if Keyword.upperWord function = "UPPER" then readUpper values rest else none
  | tokens => do
    let (column, rest) ← readColumn tokens
    readTest values column rest

inductive Level where
  | operand
  | chain (connector : Connector)
deriving DecidableEq

def Connector.operands : Connector → Level
  | .and => .operand
  | .or => .chain .and

-- `Reads values level input rest condition`: a phrase of the level stands at the front of `input`, `rest` comes after it,
-- and it says `condition`.
inductive Reads (values : List Value) : Level → List Token → List Token → Condition → Prop where
  | atom (input rest : List Token) (condition : Condition) (taken : readAtom values input = some (condition, rest)) :
      Reads values .operand input rest condition
  | negation (token : Token) (input rest : List Token) (inner : Condition) (word : token.keyword? = some .not)
      (operand : Reads values .operand input rest inner) : Reads values .operand (token :: input) rest inner.negate
  | group (input rest : List Token) (inner : Condition)
      (enclosed : Reads values (.chain .or) input (.mark ')' :: rest) inner) :
      Reads values .operand (.mark '(' :: input) rest (.group inner)
  | single (connector : Connector) (input rest : List Token) (condition : Condition)
      (operand : Reads values connector.operands input rest condition) :
      Reads values (.chain connector) input rest condition
  | joined (connector : Connector) (token : Token) (input middle rest : List Token) (left right : Condition)
      (word : token.keyword? = some (.connector connector))
      (first : Reads values connector.operands input (token :: middle) left)
      (others : Reads values (.chain connector) middle rest right) :
      Reads values (.chain connector) input rest (.pair connector left right)

theorem Keyword.keyword?_token (keyword : Keyword) : keyword.token.keyword? = some keyword := by
  rcases keyword with _ | (_ | _) | _ <;> decide

def Level.Ends : Level → List Token → Prop
  | operand, _ => True
  | chain .and, rest => readKeyword (.connector .and) rest = none
  | chain .or, rest => readKeyword (.connector .and) rest = none ∧ readKeyword (.connector .or) rest = none

theorem readKeyword_cons {token : Token} {keyword : Keyword} (word : token.keyword? = some keyword) (rest : List Token) :
    readKeyword keyword (token :: rest) = some rest := by
  rw [readKeyword, if_pos word]

theorem readKeyword_other {token : Token} {keyword other : Keyword} (word : token.keyword? = some keyword)
    (different : keyword ≠ other) (rest : List Token) : readKeyword other (token :: rest) = none := by
  rw [readKeyword, if_neg]
  rw [word, Option.some.injEq]
  exact different

theorem readKeyword_token (keyword other : Keyword) (rest : List Token) :
    readKeyword other (keyword.token :: rest) = if keyword = other then some rest else none := by
  simp only [readKeyword, keyword.keyword?_token, Option.some.injEq]

theorem readKeyword_mark (keyword : Keyword) (char : Char) (rest : List Token) :
    readKeyword keyword (.mark char :: rest) = none := by
  simp [readKeyword, Token.keyword?]

theorem Connector.ends_operands {connector : Connector} {rest : List Token}
    (ends : (Level.chain connector).Ends rest) : connector.operands.Ends rest := by
  cases connector with
  | and => exact trivial
  | or => exact ends.1

theorem Connector.ends_before {connector : Connector} {token : Token} (word : token.keyword? = some (.connector connector))
    (rest : List Token) : connector.operands.Ends (token :: rest) := by
  cases connector with
  | and => exact trivial
  | or => exact readKeyword_other word (by simp) rest

theorem Connector.not_ends {connector : Connector} {token : Token} (word : token.keyword? = some (.connector connector))
    (rest : List Token) : ¬ (Level.chain connector).Ends (token :: rest) := by
  intro ends
  have follows := readKeyword_cons word rest
  cases connector with
  | and => rw [show readKeyword _ _ = none from ends] at follows; cases follows
  | or => rw [ends.2] at follows; cases follows

theorem Keyword.ofWord?_upper {word : String} (upper : upperWord word = "UPPER") : ofWord? word = none := by
  rw [ofWord?, upper]
  decide

theorem readColumn_keyword {token : Token} {keyword : Keyword} (word : token.keyword? = some keyword) (rest : List Token) :
    readColumn (token :: rest) = none := by
  unfold readColumn
  split
  · rename_i source name more same
    obtain ⟨rfl, _⟩ := List.cons.inj same
    rw [if_neg]
    rw [show Keyword.ofWord? source = some keyword from word]
    exact Option.some_ne_none keyword
  · rfl

theorem readAtom_keyword {values : List Value} {token : Token} {keyword : Keyword} (word : token.keyword? = some keyword)
    (rest : List Token) : readAtom values (token :: rest) = none := by
  unfold readAtom
  split
  · rename_i same
    obtain ⟨rfl, _⟩ := List.cons.inj same
    cases word
  · rename_i function more same
    obtain ⟨rfl, _⟩ := List.cons.inj same
    rw [if_neg]
    intro upper
    rw [Token.keyword?, Keyword.ofWord?_upper upper] at word
    cases word
  · rw [readColumn_keyword word]
    rfl

theorem readAtom_mark {values : List Value} (char : Char) (rest : List Token) :
    readAtom values (.mark char :: rest) = none := rfl

theorem Reads.unique {values : List Value} {level : Level} {input rest other : List Token} {condition different : Condition}
    (reading : Reads values level input rest condition) (alternative : Reads values level input other different)
    (ends : level.Ends rest) (otherEnds : level.Ends other) : rest = other ∧ condition = different := by
  -- Every alternative but the same one fails: a phrase begins with NOT, with a parenthesis or with neither, and a chain
  -- that stopped earlier would stop before a connector of its own.
  induction reading generalizing other different with
  | atom input rest condition taken =>
    cases alternative with
    | atom _ _ _ taken' =>
      rw [taken] at taken'
      cases taken'
      exact ⟨rfl, rfl⟩
    | negation token input _ inner word operand =>
      rw [readAtom_keyword word] at taken
      cases taken
    | group input _ inner enclosed =>
      rw [readAtom_mark] at taken
      cases taken
  | negation token input rest inner word operand ih =>
    cases alternative with
    | atom _ _ _ taken =>
      rw [readAtom_keyword word] at taken
      cases taken
    | negation _ _ _ inner' _ operand' =>
      obtain ⟨sameRest, same⟩ := ih operand' trivial trivial
      exact ⟨sameRest, congrArg Condition.negate same⟩
    | group input _ inner enclosed => cases word
  | group input rest inner enclosed ih =>
    cases alternative with
    | atom _ _ _ taken =>
      rw [readAtom_mark] at taken
      cases taken
    | negation _ _ _ _ word _ => cases word
    | group _ _ inner' enclosed' =>
      have closes (after : List Token) : (Level.chain .or).Ends (.mark ')' :: after) :=
        ⟨readKeyword_mark _ _ _, readKeyword_mark _ _ _⟩
      obtain ⟨sameRest, same⟩ := ih enclosed' (closes rest) (closes other)
      exact ⟨(List.cons.inj sameRest).2, congrArg Condition.group same⟩
  | single connector input rest condition operand ih =>
    cases alternative with
    | single _ _ _ _ operand' => exact ih operand' (Connector.ends_operands ends) (Connector.ends_operands otherEnds)
    | joined _ token _ middle _ left right word first others =>
      obtain ⟨rfl, _⟩ := ih first (Connector.ends_operands ends) (Connector.ends_before word middle)
      exact absurd ends (Connector.not_ends word middle)
  | joined connector token input middle rest left right word first others firstIH othersIH =>
    cases alternative with
    | single _ _ _ _ operand =>
      obtain ⟨rfl, _⟩ := firstIH operand (Connector.ends_before word middle) (Connector.ends_operands otherEnds)
      exact absurd otherEnds (Connector.not_ends word middle)
    | joined _ token' _ middle' _ left' right' word' first' others' =>
      obtain ⟨sameMiddle, sameLeft⟩ := firstIH first' (Connector.ends_before word middle) (Connector.ends_before word' middle')
      obtain ⟨rfl, rfl⟩ := List.cons.inj sameMiddle
      obtain ⟨sameRest, sameRight⟩ := othersIH others' ends otherEnds
      exact ⟨sameRest, by rw [sameLeft, sameRight]⟩

end RecordFilter
