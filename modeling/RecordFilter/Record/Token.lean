set_option autoImplicit false

namespace RecordFilter.Record

inductive Delimiter where
  | parenthesis
  | bracket
  | brace
deriving DecidableEq

inductive Token where
  | word (name : String)
  | lifetime (name : String)
  | mark (char : Char) (joint : Bool)
  | text (content : String)
  | number
  | constant
  | group (delimiter : Delimiter) (content : List Token)

structure Part where
  tokens : List Token
  comma : Bool

namespace Part

def prepend (token : Token) : List Part → List Part
  | [] => [⟨[token], false⟩]
  | part :: rest => ⟨token :: part.tokens, part.comma⟩ :: rest

def ofTokens : List Token → List Part
  | [] => []
  | .mark ',' _ :: rest => ⟨[], true⟩ :: ofTokens rest
  | token :: rest => prepend token (ofTokens rest)

end Part

end RecordFilter.Record
