import RecordFilter.Record.Lexeme

set_option autoImplicit false

namespace RecordFilter.Record

structure Item where
  name : String
  tail : List Token
  comma : Bool

def faultAtEnd (comma : Bool) (what : Expected) : Fault := if comma then .expected what else .endBefore what

namespace Item

def readNames (comma : Bool) (name : String) : List Token → Except Fault Item
  | .mark ':' true :: .mark ':' _ :: .word next :: rest => readNames comma (name ++ "::" ++ next) rest
  | [.mark ':' true, .mark ':' _] => .error (faultAtEnd comma .name)
  | .mark ':' true :: .mark ':' _ :: _ => .error (.expected .name)
  | tail => .ok ⟨name, tail, comma⟩

def readFirstName (comma : Bool) (lead : String) : List Token → Except Fault Item
  | .word name :: rest => readNames comma (lead ++ name) rest
  | [] => .error (if comma then .otherItem else .endBefore .item)
  | .text _ :: _ | .number :: _ | .constant :: _ | .mark '-' _ :: .number :: _ => .error .literalItem
  | _ => .error .otherItem

def ofPart (part : Part) : Except Fault Item :=
  match part.tokens with
  | .mark ':' true :: .mark ':' _ :: rest => readFirstName part.comma "::" rest
  | tokens => readFirstName part.comma "" tokens

def isAssignment (item : Item) : Bool :=
  match item.tail with
  | .mark '=' _ :: _ => true
  | _ => false

end Item

def expectEnd : List Token → Except Fault Unit
  | [] => .ok ()
  | _ => .error (.expected .comma)

namespace Item

def string (item : Item) : Except Fault String :=
  match item.tail with
  | .mark '=' _ :: .text content :: rest => do
    expectEnd rest
    return content
  | [.mark '=' _] => .error (faultAtEnd item.comma .string)
  | .mark '=' _ :: _ => .error (.expected .string)
  | _ => .error (.expected .equals)

def flag (item : Item) : Except Fault Unit := expectEnd item.tail

def arguments (item : Item) : Except Fault (List Token × List Token) :=
  match item.tail with
  | .group .parenthesis [] :: _ => .error (.endBefore .item)
  | .group .parenthesis content :: rest => .ok (content, rest)
  | [] => .error (faultAtEnd item.comma .parentheses)
  | _ => .error (.expected .parentheses)

end Item

structure Annotation where
  path : List Token
  tail : List Token

namespace Annotation

def isPathToken : Token → Bool
  | .word _ => true
  | .mark char _ => char = ':'
  | _ => false

def ofContent (content : List Token) : Except Fault Annotation :=
  let whole : Annotation := ⟨content.takeWhile isPathToken, content.dropWhile isPathToken⟩
  match whole.tail with
  | [] | [.group _ _] | .mark '=' _ :: _ => .ok whole
  | _ => .error .unexpectedToken

def listOfTokens : List Token → Except Fault (List Annotation)
  | [] => .ok []
  | .mark '#' _ :: .group .bracket content :: rest => do
    let first ← ofContent content
    return first :: (← listOfTokens rest)
  | _ => .error .unexpectedToken

def listOfSource (source : String) : Except Fault (List Annotation) := do listOfTokens (← Token.ofSource source)

def isOwn : Annotation → Bool
  | ⟨[.word name], _⟩ => name = "orm"
  | _ => false

def arguments : Annotation → Except Fault (List Token)
  | ⟨_, .group _ content :: _⟩ => .ok content
  | ⟨_, []⟩ => .error .missingArguments
  | _ => .error .assignedArguments

end Annotation

variable {σ : Type}

def readParts (read : σ → Item → Except Fault σ) : σ → List Part → Except Fault σ
  | state, [] => .ok state
  | state, part :: rest => do
    let next ← read state (← Item.ofPart part)
    readParts read next rest

def readItems (read : σ → Item → Except Fault σ) (state : σ) (tokens : List Token) : Except Fault σ :=
  readParts read state (Part.ofTokens tokens)

def readAnnotations (read : σ → Item → Except Fault σ) : σ → List Annotation → Except Fault σ
  | state, [] => .ok state
  | state, annotation :: rest =>
    if annotation.isOwn then do
      let next ← readItems read state (← annotation.arguments)
      readAnnotations read next rest
    else readAnnotations read state rest

end RecordFilter.Record
