import RecordFilter.Record.Token

set_option autoImplicit false

namespace RecordFilter.Record

-- The parameters up to the closing angle bracket; inside of one, `depth` angle brackets are open. The arrow of a
-- function type closes nothing.
def splitParameters (depth : Nat) : List Token → List Part
  | [] => []
  | .mark '-' true :: .mark '>' joint :: rest =>
    Part.prepend (.mark '-' true) (Part.prepend (.mark '>' joint) (splitParameters depth rest))
  | .mark '<' joint :: rest => Part.prepend (.mark '<' joint) (splitParameters (depth + 1) rest)
  | .mark '>' joint :: rest =>
    if depth = 0 then [] else Part.prepend (.mark '>' joint) (splitParameters (depth - 1) rest)
  | .mark ',' joint :: rest =>
    if depth = 0 then ⟨[], true⟩ :: splitParameters depth rest
    else Part.prepend (.mark ',' joint) (splitParameters depth rest)
  | token :: rest => Part.prepend token (splitParameters depth rest)

def dropAnnotations : List Token → List Token
  | .mark '#' _ :: .group .bracket _ :: rest => dropAnnotations rest
  | tokens => tokens

structure Parameter where
  lifetime : Bool
  name : String
  comma : Bool
deriving DecidableEq

namespace Parameter

def ofPart (part : Part) : Parameter :=
  match dropAnnotations part.tokens with
  | .lifetime name :: _ => ⟨true, name, part.comma⟩
  | .word "const" :: .word name :: _ => ⟨false, name, part.comma⟩
  | .word name :: _ => ⟨false, name, part.comma⟩
  | _ => ⟨false, "", part.comma⟩

def text (parameter : Parameter) : String :=
  (if parameter.lifetime then "'" else "") ++ parameter.name ++ if parameter.comma then "," else ""

end Parameter

def parametersOf : List Token → List Parameter
  | .mark '<' _ :: rest => (splitParameters 0 rest).map Parameter.ofPart
  | _ => []

def argumentsText (parameters : List Parameter) : String :=
  let lifetimes := parameters.filter Parameter.lifetime
  let others := parameters.filter fun parameter => !parameter.lifetime
  let comma := if others.isEmpty || lifetimes.all Parameter.comma then "" else ","
  "<" ++ String.join (lifetimes.map Parameter.text) ++ comma ++ String.join (others.map Parameter.text) ++ ">"

def selfType (name : String) (generics : List Token) : String :=
  match parametersOf generics with
  | [] => name
  | parameters => name ++ argumentsText parameters

end RecordFilter.Record
