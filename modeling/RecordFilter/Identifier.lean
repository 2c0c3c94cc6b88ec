import RecordFilter.Error
import RecordFilter.Text.Dotted

set_option autoImplicit false

namespace RecordFilter.Identifier

inductive Fault where
  | empty
  | start (char : Char) (name : String)
  | character (char : Char) (name : String)
  | emptySegment (name : String)
deriving DecidableEq

def Fault.message : Fault → String
  | empty => "Identifier cannot be empty"
  | start char name => "Invalid identifier start character '" ++ char.toString ++ "' in '" ++ name ++ "'"
  | character char name => "Invalid character '" ++ char.toString ++ "' in identifier '" ++ name ++ "'"
  | emptySegment name => "Empty identifier segment in '" ++ name ++ "'"

def Fault.error (fault : Fault) : Error := .validation fault.message

def startsPart (char : Char) : Bool := char == '_' || char.isAlpha

def continuesPart (char : Char) : Bool := char == '_' || char == '$' || char.isAlphanum

def checkPart (name : String) : Except Fault Unit :=
  match name.toList with
  | [] => .error .empty
  | first :: rest =>
    if startsPart first then
      match rest.find? fun char => !continuesPart char with
      | some char => .error (.character char name)
      | none => .ok ()
    else .error (.start first name)

def checkParts (name : String) : List String → Except Fault Unit
  | [] => .ok ()
  | part :: rest =>
    if part.isEmpty then .error (.emptySegment name)
    else
      match checkPart part with
      | .error fault => .error fault
      | .ok () => checkParts name rest

def checkQualified (name : String) : Except Fault Unit :=
  if name.isEmpty then .error .empty else checkParts name (Text.splitDots name)

-- A quote is doubled; the null character, which no label may hold, is left out.
def quoteChar (char : Char) : List Char :=
  if char = '"' then ['"', '"'] else if char = '\x00' then [] else [char]

def quoted (label : String) : String := String.ofList ('"' :: label.toList.flatMap quoteChar ++ ['"'])

end RecordFilter.Identifier
