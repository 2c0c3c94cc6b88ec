import RecordFilter.Error
import RecordFilter.Text.Dotted

set_option autoImplicit false

namespace RecordFilter

structure Path where
  segments : List String
deriving DecidableEq

namespace Path

def parse (dotted : String) : Path := ⟨Text.splitDots dotted⟩

def text (path : Path) : String := Text.joinDots path.segments

def length (path : Path) : Nat := path.segments.length

def isEmpty (path : Path) : Bool := path.segments.isEmpty

def isWellFormed (path : Path) : Bool := !path.segments.isEmpty && path.segments.all fun segment => !segment.isEmpty

def check (path : Path) : Except Error Unit :=
  if path.isWellFormed then .ok () else .error (.invalidPath path.text)

theorem text_parse (dotted : String) : (parse dotted).text = dotted := Text.joinDots_splitDots dotted

end Path

end RecordFilter
