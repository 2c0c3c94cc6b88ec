set_option autoImplicit false

namespace RecordFilter

variable {α β : Type}

structure Range (α : Type) where
  low : Option α := none
  high : Option α := none
deriving DecidableEq

namespace Range

def isUnbounded (range : Range α) : Bool := range.low.isNone && range.high.isNone

def isClosed (range : Range α) : Bool := range.low.isSome && range.high.isSome

def map (f : α → β) (range : Range α) : Range β := ⟨range.low.map f, range.high.map f⟩

theorem ends_of_isClosed {range : Range α} (closed : range.isClosed = true) :
    ∃ low high, range.low = some low ∧ range.high = some high := by
  obtain ⟨lowPresent, highPresent⟩ := Bool.and_eq_true_iff.mp closed
  obtain ⟨low, isLow⟩ := Option.isSome_iff_exists.mp lowPresent
  obtain ⟨high, isHigh⟩ := Option.isSome_iff_exists.mp highPresent
  exact ⟨low, high, isLow, isHigh⟩

end Range

inductive Sign where
  | above
  | atLeast
  | below
  | atMost
deriving DecidableEq

namespace Sign

def text : Sign → String
  | above => ">"
  | atLeast => ">="
  | below => "<"
  | atMost => "<="

def operand (range : Range α) : Sign → Option α
  | above | atLeast => range.low
  | below | atMost => range.high

end Sign

inductive Bound where
  | inclusive
  | exclusive
deriving DecidableEq, Inhabited

namespace Bound

def lowerSign : Bound → Sign
  | inclusive => .atLeast
  | exclusive => .above

def upperSign : Bound → Sign
  | inclusive => .atMost
  | exclusive => .below

theorem operand_lowerSign (bound : Bound) (range : Range α) : bound.lowerSign.operand range = range.low := by
  cases bound <;> rfl

theorem operand_upperSign (bound : Bound) (range : Range α) : bound.upperSign.operand range = range.high := by
  cases bound <;> rfl

end Bound

inductive RangeForm where
  | side (sign : Sign)
  | between
  | span (lower upper : Sign)
deriving DecidableEq

end RecordFilter
