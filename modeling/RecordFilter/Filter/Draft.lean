import RecordFilter.Filter.Predicate

set_option autoImplicit false

namespace RecordFilter

inductive Adjustment where
  | connector (connector : Connector)
  | join (kind : JoinKind)
  | fetch
  | negate
deriving DecidableEq

namespace Options

def adjust (options : Options) : Adjustment → Options
  | .connector connector => { options with connector }
  | .join kind => { options with join := kind }
  | .fetch => { options with fetch := true }
  | .negate => { options with negated := true }

def adjustAll (options : Options) (adjustments : List Adjustment) : Options := adjustments.foldl adjust options

end Options

def equalPredicate (options : Options) (value : Value) : Predicate := ⟨options, .equal value⟩

def membershipPredicate? (options : Options) (values : List Value) : Option Predicate :=
  if values.isEmpty then none else some ⟨options, .membership values⟩

-- A missing related record counts as null, whatever join was asked for.
def nullPredicate (options : Options) : Predicate := ⟨{ options with join := .left }, .null⟩

inductive LikeAdjustment where
  | options (adjustment : Adjustment)
  | ignoreCase (flag : Bool)
  | wildcard (wildcard : Wildcard)
  | minChars (count : Nat)
deriving DecidableEq

def defaultMinChars : Nat := 3

structure LikeDraft where
  options : Options
  fragment : String
  ignoreCase : Bool := true
  wildcard : Wildcard := .absence
  minChars : Nat := defaultMinChars
deriving DecidableEq

namespace LikeDraft

def adjust (draft : LikeDraft) : LikeAdjustment → LikeDraft
  | .options adjustment => { draft with options := draft.options.adjust adjustment }
  | .ignoreCase flag => { draft with ignoreCase := flag }
  | .wildcard wildcard => { draft with wildcard }
  | .minChars count => { draft with minChars := count }

def adjustAll (draft : LikeDraft) (adjustments : List LikeAdjustment) : LikeDraft := adjustments.foldl adjust draft

def isUsable (draft : LikeDraft) : Bool := isSearchable draft.minChars draft.fragment

def predicate? (draft : LikeDraft) : Option Predicate :=
  if draft.isUsable then some ⟨draft.options, .like draft.fragment draft.ignoreCase draft.wildcard⟩ else none

end LikeDraft

inductive RangeAdjustment where
  | options (adjustment : Adjustment)
  | lowBound (bound : Bound)
  | highBound (bound : Bound)
deriving DecidableEq

structure RangeDraft where
  options : Options
  range : Range Value
  lowBound : Bound := .inclusive
  highBound : Bound := .inclusive
deriving DecidableEq

namespace RangeDraft

def adjust (draft : RangeDraft) : RangeAdjustment → RangeDraft
  | .options adjustment => { draft with options := draft.options.adjust adjustment }
  | .lowBound bound => { draft with lowBound := bound }
  | .highBound bound => { draft with highBound := bound }

def adjustAll (draft : RangeDraft) (adjustments : List RangeAdjustment) : RangeDraft := adjustments.foldl adjust draft

-- Two exclusive ends are tested together, with both ends included.
def isBetween (draft : RangeDraft) : Bool :=
  draft.range.isClosed && draft.lowBound = .exclusive && draft.highBound = .exclusive

def withForm (draft : RangeDraft) (form : RangeForm) : Predicate := ⟨draft.options, .range draft.range form⟩

def lowSide (draft : RangeDraft) (bound : Bound) : Predicate := draft.withForm (.side bound.lowerSign)

def highSide (draft : RangeDraft) (bound : Bound) : Predicate := draft.withForm (.side bound.upperSign)

def sides (draft : RangeDraft) : List Predicate :=
  (if draft.range.low.isSome then [draft.lowSide draft.lowBound] else [])
    ++ if draft.range.high.isSome then [draft.highSide draft.highBound] else []

-- A negated pair of ends stays one predicate: negated end by end it would hold of fewer values.
def predicates (draft : RangeDraft) : List Predicate :=
  if draft.isBetween then [draft.withForm .between]
  else if draft.options.negated && draft.range.isClosed then
    [draft.withForm (.span draft.lowBound.lowerSign draft.highBound.upperSign)]
  else draft.sides

end RangeDraft

end RecordFilter
