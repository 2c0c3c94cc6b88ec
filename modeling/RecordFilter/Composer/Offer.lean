import RecordFilter.Filter
import RecordFilter.Settings

set_option autoImplicit false

namespace RecordFilter

inductive Offer where
  | equal (path : Path) (value : Option Value) (adjustments : List Adjustment)
  | notEqual (path : Path) (value : Option Value) (adjustments : List Adjustment)
  | membership (path : Path) (values : Option (List Value)) (adjustments : List Adjustment)
  | like (path : Path) (fragment : Option String) (adjustments : List LikeAdjustment)
  | atLeast (path : Path) (value : Option Value) (adjustments : List RangeAdjustment)
  | atMost (path : Path) (value : Option Value) (adjustments : List RangeAdjustment)
  | between (path : Path) (ends : Range Value) (adjustments : List RangeAdjustment)
  | isNull (path : Path) (active : Bool) (adjustments : List Adjustment)
  | isNotNull (path : Path) (active : Bool) (adjustments : List Adjustment)
deriving DecidableEq

namespace Settings

def options (settings : Settings) (path : Path) : Options := { path, join := settings.join }

def likeDraft (settings : Settings) (path : Path) (fragment : String) : LikeDraft where
  options := settings.options path
  fragment := fragment
  ignoreCase := settings.likeIgnoreCase
  wildcard := settings.likeWildcard
  minChars := settings.likeMinChars

def rangeDraft (settings : Settings) (path : Path) (ends : Range Value) : RangeDraft where
  options := settings.options path
  range := ends

def equalPredicates (settings : Settings) (path : Path) (value : Option Value) (adjustments : List Adjustment) :
    List Predicate :=
  match value with
  | some value => [equalPredicate ((settings.options path).adjustAll adjustments) value]
  | none => []

def membershipPredicates (settings : Settings) (path : Path) (values : Option (List Value))
    (adjustments : List Adjustment) : List Predicate :=
  match values with
  | none | some [] => []
  | some values => (membershipPredicate? ((settings.options path).adjustAll adjustments) values).toList

def likePredicates (settings : Settings) (path : Path) (fragment : Option String)
    (adjustments : List LikeAdjustment) : List Predicate :=
  match fragment with
  | none => []
  | some fragment =>
    if isBlankText fragment then []
    else ((settings.likeDraft path fragment).adjustAll adjustments).predicate?.toList

def rangePredicates (settings : Settings) (path : Path) (ends : Range Value) (adjustments : List RangeAdjustment) :
    List Predicate :=
  if ends.isUnbounded then [] else ((settings.rangeDraft path ends).adjustAll adjustments).predicates

def nullPredicates (path : Path) (active : Bool) (adjustments : List Adjustment) : List Predicate :=
  if active then [nullPredicate (path.options.adjustAll adjustments)] else []

end Settings

def Offer.predicates (settings : Settings) : Offer → List Predicate
  | equal path value adjustments => settings.equalPredicates path value adjustments
  | notEqual path value adjustments => settings.equalPredicates path value (.negate :: adjustments)
  | membership path values adjustments => settings.membershipPredicates path values adjustments
  | like path fragment adjustments => settings.likePredicates path fragment adjustments
  | atLeast path value adjustments => settings.rangePredicates path ⟨value, none⟩ adjustments
  | atMost path value adjustments => settings.rangePredicates path ⟨none, value⟩ adjustments
  | between path ends adjustments => settings.rangePredicates path ends adjustments
  | isNull path active adjustments => Settings.nullPredicates path active adjustments
  | isNotNull path active adjustments => Settings.nullPredicates path active (.negate :: adjustments)

end RecordFilter
