import RecordFilter.Filter.Draft

set_option autoImplicit false

namespace RecordFilter

inductive Filter where
  | equal (path : Path) (value : Value) (adjustments : List Adjustment)
  | membership (path : Path) (values : List Value) (adjustments : List Adjustment)
  | like (path : Path) (fragment : String) (adjustments : List LikeAdjustment)
  | null (path : Path) (adjustments : List Adjustment)
  | range (path : Path) (ends : Range Value) (adjustments : List RangeAdjustment)
  | lowSide (bound : Bound) (path : Path) (ends : Range Value) (adjustments : List RangeAdjustment)
  | highSide (bound : Bound) (path : Path) (ends : Range Value) (adjustments : List RangeAdjustment)
deriving DecidableEq

def Path.options (path : Path) : Options := { path }

def RangeDraft.start (path : Path) (ends : Range Value) (adjustments : List RangeAdjustment) : RangeDraft :=
  RangeDraft.adjustAll { options := path.options, range := ends } adjustments

def LikeDraft.start (path : Path) (fragment : String) (adjustments : List LikeAdjustment) : LikeDraft :=
  LikeDraft.adjustAll { options := path.options, fragment } adjustments

def Filter.predicates : Filter → List Predicate
  | equal path value adjustments => [equalPredicate (path.options.adjustAll adjustments) value]
  | membership path values adjustments =>
    (membershipPredicate? (path.options.adjustAll adjustments) values).toList
  | like path fragment adjustments => (LikeDraft.start path fragment adjustments).predicate?.toList
  | null path adjustments => [nullPredicate (path.options.adjustAll adjustments)]
  | range path ends adjustments => (RangeDraft.start path ends adjustments).predicates
  | lowSide bound path ends adjustments => [(RangeDraft.start path ends adjustments).lowSide bound]
  | highSide bound path ends adjustments => [(RangeDraft.start path ends adjustments).highSide bound]

end RecordFilter
