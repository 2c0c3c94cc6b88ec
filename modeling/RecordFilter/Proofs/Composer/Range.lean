import RecordFilter.Proofs.Filter.Draft
import RecordFilter.Proofs.Specification.Valuation

set_option autoImplicit false

namespace RecordFilter

theorem Connector.merge_assoc (connector : Connector) (before : Option Truth) (first second : Truth) :
    Option.merge connector.truth (Option.merge connector.truth before (some first)) (some second) =
      Option.merge connector.truth before (some (connector.truth first second)) := by
  cases before with
  | none => rfl
  | some before => exact congrArg some (connector.truth_assoc before first second)

namespace RangeDraft

def withConnector (connector : Connector) (draft : RangeDraft) : RangeDraft :=
  draft.adjust (.options (.connector connector))

theorem adjustAll_connector (draft : RangeDraft) (adjustments : List RangeAdjustment) (connector : Connector) :
    draft.adjustAll (adjustments ++ [.options (.connector connector)]) =
      (draft.adjustAll adjustments).withConnector connector := by
  rw [adjustAll, List.foldl_append]
  rfl

def isJoint (draft : RangeDraft) : Bool := draft.isBetween || draft.options.negated

def jointForm (draft : RangeDraft) : RangeForm :=
  if draft.isBetween then .between else .span draft.lowBound.lowerSign draft.highBound.upperSign

theorem predicates_joint (draft : RangeDraft) (closed : draft.range.isClosed = true) (joint : draft.isJoint = true) :
    draft.predicates = [draft.withForm draft.jointForm] := by
  rw [isJoint, Bool.or_eq_true] at joint
  by_cases between : draft.isBetween = true
  · rw [predicates, if_pos between, jointForm, if_pos between]
  · have negated := joint.resolve_left between
    rw [predicates, if_neg between, negated, closed, if_pos (Bool.and_self true), jointForm, if_neg between]

theorem predicates_apart (draft : RangeDraft) (closed : draft.range.isClosed = true) (apart : draft.isJoint = false) :
    draft.predicates = [draft.lowSide draft.lowBound, draft.highSide draft.highBound] := by
  obtain ⟨between, negated⟩ := Bool.or_eq_false_iff.mp apart
  rw [predicates, between, negated, ← draft.sides_closed closed]
  rfl

theorem truth_withConnector (draft : RangeDraft) (closed : draft.range.isClosed = true) (connector : Connector)
    (column : Path → Test → Column) (atom : Condition → Truth) :
    (draft.withConnector connector).predicates.map (Predicate.truth column atom) =
      draft.predicates.map (Predicate.truth column atom) := by
  cases joint : draft.isJoint with
  | true =>
    rw [draft.predicates_joint closed joint, (draft.withConnector connector).predicates_joint closed joint]
    rfl
  | false =>
    rw [draft.predicates_apart closed joint, (draft.withConnector connector).predicates_apart closed joint]
    rfl

end RangeDraft

def Settings.adjustedRange (settings : Settings) (path : Path) (ends : Range Value) (adjustments : List RangeAdjustment) :
    RangeDraft :=
  (settings.rangeDraft path ends).adjustAll adjustments

def Settings.rangeAlone (settings : Settings) (path : Path) (ends : Range Value) (adjustments : List RangeAdjustment) :
    Specification :=
  (Composer.accept { settings } (.between path ends (adjustments ++ [.options (.connector .and)]))).build

theorem Settings.rangePredicates_closed (settings : Settings) (path : Path) {ends : Range Value}
    (closed : ends.isClosed = true) (adjustments : List RangeAdjustment) :
    settings.rangePredicates path ends adjustments = (settings.adjustedRange path ends adjustments).predicates := by
  have bounded : ends.isUnbounded = false := by
    rw [Range.isUnbounded, ← Option.not_isSome, (Bool.and_eq_true_iff.mp closed).1]
    rfl
  rw [rangePredicates, if_neg (ne_true_of_eq_false bounded)]
  rfl

theorem Settings.adjustedRange_closed (settings : Settings) (path : Path) {ends : Range Value}
    (closed : ends.isClosed = true) (adjustments : List RangeAdjustment) :
    (settings.adjustedRange path ends adjustments).range.isClosed = true :=
  (congrArg Range.isClosed (RangeDraft.range_adjustAll _ adjustments)).trans closed

namespace Composer

section Range

variable (composer : Composer) (path : Path) (ends : Range Value) (adjustments : List RangeAdjustment)
variable (column : Path → Test → Column) (atom : Condition → Truth)

def RangeIsUnit : Prop :=
  (composer.accept (.between path ends adjustments)).build.truthAt (Predicate.truth column atom) =
    Option.merge (composer.settings.adjustedRange path ends adjustments).options.connector.truth
      (composer.build.truthAt (Predicate.truth column atom))
      ((composer.settings.rangeAlone path ends adjustments).truthAt (Predicate.truth column atom))

variable {composer ends}

theorem truthAt_range (ungrouped : composer.groups = []) (closed : ends.isClosed = true) :
    let draft := composer.settings.adjustedRange path ends adjustments
    (composer.accept (.between path ends adjustments)).build.truthAt (Predicate.truth column atom) =
      (draft.predicates.map (Predicate.truth column atom)).foldl
        (fun truth side => Option.merge draft.options.connector.truth truth (some side))
        (composer.build.truthAt (Predicate.truth column atom)) := by
  intro draft
  have closedDraft := composer.settings.adjustedRange_closed path closed adjustments
  rw [composer.truthAt_accept ungrouped, Offer.predicates, composer.settings.rangePredicates_closed path closed]
  change draft.predicates.foldl _ _ = _
  cases joint : draft.isJoint with
  | true => rw [draft.predicates_joint closedDraft joint]; rfl
  | false => rw [draft.predicates_apart closedDraft joint]; rfl

theorem truthAt_rangeAlone (settings : Settings) (closed : ends.isClosed = true) :
    (settings.rangeAlone path ends adjustments).truthAt (Predicate.truth column atom) =
      ((settings.adjustedRange path ends adjustments).predicates.map (Predicate.truth column atom)).foldl
        (fun truth side => Option.merge Truth.conj truth (some side)) none := by
  have alone := truthAt_range path (adjustments ++ [.options (.connector .and)]) column atom
    (rfl : (Composer.groups { settings }) = []) closed
  have closedDraft := settings.adjustedRange_closed path closed adjustments
  rw [Settings.rangeAlone, alone, Settings.adjustedRange, RangeDraft.adjustAll_connector]
  exact congrArg (List.foldl _ none) (RangeDraft.truth_withConnector _ closedDraft .and column atom)

theorem rangeIsUnit_of_joint (ungrouped : composer.groups = []) (closed : ends.isClosed = true)
    (joint : (composer.settings.adjustedRange path ends adjustments).isJoint = true) :
    composer.RangeIsUnit path ends adjustments column atom := by
  have single := RangeDraft.predicates_joint _ (composer.settings.adjustedRange_closed path closed adjustments) joint
  rw [RangeIsUnit, truthAt_range path adjustments column atom ungrouped closed,
    truthAt_rangeAlone path adjustments column atom composer.settings closed, single]
  rfl

theorem truthAt_apart (ungrouped : composer.groups = []) (closed : ends.isClosed = true)
    (apart : (composer.settings.adjustedRange path ends adjustments).isJoint = false) :
    let draft := composer.settings.adjustedRange path ends adjustments
    let low := (draft.lowSide draft.lowBound).truth column atom
    let high := (draft.highSide draft.highBound).truth column atom
    (composer.settings.rangeAlone path ends adjustments).truthAt (Predicate.truth column atom) = some (low.conj high) ∧
      (composer.accept (.between path ends adjustments)).build.truthAt (Predicate.truth column atom) =
        Option.merge draft.options.connector.truth (composer.build.truthAt (Predicate.truth column atom))
          (some (draft.options.connector.truth low high)) := by
  have pair := RangeDraft.predicates_apart _ (composer.settings.adjustedRange_closed path closed adjustments) apart
  rw [truthAt_range path adjustments column atom ungrouped closed,
    truthAt_rangeAlone path adjustments column atom composer.settings closed, pair]
  exact ⟨rfl, Connector.merge_assoc _ _ _ _⟩

/-- A range with two ends takes part as one unit unless it is tested end by end under `or`. -/
theorem range_takes_part (ungrouped : composer.groups = []) (closed : ends.isClosed = true) :
    let draft := composer.settings.adjustedRange path ends adjustments
    let low := (draft.lowSide draft.lowBound).truth column atom
    let high := (draft.highSide draft.highBound).truth column atom
    (draft.options.connector = .and ∨ draft.isJoint = true → composer.RangeIsUnit path ends adjustments column atom) ∧
    (draft.isJoint = false →
      (composer.settings.rangeAlone path ends adjustments).truthAt (Predicate.truth column atom) = some (low.conj high) ∧
      (composer.accept (.between path ends adjustments)).build.truthAt (Predicate.truth column atom) =
        Option.merge draft.options.connector.truth (composer.build.truthAt (Predicate.truth column atom))
          (some (draft.options.connector.truth low high))) := by
  intro draft low high
  cases joint : draft.isJoint with
  | true =>
    exact ⟨fun _ => rangeIsUnit_of_joint path adjustments column atom ungrouped closed joint, fun apart => nomatch apart⟩
  | false =>
    obtain ⟨alone, after⟩ := truthAt_apart path adjustments column atom ungrouped closed joint
    refine ⟨fun unit => ?_, fun _ => ⟨alone, after⟩⟩
    have connector : draft.options.connector = .and := unit.resolve_right Bool.false_ne_true
    rw [RangeIsUnit, after, alone, connector]
    rfl

end Range

def comparedTo (held : Value) (operator : String) (value : Value) : Truth :=
  match held, value with
  | .integer held, .integer value =>
    let holds := if operator = "=" then held == value else if operator = "!=" then held != value
      else if operator = ">" then decide (value < held) else if operator = ">=" then decide (value ≤ held)
      else if operator = "<" then decide (held < value) else decide (held ≤ value)
    if holds then .yes else .no
  | .bool held, .bool value => if (held == value) = (operator = "=") then .yes else .no
  | _, _ => .unknown

def comparedIn (row : Column → Value) : Condition → Truth
  | .compare column operator value => comparedTo (row column) operator value
  | _ => .unknown

def fieldColumn (path : Path) (_ : Test) : Column := ⟨"t0", path.text⟩

def inactiveUser (column : Column) : Value := if column.name = "age" then .integer 25 else .bool false

def activeUsers : Composer := Composer.accept {} (.equal ⟨["active"]⟩ (some (.bool true)) [])

theorem range_takes_part_users :
    let ends : Range Value := ⟨some (.integer 10), some (.integer 20)⟩
    let truth := Predicate.truth fieldColumn (comparedIn inactiveUser)
    activeUsers.RangeIsUnit ⟨["age"]⟩ ends [.options (.connector .or), .options .negate] fieldColumn
      (comparedIn inactiveUser) ∧
    (activeUsers.accept (.between ⟨["age"]⟩ ends [.options (.connector .or)])).build.truthAt truth = some .yes ∧
    (activeUsers.settings.rangeAlone ⟨["age"]⟩ ends [.options (.connector .or)]).truthAt truth = some .no := by
  intro ends truth
  have negated := range_takes_part ⟨["age"]⟩ [.options (.connector .or), .options .negate] fieldColumn
    (comparedIn inactiveUser) (rfl : activeUsers.groups = []) (rfl : ends.isClosed = true)
  have plain := range_takes_part ⟨["age"]⟩ [.options (.connector .or)] fieldColumn
    (comparedIn inactiveUser) (rfl : activeUsers.groups = []) (rfl : ends.isClosed = true)
  obtain ⟨alone, after⟩ := plain.2 rfl
  exact ⟨negated.1 (.inr rfl), after, alone⟩

theorem range_splits_under_or :
    let ends : Range Value := ⟨some (.integer 10), some (.integer 20)⟩
    activeUsers.groups = [] ∧ ends.isClosed = true ∧
      ¬ activeUsers.RangeIsUnit ⟨["age"]⟩ ends [.options (.connector .or)] fieldColumn (comparedIn inactiveUser) := by
  refine ⟨rfl, rfl, fun unit => ?_⟩
  have yes_eq_no : some Truth.yes = some Truth.no := unit
  cases yes_eq_no

end Composer

end RecordFilter
