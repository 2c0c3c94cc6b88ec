import Mathlib.Data.Int.Order.Basic
import RecordFilter.Proofs.Composer.Order
import RecordFilter.Proofs.Condition.Evaluation
import RecordFilter.Proofs.Registry

set_option autoImplicit false

namespace RecordFilter

variable {α : Type}

def RangeForm.isMet (ends : Range Value) : RangeForm → Bool
  | side sign => (sign.operand ends).isSome
  | between => ends.isClosed
  | span lower upper => Range.isClosed ⟨lower.operand ends, upper.operand ends⟩

def Test.isMet : Test → Bool
  | range ends form => form.isMet ends
  | _ => true

theorem RangeDraft.Yields.isMet {draft : RangeDraft} {form : RangeForm} (yields : draft.Yields form) :
    form.isMet draft.range = true := by
  cases yields with
  | between closed => exact closed
  | span negated closed =>
    rw [RangeForm.isMet, Bound.operand_lowerSign, Bound.operand_upperSign]
    exact closed
  | low present =>
    rw [RangeForm.isMet, Bound.operand_lowerSign]
    exact present
  | high present =>
    rw [RangeForm.isMet, Bound.operand_upperSign]
    exact present

-- A form whose ends are there is negated as a whole, but for the test between two ends, which has a negation of its own.
theorem RangeForm.condition_cases {ends : Range Value} {form : RangeForm} (met : form.isMet ends = true) (column : Column) :
    (∃ tested : Condition, tested ≠ .always ∧
        ∀ negated, form.condition column negated ends = tested.negatedWhen negated) ∨
      ∃ low high, ∀ negated, form.condition column negated ends = .between column low high negated := by
  cases form with
  | side sign =>
    obtain ⟨value, present⟩ := Option.isSome_iff_exists.mp met
    refine .inl ⟨sign.condition column value, Condition.noConfusion, fun negated => ?_⟩
    rw [condition, present]
  | between =>
    obtain ⟨low, high, isLow, isHigh⟩ := Range.ends_of_isClosed met
    refine .inr ⟨low, high, fun negated => ?_⟩
    rw [condition, isLow, isHigh]
  | span lower upper =>
    obtain ⟨low, high, isLow, isHigh⟩ := Range.ends_of_isClosed met
    dsimp only at isLow isHigh
    have tested : Condition.all [lower.condition column low, upper.condition column high] ≠ .always := Condition.noConfusion
    refine .inl ⟨_, tested, fun negated => ?_⟩
    rw [condition, isLow, isHigh]

theorem RangeForm.condition_ne_always {ends : Range Value} {form : RangeForm} (met : form.isMet ends = true)
    (column : Column) (negated : Bool) : form.condition column negated ends ≠ .always := by
  rcases condition_cases met column with ⟨tested, needed, told⟩ | ⟨low, high, told⟩
  · rw [told]
    cases negated with
    | false => exact needed
    | true => exact Condition.noConfusion
  · rw [told]
    exact Condition.noConfusion

namespace Database

variable [LinearOrder α] (database : Database α) (held : Option α)

def above (bound : Bound) (low : Value) : Truth :=
  match bound with
  | .inclusive => Truth.both (fun held low => decide (low ≤ held)) held (database.read low)
  | .exclusive => Truth.both (fun held low => decide (low < held)) held (database.read low)

def below (bound : Bound) (high : Value) : Truth :=
  match bound with
  | .inclusive => Truth.both (fun held high => decide (held ≤ high)) held (database.read high)
  | .exclusive => Truth.both (fun held high => decide (held < high)) held (database.read high)

def within (draft : RangeDraft) : Option Truth :=
  match draft.range.low, draft.range.high with
  | none, none => none
  | some low, none => some (database.above held draft.lowBound low)
  | none, some high => some (database.below held draft.highBound high)
  | some low, some high =>
    if draft.lowBound = .exclusive ∧ draft.highBound = .exclusive then
      some ((database.above held .inclusive low).conj (database.below held .inclusive high))
    else some ((database.above held draft.lowBound low).conj (database.below held draft.highBound high))

end Database

namespace RangeDraft

section Table

variable [LinearOrder α] (database : Database α) (held : Option α) (column : Path → Test → Column)
variable {draft : RangeDraft} {low high : Value}

theorem truth_lowSide (positive : draft.options.negated = false) (isLow : draft.range.low = some low) (bound : Bound) :
    (draft.lowSide bound).truth column (database.truth held) = database.above held bound low := by
  simp only [lowSide, withForm, Predicate.truth, Test.condition, RangeForm.condition, Bound.operand_lowerSign, isLow,
    positive]
  cases bound <;> rfl

theorem truth_highSide (positive : draft.options.negated = false) (isHigh : draft.range.high = some high) (bound : Bound) :
    (draft.highSide bound).truth column (database.truth held) = database.below held bound high := by
  simp only [highSide, withForm, Predicate.truth, Test.condition, RangeForm.condition, Bound.operand_upperSign, isHigh,
    positive]
  cases bound <;> rfl

theorem truth_between (positive : draft.options.negated = false) (isLow : draft.range.low = some low)
    (isHigh : draft.range.high = some high) :
    (draft.withForm .between).truth column (database.truth held) =
      (database.above held .inclusive low).conj (database.below held .inclusive high) := by
  simp only [withForm, Predicate.truth, Test.condition, RangeForm.condition, isLow, isHigh, positive]
  rfl

theorem truthAt_predicates (positive : draft.options.negated = false) :
    (Specification.ofPredicates draft.predicates).truthAt (Predicate.truth column (database.truth held)) =
      database.within held draft := by
  rw [Specification.truthAt_ofPredicates, Database.within]
  cases isLow : draft.range.low with
  | none =>
    have opened : draft.range.isClosed = false := by
      rw [Range.isClosed, isLow]
      rfl
    rw [draft.predicates_open opened, sides, isLow]
    cases isHigh : draft.range.high with
    | none => rfl
    | some high => exact congrArg some (truth_highSide database held column positive isHigh _)
  | some low =>
    cases isHigh : draft.range.high with
    | none =>
      have opened : draft.range.isClosed = false := by
        rw [Range.isClosed, isLow, isHigh]
        rfl
      rw [draft.predicates_open opened, sides, isLow, isHigh]
      exact congrArg some (truth_lowSide database held column positive isLow _)
    | some high =>
      have closed : draft.range.isClosed = true := by
        rw [Range.isClosed, isLow, isHigh]
        rfl
      have joint : draft.isJoint = draft.isBetween := by rw [isJoint, positive, Bool.or_false]
      dsimp only
      by_cases exclusive : draft.lowBound = .exclusive ∧ draft.highBound = .exclusive
      · have between := (draft.isBetween_iff closed).mpr exclusive
        rw [draft.predicates_joint closed (joint.trans between), jointForm, if_pos between, if_pos exclusive]
        exact congrArg some (truth_between database held column positive isLow isHigh)
      · have apart := Bool.eq_false_iff.mpr (mt (draft.isBetween_iff closed).mp exclusive)
        rw [draft.predicates_apart closed (joint.trans apart), if_neg exclusive,
          ← truth_lowSide database held column positive isLow, ← truth_highSide database held column positive isHigh]
        rfl

end Table

theorem values_lowSide (draft : RangeDraft) (bound : Bound) : (draft.lowSide bound).values = draft.range.low.toList :=
  congrArg Option.toList (bound.operand_lowerSign draft.range)

theorem values_highSide (draft : RangeDraft) (bound : Bound) : (draft.highSide bound).values = draft.range.high.toList :=
  congrArg Option.toList (bound.operand_upperSign draft.range)

theorem values_sides (draft : RangeDraft) :
    draft.sides.flatMap Predicate.values = draft.range.low.toList ++ draft.range.high.toList := by
  rw [sides, List.flatMap_append]
  congr 1
  · cases isLow : draft.range.low with
    | none => rfl
    | some low =>
      rw [if_pos Option.isSome_some, List.flatMap_singleton, values_lowSide, isLow]
  · cases isHigh : draft.range.high with
    | none => rfl
    | some high =>
      rw [if_pos Option.isSome_some, List.flatMap_singleton, values_highSide, isHigh]

theorem values_joint (draft : RangeDraft) (closed : draft.range.isClosed = true) :
    (draft.withForm draft.jointForm).values = draft.range.low.toList ++ draft.range.high.toList := by
  obtain ⟨low, high, isLow, isHigh⟩ := Range.ends_of_isClosed closed
  change draft.jointForm.values draft.range = _
  rw [jointForm]
  split
  · rw [RangeForm.values, Range.pair, isLow, isHigh]
    rfl
  · rw [RangeForm.values, Bound.operand_lowerSign, Bound.operand_upperSign, Range.pair, isLow, isHigh]
    rfl

theorem values_predicates (draft : RangeDraft) :
    draft.predicates.flatMap Predicate.values = draft.range.low.toList ++ draft.range.high.toList := by
  cases joint : draft.range.isClosed && draft.isJoint with
  | true =>
    obtain ⟨closed, joint⟩ := Bool.and_eq_true_iff.mp joint
    rw [draft.predicates_joint closed joint, List.flatMap_singleton, draft.values_joint closed]
  | false =>
    have apart : draft.predicates = draft.sides := by
      cases closed : draft.range.isClosed with
      | false => exact draft.predicates_open closed
      | true =>
        rw [closed, Bool.true_and] at joint
        rw [draft.predicates_apart closed joint, draft.sides_closed closed]
    rw [apart, values_sides]

/-- Without negation, the predicates of a range test what the table says. No predicate of a range is resolved to a condition
that always holds, and all of them together bind each end that is present once. -/
theorem tests_its_ends [LinearOrder α] (database : Database α) (held : Option α) (column : Path → Test → Column)
    (draft : RangeDraft) :
    (draft.options.negated = false →
      (Specification.ofPredicates draft.predicates).truthAt (Predicate.truth column (database.truth held)) =
        database.within held draft) ∧
    (draft.predicates = [] ↔ draft.range.isUnbounded = true) ∧
    (∀ predicate ∈ draft.predicates, ∀ schema scope condition after,
      (predicate.resolve schema).outcome scope = (.ok condition, after) →
        condition ≠ .always ∧ condition.values = predicate.values) ∧
    draft.predicates.flatMap Predicate.values = draft.range.low.toList ++ draft.range.high.toList := by
  refine ⟨truthAt_predicates database held column, draft.predicates_eq_nil, ?_, draft.values_predicates⟩
  intro predicate member schema scope condition after resolved
  obtain ⟨form, yields, rfl⟩ := draft.predicates_yielded member
  obtain ⟨column, rfl⟩ := Predicate.resolve_test resolved
  exact ⟨RangeForm.condition_ne_always yields.isMet column _, Test.values_condition column _ _⟩

end RangeDraft

def Database.wholeNumbers : Database ℤ where
  read
    | .integer number => some number.toInt
    | .bigint number => some number.toInt
    | _ => none
  upper := id
  fits _ _ := false

def RangeDraft.earlyAuthors : RangeDraft :=
  RangeDraft.start ⟨["author"]⟩ ⟨some (.integer 10), some (.integer 20)⟩ [.highBound .exclusive]

theorem RangeDraft.tests_its_ends_authors :
    let truth (held : Option ℤ) := (Specification.ofPredicates earlyAuthors.predicates).truthAt
      (Predicate.truth Composer.fieldColumn (Database.wholeNumbers.truth held))
    truth (some 10) = some .yes ∧ truth (some 20) = some .no ∧ truth none = some .unknown ∧
      ∃ predicate condition after, predicate ∈ earlyAuthors.predicates ∧
        (predicate.resolve books.schema).outcome { table := "books", entity := "Book" } = (.ok condition, after) ∧
        condition ≠ .always ∧ condition.values = [.integer 10] := by
  intro truth
  have table (held : Option ℤ) : truth held = Database.wholeNumbers.within held earlyAuthors :=
    (tests_its_ends Database.wholeNumbers held Composer.fieldColumn earlyAuthors).1 rfl
  obtain ⟨_, _, tested, _⟩ := tests_its_ends Database.wholeNumbers none Composer.fieldColumn earlyAuthors
  have low : earlyAuthors.lowSide .inclusive ∈ earlyAuthors.predicates := List.mem_cons_self
  obtain ⟨condition, after, resolved⟩ : ∃ condition after, ((earlyAuthors.lowSide .inclusive).resolve books.schema).outcome
      { table := "books", entity := "Book" } = (.ok condition, after) := ⟨_, _, rfl⟩
  refine ⟨(table _).trans (by decide), (table _).trans (by decide), table none, _, condition, after, low, resolved, ?_⟩
  exact tested _ low books.schema _ condition after resolved

end RecordFilter
