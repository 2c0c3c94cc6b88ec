import RecordFilter.Composer.Offer

set_option autoImplicit false

namespace RecordFilter

theorem view_foldl {State Item View : Type} {act : State → Item → State} (view : State → View)
    (kept : ∀ state item, view (act state item) = view state) (items : List Item) (start : State) :
    view (items.foldl act start) = view start := by
  induction items generalizing start with
  | nil => rfl
  | cons item rest ih => exact (ih (act start item)).trans (kept start item)

theorem Options.distinct_adjust (options : Options) (adjustment : Adjustment) :
    (options.adjust adjustment).distinct = options.distinct := by
  cases adjustment <;> rfl

theorem Options.distinct_adjustAll (options : Options) (adjustments : List Adjustment) :
    (options.adjustAll adjustments).distinct = options.distinct :=
  view_foldl Options.distinct distinct_adjust adjustments options

def LikeAdjustment.minCharsAfter (adjustments : List LikeAdjustment) (minChars : Nat) : Nat :=
  adjustments.foldl (fun count adjustment => match adjustment with | .minChars other => other | _ => count) minChars

namespace LikeDraft

theorem fragment_adjustAll (draft : LikeDraft) (adjustments : List LikeAdjustment) :
    (draft.adjustAll adjustments).fragment = draft.fragment :=
  view_foldl LikeDraft.fragment (fun _ adjustment => by cases adjustment <;> rfl) adjustments draft

theorem distinct_adjustAll (draft : LikeDraft) (adjustments : List LikeAdjustment) :
    (draft.adjustAll adjustments).options.distinct = draft.options.distinct := by
  refine view_foldl (fun draft => draft.options.distinct) (fun draft adjustment => ?_) adjustments draft
  cases adjustment with
  | options adjustment => exact draft.options.distinct_adjust adjustment
  | _ => rfl

theorem adjustAll_fragment (draft : LikeDraft) (fragment : String) (adjustments : List LikeAdjustment) :
    adjustAll { draft with fragment } adjustments = { draft.adjustAll adjustments with fragment } := by
  induction adjustments generalizing draft with
  | nil => rfl
  | cons adjustment rest ih =>
    have step : adjust { draft with fragment } adjustment = { draft.adjust adjustment with fragment } := by
      cases adjustment <;> rfl
    rw [adjustAll, List.foldl_cons, step]
    exact ih (draft.adjust adjustment)

theorem minChars_adjustAll (draft : LikeDraft) (adjustments : List LikeAdjustment) :
    (draft.adjustAll adjustments).minChars = LikeAdjustment.minCharsAfter adjustments draft.minChars := by
  induction adjustments generalizing draft with
  | nil => rfl
  | cons adjustment rest ih =>
    rw [adjustAll, List.foldl_cons, LikeAdjustment.minCharsAfter, List.foldl_cons]
    refine (ih (draft.adjust adjustment)).trans ?_
    cases adjustment <;> rfl

theorem isEmpty_toList_predicate? (draft : LikeDraft) : draft.predicate?.toList.isEmpty = !draft.isUsable := by
  cases usable : draft.isUsable <;> simp [predicate?, usable]

end LikeDraft

namespace RangeDraft

theorem range_adjustAll (draft : RangeDraft) (adjustments : List RangeAdjustment) :
    (draft.adjustAll adjustments).range = draft.range :=
  view_foldl RangeDraft.range (fun _ adjustment => by cases adjustment <;> rfl) adjustments draft

theorem path_adjustAll (draft : RangeDraft) (adjustments : List RangeAdjustment) :
    (draft.adjustAll adjustments).options.path = draft.options.path := by
  refine view_foldl (fun draft => draft.options.path) (fun draft adjustment => ?_) adjustments draft
  cases adjustment with
  | options adjustment => cases adjustment <;> rfl
  | _ => rfl

theorem distinct_adjustAll (draft : RangeDraft) (adjustments : List RangeAdjustment) :
    (draft.adjustAll adjustments).options.distinct = draft.options.distinct := by
  refine view_foldl (fun draft => draft.options.distinct) (fun draft adjustment => ?_) adjustments draft
  cases adjustment with
  | options adjustment => exact draft.options.distinct_adjust adjustment
  | _ => rfl

theorem adjustAll_range (draft : RangeDraft) (range : Range Value) (adjustments : List RangeAdjustment) :
    adjustAll { draft with range } adjustments = { draft.adjustAll adjustments with range } := by
  induction adjustments generalizing draft with
  | nil => rfl
  | cons adjustment rest ih =>
    have step : adjust { draft with range } adjustment = { draft.adjust adjustment with range } := by
      cases adjustment <;> rfl
    rw [adjustAll, List.foldl_cons, step]
    exact ih (draft.adjust adjustment)

theorem sides_closed (draft : RangeDraft) (closed : draft.range.isClosed = true) :
    draft.sides = [draft.lowSide draft.lowBound, draft.highSide draft.highBound] := by
  obtain ⟨low, high⟩ := Bool.and_eq_true_iff.mp closed
  rw [sides, if_pos low, if_pos high]
  rfl

theorem predicates_open (draft : RangeDraft) (opened : draft.range.isClosed = false) : draft.predicates = draft.sides := by
  rw [predicates, isBetween, opened, Bool.and_false]
  rfl

theorem isBetween_iff (draft : RangeDraft) (closed : draft.range.isClosed = true) :
    draft.isBetween = true ↔ draft.lowBound = .exclusive ∧ draft.highBound = .exclusive := by
  simp [isBetween, closed]

theorem predicates_ne_nil (draft : RangeDraft) (bounded : draft.range.isUnbounded = false) : draft.predicates ≠ [] := by
  have some_side : draft.sides ≠ [] := by
    obtain ⟨options, ⟨low, high⟩, lowBound, highBound⟩ := draft
    cases low <;> cases high <;> first | exact List.cons_ne_nil _ _ | cases bounded
  rw [predicates]
  split
  · exact List.cons_ne_nil _ _
  · split
    · exact List.cons_ne_nil _ _
    · exact some_side

theorem predicates_eq_nil (draft : RangeDraft) : draft.predicates = [] ↔ draft.range.isUnbounded = true := by
  cases unbounded : draft.range.isUnbounded with
  | false => simp [draft.predicates_ne_nil unbounded]
  | true =>
    obtain ⟨noLow, noHigh⟩ := Bool.and_eq_true_iff.mp unbounded
    rw [Option.isNone_iff_eq_none] at noLow noHigh
    have opened : draft.range.isClosed = false := by
      rw [Range.isClosed, noLow]
      rfl
    rw [draft.predicates_open opened, sides, noLow, noHigh]
    simp

inductive Yields (draft : RangeDraft) : RangeForm → Prop where
  | between (closed : draft.range.isClosed = true) : Yields draft .between
  | span (negated : draft.options.negated = true) (closed : draft.range.isClosed = true) :
      Yields draft (.span draft.lowBound.lowerSign draft.highBound.upperSign)
  | low (present : draft.range.low.isSome = true) : Yields draft (.side draft.lowBound.lowerSign)
  | high (present : draft.range.high.isSome = true) : Yields draft (.side draft.highBound.upperSign)

theorem predicates_yielded (draft : RangeDraft) {predicate : Predicate} (member : predicate ∈ draft.predicates) :
    ∃ form, draft.Yields form ∧ predicate = draft.withForm form := by
  rw [predicates] at member
  split at member
  · rename_i between
    rw [isBetween, Bool.and_assoc, Bool.and_eq_true] at between
    exact ⟨_, .between between.1, List.mem_singleton.mp member⟩
  · split at member
    · rename_i joint
      obtain ⟨negated, closed⟩ := Bool.and_eq_true_iff.mp joint
      exact ⟨_, .span negated closed, List.mem_singleton.mp member⟩
    · rcases List.mem_append.mp member with low | high
      · split at low
        · rename_i present
          exact ⟨_, .low present, List.mem_singleton.mp low⟩
        · cases low
      · split at high
        · rename_i present
          exact ⟨_, .high present, List.mem_singleton.mp high⟩
        · cases high

end RangeDraft

theorem Settings.rangePredicates_eq (settings : Settings) (path : Path) (ends : Range Value)
    (adjustments : List RangeAdjustment) :
    settings.rangePredicates path ends adjustments = ((settings.rangeDraft path ends).adjustAll adjustments).predicates := by
  rw [rangePredicates]
  split
  · rename_i unbounded
    refine ((RangeDraft.predicates_eq_nil _).mpr ?_).symm
    rw [RangeDraft.range_adjustAll]
    exact unbounded
  · rfl

theorem Settings.rangePredicates_isEmpty (settings : Settings) (path : Path) (ends : Range Value)
    (adjustments : List RangeAdjustment) :
    (settings.rangePredicates path ends adjustments).isEmpty = ends.isUnbounded := by
  rw [Bool.eq_iff_iff, List.isEmpty_iff, rangePredicates_eq, RangeDraft.predicates_eq_nil, RangeDraft.range_adjustAll]
  rfl

theorem Settings.membershipPredicates_eq (settings : Settings) (path : Path) (values : Option (List Value))
    (adjustments : List Adjustment) :
    settings.membershipPredicates path values adjustments =
      (membershipPredicate? ((settings.options path).adjustAll adjustments) (values.getD [])).toList := by
  rw [membershipPredicates.eq_def]
  split <;> rfl

-- A blank fragment is dropped before the adjustments, but would not be usable after them either.
theorem Settings.likePredicates_eq (settings : Settings) (path : Path) (text : String) (adjustments : List LikeAdjustment) :
    settings.likePredicates path (some text) adjustments =
      ((settings.likeDraft path text).adjustAll adjustments).predicate?.toList := by
  rw [likePredicates]
  split
  · rename_i blank
    have unusable : ((settings.likeDraft path text).adjustAll adjustments).isUsable = false := by
      rw [LikeDraft.isUsable, LikeDraft.fragment_adjustAll, isSearchable]
      exact congrArg (fun flag => !flag && decide _) blank
    simp [LikeDraft.predicate?, unusable]
  · rfl

theorem Settings.likePredicates_isEmpty (settings : Settings) (path : Path) (text : String)
    (adjustments : List LikeAdjustment) :
    (settings.likePredicates path (some text) adjustments).isEmpty =
      (isBlankText text ||
        decide ((Text.trimmed text).length < LikeAdjustment.minCharsAfter adjustments settings.likeMinChars)) := by
  cases blank : isBlankText text with
  | true => rw [likePredicates, if_pos blank, List.isEmpty_nil, Bool.true_or]
  | false =>
    have usable : ((settings.likeDraft path text).adjustAll adjustments).isUsable =
        decide (LikeAdjustment.minCharsAfter adjustments settings.likeMinChars ≤ (Text.trimmed text).length) := by
      rw [LikeDraft.isUsable, LikeDraft.fragment_adjustAll, LikeDraft.minChars_adjustAll, isSearchable]
      exact congrArg (fun flag => !flag && decide _) blank
    rw [likePredicates, if_neg (ne_true_of_eq_false blank), LikeDraft.isEmpty_toList_predicate?, usable,
      Bool.false_or, ← decide_not]
    exact decide_eq_decide.mpr Nat.not_le

inductive Predicate.Drafted : Predicate → Prop where
  | equal (options : Options) (value : Value) : Drafted (equalPredicate options value)
  | membership (options : Options) (values : List Value) (someValues : values ≠ []) :
      Drafted ⟨options, .membership values⟩
  | like (options : Options) (fragment : String) (ignoreCase : Bool) (wildcard : Wildcard) :
      Drafted ⟨options, .like fragment ignoreCase wildcard⟩
  | null (options : Options) : Drafted (nullPredicate options)
  | range (draft : RangeDraft) (form : RangeForm) (yields : draft.Yields form) : Drafted (draft.withForm form)
  | side (draft : RangeDraft) (sign : Sign) : Drafted (draft.withForm (.side sign))

theorem membershipPredicate_drafted {options : Options} {values : List Value} {predicate : Predicate}
    (kept : membershipPredicate? options values = some predicate) : predicate.Drafted := by
  rw [membershipPredicate?] at kept
  split at kept
  · cases kept
  · rename_i notEmpty
    cases kept
    exact .membership options values (mt List.isEmpty_iff.mpr notEmpty)

theorem LikeDraft.predicate_drafted {draft : LikeDraft} {predicate : Predicate} (kept : draft.predicate? = some predicate) :
    predicate.Drafted := by
  rw [predicate?] at kept
  split at kept
  · cases kept
    exact .like _ _ _ _
  · cases kept

theorem RangeDraft.predicates_drafted (draft : RangeDraft) : ∀ predicate ∈ draft.predicates, predicate.Drafted := by
  intro predicate member
  obtain ⟨form, yields, rfl⟩ := draft.predicates_yielded member
  exact .range draft form yields

theorem Filter.distinct_predicates (filter : Filter) : ∀ predicate ∈ filter.predicates, predicate.options.distinct = true := by
  intro predicate member
  cases filter with
  | equal path value adjustments | null path adjustments =>
    rw [List.mem_singleton.mp member]
    exact path.options.distinct_adjustAll adjustments
  | membership path values adjustments =>
    have kept := Option.mem_toList.mp member
    rw [membershipPredicate?] at kept
    split at kept
    · cases kept
    · cases kept
      exact path.options.distinct_adjustAll adjustments
  | like path fragment adjustments =>
    have kept := Option.mem_toList.mp member
    rw [LikeDraft.predicate?] at kept
    split at kept
    · cases kept
      exact LikeDraft.distinct_adjustAll _ adjustments
    · cases kept
  | range path ends adjustments =>
    obtain ⟨form, _, rfl⟩ := RangeDraft.predicates_yielded _ member
    exact RangeDraft.distinct_adjustAll _ adjustments
  | lowSide bound path ends adjustments | highSide bound path ends adjustments =>
    rw [List.mem_singleton.mp member]
    exact RangeDraft.distinct_adjustAll _ adjustments

theorem Filter.predicates_drafted (filter : Filter) : ∀ predicate ∈ filter.predicates, predicate.Drafted := by
  intro predicate member
  cases filter with
  | equal path value adjustments =>
    rw [List.mem_singleton.mp member]
    exact .equal _ value
  | membership path values adjustments => exact membershipPredicate_drafted (Option.mem_toList.mp member)
  | like path fragment adjustments => exact LikeDraft.predicate_drafted (Option.mem_toList.mp member)
  | null path adjustments =>
    rw [List.mem_singleton.mp member]
    exact .null _
  | range path ends adjustments => exact RangeDraft.predicates_drafted _ predicate member
  | lowSide bound path ends adjustments | highSide bound path ends adjustments =>
    rw [List.mem_singleton.mp member]
    exact .side _ _

namespace Settings

theorem equalPredicates_drafted (settings : Settings) (path : Path) (value : Option Value) (adjustments : List Adjustment) :
    ∀ predicate ∈ settings.equalPredicates path value adjustments, predicate.Drafted := by
  intro predicate member
  cases value with
  | none => cases member
  | some value =>
    rw [List.mem_singleton.mp member]
    exact .equal _ value

theorem membershipPredicates_drafted (settings : Settings) (path : Path) (values : Option (List Value))
    (adjustments : List Adjustment) :
    ∀ predicate ∈ settings.membershipPredicates path values adjustments, predicate.Drafted := by
  intro predicate member
  rw [membershipPredicates_eq] at member
  exact membershipPredicate_drafted (Option.mem_toList.mp member)

theorem likePredicates_drafted (settings : Settings) (path : Path) (fragment : Option String)
    (adjustments : List LikeAdjustment) :
    ∀ predicate ∈ settings.likePredicates path fragment adjustments, predicate.Drafted := by
  intro predicate member
  cases fragment with
  | none => cases member
  | some text =>
    rw [likePredicates_eq] at member
    exact LikeDraft.predicate_drafted (Option.mem_toList.mp member)

theorem rangePredicates_drafted (settings : Settings) (path : Path) (ends : Range Value)
    (adjustments : List RangeAdjustment) :
    ∀ predicate ∈ settings.rangePredicates path ends adjustments, predicate.Drafted := by
  rw [rangePredicates_eq]
  exact RangeDraft.predicates_drafted _

theorem nullPredicates_drafted (path : Path) (active : Bool) (adjustments : List Adjustment) :
    ∀ predicate ∈ nullPredicates path active adjustments, predicate.Drafted := by
  intro predicate member
  rw [nullPredicates] at member
  split at member
  · rw [List.mem_singleton.mp member]
    exact .null _
  · cases member

end Settings

theorem Offer.predicates_drafted (settings : Settings) (offer : Offer) :
    ∀ predicate ∈ offer.predicates settings, predicate.Drafted := by
  cases offer with
  | equal | notEqual => exact settings.equalPredicates_drafted _ _ _
  | membership => exact settings.membershipPredicates_drafted _ _ _
  | like => exact settings.likePredicates_drafted _ _ _
  | atLeast | atMost | between => exact settings.rangePredicates_drafted _ _ _
  | isNull | isNotNull => exact Settings.nullPredicates_drafted _ _ _

end RecordFilter
