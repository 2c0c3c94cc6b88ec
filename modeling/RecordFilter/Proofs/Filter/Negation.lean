import RecordFilter.Proofs.Composer.Omission
import RecordFilter.Proofs.Filter.RangeTable

set_option autoImplicit false

namespace RecordFilter

section Latch

variable {State Item : Type} {act : State → Item → State} {mark : Item} {flag : State → Bool}

-- One mark among the items does what many do, and its place does not matter. No other item changes the flag.
structure Latches (act : State → Item → State) (mark : Item) (flag : State → Bool) : Prop where
  once : ∀ state, act (act state mark) mark = act state mark
  delays : ∀ state item, act (act state mark) item = act (act state item) mark
  keeps : ∀ state item, item ≠ mark → flag (act state item) = flag state

namespace Latches

variable [DecidableEq Item]

theorem foldl_act (latches : Latches act mark flag) (items : List Item) (start : State) :
    items.foldl act (act start mark) = act ((items.filter (· ≠ mark)).foldl act start) mark := by
  induction items generalizing start with
  | nil => rfl
  | cons item rest ih =>
    by_cases same : item = mark
    · rw [List.filter_cons_of_neg (by simpa using same), List.foldl_cons, same, latches.once]
      exact ih start
    · rw [List.filter_cons_of_pos (by simpa using same), List.foldl_cons, List.foldl_cons, latches.delays]
      exact ih (act start item)

theorem foldl_marked (latches : Latches act mark flag) {items : List Item} (marked : mark ∈ items) (start : State) :
    items.foldl act start = act ((items.filter (· ≠ mark)).foldl act start) mark := by
  induction items generalizing start with
  | nil => cases marked
  | cons item rest ih =>
    by_cases same : item = mark
    · rw [List.filter_cons_of_neg (by simpa using same), List.foldl_cons, same]
      exact latches.foldl_act rest start
    · rw [List.filter_cons_of_pos (by simpa using same), List.foldl_cons, List.foldl_cons]
      exact ih ((List.mem_cons.mp marked).resolve_left (Ne.symm same)) (act start item)

theorem flag_foldl (latches : Latches act mark flag) (items : List Item) (start : State) :
    flag ((items.filter (· ≠ mark)).foldl act start) = flag start := by
  induction items generalizing start with
  | nil => rfl
  | cons item rest ih =>
    by_cases same : item = mark
    · rw [List.filter_cons_of_neg (by simpa using same)]
      exact ih start
    · rw [List.filter_cons_of_pos (by simpa using same), List.foldl_cons, ih]
      exact latches.keeps start item same

end Latches

end Latch

theorem Options.latches : Latches adjust .negate negated where
  once _ := rfl
  delays _ adjustment := by cases adjustment <;> rfl
  keeps _ adjustment other := by cases adjustment <;> first | rfl | exact absurd rfl other

theorem LikeDraft.latches : Latches adjust (.options .negate) fun draft => draft.options.negated where
  once _ := rfl
  delays draft adjustment := by
    cases adjustment with
    | options adjustment =>
      exact congrArg (fun options => { draft with options }) (Options.latches.delays draft.options adjustment)
    | _ => rfl
  keeps draft adjustment other := by
    cases adjustment with
    | options adjustment =>
      exact Options.latches.keeps draft.options adjustment (mt (congrArg LikeAdjustment.options) other)
    | _ => rfl

theorem RangeDraft.latches : Latches adjust (.options .negate) fun draft => draft.options.negated where
  once _ := rfl
  delays draft adjustment := by
    cases adjustment with
    | options adjustment =>
      exact congrArg (fun options => { draft with options }) (Options.latches.delays draft.options adjustment)
    | _ => rfl
  keeps draft adjustment other := by
    cases adjustment with
    | options adjustment =>
      exact Options.latches.keeps draft.options adjustment (mt (congrArg RangeAdjustment.options) other)
    | _ => rfl

def Predicate.negate (predicate : Predicate) : Predicate :=
  { predicate with options := predicate.options.adjust .negate }

section Truth

variable {α : Type} [LinearOrder α] (database : Database α) (held : Option α)

theorem RangeForm.neg_truth {ends : Range Value} {form : RangeForm} (met : form.isMet ends = true) (column : Column) :
    ((form.condition column false ends).truth (database.truth held)).neg =
      (form.condition column true ends).truth (database.truth held) := by
  rcases condition_cases met column with ⟨tested, _, told⟩ | ⟨low, high, told⟩
  · rw [told, told]
    rfl
  · rw [told, told]
    exact database.neg_between held column low high

theorem Test.neg_truth {test : Test} (met : test.isMet = true) (column : Column) :
    ((test.condition column false).truth (database.truth held)).neg =
      (test.condition column true).truth (database.truth held) := by
  cases test with
  | equal value => exact database.neg_equal held column value
  | membership values => exact database.neg_membership held column values
  | like fragment ignoreCase wildcard => exact database.neg_like held column _ ignoreCase
  | null => exact database.neg_nullness held column
  | range ends form => exact RangeForm.neg_truth database held met column

variable (column : Path → Test → Column)

theorem Predicate.truth_negate {predicate : Predicate} (positive : predicate.options.negated = false)
    (met : predicate.test.isMet = true) :
    predicate.negate.truth column (database.truth held) = (predicate.truth column (database.truth held)).neg := by
  rw [truth, truth, positive]
  exact (Test.neg_truth database held met _).symm

def Opposed (plain negated : List Predicate) : Prop :=
  ∃ single truth, negated = [single] ∧
    (Specification.ofPredicates plain).truthAt (Predicate.truth column (database.truth held)) = some truth ∧
    single.truth column (database.truth held) = truth.neg

theorem Predicate.opposed_negate {predicate : Predicate} (positive : predicate.options.negated = false)
    (met : predicate.test.isMet = true) : Opposed database held column [predicate] [predicate.negate] :=
  ⟨_, _, rfl, Specification.truthAt_ofPredicates _ _, truth_negate database held column positive met⟩

namespace RangeDraft

variable {draft : RangeDraft}

def negate (draft : RangeDraft) : RangeDraft := draft.adjust (.options .negate)

def span (draft : RangeDraft) : Predicate :=
  draft.withForm (.span draft.lowBound.lowerSign draft.highBound.upperSign)

theorem predicates_negate (closed : draft.range.isClosed = true) (apart : draft.isBetween = false) :
    draft.negate.predicates = [draft.span.negate] := by
  have unit := draft.negate.predicates_joint closed (Bool.or_true _)
  have form : draft.negate.jointForm = .span draft.lowBound.lowerSign draft.highBound.upperSign :=
    if_neg (ne_true_of_eq_false apart)
  rw [unit, form]
  rfl

-- The ends may be looked for in different columns, as long as all of them hold the same value.
theorem truth_span (closed : draft.range.isClosed = true) (positive : draft.options.negated = false) :
    draft.span.truth column (database.truth held) =
      ((draft.lowSide draft.lowBound).truth column (database.truth held)).conj
        ((draft.highSide draft.highBound).truth column (database.truth held)) := by
  obtain ⟨low, high, isLow, isHigh⟩ := Range.ends_of_isClosed closed
  simp only [Predicate.truth, span, withForm, lowSide, highSide, Test.condition, RangeForm.condition,
    Bound.operand_lowerSign, Bound.operand_upperSign, isLow, isHigh, positive]
  exact Connector.and.joined_pair _ _

theorem opposed_negate (bounded : draft.range.isUnbounded = false) (positive : draft.options.negated = false) :
    Opposed database held column draft.predicates draft.negate.predicates := by
  have single {form : RangeForm} (met : form.isMet draft.range = true) :
      Opposed database held column [draft.withForm form] [(draft.withForm form).negate] :=
    Predicate.opposed_negate database held column positive met
  cases closed : draft.range.isClosed with
  | true =>
    cases between : draft.isBetween with
    | true =>
      have both : draft.negate.isBetween = true := between
      rw [predicates, predicates, if_pos between, if_pos both]
      exact single closed
    | false =>
      have met : draft.span.test.isMet = true := (Yields.span rfl closed : draft.negate.Yields _).isMet
      rw [predicates_negate closed between, draft.predicates_apart closed (Bool.or_eq_false_iff.mpr ⟨between, positive⟩)]
      refine ⟨_, _, rfl, Specification.truthAt_ofPredicates _ _, ?_⟩
      rw [Predicate.truth_negate database held column positive met, truth_span database held column closed positive]
      rfl
  | false =>
    rw [predicates_open _ closed, draft.negate.predicates_open closed]
    obtain ⟨options, ⟨low, high⟩, lowBound, highBound⟩ := draft
    cases low with
    | none =>
      cases high with
      | none => cases bounded
      | some high => exact single (congrArg Option.isSome (highBound.operand_upperSign _))
    | some low =>
      cases high with
      | none => exact single (congrArg Option.isSome (lowBound.operand_lowerSign _))
      | some high => cases closed

end RangeDraft

theorem Options.opposed_adjustAll {options : Options} (positive : options.negated = false)
    {adjustments : List Adjustment} (negating : .negate ∈ adjustments) (build : Options → Predicate)
    (carries : ∀ options, (build options).options.negated = options.negated)
    (negates : ∀ options, build (options.adjust .negate) = (build options).negate)
    (met : ∀ options, (build options).test.isMet = true) :
    Opposed database held column [build (options.adjustAll (adjustments.filter (· ≠ .negate)))]
      [build (options.adjustAll adjustments)] := by
  have delayed : options.adjustAll adjustments = (options.adjustAll (adjustments.filter (· ≠ .negate))).adjust .negate :=
    latches.foldl_marked negating options
  have plain := (carries _).trans ((latches.flag_foldl adjustments options).trans positive)
  rw [delayed, negates]
  exact Predicate.opposed_negate database held column plain (met _)

theorem LikeDraft.opposed_adjustAll {draft : LikeDraft} (positive : draft.options.negated = false)
    {adjustments : List LikeAdjustment} (negating : .options .negate ∈ adjustments)
    (usable : (draft.adjustAll adjustments).isUsable = true) :
    Opposed database held column (draft.adjustAll (adjustments.filter (· ≠ .options .negate))).predicate?.toList
      (draft.adjustAll adjustments).predicate?.toList := by
  have delayed : draft.adjustAll adjustments =
      (draft.adjustAll (adjustments.filter (· ≠ .options .negate))).adjust (.options .negate) :=
    latches.foldl_marked negating draft
  have plain := (latches.flag_foldl adjustments draft).trans positive
  rw [delayed] at usable ⊢
  have usablePlain : (draft.adjustAll (adjustments.filter (· ≠ .options .negate))).isUsable = true := usable
  rw [predicate?, predicate?, if_pos usable, if_pos usablePlain]
  exact Predicate.opposed_negate database held column plain rfl

theorem RangeDraft.opposed_adjustAll {draft : RangeDraft} (positive : draft.options.negated = false)
    {adjustments : List RangeAdjustment} (negating : .options .negate ∈ adjustments)
    (bounded : draft.range.isUnbounded = false) :
    Opposed database held column (draft.adjustAll (adjustments.filter (· ≠ .options .negate))).predicates
      (draft.adjustAll adjustments).predicates := by
  have delayed : draft.adjustAll adjustments = (draft.adjustAll (adjustments.filter (· ≠ .options .negate))).negate :=
    latches.foldl_marked negating draft
  have plain := (latches.flag_foldl adjustments draft).trans positive
  rw [delayed]
  refine opposed_negate database held column ?_ plain
  rw [range_adjustAll]
  exact bounded

theorem RangeDraft.opposed_withForm {draft : RangeDraft} (positive : draft.options.negated = false)
    {adjustments : List RangeAdjustment} (negating : .options .negate ∈ adjustments) {form : RangeForm}
    (met : form.isMet draft.range = true) :
    Opposed database held column [(draft.adjustAll (adjustments.filter (· ≠ .options .negate))).withForm form]
      [(draft.adjustAll adjustments).withForm form] := by
  have delayed : draft.adjustAll adjustments = (draft.adjustAll (adjustments.filter (· ≠ .options .negate))).negate :=
    latches.foldl_marked negating draft
  have plain := (latches.flag_foldl adjustments draft).trans positive
  rw [delayed]
  refine Predicate.opposed_negate database held column plain ?_
  rw [withForm, Test.isMet, range_adjustAll]
  exact met

end Truth

namespace Offer

def Negates : Offer → Prop
  | equal _ _ adjustments | membership _ _ adjustments | isNull _ _ adjustments => .negate ∈ adjustments
  | like _ _ adjustments => .options .negate ∈ adjustments
  | atLeast _ _ adjustments | atMost _ _ adjustments | between _ _ adjustments => .options .negate ∈ adjustments
  | notEqual _ _ _ | isNotNull _ _ _ => True

def plain : Offer → Offer
  | equal path value adjustments | notEqual path value adjustments => .equal path value (adjustments.filter (· ≠ .negate))
  | membership path values adjustments => .membership path values (adjustments.filter (· ≠ .negate))
  | like path fragment adjustments => .like path fragment (adjustments.filter (· ≠ .options .negate))
  | atLeast path value adjustments => .atLeast path value (adjustments.filter (· ≠ .options .negate))
  | atMost path value adjustments => .atMost path value (adjustments.filter (· ≠ .options .negate))
  | between path ends adjustments => .between path ends (adjustments.filter (· ≠ .options .negate))
  | isNull path active adjustments | isNotNull path active adjustments =>
    .isNull path active (adjustments.filter (· ≠ .negate))

end Offer

namespace Filter

def Negates : Filter → Prop
  | equal _ _ adjustments | membership _ _ adjustments | null _ adjustments => .negate ∈ adjustments
  | like _ _ adjustments => .options .negate ∈ adjustments
  | range _ _ adjustments | lowSide _ _ _ adjustments | highSide _ _ _ adjustments => .options .negate ∈ adjustments

def plain : Filter → Filter
  | equal path value adjustments => .equal path value (adjustments.filter (· ≠ .negate))
  | membership path values adjustments => .membership path values (adjustments.filter (· ≠ .negate))
  | like path fragment adjustments => .like path fragment (adjustments.filter (· ≠ .options .negate))
  | null path adjustments => .null path (adjustments.filter (· ≠ .negate))
  | range path ends adjustments => .range path ends (adjustments.filter (· ≠ .options .negate))
  | lowSide bound path ends adjustments => .lowSide bound path ends (adjustments.filter (· ≠ .options .negate))
  | highSide bound path ends adjustments => .highSide bound path ends (adjustments.filter (· ≠ .options .negate))

def isVacuous : Filter → Bool
  | equal _ _ _ | null _ _ => false
  | membership _ values _ => values.isEmpty
  | like path fragment adjustments => !(LikeDraft.start path fragment adjustments).isUsable
  | range _ ends _ => ends.isUnbounded
  | lowSide _ _ ends _ => ends.low.isNone
  | highSide _ _ ends _ => ends.high.isNone

end Filter

section Exact

variable {α : Type} [LinearOrder α] (database : Database α) (held : Option α) (column : Path → Test → Column)

theorem Settings.opposed_rangePredicates (settings : Settings) (path : Path) (ends : Range Value)
    {adjustments : List RangeAdjustment} (negating : .options .negate ∈ adjustments)
    (tested : (settings.rangePredicates path ends adjustments).isEmpty = false) :
    Opposed database held column (settings.rangePredicates path ends (adjustments.filter (· ≠ .options .negate)))
      (settings.rangePredicates path ends adjustments) := by
  have bounded := (settings.rangePredicates_isEmpty path ends adjustments).symm.trans tested
  rw [rangePredicates, rangePredicates, if_neg (ne_true_of_eq_false bounded), if_neg (ne_true_of_eq_false bounded)]
  exact RangeDraft.opposed_adjustAll database held column rfl negating bounded

theorem Offer.opposed_plain (settings : Settings) {offer : Offer} (negates : offer.Negates)
    (tested : (offer.predicates settings).isEmpty = false) :
    Opposed database held column (offer.plain.predicates settings) (offer.predicates settings) := by
  have single {options : Options} (positive : options.negated = false) {adjustments : List Adjustment}
      (negating : .negate ∈ adjustments) :=
    Options.opposed_adjustAll database held column positive negating
  cases offer with
  | equal path value adjustments =>
    cases value with
    | none => cases tested
    | some value => exact single rfl negates (equalPredicate · value) (fun _ => rfl) (fun _ => rfl) fun _ => rfl
  | notEqual path value adjustments =>
    cases value with
    | none => cases tested
    | some value =>
      exact single rfl List.mem_cons_self (equalPredicate · value) (fun _ => rfl) (fun _ => rfl) fun _ => rfl
  | membership path values adjustments =>
    cases values with
    | none => cases tested
    | some values =>
      cases values with
      | nil => cases tested
      | cons value rest =>
        exact single rfl negates (⟨·, .membership (value :: rest)⟩) (fun _ => rfl) (fun _ => rfl) fun _ => rfl
  | like path fragment adjustments =>
    cases fragment with
    | none => cases tested
    | some text =>
      rw [predicates, settings.likePredicates_eq, LikeDraft.isEmpty_toList_predicate?, Bool.not_eq_false'] at tested
      rw [plain, predicates, predicates, settings.likePredicates_eq, settings.likePredicates_eq]
      exact LikeDraft.opposed_adjustAll database held column rfl negates tested
  | atLeast path value adjustments => exact settings.opposed_rangePredicates database held column path _ negates tested
  | atMost path value adjustments => exact settings.opposed_rangePredicates database held column path _ negates tested
  | between path ends adjustments => exact settings.opposed_rangePredicates database held column path _ negates tested
  | isNull path active adjustments =>
    cases active with
    | false => cases tested
    | true => exact single rfl negates nullPredicate (fun _ => rfl) (fun _ => rfl) fun _ => rfl
  | isNotNull path active adjustments =>
    cases active with
    | false => cases tested
    | true => exact single rfl List.mem_cons_self nullPredicate (fun _ => rfl) (fun _ => rfl) fun _ => rfl

theorem Filter.opposed_plain {filter : Filter} (negates : filter.Negates) (tested : filter.isVacuous = false) :
    Opposed database held column filter.plain.predicates filter.predicates := by
  have single {options : Options} (positive : options.negated = false) {adjustments : List Adjustment}
      (negating : .negate ∈ adjustments) :=
    Options.opposed_adjustAll database held column positive negating
  cases filter with
  | equal path value adjustments =>
    exact single rfl negates (equalPredicate · value) (fun _ => rfl) (fun _ => rfl) fun _ => rfl
  | membership path values adjustments =>
    cases values with
    | nil => cases tested
    | cons value rest =>
      exact single rfl negates (⟨·, .membership (value :: rest)⟩) (fun _ => rfl) (fun _ => rfl) fun _ => rfl
  | like path fragment adjustments =>
    rw [isVacuous, Bool.not_eq_false'] at tested
    exact LikeDraft.opposed_adjustAll database held column rfl negates tested
  | null path adjustments => exact single rfl negates nullPredicate (fun _ => rfl) (fun _ => rfl) fun _ => rfl
  | range path ends adjustments => exact RangeDraft.opposed_adjustAll database held column rfl negates tested
  | lowSide bound path ends adjustments =>
    refine RangeDraft.opposed_withForm database held column rfl negates ?_
    rw [RangeForm.isMet, bound.operand_lowerSign, ← Option.not_isNone]
    exact congrArg not tested
  | highSide bound path ends adjustments =>
    refine RangeDraft.opposed_withForm database held column rfl negates ?_
    rw [RangeForm.isMet, bound.operand_upperSign, ← Option.not_isNone]
    exact congrArg not tested

variable {database held column}

theorem Opposed.build {plain negated : List Predicate} (opposed : Opposed database held column plain negated)
    (settings : Settings) (connected : ∀ predicate ∈ plain, predicate.options.connector = .and) :
    let value := Predicate.truth column (database.truth held)
    ∃ truth, (Composer.append { settings } plain).build.truthAt value = some truth ∧
      (Composer.append { settings } negated).build.truthAt value = some truth.neg := by
  intro value
  obtain ⟨single, truth, rfl, plainTruth, opposite⟩ := opposed
  refine ⟨truth, ?_, ?_⟩
  · rw [Composer.truthAt_build _ rfl, ← plainTruth, Specification.truthAt_ofPredicates]
    refine congrArg folded (List.map_congr_left fun predicate member => ?_)
    rw [connected predicate member]
    rfl
  · rw [Composer.truthAt_build _ rfl, ← opposite]
    rfl

theorem Opposed.ofPredicates {plain negated : List Predicate} (opposed : Opposed database held column plain negated) :
    let value := Predicate.truth column (database.truth held)
    ∃ truth, (Specification.ofPredicates plain).truthAt value = some truth ∧
      (Specification.ofPredicates negated).truthAt value = some truth.neg := by
  obtain ⟨single, truth, rfl, plainTruth, opposite⟩ := opposed
  exact ⟨truth, plainTruth, (Specification.truthAt_ofPredicates _ _).trans (congrArg some opposite)⟩

variable (database held column)

/-- A negated filter is true where the same filter without negation is false, false where that one is true, and unknown
where it is unknown: a filter that a composer accepts, alone and under the default connector, and a filter on its own. -/
theorem negation_is_exact (settings : Settings) :
    let value := Predicate.truth column (database.truth held)
    (∀ offer : Offer, offer.Negates → offer.isVacuous settings.likeMinChars = false →
      (∀ predicate ∈ offer.plain.predicates settings, predicate.options.connector = .and) →
        ∃ truth, (Composer.accept { settings } offer.plain).build.truthAt value = some truth ∧
          (Composer.accept { settings } offer).build.truthAt value = some truth.neg) ∧
    (∀ filter : Filter, filter.Negates → filter.isVacuous = false →
      ∃ truth, (Specification.ofPredicates filter.plain.predicates).truthAt value = some truth ∧
        (Specification.ofPredicates filter.predicates).truthAt value = some truth.neg) := by
  refine ⟨fun offer negates tested connected => ?_, fun filter negates tested => ?_⟩
  · rw [← offer.predicates_isEmpty] at tested
    exact (offer.opposed_plain database held column settings negates tested).build settings connected
  · exact (filter.opposed_plain database held column negates tested).ofPredicates

end Exact

theorem negation_is_exact_authors :
    let offer := Offer.between ⟨["author"]⟩ ⟨some (.integer 10), some (.integer 20)⟩
      [.options .negate, .highBound .exclusive, .options .negate]
    let filter := Filter.null ⟨["author"]⟩ [.negate]
    let value (held : Option ℤ) := Predicate.truth Composer.fieldColumn (Database.wholeNumbers.truth held)
    offer.Negates ∧ offer.isVacuous defaultMinChars = false ∧
      (∀ predicate ∈ offer.plain.predicates {}, predicate.options.connector = .and) ∧
      filter.Negates ∧ filter.isVacuous = false ∧
      (Composer.accept {} offer).build.truthAt (value (some 20)) = some .yes ∧
      (Composer.accept {} offer).build.truthAt (value none) = some .unknown ∧
      (Specification.ofPredicates filter.predicates).truthAt (value none) = some .no := by
  intro offer filter value
  have negates : offer.Negates := List.mem_cons_self
  have connected : ∀ predicate ∈ offer.plain.predicates {}, predicate.options.connector = .and := by decide
  have exact_at (held : Option ℤ) := negation_is_exact Database.wholeNumbers held Composer.fieldColumn {}
  refine ⟨negates, rfl, connected, List.mem_cons_self, rfl, ?_, ?_, ?_⟩
  · obtain ⟨truth, plain, negated⟩ := (exact_at (some 20)).1 offer negates rfl connected
    have outside : some truth = some .no := plain.symm.trans (by decide)
    rw [negated, Option.some.inj outside]
    rfl
  · obtain ⟨truth, plain, negated⟩ := (exact_at none).1 offer negates rfl connected
    have undecided : some truth = some .unknown := plain.symm.trans rfl
    rw [negated, Option.some.inj undecided]
    rfl
  · obtain ⟨truth, plain, negated⟩ := (exact_at none).2 filter List.mem_cons_self rfl
    have missing : some truth = some .yes := plain.symm.trans rfl
    rw [negated, Option.some.inj missing]
    rfl

end RecordFilter
