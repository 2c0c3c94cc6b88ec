import RecordFilter.Proofs.Specification.Alike

set_option autoImplicit false

namespace RecordFilter

section Inputs

variable (related : Value → Value → Prop)

-- Fragments are bound as patterns, which depend on how case and wildcards are handled.
def AlikeFragments (fragment other : String) : Prop :=
  ∀ ignoreCase wildcard,
    related (.text (searchPattern ignoreCase wildcard fragment)) (.text (searchPattern ignoreCase wildcard other))

inductive Filter.Alike : Filter → Filter → Prop where
  | equal (path : Path) (value other : Value) (adjustments : List Adjustment) (values : related value other) :
      Alike (.equal path value adjustments) (.equal path other adjustments)
  | membership (path : Path) (values others : List Value) (adjustments : List Adjustment)
      (each : List.Forall₂ related values others) :
      Alike (.membership path values adjustments) (.membership path others adjustments)
  | like (path : Path) (fragment other : String) (adjustments : List LikeAdjustment)
      (fragments : AlikeFragments related fragment other)
      (kept : (LikeDraft.start path fragment adjustments).isUsable = (LikeDraft.start path other adjustments).isUsable) :
      Alike (.like path fragment adjustments) (.like path other adjustments)
  | null (path : Path) (adjustments : List Adjustment) : Alike (.null path adjustments) (.null path adjustments)
  | range (path : Path) (ends others : Range Value) (adjustments : List RangeAdjustment) (each : ends.Alike related others) :
      Alike (.range path ends adjustments) (.range path others adjustments)
  | lowSide (bound : Bound) (path : Path) (ends others : Range Value) (adjustments : List RangeAdjustment)
      (each : ends.Alike related others) :
      Alike (.lowSide bound path ends adjustments) (.lowSide bound path others adjustments)
  | highSide (bound : Bound) (path : Path) (ends others : Range Value) (adjustments : List RangeAdjustment)
      (each : ends.Alike related others) :
      Alike (.highSide bound path ends adjustments) (.highSide bound path others adjustments)

inductive Offer.Alike (minChars : Nat) : Offer → Offer → Prop where
  | equal (path : Path) (value other : Option Value) (adjustments : List Adjustment)
      (values : Option.Rel related value other) :
      Alike minChars (.equal path value adjustments) (.equal path other adjustments)
  | notEqual (path : Path) (value other : Option Value) (adjustments : List Adjustment)
      (values : Option.Rel related value other) :
      Alike minChars (.notEqual path value adjustments) (.notEqual path other adjustments)
  | membership (path : Path) (values others : Option (List Value)) (adjustments : List Adjustment)
      (each : Option.Rel (List.Forall₂ related) values others) :
      Alike minChars (.membership path values adjustments) (.membership path others adjustments)
  | like (path : Path) (fragment other : Option String) (adjustments : List LikeAdjustment)
      (fragments : Option.Rel (AlikeFragments related) fragment other)
      (kept : (Offer.like path fragment adjustments).isVacuous minChars =
        (Offer.like path other adjustments).isVacuous minChars) :
      Alike minChars (.like path fragment adjustments) (.like path other adjustments)
  | atLeast (path : Path) (value other : Option Value) (adjustments : List RangeAdjustment)
      (values : Option.Rel related value other) :
      Alike minChars (.atLeast path value adjustments) (.atLeast path other adjustments)
  | atMost (path : Path) (value other : Option Value) (adjustments : List RangeAdjustment)
      (values : Option.Rel related value other) :
      Alike minChars (.atMost path value adjustments) (.atMost path other adjustments)
  | between (path : Path) (ends others : Range Value) (adjustments : List RangeAdjustment)
      (each : ends.Alike related others) :
      Alike minChars (.between path ends adjustments) (.between path others adjustments)
  | isNull (path : Path) (active : Bool) (adjustments : List Adjustment) :
      Alike minChars (.isNull path active adjustments) (.isNull path active adjustments)
  | isNotNull (path : Path) (active : Bool) (adjustments : List Adjustment) :
      Alike minChars (.isNotNull path active adjustments) (.isNotNull path active adjustments)

mutual
inductive Composition.Alike : Composition → Composition → Prop where
  | unrestricted : Composition.Alike .unrestricted .unrestricted
  | filter (filter other : Filter) (inputs : filter.Alike related other) : Composition.Alike (.filter filter) (.filter other)
  | connect (left otherLeft : Composition) (connector : Connector) (right otherRight : Composition)
      (lefts : Composition.Alike left otherLeft) (rights : Composition.Alike right otherRight) :
      Composition.Alike (.connect left connector right) (.connect otherLeft connector otherRight)
  | negation (inner other : Composition) (inners : Composition.Alike inner other) :
      Composition.Alike (.negation inner) (.negation other)
  | repeated (repetition : Repetition) (count : Nat) (first other : Composition) (firsts : Composition.Alike first other) :
      Composition.Alike (.repeated repetition count first) (.repeated repetition count other)
  | composed (settings : Settings) (steps others : List Step) (each : Step.AllAlike settings.likeMinChars steps others) :
      Composition.Alike (.composed settings steps) (.composed settings others)

inductive Step.Alike : (minChars : Nat) → Step → Step → Prop where
  | offer (minChars : Nat) (offer other : Offer) (inputs : offer.Alike related minChars other) :
      Step.Alike minChars (.offer offer) (.offer other)
  | append (minChars : Nat) (filter other : Filter) (inputs : filter.Alike related other) :
      Step.Alike minChars (.append filter) (.append other)
  | distinct (minChars : Nat) (flag : Bool) : Step.Alike minChars (.distinct flag) (.distinct flag)
  | absentGroup (minChars : Nat) : Step.Alike minChars .absentGroup .absentGroup
  | group (minChars : Nat) (connector : Connector) (composition other : Composition)
      (inners : Composition.Alike composition other) :
      Step.Alike minChars (.group connector composition) (.group connector other)

inductive Step.AllAlike : (minChars : Nat) → List Step → List Step → Prop where
  | nil (minChars : Nat) : Step.AllAlike minChars [] []
  | cons (minChars : Nat) (step other : Step) (rest others : List Step) (first : Step.Alike minChars step other)
      (further : Step.AllAlike minChars rest others) : Step.AllAlike minChars (step :: rest) (other :: others)
end

end Inputs

variable {related : Value → Value → Prop}

theorem LikeDraft.adjusted_alike (draft : LikeDraft) {fragment : String} (adjustments : List LikeAdjustment)
    (fragments : AlikeFragments related draft.fragment fragment)
    (kept : (draft.adjustAll adjustments).isUsable = (adjustAll { draft with fragment } adjustments).isUsable) :
    List.Forall₂ (Predicate.Alike related) (draft.adjustAll adjustments).predicate?.toList
      (adjustAll { draft with fragment } adjustments).predicate?.toList := by
  have same := draft.fragment_adjustAll adjustments
  rw [draft.adjustAll_fragment fragment] at kept ⊢
  rw [predicate?, predicate?, ← kept]
  split
  · exact .cons ⟨rfl, .like _ fragment _ _ (same ▸ fragments _ _)⟩ .nil
  · exact .nil

theorem Range.Alike.present {range other : Range Value} (alike : range.Alike related other) :
    range.low.isSome = other.low.isSome ∧ range.high.isSome = other.high.isSome := by
  obtain ⟨low, high⟩ := range
  obtain ⟨otherLow, otherHigh⟩ := other
  obtain ⟨lows, highs⟩ := alike
  cases lows <;> cases highs <;> exact ⟨rfl, rfl⟩

namespace RangeDraft

variable (draft : RangeDraft) {range : Range Value}

theorem withForm_alike (alike : draft.range.Alike related range) (form : RangeForm) :
    (draft.withForm form).Alike related (withForm { draft with range } form) :=
  ⟨rfl, .range draft.range range form alike⟩

theorem sides_alike (alike : draft.range.Alike related range) :
    List.Forall₂ (Predicate.Alike related) draft.sides (sides { draft with range }) := by
  obtain ⟨lows, highs⟩ := alike.present
  rw [sides, sides, ← lows, ← highs]
  refine List.rel_append ?_ ?_
  · split
    · exact .cons (draft.withForm_alike alike _) .nil
    · exact .nil
  · split
    · exact .cons (draft.withForm_alike alike _) .nil
    · exact .nil

theorem predicates_alike (alike : draft.range.Alike related range) :
    List.Forall₂ (Predicate.Alike related) draft.predicates (predicates { draft with range }) := by
  obtain ⟨lows, highs⟩ := alike.present
  have closed : draft.range.isClosed = range.isClosed := by
    rw [Range.isClosed, Range.isClosed, lows, highs]
  rw [predicates, predicates, isBetween, isBetween, ← closed]
  split
  · exact .cons (draft.withForm_alike alike _) .nil
  · split
    · exact .cons (draft.withForm_alike alike _) .nil
    · exact draft.sides_alike alike

theorem adjusted_alike (alike : draft.range.Alike related range) (adjustments : List RangeAdjustment) :
    List.Forall₂ (Predicate.Alike related) (draft.adjustAll adjustments).predicates
      (adjustAll { draft with range } adjustments).predicates := by
  rw [draft.adjustAll_range range]
  refine predicates_alike _ ?_
  rwa [draft.range_adjustAll]

theorem adjusted_withForm (alike : draft.range.Alike related range) (adjustments : List RangeAdjustment) (form : RangeForm) :
    List.Forall₂ (Predicate.Alike related) [(draft.adjustAll adjustments).withForm form]
      [(adjustAll { draft with range } adjustments).withForm form] := by
  rw [draft.adjustAll_range range]
  refine .cons (withForm_alike _ ?_ form) .nil
  rwa [draft.range_adjustAll]

end RangeDraft

theorem membershipPredicate_alike (options : Options) {values others : List Value}
    (each : List.Forall₂ related values others) :
    List.Forall₂ (Predicate.Alike related) (membershipPredicate? options values).toList
      (membershipPredicate? options others).toList := by
  cases each with
  | nil => exact .nil
  | cons first rest => exact .cons ⟨rfl, .membership _ _ (.cons first rest)⟩ .nil

theorem Filter.Alike.predicates {filter other : Filter} (alike : filter.Alike related other) :
    List.Forall₂ (Predicate.Alike related) filter.predicates other.predicates := by
  cases alike with
  | equal path value other adjustments values => exact .cons ⟨rfl, .equal value other values⟩ .nil
  | membership path values others adjustments each => exact membershipPredicate_alike _ each
  | like path fragment other adjustments fragments kept =>
    exact LikeDraft.adjusted_alike { options := path.options, fragment } adjustments fragments kept
  | null path adjustments => exact .cons ⟨rfl, .null⟩ .nil
  | range path ends others adjustments each =>
    exact RangeDraft.adjusted_alike { options := path.options, range := ends } each adjustments
  | lowSide bound path ends others adjustments each =>
    exact RangeDraft.adjusted_withForm { options := path.options, range := ends } each adjustments (.side bound.lowerSign)
  | highSide bound path ends others adjustments each =>
    exact RangeDraft.adjusted_withForm { options := path.options, range := ends } each adjustments (.side bound.upperSign)

namespace Settings

variable (settings : Settings) (path : Path)

theorem equalPredicates_alike {value other : Option Value} (values : Option.Rel related value other)
    (adjustments : List Adjustment) :
    List.Forall₂ (Predicate.Alike related) (settings.equalPredicates path value adjustments)
      (settings.equalPredicates path other adjustments) := by
  cases values with
  | none => exact .nil
  | some values => exact .cons ⟨rfl, .equal _ _ values⟩ .nil

theorem membershipPredicates_alike {values others : Option (List Value)}
    (each : Option.Rel (List.Forall₂ related) values others) (adjustments : List Adjustment) :
    List.Forall₂ (Predicate.Alike related) (settings.membershipPredicates path values adjustments)
      (settings.membershipPredicates path others adjustments) := by
  cases each with
  | none => exact .nil
  | some each =>
    cases each with
    | nil => exact .nil
    | cons first rest => exact membershipPredicate_alike _ (.cons first rest)

theorem likePredicates_alike {fragment other : Option String} (fragments : Option.Rel (AlikeFragments related) fragment other)
    (adjustments : List LikeAdjustment)
    (kept : (settings.likePredicates path fragment adjustments).isEmpty =
      (settings.likePredicates path other adjustments).isEmpty) :
    List.Forall₂ (Predicate.Alike related) (settings.likePredicates path fragment adjustments)
      (settings.likePredicates path other adjustments) := by
  cases fragments with
  | none => exact .nil
  | some fragments =>
    rw [likePredicates_eq, likePredicates_eq] at kept ⊢
    rw [LikeDraft.isEmpty_toList_predicate?, LikeDraft.isEmpty_toList_predicate?, Bool.not_inj_iff] at kept
    exact (settings.likeDraft path _).adjusted_alike adjustments fragments kept

theorem rangePredicates_alike {ends others : Range Value} (each : ends.Alike related others)
    (adjustments : List RangeAdjustment) :
    List.Forall₂ (Predicate.Alike related) (settings.rangePredicates path ends adjustments)
      (settings.rangePredicates path others adjustments) := by
  obtain ⟨lows, highs⟩ := each.present
  have unbounded : ends.isUnbounded = others.isUnbounded := by
    rw [Range.isUnbounded, Range.isUnbounded, ← Option.not_isSome, ← Option.not_isSome, lows, highs, Option.not_isSome,
      Option.not_isSome]
  rw [rangePredicates, rangePredicates, ← unbounded]
  split
  · exact .nil
  · exact (settings.rangeDraft path ends).adjusted_alike each adjustments

end Settings

theorem Offer.Alike.predicates {settings : Settings} {offer other : Offer}
    (alike : offer.Alike related settings.likeMinChars other) :
    List.Forall₂ (Predicate.Alike related) (offer.predicates settings) (other.predicates settings) := by
  cases alike with
  | equal path value other adjustments values => exact settings.equalPredicates_alike path values adjustments
  | notEqual path value other adjustments values => exact settings.equalPredicates_alike path values (.negate :: adjustments)
  | membership path values others adjustments each => exact settings.membershipPredicates_alike path each adjustments
  | like path fragment other adjustments fragments kept =>
    rw [← predicates_isEmpty, ← predicates_isEmpty] at kept
    exact settings.likePredicates_alike path fragments adjustments kept
  | atLeast path value other adjustments values => exact settings.rangePredicates_alike path ⟨values, .none⟩ adjustments
  | atMost path value other adjustments values => exact settings.rangePredicates_alike path ⟨.none, values⟩ adjustments
  | between path ends others adjustments each => exact settings.rangePredicates_alike path each adjustments
  | isNull path active adjustments | isNotNull path active adjustments =>
    cases active with
    | false => exact .nil
    | true => exact .cons ⟨rfl, .null⟩ .nil

theorem Specification.alike_ofPredicates {predicates others : List Predicate}
    (alike : List.Forall₂ (Predicate.Alike related) predicates others) (built : ∀ predicate ∈ predicates, predicate.Built)
    (otherBuilt : ∀ predicate ∈ others, predicate.Built) :
    (ofPredicates predicates).Alike related (ofPredicates others) :=
  alike_ofUnits (List.rel_map (fun _ _ filters => ⟨rfl, alike_ofPredicate filters⟩) alike) (singles_built built)
    (singles_built otherBuilt)

mutual
theorem Composition.Alike.specification {composition other : Composition} (alike : composition.Alike related other) :
    composition.specification.Alike related other.specification := by
  cases alike with
  | unrestricted => exact ⟨rfl, .nil⟩
  | filter filter other inputs =>
    exact Specification.alike_ofPredicates inputs.predicates filter.predicates_built other.predicates_built
  | connect left otherLeft connector right otherRight lefts rights =>
    exact lefts.specification.connect connector rights.specification left.specification_built otherLeft.specification_built
  | negation inner other inners => exact inners.specification.negated
  | repeated repetition count first other firsts =>
    exact repetition.alike_rounds firsts.specification first.specification_built other.specification_built count
  | composed settings steps others each =>
    exact (each.apply (Composer.alike_start settings)).build (Step.applyAll_built steps (Composer.built_start settings))
      (Step.applyAll_built others (Composer.built_start settings))

theorem Step.Alike.apply {step other : Step} {composer otherComposer : Composer}
    (alike : step.Alike related composer.settings.likeMinChars other) (composers : composer.Alike related otherComposer) :
    (step.apply composer).Alike related (other.apply otherComposer) := by
  cases alike with
  | offer minChars offer other inputs =>
    have settings := composers.settings
    have predicates := inputs.predicates
    rw [Step.apply, Step.apply, Composer.accept, Composer.accept, ← settings]
    exact composers.append predicates
  | append minChars filter other inputs => exact composers.append inputs.predicates
  | distinct minChars flag => exact composers.setDistinct flag
  | absentGroup => exact composers
  | group minChars connector composition other inners => exact composers.addGroup connector inners.specification

theorem Step.AllAlike.apply {steps others : List Step} {composer otherComposer : Composer}
    (alike : Step.AllAlike related composer.settings.likeMinChars steps others)
    (composers : composer.Alike related otherComposer) :
    (Step.applyAll composer steps).Alike related (Step.applyAll otherComposer others) := by
  cases alike with
  | nil => exact composers
  | cons minChars step other rest others first further =>
    rw [← step.apply_minChars composer] at further
    exact further.apply (first.apply composers)
end

/-- Compositions that differ in their values alone are refused for the same reason, or give statements with the same text,
which bind the values of their predicates: whatever holds between corresponding values holds between the parameters, position
by position. -/
theorem Composition.values_stay_out {composition other : Composition} (alike : composition.Alike related other) :
    List.Forall₂ (Predicate.Alike related) composition.specification.predicates other.specification.predicates ∧
      ∀ schema root orderings,
        Agree (fun seen otherSeen => seen.Alike related otherSeen ∧
            seen.select.params.toList = composition.specification.predicates.flatMap Predicate.values ∧
            otherSeen.select.params.toList = other.specification.predicates.flatMap Predicate.values)
          (composition.appearance schema root orderings) (other.appearance schema root orderings) := by
  refine ⟨alike.specification.predicates, fun schema root orderings => ?_⟩
  refine (appearance_alike alike.specification).imp fun seen otherSeen succeeded otherSucceeded same => ?_
  exact ⟨same, (appearance_values succeeded).1, (appearance_values otherSucceeded).1⟩

def booksLike (fragment : String) (genres : List Value) : Composition :=
  .composed {} [
    .group .or (.composed {} [.offer (.membership ⟨["genres", "name"]⟩ (some genres) [])]),
    .offer (.like ⟨["author", "name"]⟩ (some fragment) [.wildcard .both])]

theorem Composition.values_stay_out_books :
    let first := booksLike "Ada" [.text "logic", .text "sets"]
    let other := booksLike "Emmy" [.text "logic", .text "rings"]
    ∃ seen otherSeen, first.appearance books.schema "Book" [] = .ok seen ∧
      other.appearance books.schema "Book" [] = .ok otherSeen ∧ seen.select.text = otherSeen.select.text ∧
      seen.select.params.toList = [.text "%ADA%", .text "logic", .text "sets"] ∧
      otherSeen.select.params.toList = [.text "%EMMY%", .text "logic", .text "rings"] := by
  intro first other
  have genres : List.Forall₂ (fun _ _ : Value => True) [.text "logic", .text "sets"] [.text "logic", .text "rings"] :=
    .cons trivial (.cons trivial .nil)
  have alike : first.Alike (fun _ _ => True) other := by
    refine .composed {} _ _ (.cons _ _ _ _ _ (.group _ .or _ _ ?_) (.cons _ _ _ _ _ (.offer _ _ _ ?_) (.nil _)))
    · exact .composed {} _ _ (.cons _ _ _ _ _ (.offer _ _ _ (.membership _ _ _ _ (.some genres))) (.nil _))
    · exact .like _ _ _ _ (.some fun _ _ => trivial) rfl
  obtain ⟨_, agree⟩ := Composition.values_stay_out alike
  obtain ⟨same, values, otherValues⟩ := agree books.schema "Book" []
  exact ⟨_, _, rfl, rfl, same.words.selectText, values, otherValues⟩

end RecordFilter
