import RecordFilter.Proofs.Composer.Order
import RecordFilter.Proofs.Specification.Wording

set_option autoImplicit false

namespace RecordFilter

section Filters

variable (related : Value → Value → Prop)

structure Range.Alike (range other : Range Value) : Prop where
  low : Option.Rel related range.low other.low
  high : Option.Rel related range.high other.high

inductive Test.Alike : Test → Test → Prop where
  | equal (value other : Value) (values : related value other) : Alike (.equal value) (.equal other)
  | membership (values others : List Value) (each : List.Forall₂ related values others) :
      Alike (.membership values) (.membership others)
  | like (fragment other : String) (ignoreCase : Bool) (wildcard : Wildcard)
      (patterns : related (.text (searchPattern ignoreCase wildcard fragment))
        (.text (searchPattern ignoreCase wildcard other))) :
      Alike (.like fragment ignoreCase wildcard) (.like other ignoreCase wildcard)
  | null : Alike .null .null
  | range (ends others : Range Value) (form : RangeForm) (each : ends.Alike related others) :
      Alike (.range ends form) (.range others form)

structure Predicate.Alike (predicate other : Predicate) : Prop where
  options : predicate.options = other.options
  test : predicate.test.Alike related other.test

structure Specification.Alike (specification other : Specification) : Prop where
  reading : specification.reading = other.reading
  predicates : List.Forall₂ (Predicate.Alike related) specification.predicates other.predicates

structure AlikeUnits (unit other : Connector × Specification) : Prop where
  connector : unit.1 = other.1
  specification : unit.2.Alike related other.2

structure Composer.Alike (composer other : Composer) : Prop where
  settings : composer.settings = other.settings
  predicates : List.Forall₂ (Predicate.Alike related) composer.predicates other.predicates
  groups : List.Forall₂ (AlikeUnits related) composer.groups other.groups

end Filters

variable {related : Value → Value → Prop}

theorem Range.Alike.operand {range other : Range Value} (alike : range.Alike related other) (sign : Sign) :
    Option.Rel related (sign.operand range) (sign.operand other) := by
  cases sign with
  | above | atLeast => exact alike.low
  | below | atMost => exact alike.high

theorem Range.Alike.pair {range other : Range Value} (alike : range.Alike related other) :
    List.Forall₂ related range.pair other.pair := by
  obtain ⟨low, high⟩ := range
  obtain ⟨otherLow, otherHigh⟩ := other
  obtain ⟨lows, highs⟩ := alike
  cases lows with
  | none => exact .nil
  | some low =>
    cases highs with
    | none => exact .nil
    | some high => exact .cons low (.cons high .nil)

theorem Condition.wording_negatedWhen (negated : Bool) {condition other : Condition}
    (same : condition.wording = other.wording) :
    (condition.negatedWhen negated).wording = (other.negatedWhen negated).wording := by
  cases negated with
  | false => exact same
  | true =>
    have templates := congrArg Wording.template same
    exact congrArg (fun template => Wording.negated ⟨none, template⟩) templates

namespace RangeForm

variable {ends others : Range Value}

theorem wording_alike (alike : ends.Alike related others) (column : Column) (negated : Bool) (form : RangeForm) :
    (form.condition column negated ends).wording = (form.condition column negated others).wording := by
  cases form with
  | side sign =>
    have operands := alike.operand sign
    rw [condition, condition]
    generalize sign.operand ends = value at operands ⊢
    generalize sign.operand others = other at operands ⊢
    cases operands with
    | none => rfl
    | some values => exact Condition.wording_negatedWhen negated rfl
  | between =>
    have lows := alike.low
    have highs := alike.high
    rw [condition, condition]
    generalize ends.low = low, ends.high = high at lows highs ⊢
    generalize others.low = otherLow, others.high = otherHigh at lows highs ⊢
    cases lows <;> cases highs <;> rfl
  | span lower upper =>
    have lows := alike.operand lower
    have highs := alike.operand upper
    rw [condition, condition]
    generalize lower.operand ends = low, upper.operand ends = high at lows highs ⊢
    generalize lower.operand others = otherLow, upper.operand others = otherHigh at lows highs ⊢
    cases lows with
    | none => rfl
    | some low =>
      cases highs with
      | none => rfl
      | some high => exact Condition.wording_negatedWhen negated rfl

theorem values_alike (alike : ends.Alike related others) (form : RangeForm) :
    List.Forall₂ related (form.values ends) (form.values others) := by
  cases form with
  | side sign =>
    have operands := alike.operand sign
    rw [values, values]
    generalize sign.operand ends = value at operands ⊢
    generalize sign.operand others = other at operands ⊢
    cases operands with
    | none => exact .nil
    | some values => exact .cons values .nil
  | between => exact alike.pair
  | span lower upper => exact Range.Alike.pair ⟨alike.operand lower, alike.operand upper⟩

end RangeForm

namespace Test.Alike

variable {test other : Test}

theorem wording (alike : test.Alike related other) (column : Column) (negated : Bool) :
    (test.condition column negated).wording = (other.condition column negated).wording := by
  cases alike with
  | membership values others each =>
    have blanks : (values.map fun _ => [Slot.hole]) = others.map fun _ => [Slot.hole] := by
      simp [List.map_const', each.length_eq]
    rw [condition, condition, Condition.wording, Condition.wording, Condition.template, Condition.template, blanks]
    rfl
  | range ends others form each => exact form.wording_alike each column negated
  | _ => rfl

theorem values (alike : test.Alike related other) : List.Forall₂ related test.values other.values := by
  cases alike with
  | equal value other values => exact .cons values .nil
  | membership values others each => exact each
  | like fragment other ignoreCase wildcard patterns => exact .cons patterns .nil
  | null => exact .nil
  | range ends others form each => exact form.values_alike each

end Test.Alike

theorem Predicate.Alike.reading {predicate other : Predicate} (alike : predicate.Alike related other) :
    (Restriction.predicate predicate).reading = (Restriction.predicate other).reading := by
  obtain ⟨options, test⟩ := predicate
  obtain ⟨otherOptions, otherTest⟩ := other
  obtain ⟨rfl, tests⟩ := alike
  funext schema
  simp [Restriction.reading, Restriction.resolve, Predicate.resolve, tests.wording]

theorem Predicate.Alike.withDistinct {predicate other : Predicate} (alike : predicate.Alike related other) (flag : Bool) :
    (predicate.withDistinct flag).Alike related (other.withDistinct flag) := by
  refine ⟨?_, alike.test⟩
  rw [Predicate.withDistinct, Predicate.withDistinct, alike.options]

namespace Specification

variable {specification other left right otherLeft otherRight : Specification}

theorem Alike.values (alike : specification.Alike related other) :
    List.Forall₂ related (specification.predicates.flatMap Predicate.values) (other.predicates.flatMap Predicate.values) :=
  List.rel_flatMap alike.predicates fun _ _ filters => filters.test.values

theorem alike_ofPredicate {predicate other : Predicate} (alike : predicate.Alike related other) :
    (ofPredicate predicate).Alike related (ofPredicate other) :=
  ⟨congrArg some alike.reading, .cons alike .nil⟩

theorem Alike.connect (lefts : left.Alike related otherLeft) (connector : Connector)
    (rights : right.Alike related otherRight) (built : left.Built) (otherBuilt : otherLeft.Built) :
    (left.connect connector right).Alike related (otherLeft.connect connector otherRight) := by
  constructor
  · rw [reading_connect built, reading_connect otherBuilt, lefts.reading, rights.reading]
  · rw [predicates_connect, predicates_connect]
    exact List.rel_append lefts.predicates rights.predicates

theorem Alike.negated (alike : specification.Alike related other) :
    specification.negated.Alike related other.negated := by
  constructor
  · rw [reading_negated, reading_negated, alike.reading]
  · rw [predicates_negated, predicates_negated]
    exact alike.predicates

theorem Alike.grouped (alike : specification.Alike related other) :
    specification.grouped.Alike related other.grouped := by
  constructor
  · rw [reading_grouped, reading_grouped, alike.reading]
  · rw [predicates_grouped, predicates_grouped]
    exact alike.predicates

theorem alike_ofUnits {units others : List (Connector × Specification)}
    (alike : List.Forall₂ (AlikeUnits related) units others) (built : ∀ unit ∈ units, unit.2.Built)
    (otherBuilt : ∀ unit ∈ others, unit.2.Built) :
    (ofUnits units).Alike related (ofUnits others) := by
  constructor
  · have readings : List.Forall₂ Eq (units.map fun unit => (unit.1, unit.2.reading))
        (others.map fun unit => (unit.1, unit.2.reading)) :=
      List.rel_map (fun _ _ same => Prod.ext same.connector same.specification.reading) alike
    rw [List.forall₂_eq_eq_eq] at readings
    rw [reading_ofUnits built, reading_ofUnits otherBuilt, readings]
  · rw [predicates_ofUnits, predicates_ofUnits]
    exact List.rel_flatMap alike fun _ _ same => same.specification.predicates

end Specification

namespace Composer

variable {composer other : Composer}

theorem alike_start (settings : Settings) : Alike related { settings } { settings } := ⟨rfl, .nil, .nil⟩

theorem Alike.append (alike : composer.Alike related other) {predicates others : List Predicate}
    (more : List.Forall₂ (Predicate.Alike related) predicates others) :
    (composer.append predicates).Alike related (other.append others) :=
  ⟨alike.settings, List.rel_append alike.predicates more, alike.groups⟩

theorem Alike.setDistinct (alike : composer.Alike related other) (flag : Bool) :
    (composer.setDistinct flag).Alike related (other.setDistinct flag) :=
  ⟨congrArg (Settings.set · (.distinct flag)) alike.settings, alike.predicates, alike.groups⟩

theorem Alike.addGroup (alike : composer.Alike related other) (connector : Connector) {group otherGroup : Specification}
    (groups : group.Alike related otherGroup) :
    (composer.addGroup connector (some group)).Alike related (other.addGroup connector (some otherGroup)) :=
  ⟨alike.settings, alike.predicates, List.rel_append alike.groups (.cons ⟨rfl, groups⟩ .nil)⟩

theorem Alike.build (alike : composer.Alike related other) (built : composer.Built) (otherBuilt : other.Built) :
    composer.build.Alike related other.build := by
  have singles : List.Forall₂ (AlikeUnits related) composer.predicateUnits other.predicateUnits := by
    refine List.rel_map (fun predicate otherPredicate same => ?_) alike.predicates
    refine ⟨congrArg Options.connector same.options, Specification.alike_ofPredicate ?_⟩
    rw [alike.settings]
    exact same.withDistinct _
  have groups : List.Forall₂ (AlikeUnits related) composer.groupUnits other.groupUnits :=
    List.rel_map (fun _ _ same => ⟨same.connector, same.specification.grouped⟩) alike.groups
  exact Specification.alike_ofUnits (List.rel_append singles groups) built.units otherBuilt.units

end Composer

theorem Repetition.alike_rounds (repetition : Repetition) {first other : Specification} (alike : first.Alike related other)
    (built : first.Built) (otherBuilt : other.Built) (count : Nat) :
    (repetition.rounds first count).Alike related (repetition.rounds other count) := by
  induction count with
  | zero => exact alike
  | succ count ih =>
    have reached := repetition.rounds_built built count
    have otherReached := repetition.rounds_built otherBuilt count
    cases repetition with
    | negate => exact ih.negated
    | group =>
      have start := Composer.built_start {}
      exact ((Composer.alike_start {}).addGroup .and ih).build (start.addGroup .and reached) (start.addGroup .and otherReached)
    | extend connector => exact ih.connect connector alike reached otherReached
    | precede connector => exact alike.connect connector ih built otherBuilt

section Statements

variable (related) in
structure Appearance.Alike (seen other : Appearance) : Prop where
  words : seen.SameWords other
  selectValues : List.Forall₂ related seen.select.params.toList other.select.params.toList
  countValues : List.Forall₂ related seen.count.params.toList other.count.params.toList

def Composition.sorted (composition : Composition) (schema : Schema) (root : String) (orderings : List (Path × Direction)) :
    Except Error Query := do
  let start ← composition.specification.query schema root
  start.orderByAll orderings

variable (schema : Schema) (root : String) (orderings : List (Path × Direction))

theorem Composition.appearance_eq (composition : Composition) :
    composition.appearance schema root orderings =
      (composition.sorted schema root orderings >>= fun query => .ok query.appearance) := by
  rw [appearance, sorted, bind_assoc]
  rfl

variable {schema root orderings}

theorem Composition.sorted_values {composition : Composition} {query : Query}
    (succeeded : composition.sorted schema root orderings = .ok query) :
    query.select.params.toList = composition.specification.predicates.flatMap Predicate.values ∧
      query.count.params.toList = composition.specification.predicates.flatMap Predicate.values := by
  obtain ⟨start, resolved, ordered⟩ := bind_ok succeeded
  exact Query.values_in_order resolved ordered

theorem Composition.appearance_values {composition : Composition} {seen : Appearance}
    (succeeded : composition.appearance schema root orderings = .ok seen) :
    seen.select.params.toList = composition.specification.predicates.flatMap Predicate.values ∧
      seen.count.params.toList = composition.specification.predicates.flatMap Predicate.values := by
  rw [appearance_eq] at succeeded
  obtain ⟨query, resolved, shown⟩ := bind_ok succeeded
  cases shown
  exact sorted_values resolved

theorem Composition.appearance_alike {composition other : Composition}
    (alike : composition.specification.Alike related other.specification) :
    Agree (Appearance.Alike related) (composition.appearance schema root orderings)
      (other.appearance schema root orderings) := by
  have agree : Agree Query.SameWords (composition.sorted schema root orderings) (other.sorted schema root orderings) :=
    (Specification.query_agree alike.reading schema root).bind fun _ _ _ _ same => same.orderByAll orderings
  have seen : Agree Appearance.SameWords (composition.appearance schema root orderings)
      (other.appearance schema root orderings) := by
    rw [appearance_eq, appearance_eq]
    exact agree.bind fun _ _ _ _ same => same.appearance
  refine seen.imp fun appearance otherAppearance succeeded otherSucceeded same => ?_
  obtain ⟨selected, counted⟩ := appearance_values succeeded
  obtain ⟨otherSelected, otherCounted⟩ := appearance_values otherSucceeded
  refine ⟨same, ?_, ?_⟩
  · rw [selected, otherSelected]
    exact alike.values
  · rw [counted, otherCounted]
    exact alike.values

end Statements

end RecordFilter
