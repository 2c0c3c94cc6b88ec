import RecordFilter.Proofs.Registry
import RecordFilter.Proofs.Scope.History
import RecordFilter.Proofs.Specification.Alike

set_option autoImplicit false

namespace RecordFilter

inductive Predicate.Supplied : Predicate → Prop where
  | filter {predicate : Predicate} (filter : Filter) (member : predicate ∈ filter.predicates) : Supplied predicate
  | offer {predicate : Predicate} (settings : Settings) (offer : Offer) (member : predicate ∈ offer.predicates settings) :
      Supplied predicate
  | distinct {predicate : Predicate} (flag : Bool) (supplied : Supplied predicate) : Supplied (predicate.withDistinct flag)

def Predicate.IsUnit (predicate : Predicate) : Prop :=
  ∀ column, (predicate.test.condition column predicate.options.negated).connector? = none

theorem RangeForm.connector?_side (column : Column) (negated : Bool) (ends : Range Value) (sign : Sign) :
    ((side sign).condition column negated ends).connector? = none := by
  rw [condition]
  cases sign.operand ends with
  | none => rfl
  | some value => cases negated <;> rfl

theorem RangeForm.connector?_between (column : Column) (negated : Bool) (ends : Range Value) :
    (between.condition column negated ends).connector? = none := by
  rw [condition]
  cases ends.low <;> cases ends.high <;> rfl

theorem RangeForm.connector?_span (column : Column) (ends : Range Value) (lower upper : Sign) :
    ((span lower upper).condition column true ends).connector? = none := by
  rw [condition]
  cases lower.operand ends <;> cases upper.operand ends <;> rfl

theorem RangeDraft.Yields.isUnit {draft : RangeDraft} {form : RangeForm} (yields : draft.Yields form) :
    (draft.withForm form).IsUnit := by
  intro column
  cases yields with
  | between closed => exact RangeForm.connector?_between column _ _
  | span negated closed =>
    rw [withForm, negated]
    exact RangeForm.connector?_span column _ _ _
  | low present | high present => exact RangeForm.connector?_side column _ _ _

theorem Predicate.Drafted.isUnit {predicate : Predicate} (drafted : predicate.Drafted) : predicate.IsUnit := by
  cases drafted with
  | range draft form yields => exact yields.isUnit
  | side draft sign => exact fun column => RangeForm.connector?_side column _ _ sign
  | _ => exact fun _ => rfl

theorem Predicate.Supplied.isUnit {predicate : Predicate} (supplied : predicate.Supplied) : predicate.IsUnit := by
  induction supplied with
  | filter filter member => exact (filter.predicates_drafted _ member).isUnit
  | offer settings offer member => exact (offer.predicates_drafted settings _ member).isUnit
  | distinct flag supplied ih => exact ih

namespace Condition

theorem connect_list (connector : Connector) (parts : List Condition) (right : Condition) :
    (list connector parts).connect connector right = list connector (parts ++ [right]) := by
  cases connector <;> rfl

theorem connect_pair {left : Condition} {connector : Connector} (other : left.connector? ≠ some connector)
    (right : Condition) : left.connect connector right = list connector [left, right] := by
  cases left with
  | all parts =>
    cases connector with
    | and => exact absurd rfl other
    | or => rfl
  | any parts =>
    cases connector with
    | and => rfl
    | or => exact absurd rfl other
  | _ => cases connector <;> rfl

end Condition

namespace Resolve

variable {α β : Type}

theorem bind_congr {action : Resolve Scope α} {next other : α → Resolve Scope β}
    (same : ∀ scope value after, action.outcome scope = (.ok value, after) → next value = other value) :
    action >>= next = action >>= other := by
  have outcomes (scope : Scope) : (action >>= next).outcome scope = (action >>= other).outcome scope := by
    rw [outcome_bind, outcome_bind]
    rcases resolved : action.outcome scope with ⟨outcome, after⟩
    cases outcome with
    | error error => rfl
    | ok value => exact congrArg (fun onward => onward.outcome after) (same scope value after resolved)
  exact funext outcomes

end Resolve

namespace Restriction

theorem connector?_resolved {restriction : Restriction} (supplied : ∀ predicate ∈ restriction.predicates, predicate.Supplied)
    {schema : Schema} {scope after : Scope} {condition : Condition}
    (resolved : (restriction.resolve schema).outcome scope = (.ok condition, after)) :
    condition.connector? = restriction.connector? := by
  cases restriction with
  | predicate single =>
    obtain ⟨column, rfl⟩ := Predicate.resolve_test resolved
    exact (supplied single (List.mem_singleton_self single)).isUnit column
  | all parts | any parts | negation inner | group inner =>
    obtain ⟨_, _, _, finished⟩ := Resolve.outcome_bind_ok resolved
    cases finished
    rfl

theorem resolve_connect {left : Restriction} (supplied : ∀ predicate ∈ left.predicates, predicate.Supplied)
    (connector : Connector) (right : Restriction) (schema : Schema) :
    (left.connect connector right).resolve schema = do
      let first ← left.resolve schema
      let second ← right.resolve schema
      return first.connect connector second := by
  obtain ⟨parts, rfl, flat⟩ | ⟨other, pair⟩ := left.connect_cases connector right
  · simp only [flat, resolve_list, resolveParts_concat, map_eq_pure_bind, bind_assoc, pure_bind, Condition.connect_list]
  · simp only [pair, resolve_list, resolveParts, map_eq_pure_bind, bind_assoc, pure_bind]
    refine Resolve.bind_congr fun scope first after resolved => ?_
    rw [← connector?_resolved supplied resolved] at other
    simp only [Condition.connect_pair other]

end Restriction

namespace Specification

def Supplied (specification : Specification) : Prop := ∀ predicate ∈ specification.predicates, predicate.Supplied

theorem resolve_connect {left : Specification} (supplied : left.Supplied) (connector : Connector) (right : Specification)
    (schema : Schema) :
    (left.connect connector right).resolve schema = do
      let first ← left.resolve schema
      let second ← right.resolve schema
      return Option.merge (fun first second => first.connect connector second) first second := by
  obtain ⟨first⟩ := left
  obtain ⟨second⟩ := right
  cases first with
  | none => cases second <;> simp [connect, resolve]
  | some first =>
    cases second with
    | none => simp [connect, resolve]
    | some second =>
      have restrictions := first.resolve_connect supplied connector second schema
      simp [connect, resolve, restrictions]

theorem resolve_negated (specification : Specification) (schema : Schema) :
    specification.negated.resolve schema = Option.map Condition.negate <$> specification.resolve schema := by
  obtain ⟨restriction⟩ := specification
  cases restriction <;> simp [negated, resolve, Restriction.resolve]

theorem Supplied.connect {left right : Specification} (supplied : left.Supplied) (connector : Connector)
    (more : right.Supplied) : (left.connect connector right).Supplied := by
  rw [Supplied, predicates_connect]
  exact List.forall_mem_append.mpr ⟨supplied, more⟩

theorem Supplied.negated {specification : Specification} (supplied : specification.Supplied) :
    specification.negated.Supplied := by
  rw [Supplied, predicates_negated]
  exact supplied

end Specification

namespace Composer

structure Supplied (composer : Composer) : Prop where
  predicates : ∀ predicate ∈ composer.predicates, predicate.Supplied
  groups : ∀ group ∈ composer.groups, group.2.Supplied

theorem supplied_start (settings : Settings) : Supplied { settings } :=
  ⟨List.forall_mem_nil _, List.forall_mem_nil _⟩

theorem Supplied.append {composer : Composer} (supplied : composer.Supplied) {predicates : List Predicate}
    (more : ∀ predicate ∈ predicates, predicate.Supplied) : (composer.append predicates).Supplied :=
  ⟨List.forall_mem_append.mpr ⟨supplied.predicates, more⟩, supplied.groups⟩

theorem Supplied.addGroup {composer : Composer} (supplied : composer.Supplied) (connector : Connector)
    {group : Specification} (suppliedGroup : group.Supplied) : (composer.addGroup connector (some group)).Supplied :=
  ⟨supplied.predicates, List.forall_mem_append.mpr ⟨supplied.groups, List.forall_mem_singleton.mpr suppliedGroup⟩⟩

theorem Supplied.build {composer : Composer} (supplied : composer.Supplied) : composer.build.Supplied := by
  rw [Specification.Supplied, predicates_build]
  refine List.forall_mem_append.mpr ⟨List.forall_mem_map.mpr fun predicate member => ?_, fun predicate member => ?_⟩
  · exact .distinct composer.settings.distinct (supplied.predicates predicate member)
  · obtain ⟨group, held, inside⟩ := List.mem_flatMap.mp member
    exact supplied.groups group held predicate inside

end Composer

theorem Repetition.rounds_supplied (repetition : Repetition) {first : Specification} (supplied : first.Supplied)
    (count : Nat) : (repetition.rounds first count).Supplied := by
  induction count with
  | zero => exact supplied
  | succ count ih =>
    cases repetition with
    | negate => exact ih.negated
    | group => exact ((Composer.supplied_start {}).addGroup .and ih).build
    | extend connector => exact ih.connect connector supplied
    | precede connector => exact supplied.connect connector ih

mutual
theorem Composition.specification_supplied (composition : Composition) : composition.specification.Supplied := by
  cases composition with
  | unrestricted => exact List.forall_mem_nil _
  | filter filter =>
    rw [Composition.specification, Specification.Supplied, Specification.predicates_ofPredicates]
    exact fun predicate member => .filter filter member
  | connect left connector right =>
    exact left.specification_supplied.connect connector right.specification_supplied
  | negation inner => exact inner.specification_supplied.negated
  | repeated repetition count first => exact repetition.rounds_supplied first.specification_supplied count
  | composed settings steps => exact (Step.applyAll_supplied steps (Composer.supplied_start settings)).build

theorem Step.apply_supplied (step : Step) {composer : Composer} (supplied : composer.Supplied) :
    (step.apply composer).Supplied := by
  cases step with
  | offer offer => exact supplied.append fun predicate member => .offer composer.settings offer member
  | append filter => exact supplied.append fun predicate member => .filter filter member
  | distinct flag => exact ⟨supplied.predicates, supplied.groups⟩
  | absentGroup => exact supplied
  | group connector composition => exact supplied.addGroup connector composition.specification_supplied

theorem Step.applyAll_supplied (steps : List Step) {composer : Composer} (supplied : composer.Supplied) :
    (Step.applyAll composer steps).Supplied := by
  cases steps with
  | nil => exact supplied
  | cons step rest => exact Step.applyAll_supplied rest (Step.apply_supplied step supplied)
end

/-- To resolve a connection is to resolve its left side, then its right side where the left one ended, and to connect the
two conditions; it fails where one of them fails. To resolve a negation is to negate the condition. The left side may be
any specification whose predicates filters have yielded, and so any that a composition builds. -/
theorem Specification.resolved_connection (connector : Connector) (schema : Schema) :
    (∀ left right : Specification, left.Supplied →
      (left.connect connector right).resolve schema = do
        let first ← left.resolve schema
        let second ← right.resolve schema
        return Option.merge (fun first second => first.connect connector second) first second) ∧
    (∀ specification : Specification,
      specification.negated.resolve schema = Option.map Condition.negate <$> specification.resolve schema) ∧
    ∀ composition : Composition, composition.specification.Supplied :=
  ⟨fun _ right supplied => resolve_connect supplied connector right schema, fun specification =>
    specification.resolve_negated schema, Composition.specification_supplied⟩

theorem Specification.resolved_connection_books :
    let apart := Specification.ofPredicates
      (Filter.range ⟨["author"]⟩ ⟨some (.integer 10), some (.integer 20)⟩ [.options .negate]).predicates
    let named := Specification.ofPredicates (Filter.equal ⟨["author", "name"]⟩ (.text "Ada") []).predicates
    apart.Supplied ∧ ∃ low high name after,
      ((apart.connect .and named).resolve books.schema).outcome { table := "books", entity := "Book" } =
        (.ok (some (.all [.negation (.all [low, high]), name])), after) := by
  intro apart named
  obtain ⟨connects, _, supplies⟩ := resolved_connection .and books.schema
  have supplied : apart.Supplied := supplies (.filter (.range ⟨["author"]⟩ _ [.options .negate]))
  refine ⟨supplied, ?_⟩
  rw [connects apart named supplied]
  exact ⟨_, _, _, _, rfl⟩

end RecordFilter
