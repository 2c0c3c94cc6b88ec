import RecordFilter.Composition
import RecordFilter.Proofs.Registry
import RecordFilter.Proofs.Specification.Query
import RecordFilter.Proofs.Specification.Truth

set_option autoImplicit false

namespace RecordFilter

section Meaning

variable (value : Nat → Truth)

def nextTruths : List Connector → StateM Nat (List (Connector × Option Truth))
  | [] => return []
  | connector :: rest => do
    let position ← get
    set (position + 1)
    return (connector, some (value position)) :: (← nextTruths rest)

def Repetition.meaning (first : StateM Nat (Option Truth)) : Repetition → Nat → StateM Nat (Option Truth)
  | _, 0 => first
  | negate, count + 1 => return (← meaning first negate count).map Truth.neg
  | group, count + 1 => meaning first group count
  | extend connector, count + 1 => do
    let reached ← meaning first (extend connector) count
    return Option.merge connector.truth reached (← first)
  | precede connector, count + 1 => do
    let again ← first
    return Option.merge connector.truth again (← meaning first (precede connector) count)

def Step.accepted (settings : Settings) : Step → List Predicate
  | .offer given => given.predicates settings
  | .append filter => filter.predicates
  | _ => []

mutual
def Composition.meaning : Composition → StateM Nat (Option Truth)
  | .unrestricted => return none
  | .filter filter => return folded (← nextTruths value (filter.predicates.map fun _ => .and))
  | .connect left connector right => do
    let first ← left.meaning
    return Option.merge connector.truth first (← right.meaning)
  | .negation inner => return (← inner.meaning).map Truth.neg
  | .repeated repetition count first => repetition.meaning first.meaning count
  | .composed settings steps => do
    let singles ← nextTruths value ((steps.flatMap (Step.accepted settings)).map fun predicate => predicate.options.connector)
    return folded (singles ++ (← Step.groupMeanings steps))

def Step.groupMeaning : Step → StateM Nat (List (Connector × Option Truth))
  | .group connector composition => return [(connector, ← composition.meaning)]
  | _ => return []

def Step.groupMeanings : List Step → StateM Nat (List (Connector × Option Truth))
  | [] => return []
  | step :: rest => return (← step.groupMeaning) ++ (← Step.groupMeanings rest)
end

-- The action numbers its predicates from `start` on, and ends at the number that is free then.
def numbered {α : Type} (action : StateM Nat α) (start : Nat) : α × Nat := action.run start

theorem numbered_bind {α β : Type} (action : StateM Nat α) (next : α → StateM Nat β) (start : Nat) :
    numbered (action >>= next) start = numbered (next (numbered action start).1) (numbered action start).2 := rfl

theorem numbered_pure {α : Type} (result : α) (start : Nat) : numbered (pure result) start = (result, start) := rfl

def Means (action : StateM Nat (Option Truth)) (specification : Specification) : Prop :=
  ∀ start, numbered action start = (specification.truth value start, start + specification.size)

theorem nextTruths_numbered (predicates : List Predicate) (connector : Predicate → Connector)
    (change : Predicate → Predicate) (start : Nat) :
    let units := predicates.map fun predicate => (connector predicate, Specification.ofPredicate (change predicate))
    numbered (nextTruths value (predicates.map connector)) start =
      (Specification.unitTruths value start units, start + Specification.unitsSize units) := by
  induction predicates generalizing start with
  | nil => rfl
  | cons predicate rest ih =>
    have step : numbered (nextTruths value ((predicate :: rest).map connector)) start =
        ((connector predicate, some (value start)) :: (numbered (nextTruths value (rest.map connector)) (start + 1)).1,
          (numbered (nextTruths value (rest.map connector)) (start + 1)).2) := rfl
    rw [step, ih (start + 1)]
    refine Prod.ext rfl ?_
    exact Nat.add_assoc start 1 _

variable {value}

theorem Means.connect {first second : StateM Nat (Option Truth)} {left right : Specification} (connector : Connector)
    (meansLeft : Means value first left) (meansRight : Means value second right) :
    Means value (do return Option.merge connector.truth (← first) (← second)) (left.connect connector right) := by
  intro start
  rw [numbered_bind, numbered_bind, numbered_pure, meansLeft, meansRight, Specification.truth_connect,
    Specification.size_connect, Nat.add_assoc]

theorem Means.negated {action : StateM Nat (Option Truth)} {specification : Specification}
    (means : Means value action specification) :
    Means value (do return (← action).map Truth.neg) specification.negated := by
  intro start
  rw [numbered_bind, numbered_pure, means, Specification.truth_negated, Specification.size_negated]

theorem Means.grouped {action : StateM Nat (Option Truth)} {specification : Specification}
    (means : Means value action specification) : Means value action specification.grouped := by
  intro start
  rw [means, Specification.truth_grouped, Specification.size_grouped]

theorem Means.rounds {action : StateM Nat (Option Truth)} {first : Specification} (means : Means value action first)
    (repetition : Repetition) (count : Nat) : Means value (repetition.meaning action count) (repetition.rounds first count) := by
  induction count with
  | zero => cases repetition <;> exact means
  | succ count ih =>
    cases repetition with
    | negate => exact ih.negated
    | group => exact ih.grouped
    | extend connector => exact ih.connect connector means
    | precede connector => exact means.connect connector ih

theorem Step.accepted_distinct (settings : Settings) (flag : Bool) (step : Step) :
    step.accepted (settings.set (.distinct flag)) = step.accepted settings := by
  cases step with
  | offer offer => cases offer <;> rfl
  | _ => rfl

def Step.groups : Step → List (Connector × Specification)
  | .group connector composition => [(connector, composition.specification)]
  | _ => []

theorem Step.apply_eq (step : Step) (composer : Composer) :
    (step.apply composer).predicates = composer.predicates ++ step.accepted composer.settings ∧
    (step.apply composer).groups = composer.groups ++ step.groups ∧
    ∀ other : Step, other.accepted (step.apply composer).settings = other.accepted composer.settings := by
  cases step with
  | offer offer => exact ⟨rfl, (List.append_nil _).symm, fun _ => rfl⟩
  | append filter => exact ⟨rfl, (List.append_nil _).symm, fun _ => rfl⟩
  | distinct flag => exact ⟨(List.append_nil _).symm, (List.append_nil _).symm, accepted_distinct composer.settings flag⟩
  | absentGroup => exact ⟨(List.append_nil _).symm, (List.append_nil _).symm, fun _ => rfl⟩
  | group connector composition => exact ⟨(List.append_nil _).symm, rfl, fun _ => rfl⟩

theorem Step.applyAll_eq (steps : List Step) (composer : Composer) :
    (applyAll composer steps).predicates = composer.predicates ++ steps.flatMap (accepted composer.settings) ∧
    (applyAll composer steps).groups = composer.groups ++ steps.flatMap groups := by
  induction steps generalizing composer with
  | nil => exact ⟨(List.append_nil _).symm, (List.append_nil _).symm⟩
  | cons step rest ih =>
    obtain ⟨predicates, groups, same⟩ := step.apply_eq composer
    obtain ⟨morePredicates, moreGroups⟩ := ih (step.apply composer)
    have sameAccepted : accepted (step.apply composer).settings = accepted composer.settings := funext same
    refine ⟨?_, ?_⟩
    · rw [applyAll, morePredicates, predicates, sameAccepted, List.flatMap_cons, List.append_assoc]
    · rw [applyAll, moreGroups, groups, List.flatMap_cons, List.append_assoc]

theorem Specification.unitTruths_grouped (units : List (Connector × Specification)) (start : Nat) :
    unitTruths value start (units.map fun unit => (unit.1, unit.2.grouped)) = unitTruths value start units := by
  induction units generalizing start with
  | nil => rfl
  | cons unit rest ih => rw [List.map_cons, unitTruths, ih, truth_grouped, size_grouped, unitTruths]

theorem Specification.unitsSize_grouped (units : List (Connector × Specification)) :
    unitsSize (units.map fun unit => (unit.1, unit.2.grouped)) = unitsSize units := by
  induction units with
  | nil => rfl
  | cons unit rest ih => rw [List.map_cons, unitsSize, ih, size_grouped, unitsSize]

theorem Specification.unitsSize_append (first second : List (Connector × Specification)) :
    unitsSize (first ++ second) = unitsSize first + unitsSize second := by
  induction first with
  | nil => exact (Nat.zero_add _).symm
  | cons unit rest ih => rw [List.cons_append, unitsSize, ih, unitsSize, Nat.add_assoc]

mutual
theorem Composition.meaning_means (composition : Composition) :
    Means value (composition.meaning value) composition.specification := by
  cases composition with
  | unrestricted => exact fun start => rfl
  | filter filter =>
    intro start
    have singles := nextTruths_numbered value filter.predicates (fun _ => .and) id start
    rw [Composition.meaning, numbered_bind, numbered_pure, singles, Composition.specification, Specification.ofPredicates,
      Specification.truth_ofUnits, Specification.size_ofUnits]
    rfl
  | connect left connector right => exact left.meaning_means.connect connector right.meaning_means
  | negation inner => exact inner.meaning_means.negated
  | repeated repetition count first => exact first.meaning_means.rounds repetition count
  | composed settings steps =>
    intro start
    obtain ⟨predicates, groups⟩ := Step.applyAll_eq steps { settings }
    have singles := nextTruths_numbered value (steps.flatMap (Step.accepted settings)) (fun predicate => predicate.options.connector)
      (Predicate.withDistinct (Step.applyAll { settings } steps).settings.distinct) start
    rw [Composition.meaning, numbered_bind, singles, numbered_bind, Step.groupMeanings_numbered, numbered_pure,
      Composition.specification, Composer.build, Composer.predicateUnits, Composer.groupUnits, predicates, groups,
      Specification.truth_ofUnits, Specification.size_ofUnits, Specification.unitTruths_append,
      Specification.unitsSize_append, Specification.unitTruths_grouped, Specification.unitsSize_grouped, Nat.add_assoc]
    rfl

theorem Step.groupMeaning_numbered (step : Step) (start : Nat) :
    numbered (step.groupMeaning value) start = (Specification.unitTruths value start step.groups,
      start + Specification.unitsSize step.groups) := by
  cases step with
  | group connector composition =>
    rw [Step.groupMeaning, numbered_bind, numbered_pure, composition.meaning_means]
    rfl
  | _ => rfl

theorem Step.groupMeanings_numbered (steps : List Step) (start : Nat) :
    numbered (Step.groupMeanings value steps) start = (Specification.unitTruths value start (steps.flatMap Step.groups),
      start + Specification.unitsSize (steps.flatMap Step.groups)) := by
  cases steps with
  | nil => rfl
  | cons step rest =>
    rw [Step.groupMeanings, numbered_bind, Step.groupMeaning_numbered, numbered_bind, Step.groupMeanings_numbered rest,
      numbered_pure, List.flatMap_cons, Specification.unitTruths_append, Specification.unitsSize_append, Nat.add_assoc]
end

end Meaning

def Composition.truth (composition : Composition) (value : Nat → Truth) : Option Truth :=
  (numbered (composition.meaning value) 0).1

theorem Composition.truth_eq (composition : Composition) (value : Nat → Truth) :
    composition.truth value = composition.specification.truth value 0 :=
  congrArg Prod.fst (composition.meaning_means 0)

theorem Query.filterText_empty (query : Query) (params : Params) :
    (query.filterText.run params).1 = "" ↔ query.filter = none := by
  obtain ⟨schema, scope, filter, order⟩ := query
  cases filter with
  | none => exact ⟨fun _ => rfl, fun _ => rfl⟩
  | some condition =>
    have text : (filterText ⟨schema, scope, some condition, order⟩ |>.run params).1 =
        " WHERE " ++ (condition.render.run params).1 := rfl
    rw [text]
    constructor
    · intro empty
      have length := congrArg String.length empty
      rw [String.length_append] at length
      exact absurd length (by simp)
    · intro absent
      cases absent

theorem Query.filter_has_meaning {schema : Schema} {composition : Composition} {root : String} {query : Query}
    (resolved : composition.specification.query schema root = .ok query) :
    ∃ entity conditions outline, schema.entity root = .ok entity ∧
      (composition.specification.predicates.mapM (Predicate.resolve schema)).outcome
        { table := entity.table, entity := entity.name } = (.ok conditions, query.scope) ∧
      query.filter = Option.map (Outline.condition fun position => conditions.getD position .always) outline ∧
      (∀ shape ∈ outline, shape.positions = List.range conditions.length) ∧
      (∀ value, Option.map (Outline.truth value) outline = composition.truth value) ∧
      (∀ atom, query.filter.map (Condition.truth atom) =
        composition.truth fun position => (conditions.getD position .always).truth atom) ∧
      (∀ value, query.filter = none ↔ composition.truth value = none) ∧
      ∀ value params, (query.filterText.run params).1 = "" ↔ composition.truth value = none := by
  obtain ⟨entity, conditions, found, parts⟩ := Specification.query_resolved resolved
  have truths (value : Nat → Truth) : Option.map (Outline.truth value)
      (composition.specification.restriction.map (Restriction.outline 0)) = composition.truth value := by
    rw [composition.truth_eq, Option.map_map]
    rfl
  have filter : query.filter = Option.map (Outline.condition fun position => conditions.getD position .always)
      (composition.specification.restriction.map (Restriction.outline 0)) := by
    rw [parts.filter, Option.map_map]
    rfl
  have absent (value : Nat → Truth) : query.filter = none ↔ composition.truth value = none := by
    rw [filter, ← truths]
    simp only [Option.map_eq_none_iff]
  refine ⟨entity, conditions, composition.specification.restriction.map (Restriction.outline 0), found, parts.each, filter,
    ?_, truths, fun atom => ?_, absent, fun value params => (query.filterText_empty params).trans (absent value)⟩
  · intro shape member
    obtain ⟨restriction, restricts, rfl⟩ := Option.map_eq_some_iff.mp member
    have width := Resolve.mapM_length parts.each
    rw [Specification.predicates, restricts] at width
    rw [restriction.positions_outline, ← width, List.range_eq_range']
  · rw [filter, ← truths, Option.map_map]
    congr 1
    funext outline
    exact outline.truth_condition atom _

def taggedBooks : Composition :=
  .composed {} [
    .group .and (.connect (.filter (.null ⟨["author"]⟩ [])) .or (.filter (.equal ⟨["author", "name"]⟩ (.text "Ada") []))),
    .offer (.equal ⟨["tags"]⟩ (some (.text "logic")) [])]

theorem Query.filter_has_meaning_books :
    ∃ query condition, taggedBooks.specification.query books.schema "Book" = .ok query ∧ query.filter = some condition ∧
      ∃ conditions : List Condition, ∀ atom, some (condition.truth atom) =
        taggedBooks.truth fun position => (conditions.getD position .always).truth atom := by
  have resolved : taggedBooks.specification.query books.schema "Book" = .ok _ := rfl
  obtain ⟨entity, conditions, outline, _, _, _, _, _, truths, _⟩ := Query.filter_has_meaning resolved
  exact ⟨_, _, resolved, rfl, conditions, truths⟩

end RecordFilter
