import RecordFilter.Proofs.Scope.History

set_option autoImplicit false

namespace RecordFilter

variable {α β : Type}

inductive Outline where
  | predicate (position : Nat)
  | all (parts : List Outline)
  | any (parts : List Outline)
  | negation (inner : Outline)
  | group (inner : Outline)

namespace Outline

mutual
def condition (resolved : Nat → Condition) : Outline → Condition
  | predicate position => resolved position
  | all parts => .all (conditions resolved parts)
  | any parts => .any (conditions resolved parts)
  | negation inner => .negation (inner.condition resolved)
  | group inner => .group (inner.condition resolved)

def conditions (resolved : Nat → Condition) : List Outline → List Condition
  | [] => []
  | part :: rest => part.condition resolved :: conditions resolved rest
end

mutual
def positions : Outline → List Nat
  | predicate position => [position]
  | all parts | any parts => positionsOf parts
  | negation inner | group inner => inner.positions

def positionsOf : List Outline → List Nat
  | [] => []
  | part :: rest => part.positions ++ positionsOf rest
end

end Outline

namespace Restriction

def list : Connector → List Restriction → Restriction
  | .and => all
  | .or => any

theorem predicates_list (connector : Connector) (parts : List Restriction) :
    (list connector parts).predicates = predicatesOf parts := by
  cases connector <;> rfl

def connector? : Restriction → Option Connector
  | all _ => some .and
  | any _ => some .or
  | _ => none

-- A run of one connector is kept as one list, which grows at its end; anything else begins a list of two.
theorem connect_cases (left : Restriction) (connector : Connector) (right : Restriction) :
    (∃ parts, left = list connector parts ∧ left.connect connector right = list connector (parts ++ [right])) ∨
      left.connector? ≠ some connector ∧ left.connect connector right = list connector [left, right] := by
  cases left with
  | all parts =>
    cases connector with
    | and => exact .inl ⟨parts, rfl, rfl⟩
    | or => exact .inr ⟨nofun, rfl⟩
  | any parts =>
    cases connector with
    | and => exact .inr ⟨nofun, rfl⟩
    | or => exact .inl ⟨parts, rfl, rfl⟩
  | _ => cases connector <;> exact .inr ⟨nofun, rfl⟩

mutual
def outline (start : Nat) : Restriction → Outline
  | predicate _ => .predicate start
  | all parts => .all (outlines start parts)
  | any parts => .any (outlines start parts)
  | negation inner => .negation (inner.outline start)
  | group inner => .group (inner.outline start)

def outlines (start : Nat) : List Restriction → List Outline
  | [] => []
  | part :: rest => part.outline start :: outlines (start + part.predicates.length) rest
end

mutual
theorem positions_outline (restriction : Restriction) (start : Nat) :
    (restriction.outline start).positions = List.range' start restriction.predicates.length := by
  cases restriction with
  | predicate single => rfl
  | all parts | any parts => exact positions_outlines parts start
  | negation inner | group inner => exact positions_outline inner start

theorem positions_outlines (parts : List Restriction) (start : Nat) :
    Outline.positionsOf (outlines start parts) = List.range' start (predicatesOf parts).length := by
  cases parts with
  | nil => rfl
  | cons part rest =>
    rw [outlines, Outline.positionsOf, positions_outline part start, positions_outlines rest, predicatesOf,
      List.length_append, List.range'_append_1]
end

end Restriction

namespace Resolve

theorem mapM_cons_ok {action : α → Resolve Scope β} {item : α} {rest : List α} {scope after : Scope} {values : List β}
    (succeeded : ((item :: rest).mapM action).outcome scope = (.ok values, after)) :
    ∃ value between others, (action item).outcome scope = (.ok value, between) ∧
      (rest.mapM action).outcome between = (.ok others, after) ∧ values = value :: others := by
  rw [List.mapM_cons] at succeeded
  obtain ⟨value, between, first, onward⟩ := outcome_bind_ok succeeded
  obtain ⟨others, last, second, finished⟩ := outcome_bind_ok onward
  rw [outcome_pure, Prod.mk.injEq, Except.ok.injEq] at finished
  obtain ⟨rfl, rfl⟩ := finished
  exact ⟨value, between, others, first, second, rfl⟩

theorem mapM_length {action : α → Resolve Scope β} {items : List α} {scope after : Scope} {values : List β}
    (succeeded : (items.mapM action).outcome scope = (.ok values, after)) : values.length = items.length := by
  induction items generalizing scope values with
  | nil =>
    rw [List.mapM_nil, outcome_pure, Prod.mk.injEq, Except.ok.injEq] at succeeded
    rw [← succeeded.1]
    rfl
  | cons item rest ih =>
    obtain ⟨value, between, others, _, onward, rfl⟩ := mapM_cons_ok succeeded
    simp [ih onward]

theorem mapM_append_ok {action : α → Resolve Scope β} {first second : List α} {scope between after : Scope}
    {left right : List β} (earlier : (first.mapM action).outcome scope = (.ok left, between))
    (later : (second.mapM action).outcome between = (.ok right, after)) :
    ((first ++ second).mapM action).outcome scope = (.ok (left ++ right), after) := by
  rw [List.mapM_append, outcome_bind, earlier]
  simp only [outcome_bind, later, outcome_pure]

theorem mapM_append_parts {action : α → Resolve Scope β} {first second : List α} {scope after : Scope} {values : List β}
    (succeeded : ((first ++ second).mapM action).outcome scope = (.ok values, after)) :
    ∃ left between right, (first.mapM action).outcome scope = (.ok left, between) ∧
      (second.mapM action).outcome between = (.ok right, after) ∧ values = left ++ right := by
  rw [List.mapM_append] at succeeded
  obtain ⟨left, between, earlier, onward⟩ := outcome_bind_ok succeeded
  obtain ⟨right, last, later, finished⟩ := outcome_bind_ok onward
  rw [outcome_pure, Prod.mk.injEq, Except.ok.injEq] at finished
  obtain ⟨rfl, rfl⟩ := finished
  exact ⟨left, between, right, earlier, later, rfl⟩

end Resolve

namespace Restriction

variable {schema : Schema}

-- By induction on the tree, for every place of its first predicate: what stands to the left of a part only moves it.
mutual
theorem resolve_outline (restriction : Restriction) (start : Nat) {scope after : Scope} {condition : Condition}
    (succeeded : (restriction.resolve schema).outcome scope = (.ok condition, after)) :
    ∃ conditions, (restriction.predicates.mapM (Predicate.resolve schema)).outcome scope = (.ok conditions, after) ∧
      ∀ resolved : Nat → Condition, (∀ index (bound : index < conditions.length),
        resolved (start + index) = conditions[index]) → condition = (restriction.outline start).condition resolved := by
  cases restriction with
  | predicate single =>
    refine ⟨[condition], ?_, fun resolved agrees => ?_⟩
    · rw [resolve] at succeeded
      simp only [predicates, List.mapM_cons, List.mapM_nil, Resolve.outcome_bind, succeeded, Resolve.outcome_pure]
    · exact (agrees 0 Nat.zero_lt_one).symm
  | all parts | any parts =>
    rw [resolve] at succeeded
    obtain ⟨found, between, first, finished⟩ := Resolve.outcome_bind_ok succeeded
    rw [Resolve.outcome_pure, Prod.mk.injEq, Except.ok.injEq] at finished
    obtain ⟨rfl, rfl⟩ := finished
    obtain ⟨conditions, each, placed⟩ := resolveParts_outlines parts start first
    refine ⟨conditions, each, fun resolved agrees => ?_⟩
    rw [placed resolved agrees, outline, Outline.condition]
  | negation inner | group inner =>
    rw [resolve] at succeeded
    obtain ⟨found, between, first, finished⟩ := Resolve.outcome_bind_ok succeeded
    rw [Resolve.outcome_pure, Prod.mk.injEq, Except.ok.injEq] at finished
    obtain ⟨rfl, rfl⟩ := finished
    obtain ⟨conditions, each, placed⟩ := resolve_outline inner start first
    refine ⟨conditions, each, fun resolved agrees => ?_⟩
    simp only [placed resolved agrees, outline, Outline.condition, Condition.negate]

theorem resolveParts_outlines (parts : List Restriction) (start : Nat) {scope after : Scope} {found : List Condition}
    (succeeded : (resolveParts schema parts).outcome scope = (.ok found, after)) :
    ∃ conditions, ((predicatesOf parts).mapM (Predicate.resolve schema)).outcome scope = (.ok conditions, after) ∧
      ∀ resolved : Nat → Condition, (∀ index (bound : index < conditions.length),
        resolved (start + index) = conditions[index]) → found = Outline.conditions resolved (outlines start parts) := by
  cases parts with
  | nil =>
    rw [resolveParts, Resolve.outcome_pure, Prod.mk.injEq, Except.ok.injEq] at succeeded
    obtain ⟨rfl, rfl⟩ := succeeded
    exact ⟨[], rfl, fun _ _ => rfl⟩
  | cons part rest =>
    rw [resolveParts] at succeeded
    obtain ⟨head, between, first, onward⟩ := Resolve.outcome_bind_ok succeeded
    obtain ⟨tail, last, second, finished⟩ := Resolve.outcome_bind_ok onward
    rw [Resolve.outcome_pure, Prod.mk.injEq, Except.ok.injEq] at finished
    obtain ⟨rfl, rfl⟩ := finished
    obtain ⟨left, eachLeft, placedLeft⟩ := resolve_outline part start first
    obtain ⟨right, eachRight, placedRight⟩ := resolveParts_outlines rest (start + part.predicates.length) second
    refine ⟨left ++ right, Resolve.mapM_append_ok eachLeft eachRight, fun resolved agrees => ?_⟩
    have width := Resolve.mapM_length eachLeft
    have here : head = (part.outline start).condition resolved := by
      refine placedLeft resolved fun index bound => ?_
      rw [agrees index (by rw [List.length_append]; omega), List.getElem_append_left bound]
    have there : tail = Outline.conditions resolved (outlines (start + part.predicates.length) rest) := by
      refine placedRight resolved fun index bound => ?_
      rw [Nat.add_assoc, agrees (part.predicates.length + index) (by rw [List.length_append]; omega),
        List.getElem_append_right (by omega)]
      congr 1
      omega
    rw [here, there, outlines, Outline.conditions]
end

end Restriction

end RecordFilter
