import RecordFilter.Proofs.Composer.Omission
import RecordFilter.Proofs.Specification.Built
import RecordFilter.Proofs.Specification.Query
import RecordFilter.Proofs.Statement.Template

set_option autoImplicit false

namespace RecordFilter

-- The connector of a list decides whether its text needs parentheses among the parts of another.
structure Wording where
  connector : Option Connector
  template : Template
deriving DecidableEq

namespace Wording

def part (outer : Connector) (wording : Wording) : Template :=
  if wording.connector.any (· != outer) then wording.template.enclosed else wording.template

def connect (connector : Connector) (left right : Wording) : Wording :=
  ⟨some connector, left.part connector ++ .text connector.separator :: right.part connector⟩

def negated (wording : Wording) : Wording := ⟨none, .text "NOT " :: wording.template.enclosed⟩

def grouped (wording : Wording) : Wording := ⟨none, wording.template.enclosed⟩

theorem part_connect (connector : Connector) (left right : Wording) :
    (connect connector left right).part connector = (connect connector left right).template := by
  simp [part, connect]

theorem connect_assoc (connector : Connector) (first second third : Wording) :
    connect connector (connect connector first second) third = connect connector first (connect connector second third) := by
  rw [connect, part_connect, connect, connect, part_connect, connect]
  simp

end Wording

namespace Condition

def connector? : Condition → Option Connector
  | all _ => some .and
  | any _ => some .or
  | _ => none

def wording (condition : Condition) : Wording := ⟨condition.connector?, condition.template⟩

def list : Connector → List Condition → Condition
  | .and => all
  | .or => any

theorem wording_negate (condition : Condition) : condition.negate.wording = condition.wording.negated := rfl

theorem wording_group (condition : Condition) : (group condition).wording = condition.wording.grouped := rfl

theorem part_wording (outer : Connector) (condition : Condition) :
    condition.wording.part outer =
      if condition.needsParentheses outer then condition.template.enclosed else condition.template := by
  have same : condition.wording.connector.any (· != outer) = condition.needsParentheses outer := by
    cases outer <;> cases condition <;> rfl
  rw [Wording.part, same]
  rfl

theorem wording_list (connector : Connector) (parts : List Condition) :
    (list connector parts).wording = ⟨some connector, .joined connector.separator (templates connector parts)⟩ := by
  cases connector <;> rfl

theorem templates_append (outer : Connector) (first second : List Condition) :
    templates outer (first ++ second) = templates outer first ++ templates outer second := by
  induction first with
  | nil => rfl
  | cons part rest ih => rw [List.cons_append, templates, ih, templates, List.cons_append]

end Condition

theorem Template.joined_concat (separator : String) {templates : List Template} (nonempty : templates ≠ [])
    (last : Template) :
    joined separator (templates ++ [last]) = joined separator templates ++ .text separator :: last := by
  induction templates with
  | nil => exact absurd rfl nonempty
  | cons template rest ih =>
    cases rest with
    | nil => simp [joined]
    | cons second more =>
      have onward := ih (by simp)
      rw [joined, joined] at onward ⊢
      rw [List.cons_append, List.cons_append, List.intercalate_cons_cons, List.intercalate_cons_cons, ← List.cons_append,
        onward]
      simp

theorem Condition.wording_concat (connector : Connector) {parts : List Condition} (nonempty : parts ≠ [])
    (last : Condition) :
    (list connector (parts ++ [last])).wording = .connect connector (list connector parts).wording last.wording := by
  have some_parts : templates connector parts ≠ [] := by
    cases parts with
    | nil => exact absurd rfl nonempty
    | cons part rest => simp [templates]
  rw [wording_list, templates_append, templates, templates, ← part_wording, Template.joined_concat _ some_parts,
    Wording.connect, wording_list]
  simp [Wording.part]

theorem Condition.wording_pair (connector : Connector) (left right : Condition) :
    (list connector [left, right]).wording = .connect connector left.wording right.wording := by
  rw [wording_list, templates, templates, templates, ← part_wording, ← part_wording]
  simp [Template.joined, Wording.connect]

abbrev Reading := Schema → Resolve Scope Wording

namespace Reading

def connect (connector : Connector) (left right : Reading) : Reading := fun schema => do
  let first ← left schema
  let second ← right schema
  return first.connect connector second

def negated (reading : Reading) : Reading := fun schema => Wording.negated <$> reading schema

def grouped (reading : Reading) : Reading := fun schema => Wording.grouped <$> reading schema

theorem connect_assoc (connector : Connector) (first second third : Reading) :
    connect connector (connect connector first second) third = connect connector first (connect connector second third) := by
  funext schema
  simp only [connect, bind_assoc, pure_bind, Wording.connect_assoc]

def ofUnits (units : List (Connector × Option Reading)) : Option Reading :=
  units.foldl (fun folded unit => Option.merge (connect unit.1) folded unit.2) none

end Reading

namespace Restriction

def reading (restriction : Restriction) : Reading := fun schema => Condition.wording <$> restriction.resolve schema

theorem resolve_list (schema : Schema) (connector : Connector) (parts : List Restriction) :
    (list connector parts).resolve schema = Condition.list connector <$> resolveParts schema parts := by
  cases connector <;> simp [list, resolve, Condition.list]

theorem resolveParts_concat (schema : Schema) (parts : List Restriction) (last : Restriction) :
    resolveParts schema (parts ++ [last]) = do
      let conditions ← resolveParts schema parts
      let condition ← last.resolve schema
      return conditions ++ [condition] := by
  induction parts with
  | nil => simp [resolveParts]
  | cons part rest ih => simp [resolveParts, ih]

theorem reading_connect (left : Restriction) (connector : Connector) (right : Restriction) (built : left.Built) :
    (left.connect connector right).reading = .connect connector left.reading right.reading := by
  funext schema
  rcases left.connect_cases connector right with ⟨parts, rfl, flat⟩ | ⟨-, pair⟩
  · rw [flat]
    obtain ⟨first, rest, rfl⟩ := List.exists_cons_of_ne_nil (built_list.mp built).1
    simp only [reading, Reading.connect, resolve_list, resolveParts_concat, resolveParts, map_eq_pure_bind, bind_assoc,
      pure_bind, Condition.wording_concat connector (List.cons_ne_nil _ _)]
  · rw [pair]
    simp [reading, Reading.connect, resolve_list, resolveParts, Condition.wording_pair]

theorem reading_negated (inner : Restriction) : inner.negation.reading = inner.reading.negated := by
  funext schema
  simp [reading, Reading.negated, resolve, Condition.wording_negate]

theorem reading_grouped (inner : Restriction) : inner.group.reading = inner.reading.grouped := by
  funext schema
  simp [reading, Reading.grouped, resolve, Condition.wording_group]

end Restriction

namespace Specification

def reading (specification : Specification) : Option Reading := specification.restriction.map Restriction.reading

theorem reading_connect {left : Specification} (built : left.Built) (connector : Connector) (right : Specification) :
    (left.connect connector right).reading = Option.merge (.connect connector) left.reading right.reading := by
  obtain ⟨first⟩ := left
  obtain ⟨second⟩ := right
  cases first with
  | none => cases second <;> rfl
  | some first =>
    cases second with
    | none => rfl
    | some second => exact congrArg some (first.reading_connect connector second (built first rfl))

theorem reading_negated (specification : Specification) :
    specification.negated.reading = specification.reading.map Reading.negated := by
  obtain ⟨restriction⟩ := specification
  cases restriction with
  | none => rfl
  | some restriction => exact congrArg some restriction.reading_negated

theorem reading_grouped (specification : Specification) :
    specification.grouped.reading = specification.reading.map Reading.grouped := by
  obtain ⟨restriction⟩ := specification
  cases restriction with
  | none => rfl
  | some restriction => exact congrArg some restriction.reading_grouped

theorem reading_ofUnits {units : List (Connector × Specification)} (built : ∀ unit ∈ units, unit.2.Built) :
    (ofUnits units).reading = Reading.ofUnits (units.map fun unit => (unit.1, unit.2.reading)) := by
  -- For every beginning of the fold.
  have further (left : Specification) (builtLeft : left.Built) :
      (units.foldl (fun folded unit => folded.connect unit.1 unit.2) left).reading =
        (units.map fun unit => (unit.1, unit.2.reading)).foldl
          (fun folded unit => Option.merge (.connect unit.1) folded unit.2) left.reading := by
    induction units generalizing left with
    | nil => rfl
    | cons unit rest ih =>
      rw [List.forall_mem_cons] at built
      rw [List.foldl_cons, ih built.2 _ (connect_built unit.1 builtLeft built.1), reading_connect builtLeft, List.map_cons,
        List.foldl_cons]
  exact further unrestricted unrestricted_built

end Specification

def Agree {α β : Type} (related : α → β → Prop) : Except Error α → Except Error β → Prop
  | .ok result, .ok other => related result other
  | .error error, .error other => error = other
  | _, _ => False

namespace Agree

variable {α β γ δ : Type} {related : α → β → Prop} {relatedNext : γ → δ → Prop} {result : Except Error α}
  {other : Except Error β}

theorem ends (agree : Agree related result other) :
    (∃ error, result = .error error ∧ other = .error error) ∨
      ∃ value otherValue, result = .ok value ∧ other = .ok otherValue ∧ related value otherValue := by
  cases result with
  | error error =>
    cases other with
    | error otherError => exact .inl ⟨error, rfl, congrArg _ (Eq.symm agree)⟩
    | ok otherValue => exact agree.elim
  | ok value =>
    cases other with
    | error otherError => exact agree.elim
    | ok otherValue => exact .inr ⟨value, otherValue, rfl, rfl, agree⟩

theorem bind {next : α → Except Error γ} {otherNext : β → Except Error δ} (agree : Agree related result other)
    (onward : ∀ value otherValue, result = .ok value → other = .ok otherValue → related value otherValue →
      Agree relatedNext (next value) (otherNext otherValue)) :
    Agree relatedNext (result >>= next) (other >>= otherNext) := by
  obtain ⟨error, rfl, rfl⟩ | ⟨value, otherValue, rfl, rfl, holds⟩ := agree.ends
  · rfl
  · exact onward value otherValue rfl rfl holds

theorem imp {relatedToo : α → β → Prop} (agree : Agree related result other)
    (onward : ∀ value otherValue, result = .ok value → other = .ok otherValue → related value otherValue →
      relatedToo value otherValue) : Agree relatedToo result other := by
  obtain ⟨error, rfl, rfl⟩ | ⟨value, otherValue, rfl, rfl, holds⟩ := agree.ends
  · rfl
  · exact onward value otherValue rfl rfl holds

theorem eq {other : Except Error α} {related : α → α → Prop} (agree : Agree related result other)
    (same : ∀ value otherValue, related value otherValue → value = otherValue) : result = other := by
  obtain ⟨error, rfl, rfl⟩ | ⟨value, otherValue, rfl, rfl, holds⟩ := agree.ends
  · rfl
  · rw [same value otherValue holds]

end Agree

structure Query.SameWords (query other : Query) : Prop where
  schema : query.schema = other.schema
  scope : query.scope = other.scope
  filter : query.filter.map Condition.wording = other.filter.map Condition.wording
  order : query.order = other.order

theorem Specification.queryIn_agree {specification other : Specification} (same : specification.reading = other.reading)
    (schema : Schema) (scope : Scope) :
    Agree Query.SameWords (specification.queryIn schema scope) (other.queryIn schema scope) := by
  obtain ⟨restriction⟩ := specification
  obtain ⟨otherRestriction⟩ := other
  cases restriction with
  | none =>
    cases otherRestriction with
    | none => exact ⟨rfl, rfl, rfl, rfl⟩
    | some otherRestriction => cases same
  | some restriction =>
    cases otherRestriction with
    | none => cases same
    | some otherRestriction =>
      have words : (restriction.reading schema).outcome scope = (otherRestriction.reading schema).outcome scope := by
        rw [Option.some.inj same]
      rw [Restriction.reading, Restriction.reading, Resolve.outcome_map, Resolve.outcome_map] at words
      rw [queryIn_restricted, queryIn_restricted]
      generalize (restriction.resolve schema).outcome scope = resolved at words ⊢
      generalize (otherRestriction.resolve schema).outcome scope = otherResolved at words ⊢
      obtain ⟨outcome, after⟩ := resolved
      obtain ⟨otherOutcome, otherAfter⟩ := otherResolved
      obtain ⟨results, rfl⟩ := Prod.mk.inj words
      cases outcome with
      | error error =>
        cases otherOutcome with
        | error other => exact Except.error.inj results
        | ok other => cases results
      | ok condition =>
        cases otherOutcome with
        | error other => cases results
        | ok other => exact ⟨rfl, rfl, congrArg some (Except.ok.inj results), rfl⟩

theorem Specification.query_agree {specification other : Specification} (same : specification.reading = other.reading)
    (schema : Schema) (root : String) :
    Agree Query.SameWords (specification.query schema root) (other.query schema root) := by
  rw [query, query]
  cases schema.scope root with
  | error error => rfl
  | ok scope => exact queryIn_agree same schema scope

theorem Query.orderByAll_cons (query : Query) (path : Path) (direction : Direction) (rest : List (Path × Direction)) :
    query.orderByAll ((path, direction) :: rest) = (query.orderBy path direction >>= fun next => next.orderByAll rest) := by
  rw [orderByAll]
  cases query.orderBy path direction <;> rfl

namespace Query.SameWords

variable {query other : Query}

theorem orderBy (same : query.SameWords other) (path : Path) (direction : Direction) :
    Agree Query.SameWords (query.orderBy path direction) (other.orderBy path direction) := by
  obtain ⟨schema, scope, filter, order⟩ := query
  obtain ⟨otherSchema, otherScope, otherFilter, otherOrder⟩ := other
  obtain ⟨rfl, rfl, words, rfl⟩ := same
  rw [Query.orderBy, Query.orderBy]
  rcases (path.resolve schema .left false).run scope with ⟨outcome, after⟩
  cases outcome with
  | error error => rfl
  | ok column => exact ⟨rfl, rfl, words, rfl⟩

theorem orderByAll (same : query.SameWords other) (orderings : List (Path × Direction)) :
    Agree Query.SameWords (query.orderByAll orderings) (other.orderByAll orderings) := by
  induction orderings generalizing query other with
  | nil => exact same
  | cons ordering rest ih =>
    obtain ⟨path, direction⟩ := ordering
    rw [orderByAll_cons, orderByAll_cons]
    exact (same.orderBy path direction).bind fun _ _ _ _ sameNext => ih sameNext

theorem rowsTemplate (same : query.SameWords other) : query.rowsTemplate = other.rowsTemplate := by
  have worded (query : Query) : query.filterTemplate =
      (query.filter.map Condition.wording).elim [] fun words => .text " WHERE " :: words.template := by
    rw [filterTemplate]
    cases query.filter <;> rfl
  rw [Query.rowsTemplate, Query.rowsTemplate, Query.isDistinct, Query.isDistinct, same.scope, worded, worded, same.filter]

theorem selectText (same : query.SameWords other) : query.select.text = other.select.text := by
  rw [query.select_eq, other.select_eq, same.rowsTemplate, orderText, orderText, same.order]

theorem countText (same : query.SameWords other) : query.count.text = other.count.text := by
  rw [query.count_eq, other.count_eq, same.rowsTemplate]

end Query.SameWords

structure Appearance.SameWords (seen other : Appearance) : Prop where
  selectText : seen.select.text = other.select.text
  countText : seen.count.text = other.count.text
  distinct : seen.distinct = other.distinct
  joinCount : seen.joinCount = other.joinCount

theorem Query.SameWords.appearance {query other : Query} (same : query.SameWords other) :
    query.appearance.SameWords other.appearance :=
  ⟨same.selectText, same.countText, congrArg Scope.distinct same.scope, congrArg Scope.joinCount same.scope⟩

end RecordFilter
