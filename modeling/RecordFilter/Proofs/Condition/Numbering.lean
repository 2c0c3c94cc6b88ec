import RecordFilter.Proofs.Condition.Template

set_option autoImplicit false

namespace RecordFilter

def placeholders (start count : Nat) : List String := (List.range' (start + 1) count).map placeholder

namespace Template

def fillWith : Template → List String → Option String
  | [], [] => some ""
  | .text content :: rest, texts => (fillWith rest texts).map (content ++ ·)
  | .hole :: rest, text :: texts => (fillWith rest texts).map (text ++ ·)
  | _, _ => none

theorem fillWith_append {first second : Template} {left right : List String} {begun ended : String}
    (here : first.fillWith left = some begun) (there : second.fillWith right = some ended) :
    fillWith (first ++ second) (left ++ right) = some (begun ++ ended) := by
  induction first generalizing left begun with
  | nil =>
    cases left with
    | nil =>
      cases here
      rw [String.empty_append]
      exact there
    | cons text texts => cases here
  | cons slot rest ih =>
    cases slot with
    | text content =>
      obtain ⟨further, filled, rfl⟩ := Option.map_eq_some_iff.mp here
      rw [List.cons_append, fillWith, ih filled, Option.map_some, String.append_assoc]
    | hole =>
      cases left with
      | nil => cases here
      | cons text texts =>
        obtain ⟨further, filled, rfl⟩ := Option.map_eq_some_iff.mp here
        rw [List.cons_append, List.cons_append, fillWith, ih filled, Option.map_some, String.append_assoc]

theorem fillWith_enclosed {template : Template} {texts : List String} {filled : String}
    (fills : template.fillWith texts = some filled) :
    template.enclosed.fillWith texts = some (Condition.parenthesized filled) := by
  have closing : fillWith [.text ")"] [] = some ")" := rfl
  have closed := fillWith_append fills closing
  rw [List.append_nil] at closed
  rw [enclosed, fillWith, closed, Option.map_some, Condition.parenthesized, String.append_assoc]

theorem fillWith_joined {template second : Template} {more : List Template} {separator : String}
    {texts others : List String} {filled further : String} (fills : template.fillWith texts = some filled)
    (onward : (joined separator (second :: more)).fillWith others = some further) :
    (joined separator (template :: second :: more)).fillWith (texts ++ others) = some (filled ++ separator ++ further) := by
  have between : fillWith [.text separator] [] = some separator := by
    rw [fillWith, fillWith, Option.map_some, String.append_empty]
  have started := fillWith_append fills between
  rw [List.append_nil] at started
  rw [joined, List.intercalate_cons_cons]
  exact fillWith_append started onward

theorem fillWith_placeholders (start : Nat) (template : Template) :
    template.fillWith (placeholders start template.holes) = some (template.fill start) := by
  induction template generalizing start with
  | nil => rfl
  | cons slot rest ih =>
    cases slot with
    | text content =>
      have same : holes (.text content :: rest) = holes rest := by simp [holes]
      rw [same, fillWith, ih, Option.map_some, fill]
    | hole =>
      have more : holes (.hole :: rest) = holes rest + 1 := by simp [holes]
      rw [more, placeholders, List.range'_succ, List.map_cons, fillWith, ← placeholders, ih, Option.map_some, fill]

end Template

namespace Condition

section Written

variable (write : Value → String)

mutual
def written : Condition → String
  | all parts => Connector.and.separator.intercalate (writtenParts .and parts)
  | any parts => Connector.or.separator.intercalate (writtenParts .or parts)
  | negation inner => "NOT " ++ parenthesized inner.written
  | group inner => parenthesized inner.written
  | compare column operator value => column.text ++ " " ++ operator ++ " " ++ write value
  | like column pattern upper negated =>
    (if upper then "UPPER" ++ parenthesized column.text else column.text)
      ++ (if negated then " NOT LIKE " else " LIKE ") ++ write pattern
  | nullness column isNull => column.text ++ if isNull then " IS NULL" else " IS NOT NULL"
  | membership column values negated =>
    column.text ++ (if negated then " NOT IN " else " IN ") ++ parenthesized (", ".intercalate (values.map write))
  | between column low high negated =>
    column.text ++ (if negated then " NOT BETWEEN " else " BETWEEN ") ++ write low ++ " AND " ++ write high
  | always => "1=1"

def writtenParts (outer : Connector) : List Condition → List String
  | [] => []
  | part :: rest =>
    (if part.needsParentheses outer then parenthesized part.written else part.written) :: writtenParts outer rest
end

theorem fillWith_listed (values : List Value) :
    (Template.joined ", " (values.map fun _ => [.hole])).fillWith (values.map write) =
      some (", ".intercalate (values.map write)) := by
  have single (value : Value) : Template.fillWith [.hole] [write value] = some (write value) := by
    rw [Template.fillWith, Template.fillWith, Option.map_some, String.append_empty]
  induction values with
  | nil => rfl
  | cons value rest ih =>
    cases rest with
    | nil =>
      rw [List.map_singleton, List.map_singleton, String.intercalate_singleton, Template.joined, List.intercalate_singleton]
      exact single value
    | cons second more =>
      rw [List.map_cons, List.map_cons, List.map_cons, List.map_cons, String.intercalate_cons_cons]
      exact Template.fillWith_joined (single value) ih

mutual
theorem fillWith_written (condition : Condition) :
    condition.template.fillWith (condition.values.map write) = some (condition.written write) := by
  cases condition with
  | all parts =>
    rw [template, values, written]
    exact fillWith_writtenParts .and parts
  | any parts =>
    rw [template, values, written]
    exact fillWith_writtenParts .or parts
  | negation inner =>
    rw [template, values, written, Template.fillWith, Template.fillWith_enclosed inner.fillWith_written, Option.map_some]
  | group inner =>
    rw [template, values, written]
    exact Template.fillWith_enclosed inner.fillWith_written
  | membership column members negated =>
    rw [template, values, written, Template.fillWith, Template.fillWith_enclosed (fillWith_listed write members),
      Option.map_some]
  | compare | like | nullness | between | always =>
    simp [template, values, written, Template.fillWith, String.append_assoc]

theorem fillWith_writtenParts (outer : Connector) (parts : List Condition) :
    (Template.joined outer.separator (templates outer parts)).fillWith ((valuesOf parts).map write) =
      some (outer.separator.intercalate (writtenParts write outer parts)) := by
  cases parts with
  | nil => rfl
  | cons part rest =>
    have first : Template.fillWith (if part.needsParentheses outer then part.template.enclosed else part.template)
        (part.values.map write) =
          some (if part.needsParentheses outer then parenthesized (part.written write) else part.written write) := by
      split
      · exact Template.fillWith_enclosed part.fillWith_written
      · exact part.fillWith_written
    have onward := fillWith_writtenParts outer rest
    rw [templates, valuesOf, writtenParts, List.map_append]
    cases rest with
    | nil =>
      rw [templates, valuesOf, writtenParts, List.map_nil, List.append_nil, String.intercalate_singleton, Template.joined,
        List.intercalate_singleton]
      exact first
    | cons second more =>
      rw [templates, writtenParts] at onward ⊢
      rw [String.intercalate_cons_cons]
      exact Template.fillWith_joined first onward
end

end Written

mutual
def shape : Condition → Condition
  | all parts => all (shapes parts)
  | any parts => any (shapes parts)
  | negation inner => negation inner.shape
  | group inner => group inner.shape
  | compare column operator _ => compare column operator .null
  | like column _ upper negated => like column .null upper negated
  | nullness column isNull => nullness column isNull
  | membership column values negated => membership column (values.map fun _ => .null) negated
  | between column _ _ negated => between column .null .null negated
  | always => always

def shapes : List Condition → List Condition
  | [] => []
  | part :: rest => part.shape :: shapes rest
end

theorem needsParentheses_shape (outer : Connector) (condition : Condition) :
    condition.shape.needsParentheses outer = condition.needsParentheses outer := by
  cases outer <;> cases condition <;> rfl

mutual
theorem template_shape (condition : Condition) : condition.shape.template = condition.template := by
  cases condition with
  | all parts | any parts => rw [shape, template, template, templates_shapes]
  | negation inner | group inner => rw [shape, template, template, inner.template_shape]
  | membership column members negated =>
    rw [shape, template, template, List.map_map]
    rfl
  | compare | like | nullness | between | always => rfl

theorem templates_shapes (outer : Connector) (parts : List Condition) :
    templates outer (shapes parts) = templates outer parts := by
  cases parts with
  | nil => rfl
  | cons part rest => rw [shapes, templates, templates, needsParentheses_shape, part.template_shape, templates_shapes]
end

theorem template_eq_of_shape {condition other : Condition} (same : condition.shape = other.shape) :
    condition.template = other.template := by
  rw [← condition.template_shape, same, other.template_shape]

theorem renderEach (conditions : List Condition) (params : Params) :
    (conditions.mapM render).run params =
      (Template.fillEach params.size (conditions.map template), params.pushAll (conditions.flatMap values)) := by
  induction conditions generalizing params with
  | nil => rfl
  | cons condition rest ih =>
    have step : ((condition :: rest).mapM render).run params =
        ((condition.rendered params).1 :: ((rest.mapM render).run (condition.rendered params).2).1,
          ((rest.mapM render).run (condition.rendered params).2).2) := by
      rw [List.mapM_cons]
      rfl
    rw [step, ih, condition.rendered_eq, Params.size_pushAll, ← condition.holes_template, List.flatMap_cons,
      Params.pushAll_append, List.map_cons, Template.fillEach]

theorem join_fillEach (start : Nat) (templates : List Template) :
    String.join (Template.fillEach start templates) = Template.fill start templates.flatten := by
  induction templates generalizing start with
  | nil => rfl
  | cons template rest ih => rw [Template.fillEach, String.join_cons, ih, List.flatten_cons, Template.fill_append]

theorem holes_each (conditions : List Condition) :
    Template.holes (conditions.flatMap template) = (conditions.flatMap values).length := by
  induction conditions with
  | nil => rfl
  | cons condition rest ih =>
    rw [List.flatMap_cons, List.flatMap_cons, Template.holes_append, List.length_append, condition.holes_template, ih]

theorem fillWith_each (write : Value → String) (conditions : List Condition) :
    Template.fillWith (conditions.flatMap template) ((conditions.flatMap values).map write) =
      some (String.join (conditions.map (written write))) := by
  induction conditions with
  | nil => rfl
  | cons condition rest ih =>
    rw [List.flatMap_cons, List.flatMap_cons, List.map_append, List.map_cons, String.join_cons]
    exact Template.fillWith_append (condition.fillWith_written write) ih

/-- The text of a condition is its template, filled with the numbers that follow those of the values bound before, one for
each of its values. Nothing of the values but how many they are is in the template, and the numbers of conditions that are
rendered one after the other run on. -/
theorem values_numbered :
    (∀ (condition : Condition) (params : Params),
      let rendered : String × Params := condition.render.run params
      rendered.2.toList = params.toList ++ condition.values ∧
      condition.template.fillWith (placeholders params.size condition.values.length) = some rendered.1 ∧
      ∀ write, condition.template.fillWith (condition.values.map write) = some (condition.written write)) ∧
    (∀ condition other : Condition, condition.shape = other.shape → condition.template = other.template) ∧
    ∀ conditions : List Condition,
      let rendered : List String × Params := (conditions.mapM render).run {}
      let whole : Template := conditions.flatMap template
      rendered.2.toList = conditions.flatMap values ∧
      whole.fillWith (placeholders 0 rendered.2.size) = some (String.join rendered.1) ∧
      ∀ write, whole.fillWith (rendered.2.toList.map write) = some (String.join (conditions.map (written write))) := by
  refine ⟨fun condition params => ?_, fun _ _ => template_eq_of_shape, fun conditions => ?_⟩
  · intro rendered
    have same : rendered = (condition.template.fill params.size, params.pushAll condition.values) :=
      condition.rendered_eq params
    rw [same]
    refine ⟨params.toList_pushAll _, ?_, fun write => condition.fillWith_written write⟩
    rw [← condition.holes_template]
    exact Template.fillWith_placeholders _ _
  · intro rendered whole
    have same : rendered = (Template.fillEach 0 (conditions.map template), Params.pushAll (conditions.flatMap values) {}) :=
      renderEach conditions {}
    have bound : rendered.2.toList = conditions.flatMap values := by
      rw [same, Params.toList_pushAll]
      rfl
    refine ⟨bound, ?_, fun write => bound ▸ fillWith_each write conditions⟩
    rw [← Params.length_toList, bound, ← holes_each, same, join_fillEach]
    exact Template.fillWith_placeholders 0 whole

theorem values_numbered_ages :
    let within (ids : List Value) (low high : Value) : Condition :=
      any [membership ⟨"t0", "id"⟩ ids false, negation (between ⟨"t0", "age"⟩ low high false)]
    let first := within [.bigint 4, .bigint 9] (.integer 10) (.integer 20)
    let second := within [.text "a", .null] (.integer 3) .null
    first.shape = second.shape ∧ first.template = second.template ∧
      ([first, second].mapM render).run {} =
        (["t0.id IN ($1, $2) OR NOT (t0.age BETWEEN $3 AND $4)", "t0.id IN ($5, $6) OR NOT (t0.age BETWEEN $7 AND $8)"],
          ⟨#[.bigint 4, .bigint 9, .integer 10, .integer 20, .text "a", .null, .integer 3, .null]⟩) := by
  intro within first second
  have shapes : first.shape = second.shape := rfl
  exact ⟨shapes, values_numbered.2.1 first second shapes, rfl⟩

end Condition

end RecordFilter
