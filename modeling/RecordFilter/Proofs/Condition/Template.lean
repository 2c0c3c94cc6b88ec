import RecordFilter.Proofs.Condition.Atom

set_option autoImplicit false

namespace RecordFilter

inductive Slot where
  | text (content : String)
  | hole
deriving DecidableEq

abbrev Template := List Slot

namespace Template

def fill : (start : Nat) → Template → String
  | _, [] => ""
  | start, .text content :: rest => content ++ fill start rest
  | start, .hole :: rest => placeholder (start + 1) ++ fill (start + 1) rest

def holes (template : Template) : Nat := template.count .hole

def fillEach : (start : Nat) → List Template → List String
  | _, [] => []
  | start, template :: rest => fill start template :: fillEach (start + holes template) rest

def enclosed (template : Template) : Template := .text "(" :: (template ++ [.text ")"])

def joined (separator : String) (templates : List Template) : Template := [Slot.text separator].intercalate templates

theorem fill_append (start : Nat) (first second : Template) :
    fill start (first ++ second) = fill start first ++ fill (start + holes first) second := by
  induction first generalizing start with
  | nil => simp [fill, holes]
  | cons slot rest ih =>
    cases slot with
    | text content => simp [fill, ih, holes, String.append_assoc]
    | hole => simp [fill, ih, holes, String.append_assoc, Nat.add_assoc, Nat.add_comm 1]

theorem fill_enclosed (start : Nat) (template : Template) :
    fill start template.enclosed = Condition.parenthesized (fill start template) := by
  simp [enclosed, fill, fill_append, Condition.parenthesized, String.append_assoc]

theorem fill_joined (start : Nat) (separator : String) (templates : List Template) :
    fill start (joined separator templates) = separator.intercalate (fillEach start templates) := by
  induction templates generalizing start with
  | nil => rfl
  | cons template rest ih =>
    cases rest with
    | nil => simp [joined, fillEach]
    | cons second more =>
      have onward := ih (start + holes template)
      rw [fillEach] at onward
      rw [joined] at onward ⊢
      rw [List.intercalate_cons_cons, List.append_assoc, fill_append, fillEach, fillEach, String.intercalate_cons_cons, ← onward,
        String.append_assoc]
      rfl

theorem holes_append (first second : Template) : holes (first ++ second) = holes first + holes second :=
  List.count_append

theorem holes_enclosed (template : Template) : template.enclosed.holes = template.holes := by
  simp [enclosed, holes]

theorem holes_joined (separator : String) (templates : List Template) :
    holes (joined separator templates) = holes templates.flatten := by
  induction templates with
  | nil => rfl
  | cons template rest ih =>
    cases rest with
    | nil => simp [joined]
    | cons second more =>
      rw [joined] at ih ⊢
      rw [List.intercalate_cons_cons, holes_append, holes_append, ih]
      simp [holes]

end Template

def Params.pushAll (values : List Value) (params : Params) : Params :=
  values.foldl (fun grown value => (grown.push value).2) params

theorem Params.toList_pushAll (values : List Value) (params : Params) :
    (params.pushAll values).toList = params.toList ++ values := by
  induction values generalizing params with
  | nil => exact (List.append_nil _).symm
  | cons value rest ih =>
    have onward := ih (params.push value).2
    rw [toList_push, List.append_assoc] at onward
    exact onward

theorem Params.size_pushAll (values : List Value) (params : Params) :
    (params.pushAll values).size = params.size + values.length := by
  rw [← length_toList, toList_pushAll, List.length_append, length_toList]

theorem Params.pushAll_append (first second : List Value) (params : Params) :
    params.pushAll (first ++ second) = (params.pushAll first).pushAll second := List.foldl_append ..

namespace Condition

mutual
def values : Condition → List Value
  | all parts | any parts => valuesOf parts
  | negation inner | group inner => inner.values
  | compare _ _ value => [value]
  | like _ pattern _ _ => [pattern]
  | nullness _ _ | always => []
  | membership _ values _ => values
  | between _ low high _ => [low, high]

def valuesOf : List Condition → List Value
  | [] => []
  | part :: rest => part.values ++ valuesOf rest
end

mutual
def template : Condition → Template
  | all parts => .joined Connector.and.separator (templates .and parts)
  | any parts => .joined Connector.or.separator (templates .or parts)
  | negation inner => .text "NOT " :: inner.template.enclosed
  | group inner => inner.template.enclosed
  | compare column operator _ => [.text (column.text ++ " " ++ operator ++ " "), .hole]
  | like column _ upper negated =>
    [.text ((if upper then "UPPER" ++ parenthesized column.text else column.text)
      ++ (if negated then " NOT LIKE " else " LIKE ")), .hole]
  | nullness column isNull => [.text (column.text ++ if isNull then " IS NULL" else " IS NOT NULL")]
  | membership column values negated =>
    .text (column.text ++ (if negated then " NOT IN " else " IN "))
      :: Template.enclosed (.joined ", " (values.map fun _ => [.hole]))
  | between column _ _ negated =>
    [.text (column.text ++ (if negated then " NOT BETWEEN " else " BETWEEN ")), .hole, .text " AND ", .hole]
  | always => [.text "1=1"]

def templates (outer : Connector) : List Condition → List Template
  | [] => []
  | part :: rest =>
    (if part.needsParentheses outer then part.template.enclosed else part.template) :: templates outer rest
end

mutual
theorem holes_template (condition : Condition) : condition.template.holes = condition.values.length := by
  cases condition with
  | all parts => simp [template, values, Template.holes_joined, holes_templates .and parts]
  | any parts => simp [template, values, Template.holes_joined, holes_templates .or parts]
  | negation inner =>
    have same := inner.holes_template
    rw [← Template.holes_enclosed] at same
    simpa [template, values, Template.holes] using same
  | group inner =>
    rw [template, Template.holes_enclosed]
    exact inner.holes_template
  | membership column members negated =>
    have each : Template.holes (members.map fun _ => [Slot.hole]).flatten = members.length := by
      simp [Template.holes]
    rw [← Template.holes_joined ", ", ← Template.holes_enclosed] at each
    simpa [template, values, Template.holes] using each
  | compare | like | nullness | between | always => simp [template, values, Template.holes]

theorem holes_templates (outer : Connector) (parts : List Condition) :
    Template.holes (templates outer parts).flatten = (valuesOf parts).length := by
  cases parts with
  | nil => rfl
  | cons part rest =>
    rw [templates, valuesOf, List.flatten_cons, Template.holes_append, List.length_append, holes_templates outer rest]
    split
    · rw [Template.holes_enclosed, part.holes_template]
    · rw [part.holes_template]
end

end Condition

theorem boundAll_eq (values : List Value) (params : Params) :
    boundAll values params = (Template.fillEach params.size (values.map fun _ => [.hole]), params.pushAll values) := by
  induction values generalizing params with
  | nil => rfl
  | cons value rest ih =>
    have bound : boundAll (value :: rest) params =
        (placeholder (params.size + 1) :: (boundAll rest (params.push value).2).1,
          (boundAll rest (params.push value).2).2) := rfl
    rw [bound, ih, Params.size_push]
    simp [Template.fillEach, Template.fill, Template.holes, Params.pushAll]

mutual
theorem Condition.rendered_eq (condition : Condition) (params : Params) :
    condition.rendered params = (condition.template.fill params.size, params.pushAll condition.values) := by
  cases condition with
  | all parts =>
    change (Connector.and.separator.intercalate (renderedParts .and parts params).1, (renderedParts .and parts params).2) = _
    rw [renderedParts_eq .and parts params, template, Template.fill_joined, values]
  | any parts =>
    change (Connector.or.separator.intercalate (renderedParts .or parts params).1, (renderedParts .or parts params).2) = _
    rw [renderedParts_eq .or parts params, template, Template.fill_joined, values]
  | negation inner =>
    change ("NOT " ++ parenthesized (inner.rendered params).1, (inner.rendered params).2) = _
    rw [inner.rendered_eq params, template, Template.fill, Template.fill_enclosed, values]
  | group inner =>
    change (parenthesized (inner.rendered params).1, (inner.rendered params).2) = _
    rw [inner.rendered_eq params, template, Template.fill_enclosed, values]
  | compare | like | nullness =>
    simp only [template, values, Template.fill, String.append_empty]
    rfl
  | between column low high negated =>
    change (column.text ++ (if negated then " NOT BETWEEN " else " BETWEEN ") ++ placeholder (params.size + 1) ++ " AND " ++
      placeholder ((params.push low).2.size + 1), ((params.push low).2.push high).2) = _
    rw [Params.size_push]
    simp only [template, values, Template.fill, String.append_empty, String.append_assoc]
    rfl
  | membership column members negated =>
    change (column.text ++ (if negated then " NOT IN " else " IN ") ++
      parenthesized (", ".intercalate (boundAll members params).1), (boundAll members params).2) = _
    rw [boundAll_eq, template, Template.fill, Template.fill_enclosed, Template.fill_joined, values]
  | always => rfl

theorem Condition.renderedParts_eq (outer : Connector) (parts : List Condition) (params : Params) :
    renderedParts outer parts params =
      (Template.fillEach params.size (templates outer parts), params.pushAll (valuesOf parts)) := by
  cases parts with
  | nil => rfl
  | cons part rest =>
    change ((if part.needsParentheses outer then parenthesized (part.rendered params).1 else (part.rendered params).1) ::
      (renderedParts outer rest (part.rendered params).2).1, (renderedParts outer rest (part.rendered params).2).2) = _
    have onward := renderedParts_eq outer rest (params.pushAll part.values)
    rw [Params.size_pushAll, ← part.holes_template] at onward
    rw [part.rendered_eq params, onward, templates, valuesOf, Params.pushAll_append]
    split
    · rw [Template.fillEach, Template.fill_enclosed, Template.holes_enclosed]
    · rfl
end

end RecordFilter
