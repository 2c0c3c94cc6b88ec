import RecordFilter.Proofs.Condition.Template
import RecordFilter.Statement

set_option autoImplicit false

namespace RecordFilter

namespace Query

def filterTemplate (query : Query) : Template :=
  match query.filter with
  | some condition => .text " WHERE " :: condition.template
  | none => []

def filterValues (query : Query) : List Value :=
  match query.filter with
  | some condition => condition.values
  | none => []

def rowsTemplate (query : Query) : Template :=
  .text ("SELECT " ++ (if query.isDistinct then "DISTINCT " else "") ++ query.scope.selectList
    ++ " FROM " ++ query.scope.tablesText) :: query.filterTemplate

theorem filterText_eq (query : Query) :
    query.filterText.run {} = (query.filterTemplate.fill 0, Params.pushAll query.filterValues {}) := by
  rw [filterText, filterTemplate, filterValues]
  cases query.filter with
  | none => rfl
  | some condition =>
    change (" WHERE " ++ (condition.rendered {}).1, (condition.rendered {}).2) = _
    rw [condition.rendered_eq]
    rfl

theorem select_eq (query : Query) :
    query.select = ⟨query.rowsTemplate.fill 0 ++ query.orderText, Params.pushAll query.filterValues {}⟩ := by
  change Statement.mk ("SELECT " ++ (if query.isDistinct then "DISTINCT " else "") ++ query.scope.selectList
    ++ " FROM " ++ query.scope.tablesText ++ (query.filterText.run {}).1 ++ query.orderText) (query.filterText.run {}).2 = _
  rw [query.filterText_eq]
  rfl

theorem count_eq (query : Query) :
    query.count =
      ⟨"SELECT COUNT(*) FROM (" ++ query.rowsTemplate.fill 0 ++ ") AS q", Params.pushAll query.filterValues {}⟩ := by
  change Statement.mk ("SELECT COUNT(*) FROM (" ++ ("SELECT " ++ (if query.isDistinct then "DISTINCT " else "")
    ++ query.scope.selectList ++ " FROM " ++ query.scope.tablesText ++ (query.filterText.run {}).1) ++ ") AS q")
    (query.filterText.run {}).2 = _
  rw [query.filterText_eq]
  rfl

theorem params_select (query : Query) : query.select.params.toList = query.filterValues := by
  rw [query.select_eq, Params.toList_pushAll]
  rfl

theorem params_count (query : Query) : query.count.params.toList = query.filterValues := by
  rw [query.count_eq, Params.toList_pushAll]
  rfl

end Query

end RecordFilter
