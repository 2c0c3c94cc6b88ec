import RecordFilter.Proofs.Condition.Named
import RecordFilter.Proofs.Path
import RecordFilter.Proofs.Specification.Readable

set_option autoImplicit false

namespace RecordFilter

def isUnquoted (char : Char) : Bool := char.isAlphanum || " _$.,()*=!<>".toList.contains char

def Unquoted (text : String) : Prop := ∀ char ∈ text.toList, isUnquoted char = true

instance (text : String) : Decidable (Unquoted text) :=
  decidable_of_iff (text.toList.all isUnquoted = true) List.all_eq_true

namespace Unquoted

theorem append {left right : String} (first : Unquoted left) (second : Unquoted right) : Unquoted (left ++ right) := by
  intro char member
  rw [String.toList_append, List.mem_append] at member
  exact member.elim (first char) (second char)

theorem intercalate {separator : String} (between : Unquoted separator) {texts : List String}
    (each : ∀ text ∈ texts, Unquoted text) : Unquoted (separator.intercalate texts) :=
  Text.forall_mem_intercalate between each

theorem of_checkPart {name : String} (checked : Identifier.checkPart name = .ok ()) : Unquoted name := by
  have continued (char : Char) (continues : Identifier.continuesPart char = true) : isUnquoted char = true := by
    simp only [Identifier.continuesPart, Bool.or_eq_true, beq_iff_eq] at continues
    rcases continues with (rfl | rfl) | letter
    · decide
    · decide
    · rw [isUnquoted, letter, Bool.true_or]
  obtain ⟨first, rest, spelled, starts, continues⟩ := Identifier.checkPart_ok checked
  intro char member
  rw [spelled] at member
  rcases List.mem_cons.mp member with rfl | later
  · exact continued _ (Token.continuesPart_of_startsPart starts)
  · exact continued char (continues char later)

theorem of_checkQualified {name : String} (checked : Identifier.checkQualified name = .ok ()) : Unquoted name := by
  have parts := Identifier.isQualified_iff.mp (Identifier.checkQualified_ok_iff.mp checked)
  rw [← Text.joinDots_splitDots name]
  exact intercalate (by decide) fun part member => of_checkPart (Identifier.checkPart_ok_iff.mpr (parts part member))

theorem tableName (number : Nat) : Unquoted (tableName number) := of_checkPart (tableName_checked number)

theorem column {column : Column} (source : Unquoted column.source) (name : Unquoted column.name) :
    Unquoted column.text :=
  (source.append (by decide)).append name

theorem columnOf (number : Nat) {name : String} (checked : Identifier.checkPart name = .ok ()) :
    Unquoted (columnOf number name).text :=
  .column (tableName number) (of_checkPart checked)

theorem placeholder (number : Nat) : Unquoted (placeholder number) := by
  have digits : Unquoted (toString number) := by
    intro char member
    rw [Nat.toString_eq_repr, Nat.toList_repr] at member
    have digit := Nat.isDigit_of_mem_toDigits (by decide) (by decide) member
    simp [isUnquoted, Char.isAlphanum, digit]
  exact append (by decide) digits

theorem parenthesized {text : String} (inner : Unquoted text) : Unquoted (Condition.parenthesized text) :=
  ((by decide : Unquoted "(").append inner).append (by decide)

end Unquoted

theorem Column.Readable.unquoted {column : Column} (readable : column.Readable) : Unquoted column.text :=
  .column (.of_checkPart readable.source) (.of_checkPart readable.name)

namespace Condition

theorem boundAll_unquoted (values : List Value) (params : Params) :
    ∀ text ∈ (boundAll values params).1, Unquoted text := by
  induction values generalizing params with
  | nil => exact fun _ member => absurd member List.not_mem_nil
  | cons value rest ih => exact List.forall_mem_cons.mpr ⟨.placeholder _, ih _⟩

mutual
theorem rendered_unquoted (condition : Condition) (spelled : condition.IsSpelled) (params : Params) :
    Unquoted (condition.rendered params).1 := by
  cases condition with
  | all parts => exact .intercalate (by decide) (renderedParts_unquoted .and parts spelled params)
  | any parts => exact .intercalate (by decide) (renderedParts_unquoted .or parts spelled params)
  | negation inner => exact .append (by decide) (inner.rendered_unquoted spelled params).parenthesized
  | group inner => exact (inner.rendered_unquoted spelled params).parenthesized
  | compare column operator value =>
    have sign : ∀ operator ∈ comparisons, Unquoted operator := by decide
    exact (((spelled.1.unquoted.append (by decide)).append (sign operator spelled.2)).append (by decide)).append
      (.placeholder _)
  | like column pattern upper negated =>
    have test : Unquoted (if upper then "UPPER" ++ parenthesized column.text else column.text) := by
      cases upper with
      | true => exact .append (by decide) spelled.unquoted.parenthesized
      | false => exact spelled.unquoted
    have word : Unquoted (if negated then " NOT LIKE " else " LIKE ") := by
      cases negated <;> decide
    exact (test.append word).append (.placeholder _)
  | nullness column isNull =>
    have word : Unquoted (if isNull then " IS NULL" else " IS NOT NULL") := by
      cases isNull <;> decide
    exact spelled.unquoted.append word
  | membership column values negated =>
    have word : Unquoted (if negated then " NOT IN " else " IN ") := by
      cases negated <;> decide
    exact (spelled.unquoted.append word).append (.parenthesized (.intercalate (by decide) (boundAll_unquoted values params)))
  | between column low high negated =>
    have word : Unquoted (if negated then " NOT BETWEEN " else " BETWEEN ") := by
      cases negated <;> decide
    exact (((spelled.unquoted.append word).append (.placeholder _)).append (by decide)).append (.placeholder _)
  | always => exact (by decide : Unquoted "1=1")

theorem renderedParts_unquoted (connector : Connector) (parts : List Condition) (spelled : AreSpelled parts)
    (params : Params) : ∀ text ∈ (renderedParts connector parts params).1, Unquoted text := by
  cases parts with
  | nil => exact fun _ member => absurd member List.not_mem_nil
  | cons part rest =>
    have first := part.rendered_unquoted spelled.1 params
    rw [renderedParts_cons, List.forall_mem_cons]
    refine ⟨?_, renderedParts_unquoted connector rest spelled.2 _⟩
    split
    · exact first.parenthesized
    · exact first
end

theorem negatedWhen_spelled {condition : Condition} (negated : Bool) (spelled : condition.IsSpelled) :
    (condition.negatedWhen negated).IsSpelled := by
  cases negated <;> exact spelled

theorem rangeForm_spelled {column : Column} (readable : column.Readable) (negated : Bool) (ends : Range Value)
    (form : RangeForm) : (form.condition column negated ends).IsSpelled := by
  have compares (sign : Sign) (value : Value) : (sign.condition column value).IsSpelled := by
    refine ⟨readable, ?_⟩
    cases sign <;> decide
  rcases form.condition_shape column negated ends with
    ⟨sign, value, same⟩ | ⟨low, high, same⟩ | ⟨lower, low, upper, high, same⟩ | same
  · rw [same]
    exact negatedWhen_spelled negated (compares sign value)
  · rw [same]
    exact readable
  · rw [same]
    exact negatedWhen_spelled negated ⟨compares lower low, compares upper high, trivial⟩
  · rw [same]
    trivial

theorem test_spelled (test : Test) {column : Column} (readable : column.Readable) (negated : Bool) :
    (test.condition column negated).IsSpelled := by
  cases test with
  | equal value =>
    refine ⟨readable, ?_⟩
    cases negated <;> decide
  | membership | like | null => exact readable
  | range ends form => exact rangeForm_spelled readable negated ends form

mutual
theorem outline_spelled (outline : Outline) {resolved : Nat → Condition}
    (each : ∀ position, (resolved position).IsSpelled) : (outline.condition resolved).IsSpelled := by
  cases outline with
  | predicate position => exact each position
  | all parts | any parts => exact outlines_spelled parts each
  | negation inner | group inner => exact outline_spelled inner each

theorem outlines_spelled (parts : List Outline) {resolved : Nat → Condition}
    (each : ∀ position, (resolved position).IsSpelled) : AreSpelled (Outline.conditions resolved parts) := by
  cases parts with
  | nil => trivial
  | cons part rest => exact ⟨outline_spelled part each, outlines_spelled rest each⟩
end

end Condition

namespace Scope

variable {schema : Schema} {scope after : Scope}

theorem Step.table {event : Event} (taken : Step schema scope event after) : after.table = scope.table := by
  cases taken with
  | share join crossed kind fetch found => cases fetch <;> rfl
  | _ => rfl

theorem Run.table {history : List Event} (run : Run schema scope history after) : after.table = scope.table :=
  run.keeps (fun reached => reached.table = scope.table) (fun _ _ _ taken same => taken.table.trans same) rfl

end Scope

structure JoinClause.IsSpelled (clause : JoinClause) : Prop where
  table : Identifier.checkQualified clause.table = .ok ()
  key : Identifier.checkPart clause.key = .ok ()
  other : clause.other.Readable

theorem JoinClause.IsSpelled.unquoted {clause : JoinClause} (spelled : clause.IsSpelled) : Unquoted clause.text := by
  have kind : Unquoted clause.kind.keyword := by
    cases clause.kind <;> decide
  have blank : Unquoted " " := by decide
  have joined := ((kind.append blank).append (.of_checkQualified spelled.table)).append blank
  have bound := (joined.append (.tableName clause.number)).append (by decide : Unquoted " ON ")
  exact ((bound.append (.columnOf clause.number spelled.key)).append (by decide : Unquoted " = ")).append spelled.other.unquoted

theorem Join.Prescribed.spelled {schema : Schema} {places : List Place} {join : Join} (checked : schema.Checked)
    (prescribed : join.Prescribed schema places) : ∀ clause ∈ join.clauses, clause.IsSpelled := by
  intro clause member
  cases prescribed with
  | association place field relation kind fetch number _ reached declared planned =>
    obtain ⟨parent, target, clauses, parentFound, targetFound, written, rfl⟩ := Schema.associationJoin_ok planned
    have targetTable : Identifier.checkQualified target.table = .ok () :=
      Entity.check_ok (checked.entity _ target targetFound) (.qualified target.table) (List.mem_cons_self ..)
    have names := checked.field _ _ _ declared
    have shape := Relation.clausesAt_ok written
    cases relation with
    | belongsTo name key =>
      obtain ⟨targetKey, keyFound, rfl⟩ := shape
      cases List.mem_singleton.mp member
      exact ⟨targetTable, checked.key targetFound keyFound,
        columnOf_readable _ (names (.part key) (List.mem_singleton_self _))⟩
    | hasOne name key | hasMany name key =>
      obtain ⟨parentKey, keyFound, rfl⟩ := shape
      cases List.mem_singleton.mp member
      exact ⟨targetTable, names (.part key) (List.mem_singleton_self _),
        columnOf_readable _ (checked.key parentFound keyFound)⟩
    | manyToMany name through selfKey otherKey =>
      obtain ⟨parentKey, targetKey, parentKeyFound, targetKeyFound, rfl⟩ := shape
      rcases List.mem_cons.mp member with rfl | last
      · exact ⟨names (.qualified through) (List.mem_cons_self ..), names (.part selfKey) (by simp [Field.writtenNames]),
          columnOf_readable _ (checked.key parentFound parentKeyFound)⟩
      · cases List.mem_singleton.mp last
        exact ⟨targetTable, checked.key targetFound targetKeyFound,
          columnOf_readable _ (names (.part otherKey) (by simp [Field.writtenNames]))⟩
  | collection place field table foreignKey column kind number _ reached declared planned =>
    obtain ⟨parent, parentKey, parentFound, keyFound, rfl⟩ := Schema.collectionJoin_ok planned
    cases List.mem_singleton.mp member
    have names := checked.field _ _ _ declared
    exact ⟨names (.qualified table) (List.mem_cons_self ..), names (.part foreignKey) (by simp [Field.writtenNames]),
      columnOf_readable _ (checked.key parentFound keyFound)⟩

namespace Query.Follows

variable {schema : Schema} {entity : Entity} {specification : Specification} {orderings : List (Path × Direction)}
  {conditions : List Condition} {query : Query}

theorem filter_spelled (follows : query.Follows schema entity specification orderings conditions)
    (checked : schema.Checked) : ∀ condition ∈ query.filter, condition.IsSpelled := by
  intro condition filtered
  rw [follows.filter, Option.mem_def, Option.map_eq_some_iff] at filtered
  obtain ⟨restriction, _, rfl⟩ := filtered
  refine Condition.outline_spelled _ fun position => ?_
  rcases follows.condition_at position with always | ⟨predicate, _, column, addressed, same⟩
  · rw [always]
    trivial
  · rw [same]
    exact Condition.test_spelled predicate.test (addressed.readable checked) predicate.options.negated

theorem table_checked (follows : query.Follows schema entity specification orderings conditions)
    (checked : schema.Checked) {root : String} (found : schema.entity root = .ok entity) :
    Identifier.checkQualified query.scope.table = .ok () := by
  rw [follows.run.table]
  exact Entity.check_ok (checked.entity root entity found) (.qualified entity.table) (List.mem_cons_self ..)

end Query.Follows

theorem Scope.Sound.tables_unquoted {schema : Schema} {scope : Scope} (sound : scope.Sound schema)
    (checked : schema.Checked) (table : Identifier.checkQualified scope.table = .ok ()) : Unquoted scope.tablesText := by
  have joins : Unquoted scope.joinsText := by
    refine .intercalate (by decide) fun text member => ?_
    obtain ⟨join, held, rfl⟩ := List.mem_map.mp member
    refine .append (by decide) (.intercalate (by decide) fun clause written => ?_)
    obtain ⟨clause, inside, rfl⟩ := List.mem_map.mp written
    exact ((sound.joins join held).spelled checked clause inside).unquoted
  exact (((Unquoted.of_checkQualified table).append (by decide)).append (.tableName 0)).append joins

end RecordFilter
