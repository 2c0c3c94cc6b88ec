import RecordFilter.Proofs.Condition.Reading
import RecordFilter.Proofs.Registry
import RecordFilter.Proofs.Specification.Built
import RecordFilter.Proofs.Specification.Query

set_option autoImplicit false

namespace RecordFilter

theorem tableName_checked (number : Nat) : Identifier.checkPart (tableName number) = .ok () := by
  refine Identifier.checkPart_of (toList_tableName number) (by decide) fun char member => ?_
  have digit := Nat.isDigit_of_mem_toDigits (by decide) (by decide) member
  simp [Identifier.continuesPart, Char.isAlphanum, digit]

theorem Text.Keyed.find?_none {α : Type} {name : String} {entries : Keyed α} (absent : ∀ entry ∈ entries, entry.1 ≠ name) :
    find? name entries = none := by
  induction entries with
  | nil => rfl
  | cons entry rest ih =>
    rw [List.forall_mem_cons] at absent
    rw [find?, if_neg absent.1, ih absent.2]

theorem tableName_plain (number : Nat) : Keyword.ofWord? (tableName number) = none := by
  have initial : ∀ entry ∈ Keyword.names, entry.1.toList.head? ≠ some 'T' := by decide
  refine Text.Keyed.find?_none fun entry member same => initial entry member ?_
  rw [same, Keyword.upperWord, toList_tableName, String.toList_ofList]
  rfl

theorem columnOf_readable (number : Nat) {name : String} (checked : Identifier.checkPart name = .ok ()) :
    (columnOf number name).Readable :=
  ⟨tableName_checked number, checked, tableName_plain number⟩

theorem Scope.Addresses.readable {schema : Schema} {scope : Scope} (checked : schema.Checked) {column : Column}
    (addressed : scope.Addresses schema column) : column.Readable := by
  cases addressed with
  | scalar place field column reached declared =>
    exact columnOf_readable _ (checked.field _ _ _ declared (.part column) (List.mem_singleton_self _))
  | key place entity column reached found key => exact columnOf_readable _ (checked.key found key)
  | element place field table foreignKey column kind number join reached declared planned held =>
    exact columnOf_readable number (checked.field _ _ _ declared (.part column) (by simp [Field.writtenNames]))

namespace Condition

theorem negatedWhen_readable {condition : Condition} (negated : Bool) (readable : condition.Readable) :
    (condition.negatedWhen negated).Readable := by
  cases negated <;> exact readable

theorem rangeForm_readable {column : Column} (readable : column.Readable) (negated : Bool) (ends : Range Value)
    (form : RangeForm) : (form.condition column negated ends).Readable := by
  have compares (sign : Sign) (value : Value) : (sign.condition column value).Readable := by
    refine ⟨readable, ?_⟩
    cases sign <;> decide
  rcases form.condition_shape column negated ends with
    ⟨sign, value, same⟩ | ⟨low, high, same⟩ | ⟨lower, low, upper, high, same⟩ | same
  · rw [same]
    exact negatedWhen_readable negated (compares sign value)
  · rw [same]
    exact readable
  · rw [same]
    exact negatedWhen_readable negated ⟨List.cons_ne_nil _ _, compares lower low, compares upper high, trivial⟩
  · rw [same]
    trivial

theorem test_readable {predicate : Predicate} (built : predicate.Built) {column : Column} (readable : column.Readable) :
    (predicate.test.condition column predicate.options.negated).Readable := by
  obtain ⟨options, test⟩ := predicate
  cases test with
  | equal value =>
    refine ⟨readable, ?_⟩
    cases options.negated <;> decide
  | membership members => exact ⟨readable, built.someValues members rfl⟩
  | like fragment ignoreCase wildcard => exact readable
  | null => exact readable
  | range ends form => exact rangeForm_readable readable options.negated ends form

mutual
theorem outline_readable (restriction : Restriction) (built : restriction.Built) (start : Nat) {resolved : Nat → Condition}
    (each : ∀ position, (resolved position).Readable) : ((restriction.outline start).condition resolved).Readable := by
  cases restriction with
  | predicate single => exact each start
  | all parts | any parts =>
    refine ⟨?_, outlines_readable parts built.2 start each⟩
    cases parts with
    | nil => exact absurd rfl built.1
    | cons part rest => exact List.cons_ne_nil _ _
  | negation inner => exact outline_readable inner built start each
  | group inner => exact outline_readable inner built start each

theorem outlines_readable (parts : List Restriction) (built : Restriction.BuiltParts parts) (start : Nat)
    {resolved : Nat → Condition} (each : ∀ position, (resolved position).Readable) :
    ReadableParts (Outline.conditions resolved (Restriction.outlines start parts)) := by
  cases parts with
  | nil => trivial
  | cons part rest => exact ⟨outline_readable part built.1 start each, outlines_readable rest built.2 _ each⟩
end

end Condition

theorem Query.filter_readable {registry : Registry} {composition : Composition} {root : String} {query : Query}
    {condition : Condition} (registered : registry.Registered)
    (resolved : composition.specification.query registry.schema root = .ok query)
    (filtered : query.filter = some condition) : condition.Readable := by
  have ordered : query.orderByAll [] = .ok query := rfl
  obtain ⟨entity, conditions, found, follows⟩ := Query.follows resolved ordered
  have built := composition.specification_built
  rw [follows.filter, Option.map_eq_some_iff] at filtered
  obtain ⟨restriction, restricts, rfl⟩ := filtered
  refine Condition.outline_readable restriction (built restriction restricts) 0 fun position => ?_
  rcases follows.condition_at position with always | ⟨predicate, held, column, addressed, same⟩
  · rw [always]
    trivial
  · rw [same]
    exact Condition.test_readable (built.predicates predicate held) (addressed.readable registered.schema_checked)

theorem Condition.text_keeps_truth :
    (∀ (registry : Registry) (composition : Composition) (root : String) (query : Query) (condition : Condition),
      registry.Registered → composition.specification.query registry.schema root = .ok query →
      query.filter = some condition → condition.Readable) ∧
    (∀ (condition : Condition) (params : Params), condition.Readable →
      (∃ reading, ReadBack (condition.render.run params).2.toList (condition.render.run params).1 reading) ∧
      ∀ reading, ReadBack (condition.render.run params).2.toList (condition.render.run params).1 reading →
        ∀ atom, reading.truth atom = condition.truth atom) ∧
    ∀ (left right : Condition) (params others : Params), left.Readable → right.Readable →
      (left.render.run params).1 = (right.render.run others).1 →
      (left.render.run params).2.toList = (right.render.run others).2.toList →
      ∀ atom, left.truth atom = right.truth atom := by
  refine ⟨?_, ?_, ?_⟩
  · intro registry composition root query condition registered resolved filtered
    exact Query.filter_readable registered resolved filtered
  · intro condition params readable
    obtain ⟨reading, reads, same⟩ := readable.readBack params
    refine ⟨⟨reading, reads⟩, fun other otherReads atom => ?_⟩
    rw [ReadBack.unique otherReads reads]
    exact same atom
  · intro left right params others readableLeft readableRight sameText sameValues atom
    obtain ⟨reading, reads, same⟩ := readableLeft.readBack params
    obtain ⟨other, otherReads, otherSame⟩ := readableRight.readBack others
    have sameReads : ReadBack (right.rendered others).2.toList (right.rendered others).1 reading := by
      change ReadBack (right.render.run others).2.toList (right.render.run others).1 reading
      rw [← sameText, ← sameValues]
      exact reads
    rw [← same, ← otherSame, ReadBack.unique sameReads otherReads]

theorem Condition.text_keeps_truth_books :
    ∃ query condition, (Composition.filter (.equal ⟨["author", "name"]⟩ (.text "Ada") [])).specification.query
        books.schema "Book" = .ok query ∧ query.filter = some condition ∧
      (condition.render.run {}).1 = "t1.name = $1" ∧
      ∃ reading, ReadBack [.text "Ada"] "t1.name = $1" reading ∧ ∀ atom, reading.truth atom = condition.truth atom := by
  obtain ⟨readable, readBack, _⟩ := Condition.text_keeps_truth
  refine ⟨_, _, rfl, rfl, rfl, ?_⟩
  obtain ⟨⟨reading, reads⟩, same⟩ := readBack _ {} (readable books
    (.filter (.equal ⟨["author", "name"]⟩ (.text "Ada") [])) "Book" _ _ books_registered rfl rfl)
  exact ⟨reading, reads, same reading reads⟩

end RecordFilter
