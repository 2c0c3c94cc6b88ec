import RecordFilter.Proofs.Composer.Range
import RecordFilter.Proofs.Scope.Destination
import RecordFilter.Proofs.Specification.Scoped

set_option autoImplicit false

namespace RecordFilter

def Destination.isElement : Destination → Bool
  | column _ _ => false
  | element _ _ => true

section Walk

variable {schema : Schema} {scope after : Scope} {kind : JoinKind} {fetch : Bool} {place : Place}

theorem Scope.Step.nextNumber_le {event : Scope.Event} (taken : Scope.Step schema scope event after) :
    scope.nextNumber ≤ after.nextNumber := by
  cases taken with
  | distinct flag => exact Nat.le_refl _
  | share join crossed kind fetch found => exact Nat.le_of_eq (Scope.nextNumber_share scope crossed fetch).symm
  | associate | collect => exact Nat.le_add_right _ _

theorem walk_fresh (segments : List String) {column : Column} {crossed : List String} {name : String}
    (sound : scope.Sound schema) (reached : place ∈ scope.places)
    (leads : schema.destination place.entity place.crossed segments = .ok (.element crossed name))
    (succeeded : (walk schema kind fetch segments place).outcome scope = (.ok column, after)) :
    ∃ number, scope.nextNumber ≤ number ∧ column = columnOf number name := by
  induction segments generalizing place scope with
  | nil =>
    rw [Schema.destination] at leads
    obtain ⟨key, _, same⟩ := bind_ok leads
    cases same
  | cons field rest ih =>
    rw [walk] at succeeded
    obtain ⟨found, declared, afterField⟩ := Resolve.outcome_lift_bind_ok succeeded
    rw [Schema.destination, declared] at leads
    cases found with
    | scalar other => cases leads
    | collection table foreignKey value =>
      change (schema.keyOf place.entity >>= _) = _ at leads
      obtain ⟨key, _, same⟩ := bind_ok leads
      cases same
      obtain ⟨join, planned, _, rfl⟩ := joinCollection_ok afterField
      obtain ⟨parent, parentKey, _, _, rfl⟩ := Schema.collectionJoin_ok planned
      exact ⟨_, Nat.le_refl _, rfl⟩
    | association relation =>
      obtain ⟨next, between, crossing, onward⟩ := Resolve.outcome_bind_ok afterField
      obtain ⟨step, standing, crosses⟩ := crossAssociation_step reached declared crossing
      have passed : ((crossAssociation schema kind fetch place field relation).outcome scope).1.map Place.entity =
          schema.crossing place.entity relation := crossAssociation_crossing sound reached declared
      rw [crossing] at passed
      change (schema.crossing place.entity relation >>= _) = _ at leads
      rw [← passed, ← crosses] at leads
      obtain ⟨number, fresh, same⟩ := ih (step.sound sound) standing leads onward
      exact ⟨number, Nat.le_trans step.nextNumber_le fresh, same⟩

theorem Path.resolve_fresh {path : Path} {column : Column} {crossed : List String} {name : String}
    (sound : scope.Sound schema) (leads : path.destination schema scope.entity = .ok (.element crossed name))
    (succeeded : (path.resolve schema kind fetch).outcome scope = (.ok column, after)) :
    ∃ number, scope.nextNumber ≤ number ∧ column = columnOf number name := by
  by_cases broken : path.segments = [] ∨ "" ∈ path.segments
  · rw [Path.destination, if_pos broken] at leads
    cases leads
  · rw [Path.resolve_wellFormed (path.isWellFormed_iff.mpr broken)] at succeeded
    rw [Path.destination, if_neg broken] at leads
    exact walk_fresh path.segments sound (List.mem_cons_self ..) leads succeeded

end Walk

section Predicates

variable {schema : Schema} {scope between after : Scope}

structure Predicate.TestedOn (schema : Schema) (scope : Scope) (predicate : Predicate) (condition : Condition)
    (after : Scope) (destination : Destination) (column : Column) : Prop where
  leads : predicate.options.path.destination schema scope.entity = .ok destination
  isColumn : destination.IsColumn after column
  fresh : ∀ crossed name, destination = .element crossed name →
    ∃ number, scope.nextNumber ≤ number ∧ column = columnOf number name
  tested : condition = predicate.test.condition column predicate.options.negated

theorem Predicate.resolve_tested {predicate : Predicate} {condition : Condition} (sound : scope.Sound schema)
    (orderly : scope.Orderly) (succeeded : (predicate.resolve schema).outcome scope = (.ok condition, after)) :
    ∃ destination column, predicate.TestedOn schema scope condition after destination column := by
  simp only [Predicate.resolve] at succeeded
  rw [Resolve.outcome_bind, Resolve.outcome_modify] at succeeded
  obtain ⟨column, reached, followed, finished⟩ := Resolve.outcome_bind_ok succeeded
  rw [Resolve.outcome_pure, Prod.mk.injEq, Except.ok.injEq] at finished
  obtain ⟨rfl, rfl⟩ := finished
  have step : Scope.Step schema scope _ _ := .distinct scope predicate.options.distinct
  have soundThere := step.sound sound
  obtain ⟨destination, leads, isColumn⟩ := Path.resolve_reaches soundThere (step.orderly orderly) followed
  refine ⟨destination, column, leads, isColumn, ?_, rfl⟩
  rintro crossed name rfl
  have fresh := Path.resolve_fresh soundThere leads followed
  exact fresh

theorem Predicate.resolve_twice (first second : Predicate) {low high : Condition}
    (samePath : second.options.path = first.options.path) (sound : scope.Sound schema) (orderly : scope.Orderly)
    (earlier : (first.resolve schema).outcome scope = (.ok low, between))
    (later : (second.resolve schema).outcome between = (.ok high, after)) :
    ∃ destination column other, first.options.path.destination schema scope.entity = .ok destination ∧
      low = first.test.condition column first.options.negated ∧
      high = second.test.condition other second.options.negated ∧
      (destination.isElement = false → other = column) ∧
      (destination.isElement = true → other.source ≠ column.source) := by
  obtain ⟨firstRun, _⟩ := Predicate.resolve_run sound earlier
  have soundBetween := firstRun.sound sound
  have orderlyBetween : between.Orderly :=
    firstRun.keeps Scope.Orderly (fun _ _ _ taken kept => taken.orderly kept) orderly
  obtain ⟨secondRun, _⟩ := Predicate.resolve_run soundBetween later
  obtain ⟨destination, column, here⟩ := Predicate.resolve_tested sound orderly earlier
  obtain ⟨again, other, there⟩ := Predicate.resolve_tested soundBetween orderlyBetween later
  have same : again = destination := by
    have leads := there.leads
    rw [samePath, firstRun.entity, here.leads] at leads
    exact (Except.ok.inj leads).symm
  subst same
  refine ⟨again, column, other, here.leads, here.tested, there.tested, ?_, ?_⟩
  · intro shared
    cases again with
    | element crossed name => cases shared
    | column crossed name =>
      obtain ⟨place, only, rfl⟩ := here.isColumn
      obtain ⟨next, onlyThere, rfl⟩ := there.isColumn
      obtain ⟨reached, crosses⟩ := (only place).mpr rfl
      have stays : place ∈ after.places :=
        secondRun.keeps (fun reached => place ∈ reached.places) (fun _ _ _ taken => taken.places place) reached
      rw [(onlyThere place).mp ⟨stays, crosses⟩]
  · intro element
    cases again with
    | column crossed name => cases element
    | element crossed name =>
      obtain ⟨prior, join, joins, _, _, clauses, _, rfl⟩ := here.isColumn
      obtain ⟨number, fresh, rfl⟩ := there.fresh crossed name rfl
      intro sameSource
      have used : join.number ∈ 0 :: between.clauses.map JoinClause.number := by
        obtain ⟨clause, single, named⟩ := List.map_eq_singleton_iff.mp clauses
        refine List.mem_cons_of_mem _ (List.mem_map.mpr ⟨clause, ?_, tableName_injective named⟩)
        refine List.mem_flatMap.mpr ⟨join, ?_, ?_⟩
        · rw [joins]
          exact List.mem_append_right _ (List.mem_singleton_self _)
        · rw [single]
          exact List.mem_singleton_self _
      have below := orderlyBetween.taken join.number used
      rw [← tableName_injective sameSource] at below
      exact absurd fresh (Nat.not_le_of_lt below)

end Predicates

namespace RangeDraft

variable {schema : Schema} {scope after : Scope}

def compared (conditions : List Condition) : List Column := conditions.flatMap Condition.columns

theorem compared_joint (range : RangeDraft) (closed : range.range.isClosed = true) (column : Column) :
    compared [(range.withForm range.jointForm).test.condition column range.options.negated] ≠ [] := by
  obtain ⟨from_, upTo, isLow, isHigh⟩ := Range.ends_of_isClosed closed
  simp only [compared, withForm, jointForm, List.flatMap_singleton, Test.condition]
  split
  · simp [RangeForm.condition, isLow, isHigh, Condition.columns]
  · simp [RangeForm.condition, Bound.operand_lowerSign, Bound.operand_upperSign, isLow, isHigh,
      Condition.negatedWhen_columns, Condition.columns, Condition.columnsOf, Sign.condition]

theorem compared_apart (range : RangeDraft) (closed : range.range.isClosed = true) (low high : Column) :
    compared [(range.lowSide range.lowBound).test.condition low range.options.negated,
      (range.highSide range.highBound).test.condition high range.options.negated] = [low, high] := by
  obtain ⟨from_, upTo, isLow, isHigh⟩ := Range.ends_of_isClosed closed
  simp [compared, lowSide, highSide, withForm, Test.condition, RangeForm.condition, Bound.operand_lowerSign,
    Bound.operand_upperSign, isLow, isHigh, Condition.negatedWhen_columns, Condition.columns, Sign.condition]

theorem predicates_compared (range : RangeDraft) {conditions : List Condition} (closed : range.range.isClosed = true)
    (sound : scope.Sound schema) (orderly : scope.Orderly)
    (succeeded : (range.predicates.mapM (Predicate.resolve schema)).outcome scope = (.ok conditions, after)) :
    ∃ destination, range.options.path.destination schema scope.entity = .ok destination ∧
      (range.isJoint = true ∨ destination.isElement = false →
        ∃ column, compared conditions ≠ [] ∧ ∀ used ∈ compared conditions, used = column) ∧
      (range.isJoint = false → destination.isElement = true →
        ∃ low high, compared conditions = [low, high] ∧ high.source ≠ low.source) := by
  cases joint : range.isJoint with
  | true =>
    rw [range.predicates_joint closed joint] at succeeded
    obtain ⟨condition, between, others, first, onward, rfl⟩ := Resolve.mapM_cons_ok succeeded
    rw [List.mapM_nil, Resolve.outcome_pure, Prod.mk.injEq, Except.ok.injEq] at onward
    obtain ⟨rfl, rfl⟩ := onward
    obtain ⟨destination, column, tested⟩ := Predicate.resolve_tested sound orderly first
    refine ⟨destination, tested.leads, fun _ => ⟨column, ?_, ?_⟩, fun apart => nomatch apart⟩
    · rw [tested.tested]
      exact range.compared_joint closed column
    · rw [compared, List.flatMap_singleton, tested.tested]
      exact Condition.test_columns _ _ _
  | false =>
    rw [range.predicates_apart closed joint] at succeeded
    obtain ⟨lowCondition, between, others, first, onward, rfl⟩ := Resolve.mapM_cons_ok succeeded
    obtain ⟨highCondition, reached, more, second, finished, rfl⟩ := Resolve.mapM_cons_ok onward
    rw [List.mapM_nil, Resolve.outcome_pure, Prod.mk.injEq, Except.ok.injEq] at finished
    obtain ⟨rfl, rfl⟩ := finished
    obtain ⟨destination, low, high, leads, lowTested, highTested, shared, anew⟩ :=
      Predicate.resolve_twice (range.lowSide range.lowBound) (range.highSide range.highBound) rfl sound orderly first second
    have columns : compared [lowCondition, highCondition] = [low, high] := by
      rw [lowTested, highTested]
      exact range.compared_apart closed low high
    rw [columns]
    refine ⟨destination, leads, fun one => ⟨low, List.cons_ne_nil _ _, ?_⟩, fun _ element => ⟨low, high, rfl, anew element⟩⟩
    have same := shared (one.resolve_left Bool.false_ne_true)
    simp [same]

end RangeDraft

def RangeDraft.stamped (flag : Bool) (range : RangeDraft) : RangeDraft :=
  { range with options := { range.options with distinct := flag } }

theorem RangeDraft.predicates_stamped (range : RangeDraft) (closed : range.range.isClosed = true) (flag : Bool) :
    (range.stamped flag).predicates = range.predicates.map (Predicate.withDistinct flag) := by
  cases joint : range.isJoint with
  | true =>
    rw [range.predicates_joint closed joint, (range.stamped flag).predicates_joint closed joint]
    rfl
  | false =>
    rw [range.predicates_apart closed joint, (range.stamped flag).predicates_apart closed joint]
    rfl

/-- A range with two ends is tested on one column, unless it is tested end by end on a collection; then its two ends are
compared with values of two joins. -/
theorem Query.range_tests_one_value {schema : Schema} {root : String} {specification : Specification} {settings : Settings}
    {path : Path} {ends : Range Value} {adjustments : List RangeAdjustment} {flag : Bool} {earlier later : List Predicate}
    {orderings : List (Path × Direction)} {start query : Query} (closed : ends.isClosed = true)
    (held : specification.predicates =
      earlier ++ (settings.rangePredicates path ends adjustments).map (Predicate.withDistinct flag) ++ later)
    (resolved : specification.query schema root = .ok start) (ordered : start.orderByAll orderings = .ok query) :
    ∃ entity conditions destination, schema.entity root = .ok entity ∧
      query.Follows schema entity specification orderings conditions ∧
      path.destination schema entity.name = .ok destination ∧
      let range := settings.adjustedRange path ends adjustments
      let compared := RangeDraft.compared ((conditions.drop earlier.length).take range.predicates.length)
      (range.isJoint = true ∨ destination.isElement = false →
        ∃ column, compared ≠ [] ∧ ∀ used ∈ compared, used = column) ∧
      (range.isJoint = false → destination.isElement = true →
        ∃ low high, compared = [low, high] ∧ high.source ≠ low.source) := by
  obtain ⟨entity, conditions, found, parts⟩ := Specification.query_resolved resolved
  have closedRange := settings.adjustedRange_closed path closed adjustments
  have each := parts.each
  rw [held, settings.rangePredicates_closed path closed, ← RangeDraft.predicates_stamped _ closedRange] at each
  obtain ⟨_, reached, after, upToRange, _, rfl⟩ := Resolve.mapM_append_parts each
  obtain ⟨before, between, own, first, second, rfl⟩ := Resolve.mapM_append_parts upToRange
  obtain ⟨run, _⟩ := Predicate.resolveEach_run (Scope.sound_start entity.table entity.name) first
  have sound := run.sound (Scope.sound_start entity.table entity.name)
  have orderly : between.Orderly := run.keeps Scope.Orderly (fun _ _ _ taken kept => taken.orderly kept)
    (Scope.orderly_start entity.table entity.name)
  obtain ⟨destination, leads, one, two⟩ :=
    RangeDraft.predicates_compared (.stamped flag _) closedRange sound orderly second
  rw [run.entity] at leads
  have samePath : ((settings.adjustedRange path ends adjustments).stamped flag).options.path = path :=
    RangeDraft.path_adjustAll (settings.rangeDraft path ends) adjustments
  have width := Resolve.mapM_length second
  rw [RangeDraft.predicates_stamped _ closedRange, List.length_map] at width
  have mine : ((before ++ own ++ after).drop earlier.length).take
      (settings.adjustedRange path ends adjustments).predicates.length = own := by
    rw [List.append_assoc, List.drop_left' (Resolve.mapM_length first), List.take_left' width]
  refine ⟨entity, _, destination, found, parts.follows ordered, samePath ▸ leads, ?_⟩
  dsimp only
  rw [mine]
  exact ⟨one, two⟩

def tagsBetween (adjustments : List RangeAdjustment) : Composer :=
  (Composer.accept {} (.isNotNull ⟨["author"]⟩ true [])).accept
    (.between ⟨["tags"]⟩ ⟨some (.text "a"), some (.text "m")⟩ adjustments)

theorem Query.range_tests_one_value_tags :
    let book := books.entities[2]
    (∃ query conditions, (tagsBetween [.options .negate]).build.query books.schema "Book" = .ok query ∧
      query.Follows books.schema book (tagsBetween [.options .negate]).build [] conditions ∧
      ∃ column, ∀ used ∈ RangeDraft.compared ((conditions.drop 1).take 1), used = column) ∧
    ∃ query conditions, (tagsBetween []).build.query books.schema "Book" = .ok query ∧
      query.Follows books.schema book (tagsBetween []).build [] conditions ∧
      ∃ low high, RangeDraft.compared ((conditions.drop 1).take 2) = [low, high] ∧ high.source ≠ low.source := by
  intro book
  let ends : Range Value := ⟨some (.text "a"), some (.text "m")⟩
  have closed : ends.isClosed = true := rfl
  have held (adjustments : List RangeAdjustment) : (tagsBetween adjustments).build.predicates =
      [nullPredicate { path := ⟨["author"]⟩, negated := true }] ++
        (Settings.rangePredicates {} ⟨["tags"]⟩ ends adjustments).map (Predicate.withDistinct true) ++ [] :=
    (tagsBetween adjustments).predicates_build
  constructor
  · obtain ⟨entity, conditions, destination, found, follows, _, one, _⟩ := Query.range_tests_one_value closed
      (held [.options .negate]) (show (tagsBetween [.options .negate]).build.query books.schema "Book" = .ok _ from rfl)
      (show Query.orderByAll _ [] = .ok _ from rfl)
    cases found
    obtain ⟨column, _, same⟩ := one (.inl rfl)
    exact ⟨_, conditions, rfl, follows, column, same⟩
  · obtain ⟨entity, conditions, destination, found, follows, leads, _, two⟩ := Query.range_tests_one_value closed
      (held []) (show (tagsBetween []).build.query books.schema "Book" = .ok _ from rfl)
      (show Query.orderByAll _ [] = .ok _ from rfl)
    cases found
    cases leads
    exact ⟨_, conditions, rfl, follows, two rfl rfl⟩

-- Two tags may meet the two ends, where no single tag lies between them.
theorem Query.range_tests_two_values :
    let specification := Specification.ofPredicates
      (Settings.rangePredicates {} ⟨["tags"]⟩ ⟨some (.text "a"), some (.text "m")⟩ [])
    ∃ query condition, specification.query books.schema "Book" = .ok query ∧ query.filter = some condition ∧
      query.select.text = "SELECT DISTINCT t0.* FROM books t0 INNER JOIN book_tags t1 ON t1.book_id = t0.id " ++
        "INNER JOIN book_tags t2 ON t2.book_id = t0.id WHERE t1.tag >= $1 AND t2.tag <= $2" ∧
      ¬ ∃ column, ∀ used ∈ condition.columns, used = column := by
  refine ⟨_, _, rfl, rfl, by decide +kernel, ?_⟩
  rintro ⟨column, same⟩
  have low : (⟨"t1", "tag"⟩ : Column) = column := same _ (by decide)
  have high : (⟨"t2", "tag"⟩ : Column) = column := same _ (by decide)
  exact absurd (low.trans high.symm) (by decide)

end RecordFilter
