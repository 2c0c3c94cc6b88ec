import Mathlib.Data.List.Nodup
import Mathlib.Data.List.Perm.Basic
import RecordFilter.Proofs.Scope.Sharing

set_option autoImplicit false

namespace RecordFilter

theorem tableName_injective {first second : Nat} (same : tableName first = tableName second) : first = second := by
  have letters := congrArg String.toList same
  rw [toList_tableName, toList_tableName] at letters
  have numbers := congrArg (fun digits => Nat.ofDigitChars 10 digits 0) (List.cons.inj letters).2
  simpa only [Nat.ofDigitChars_ten_toDigits] using numbers

namespace JoinClause

def shortName (clause : JoinClause) : String := tableName clause.number

def columns (clause : JoinClause) : List Column := [columnOf clause.number clause.key, clause.other]

end JoinClause

def Leftward : (bound : List String) → List JoinClause → Prop
  | _, [] => True
  | bound, clause :: rest =>
    (∀ column ∈ clause.columns, column.source ∈ bound ++ [clause.shortName]) ∧ Leftward (bound ++ [clause.shortName]) rest

theorem leftward_append {bound : List String} {first second : List JoinClause} (left : Leftward bound first)
    (right : Leftward (bound ++ first.map JoinClause.shortName) second) : Leftward bound (first ++ second) := by
  induction first generalizing bound with
  | nil => simpa using right
  | cons clause rest ih =>
    refine ⟨left.1, ih left.2 ?_⟩
    simpa using right

theorem leftward_single {bound : List String} {clause : JoinClause} (other : clause.other.source ∈ bound) :
    Leftward bound [clause] := by
  refine ⟨?_, trivial⟩
  intro column member
  simp only [JoinClause.columns, List.mem_cons, List.not_mem_nil, or_false] at member
  rcases member with rfl | rfl
  · exact List.mem_append_right _ (List.mem_singleton_self _)
  · exact List.mem_append_left _ other

namespace Join.Prescribed

variable {schema : Schema} {places : List Place} {join : Join}

theorem shape (prescribed : join.Prescribed schema places) :
    ∃ place ∈ places, (∃ clause, join.clauses = [clause] ∧ clause.number = join.number ∧
        clause.other.source = tableName place.number) ∨
      ∃ link clause, join.clauses = [link, clause] ∧ link.number = join.number + 1 ∧
        link.other.source = tableName place.number ∧ clause.number = join.number ∧ clause.other.source = link.shortName := by
  cases prescribed with
  | association place field relation kind fetch number join reached declared planned =>
    obtain ⟨parent, target, clauses, _, _, written, rfl⟩ := Schema.associationJoin_ok planned
    have clausesAre := Relation.clausesAt_ok written
    refine ⟨place, reached, ?_⟩
    cases relation with
    | belongsTo | hasOne | hasMany =>
      obtain ⟨_, _, rfl⟩ := clausesAre
      exact .inl ⟨_, rfl, rfl, rfl⟩
    | manyToMany =>
      obtain ⟨_, _, _, _, rfl⟩ := clausesAre
      exact .inr ⟨_, _, rfl, rfl, rfl, rfl, rfl⟩
  | collection place field table foreignKey column kind number join reached declared planned =>
    obtain ⟨parent, parentKey, _, _, rfl⟩ := Schema.collectionJoin_ok planned
    exact ⟨place, reached, .inl ⟨_, rfl, rfl, rfl⟩⟩

theorem numbers (prescribed : join.Prescribed schema places) :
    (join.clauses.map JoinClause.number).Perm (List.range' join.number join.clauses.length) := by
  obtain ⟨place, _, single | linked⟩ := prescribed.shape
  · obtain ⟨clause, clauses, number, _⟩ := single
    rw [clauses, List.map_singleton, number]
    rfl
  · obtain ⟨link, clause, clauses, linkNumber, _, number, _⟩ := linked
    rw [clauses, List.map_cons, List.map_singleton, linkNumber, number]
    exact List.Perm.swap _ _ _

theorem number_mem (prescribed : join.Prescribed schema places) : join.number ∈ join.clauses.map JoinClause.number := by
  obtain ⟨place, _, single | linked⟩ := prescribed.shape
  · obtain ⟨clause, clauses, number, _⟩ := single
    simp [clauses, number]
  · obtain ⟨link, clause, clauses, _, _, number, _⟩ := linked
    simp [clauses, number]

theorem leftward {bound : List String} (prescribed : join.Prescribed schema places)
    (known : ∀ place ∈ places, tableName place.number ∈ bound) : Leftward bound join.clauses := by
  obtain ⟨place, reached, single | linked⟩ := prescribed.shape
  · obtain ⟨clause, clauses, _, other⟩ := single
    rw [clauses]
    exact leftward_single (other ▸ known place reached)
  · obtain ⟨link, clause, clauses, _, linkOther, _, other⟩ := linked
    rw [clauses]
    refine leftward_append (leftward_single (linkOther ▸ known place reached)) (leftward_single ?_)
    rw [other]
    exact List.mem_append_right _ (List.mem_singleton_self _)

end Join.Prescribed

namespace Scope

def clauses (scope : Scope) : List JoinClause := scope.joins.flatMap Join.clauses

def shortNames (scope : Scope) : List String := tableName 0 :: scope.clauses.map JoinClause.shortName

-- A link takes its number after the table it leads to but stands before it, so the numbers are in order only up to a
-- permutation.
structure Numbered (scope : Scope) : Prop where
  numbers : (0 :: scope.clauses.map JoinClause.number).Perm (List.range scope.nextNumber)
  leftward : Leftward [tableName 0] scope.clauses

variable {schema : Schema} {scope after : Scope}

theorem clauses_share (scope : Scope) (crossed : List String) (fetch : Bool) :
    (scope.share crossed fetch).clauses = scope.clauses := by
  simp only [clauses, joins_share, List.flatMap_map, clauses_shareJoin]

theorem nextNumber_share (scope : Scope) (crossed : List String) (fetch : Bool) :
    (scope.share crossed fetch).nextNumber = scope.nextNumber := by
  cases fetch <;> rfl

theorem clauses_extend (scope : Scope) (join : Join) : (scope.extend join).clauses = scope.clauses ++ join.clauses := by
  simp [clauses, extend]

theorem Sound.shortName_mem (sound : scope.Sound schema) {place : Place} (reached : place ∈ scope.places) :
    tableName place.number ∈ scope.shortNames := by
  rcases List.mem_cons.mp reached with rfl | joined
  · exact List.mem_cons_self ..
  · obtain ⟨join, held, stands⟩ := List.mem_filterMap.mp joined
    obtain ⟨entity, _, rfl⟩ := Option.map_eq_some_iff.mp stands
    obtain ⟨clause, member, number⟩ := List.mem_map.mp (sound.joins join held).number_mem
    refine List.mem_cons_of_mem _ (List.mem_map.mpr ⟨clause, List.mem_flatMap.mpr ⟨join, held, member⟩, ?_⟩)
    exact congrArg tableName number

theorem Numbered.extend (numbered : scope.Numbered) (sound : scope.Sound schema) {join : Join}
    (prescribed : join.Prescribed schema scope.places) (number : join.number = scope.nextNumber) :
    (scope.extend join).Numbered := by
  constructor
  · rw [clauses_extend, List.map_append, ← List.cons_append]
    refine (numbered.numbers.append prescribed.numbers).trans ?_
    have next : (scope.extend join).nextNumber = scope.nextNumber + join.clauses.length := rfl
    rw [number, next, List.range_eq_range', List.range_eq_range', ← List.range'_append_1, Nat.zero_add]
  · rw [clauses_extend]
    refine leftward_append numbered.leftward (prescribed.leftward fun place reached => ?_)
    exact sound.shortName_mem reached

theorem Step.numbered {event : Event} (taken : Step schema scope event after) (sound : scope.Sound schema)
    (numbered : scope.Numbered) : after.Numbered := by
  cases taken with
  | distinct flag => exact ⟨numbered.numbers, numbered.leftward⟩
  | share join crossed kind fetch found =>
    constructor
    · rw [clauses_share, nextNumber_share]
      exact numbered.numbers
    · rw [clauses_share]
      exact numbered.leftward
  | associate place field relation kind fetch join reached declared absent planned =>
    refine numbered.extend sound (.association place field relation kind fetch _ join reached declared planned) ?_
    obtain ⟨parent, target, clauses, _, _, _, rfl⟩ := Schema.associationJoin_ok planned
    rfl
  | collect place field table foreignKey column kind join reached declared planned =>
    refine numbered.extend sound (.collection place field table foreignKey column kind _ join reached declared planned) ?_
    obtain ⟨parent, parentKey, _, _, rfl⟩ := Schema.collectionJoin_ok planned
    rfl

theorem Run.numbered {history : List Event} (run : Run schema scope history after) (sound : scope.Sound schema)
    (numbered : scope.Numbered) : after.Numbered := by
  induction run with
  | done scope => exact numbered
  | step scope event between rest after taken onward ih => exact ih (taken.sound sound) (taken.numbered sound numbered)

theorem numbered_start (table entity : String) : Numbered { table, entity } :=
  ⟨List.Perm.refl [0], trivial⟩

theorem shortNames_eq (scope : Scope) :
    scope.shortNames = (0 :: scope.clauses.map JoinClause.number).map tableName := by
  rw [List.map_cons, List.map_map]
  rfl

theorem Numbered.shortNames_perm (numbered : scope.Numbered) :
    scope.shortNames.Perm ((List.range scope.nextNumber).map tableName) := by
  rw [scope.shortNames_eq]
  exact numbered.numbers.map tableName

theorem Numbered.shortNames_nodup (numbered : scope.Numbered) : scope.shortNames.Nodup := by
  rw [numbered.shortNames_perm.nodup_iff]
  exact List.Nodup.map (fun _ _ => tableName_injective) List.nodup_range

theorem Numbered.nextNumber_eq (numbered : scope.Numbered) : scope.nextNumber = scope.clauses.length + 1 := by
  simpa using numbered.numbers.length_eq.symm

end Scope

end RecordFilter
