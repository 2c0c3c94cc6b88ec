import RecordFilter.Proofs.Scope.History

set_option autoImplicit false

namespace RecordFilter

theorem eraseDups_concat (items : List (List String)) (item : List String) :
    (items ++ [item]).eraseDups = if item ∈ items then items.eraseDups else items.eraseDups ++ [item] := by
  rw [List.eraseDups_append]
  by_cases known : item ∈ items
  · simp only [List.removeAll, List.filter_cons, List.elem_eq_true_of_mem known, if_pos known]
    simp
  · have fresh : items.elem item = false := by simpa using known
    simp only [List.removeAll, List.filter_cons, fresh, if_neg known]
    simp [List.eraseDups_cons]

theorem JoinClause.text_begins (clause : JoinClause) :
    ∃ rest, clause.text = Text.uppercase clause.kind.name ++ " JOIN " ++ rest := by
  refine ⟨clause.table ++ " " ++ tableName clause.number ++ " ON " ++ (columnOf clause.number clause.key).text ++ " = "
    ++ clause.other.text, ?_⟩
  rw [text, clause.kind.keyword_eq]
  simp only [String.append_assoc]
  rfl

structure Crossing where
  crossed : List String
  kind : JoinKind
  fetch : Bool
deriving DecidableEq

namespace Scope

def associations (scope : Scope) : List Join := scope.joins.filter fun join => join.entity.isSome

def collections (scope : Scope) : List Join := scope.joins.filter fun join => join.entity.isNone

def Event.crossing? : Event → Option Crossing
  | cross crossed kind fetch => some ⟨crossed, kind, fetch⟩
  | distinct _ | collect _ _ => none

def Event.collected? : Event → Option (List String)
  | collect crossed _ => some crossed
  | distinct _ | cross _ _ _ => none

-- The history enters only through its crossings and collections, each in the order of the steps.
structure Tracks (scope : Scope) (crossings : List Crossing) (collected : List (List String)) : Prop where
  shared : scope.associations.map Join.crossed = (crossings.map Crossing.crossed).eraseDups
  settled : ∀ join ∈ scope.associations, ∃ first,
    crossings.find? (fun crossing => crossing.crossed = join.crossed) = some first ∧
      join.clauses ≠ [] ∧ ∀ clause ∈ join.clauses, clause.kind = first.kind
  fetched : ∀ join ∈ scope.associations,
    join.fetch = crossings.any fun crossing => crossing.fetch && crossing.crossed = join.crossed
  collections : scope.collections.map Join.crossed = collected

variable {schema : Schema} {scope after : Scope} {crossings : List Crossing} {collected : List (List String)}

theorem entity_shareJoin (crossed : List String) (fetch : Bool) (join : Join) :
    (shareJoin crossed fetch join).entity = join.entity := by
  rw [shareJoin]
  split <;> rfl

theorem clauses_shareJoin (crossed : List String) (fetch : Bool) (join : Join) :
    (shareJoin crossed fetch join).clauses = join.clauses := by
  rw [shareJoin]
  split <;> rfl

theorem associations_share (scope : Scope) (crossed : List String) (fetch : Bool) :
    (scope.share crossed fetch).associations = scope.associations.map (shareJoin crossed fetch) := by
  simp only [associations, joins_share, List.filter_map, Function.comp_def, entity_shareJoin]

theorem collections_share (scope : Scope) (crossed : List String) (fetch : Bool) :
    (scope.share crossed fetch).collections = scope.collections.map (shareJoin crossed fetch) := by
  simp only [Scope.collections, joins_share, List.filter_map, Function.comp_def, entity_shareJoin]

theorem Tracks.mem_crossed_iff (tracks : scope.Tracks crossings collected) (crossed : List String) :
    crossed ∈ crossings.map Crossing.crossed ↔ crossed ∈ scope.associations.map Join.crossed := by
  rw [tracks.shared, List.mem_eraseDups]

theorem Tracks.share (tracks : scope.Tracks crossings collected) {join : Join} {crossed : List String}
    (kind : JoinKind) (fetch : Bool) (found : scope.association? crossed = some join) :
    (scope.share crossed fetch).Tracks (crossings ++ [⟨crossed, kind, fetch⟩]) collected := by
  have leads := (join.leadsTo_iff crossed).mp (List.find?_some found)
  have known : crossed ∈ crossings.map Crossing.crossed := by
    rw [tracks.mem_crossed_iff]
    exact List.mem_map.mpr ⟨join, List.mem_filter.mpr ⟨List.mem_of_find?_eq_some found, leads.1⟩, leads.2⟩
  constructor
  · rw [associations_share, List.map_map, List.map_append, List.map_singleton, eraseDups_concat, if_pos known]
    simpa only [Function.comp_def, crossed_shareJoin] using tracks.shared
  · intro shared member
    rw [associations_share] at member
    obtain ⟨old, held, rfl⟩ := List.mem_map.mp member
    obtain ⟨first, isFirst, kinds⟩ := tracks.settled old held
    refine ⟨first, ?_, ?_⟩
    · rw [crossed_shareJoin, List.find?_append, isFirst, Option.some_or]
    · rw [clauses_shareJoin]
      exact kinds
  · intro shared member
    rw [associations_share] at member
    obtain ⟨old, held, rfl⟩ := List.mem_map.mp member
    have related := (List.mem_filter.mp held).2
    rw [crossed_shareJoin, List.any_append, ← tracks.fetched old held]
    -- The new crossing counts for one join only, and only if it asks for the row.
    by_cases marked : (fetch && old.leadsTo crossed) = true
    · have here := (old.leadsTo_iff crossed).mp (Bool.and_eq_true_iff.mp marked).2
      rw [shareJoin, if_pos marked]
      simp [(Bool.and_eq_true_iff.mp marked).1, here.2]
    · rw [shareJoin, if_neg marked]
      have elsewhere : (fetch && decide (crossed = old.crossed)) = false := by
        rw [Bool.eq_false_iff]
        intro both
        obtain ⟨wanted, same⟩ := Bool.and_eq_true_iff.mp both
        exact marked (Bool.and_eq_true_iff.mpr
          ⟨wanted, (old.leadsTo_iff crossed).mpr ⟨related, (of_decide_eq_true same).symm⟩⟩)
      simp [elsewhere]
  · rw [collections_share, List.map_map]
    simpa only [Function.comp_def, crossed_shareJoin] using tracks.collections

theorem Tracks.associate (tracks : scope.Tracks crossings collected) {crossed : List String} {join : Join}
    {kind : JoinKind} (absent : scope.association? crossed = none) (related : join.entity.isSome = true)
    (crosses : join.crossed = crossed)
    (kinds : join.clauses ≠ [] ∧ ∀ clause ∈ join.clauses, clause.kind = kind) :
    (scope.extend join).Tracks (crossings ++ [⟨crossed, kind, join.fetch⟩]) collected := by
  have extended : (scope.extend join).associations = scope.associations ++ [join] := by
    simp [associations, extend, related]
  have unheld : ∀ old ∈ scope.associations, old.crossed ≠ crossed := by
    intro old held same
    obtain ⟨member, oldRelated⟩ := List.mem_filter.mp held
    have leads := List.find?_eq_none.mp absent old member
    exact leads ((old.leadsTo_iff crossed).mpr ⟨oldRelated, same⟩)
  have unknown : crossed ∉ crossings.map Crossing.crossed := by
    rw [tracks.mem_crossed_iff]
    intro member
    obtain ⟨old, held, same⟩ := List.mem_map.mp member
    exact unheld old held same
  have untouched : ∀ crossing ∈ crossings, crossing.crossed ≠ crossed := fun crossing member same =>
    unknown (List.mem_map.mpr ⟨crossing, member, same⟩)
  constructor
  · rw [extended, List.map_append, List.map_append, List.map_singleton, List.map_singleton, eraseDups_concat,
      if_neg unknown, tracks.shared, crosses]
  · intro held member
    rw [extended, List.mem_append] at member
    rcases member with old | fresh
    · obtain ⟨first, isFirst, same⟩ := tracks.settled held old
      exact ⟨first, by rw [List.find?_append, isFirst, Option.some_or], same⟩
    · rw [List.mem_singleton.mp fresh]
      have noEarlier : crossings.find? (fun crossing => crossing.crossed = join.crossed) = none := by
        rw [List.find?_eq_none]
        intro crossing isOld
        simpa [crosses] using untouched crossing isOld
      refine ⟨⟨crossed, kind, join.fetch⟩, ?_, kinds⟩
      rw [List.find?_append, noEarlier, Option.none_or]
      simp [crosses]
  · intro held member
    rw [extended, List.mem_append] at member
    rw [List.any_append]
    rcases member with old | fresh
    · rw [← tracks.fetched held old]
      simp [(unheld held old).symm]
    · rw [List.mem_singleton.mp fresh]
      have never : (crossings.any fun crossing => crossing.fetch && decide (crossing.crossed = join.crossed)) = false := by
        rw [List.any_eq_false]
        intro crossing isOld
        simp [crosses, untouched crossing isOld]
      rw [never]
      simp [crosses]
  · simpa [Scope.collections, extend, Option.isSome_iff_ne_none.mp related] using tracks.collections

theorem Tracks.collect (tracks : scope.Tracks crossings collected) {join : Join} (valued : join.entity = none) :
    (scope.extend join).Tracks crossings (collected ++ [join.crossed]) := by
  have same : (scope.extend join).associations = scope.associations := by
    simp [associations, extend, valued]
  refine ⟨same ▸ tracks.shared, same ▸ tracks.settled, same ▸ tracks.fetched, ?_⟩
  rw [← tracks.collections]
  simp [Scope.collections, extend, valued]

theorem Step.tracks {event : Event} (taken : Step schema scope event after)
    (tracks : scope.Tracks crossings collected) :
    after.Tracks (crossings ++ event.crossing?.toList) (collected ++ event.collected?.toList) := by
  cases taken with
  | distinct flag =>
    rw [Event.crossing?, Event.collected?, Option.toList_none, Option.toList_none, List.append_nil, List.append_nil]
    exact ⟨tracks.shared, tracks.settled, tracks.fetched, tracks.collections⟩
  | share join crossed kind fetch found =>
    rw [Event.collected?, Option.toList_none, List.append_nil]
    exact tracks.share kind fetch found
  | associate place field relation kind fetch join reached declared absent planned =>
    obtain ⟨parent, target, clauses, _, _, written, rfl⟩ := Schema.associationJoin_ok planned
    rw [Event.collected?, Option.toList_none, List.append_nil]
    exact tracks.associate absent rfl rfl (Relation.clausesAt_kind written)
  | collect place field table foreignKey column kind join reached declared planned =>
    obtain ⟨parent, parentKey, _, _, rfl⟩ := Schema.collectionJoin_ok planned
    rw [Event.crossing?, Option.toList_none, List.append_nil]
    exact tracks.collect rfl

theorem Run.tracks {history : List Event} (run : Run schema scope history after)
    (tracks : scope.Tracks crossings collected) :
    after.Tracks (crossings ++ history.filterMap Event.crossing?) (collected ++ history.filterMap Event.collected?) := by
  induction run generalizing crossings collected with
  | done scope => simpa using tracks
  | step scope event between rest after taken onward ih =>
    have further := ih (taken.tracks tracks)
    rw [List.append_assoc, List.append_assoc] at further
    cases event <;> exact further

theorem tracks_start (table entity : String) : Tracks { table, entity } [] [] :=
  ⟨rfl, nofun, nofun, rfl⟩

end Scope

end RecordFilter
