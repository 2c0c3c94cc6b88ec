import RecordFilter.Proofs.Scope.Growth

set_option autoImplicit false

namespace RecordFilter

inductive Join.Prescribed (schema : Schema) (places : List Place) : Join → Prop where
  | association (place : Place) (field : String) (relation : Relation) (kind : JoinKind) (fetch : Bool) (number : Nat)
      (join : Join) (reached : place ∈ places) (declared : schema.field place.entity field = .ok (.association relation))
      (planned : schema.associationJoin kind fetch place field relation number = .ok join) : Prescribed schema places join
  | collection (place : Place) (field table foreignKey column : String) (kind : JoinKind) (number : Nat) (join : Join)
      (reached : place ∈ places) (declared : schema.field place.entity field = .ok (.collection table foreignKey column))
      (planned : schema.collectionJoin kind place field table foreignKey number = .ok join) : Prescribed schema places join

namespace Schema

theorem associationJoin_ok {schema : Schema} {kind : JoinKind} {fetch : Bool} {place : Place} {field : String}
    {relation : Relation} {number : Nat} {join : Join}
    (planned : schema.associationJoin kind fetch place field relation number = .ok join) :
    ∃ parent target clauses, schema.entity place.entity = .ok parent ∧ schema.entity relation.target = .ok target ∧
      relation.clausesAt kind parent target place.number number = .ok clauses ∧
      join = ⟨place.crossed ++ [field], some target.name, number, fetch, clauses⟩ := by
  rw [associationJoin] at planned
  obtain ⟨parent, parentFound, afterParent⟩ := bind_ok planned
  obtain ⟨target, targetFound, afterTarget⟩ := bind_ok afterParent
  obtain ⟨clauses, written, same⟩ := bind_ok afterTarget
  exact ⟨parent, target, clauses, parentFound, targetFound, written, (Except.ok.inj same).symm⟩

theorem collectionJoin_ok {schema : Schema} {kind : JoinKind} {place : Place} {field table foreignKey : String}
    {number : Nat} {join : Join} (planned : schema.collectionJoin kind place field table foreignKey number = .ok join) :
    ∃ parent parentKey, schema.entity place.entity = .ok parent ∧ parent.keyColumn = .ok parentKey ∧
      join = ⟨place.crossed ++ [field], none, number, false,
        [⟨kind, table, number, foreignKey, place.column parentKey⟩]⟩ := by
  rw [collectionJoin] at planned
  obtain ⟨parent, parentFound, afterParent⟩ := bind_ok planned
  obtain ⟨parentKey, keyFound, same⟩ := bind_ok afterParent
  exact ⟨parent, parentKey, parentFound, keyFound, (Except.ok.inj same).symm⟩

theorem associationJoin_fetch {schema : Schema} {kind : JoinKind} {fetch : Bool} {place : Place} {field : String}
    {relation : Relation} {number : Nat} {join : Join}
    (planned : schema.associationJoin kind fetch place field relation number = .ok join) :
    schema.associationJoin kind true place field relation number = .ok { join with fetch := true } := by
  obtain ⟨parent, target, clauses, first, second, third, rfl⟩ := associationJoin_ok planned
  simp [associationJoin, first, second, third, Bind.bind, Except.bind, Pure.pure, Except.pure]

theorem across_of_associationJoin {schema : Schema} {kind : JoinKind} {fetch : Bool} {place : Place} {field : String}
    {relation : Relation} {number : Nat} {join : Join}
    (declared : schema.field place.entity field = .ok (.association relation))
    (planned : schema.associationJoin kind fetch place field relation number = .ok join) :
    schema.across place.entity field = join.entity := by
  obtain ⟨parent, target, clauses, _, found, _, rfl⟩ := associationJoin_ok planned
  simp [across, declared, found, Except.toOption]

end Schema

namespace Join

theorem leadsTo_iff (join : Join) (crossed : List String) :
    join.leadsTo crossed = true ↔ join.entity.isSome = true ∧ join.crossed = crossed := by
  simp [leadsTo]

theorem leadsTo_place {join : Join} {place : Place} (stands : join.place? = some place) :
    join.leadsTo place.crossed = true := by
  obtain ⟨entity, related, rfl⟩ := Option.map_eq_some_iff.mp stands
  exact (join.leadsTo_iff _).mpr ⟨Option.isSome_of_eq_some related, rfl⟩

theorem Prescribed.mono {schema : Schema} {places more : List Place} {join : Join}
    (prescribed : join.Prescribed schema places) (grown : ∀ place ∈ places, place ∈ more) :
    join.Prescribed schema more := by
  cases prescribed with
  | association place field relation kind fetch number join reached declared planned =>
    exact .association place field relation kind fetch number join (grown place reached) declared planned
  | collection place field table foreignKey column kind number join reached declared planned =>
    exact .collection place field table foreignKey column kind number join (grown place reached) declared planned

theorem Prescribed.fetched {schema : Schema} {places : List Place} {join : Join}
    (prescribed : join.Prescribed schema places) (related : join.entity.isSome = true) :
    Prescribed schema places { join with fetch := true } := by
  cases prescribed with
  | association place field relation kind fetch number join reached declared planned =>
    exact .association place field relation kind true number _ reached declared (Schema.associationJoin_fetch planned)
  | collection place field table foreignKey column kind number join reached declared planned =>
    obtain ⟨parent, parentKey, _, _, rfl⟩ := Schema.collectionJoin_ok planned
    simp at related

end Join

namespace Scope

variable {schema : Schema}

theorem entity_share (scope : Scope) (crossed : List String) (fetch : Bool) :
    (scope.share crossed fetch).entity = scope.entity := by
  cases fetch <;> rfl

def shareJoin (crossed : List String) (fetch : Bool) (join : Join) : Join :=
  if fetch && join.leadsTo crossed then { join with fetch := true } else join

theorem joins_share (scope : Scope) (crossed : List String) (fetch : Bool) :
    (scope.share crossed fetch).joins = scope.joins.map (shareJoin crossed fetch) := by
  cases fetch with
  | false => exact (List.map_id'' (fun _ => rfl) scope.joins).symm
  | true => simp [share, requestFetch, shareJoin]

theorem crossed_shareJoin (crossed : List String) (fetch : Bool) (join : Join) :
    (shareJoin crossed fetch join).crossed = join.crossed := by
  rw [shareJoin]
  split <;> rfl

theorem place?_shareJoin (crossed : List String) (fetch : Bool) (join : Join) :
    (shareJoin crossed fetch join).place? = join.place? := by
  rw [shareJoin]
  split <;> rfl

theorem prescribed_shareJoin {places : List Place} {join : Join} (prescribed : join.Prescribed schema places)
    (crossed : List String) (fetch : Bool) : (shareJoin crossed fetch join).Prescribed schema places := by
  by_cases marked : (fetch && join.leadsTo crossed) = true
  · have related := ((join.leadsTo_iff crossed).mp (by simpa using (Bool.and_eq_true_iff.mp marked).2)).1
    rw [shareJoin, if_pos marked]
    exact prescribed.fetched related
  · rwa [shareJoin, if_neg marked]

theorem places_share (scope : Scope) (crossed : List String) (fetch : Bool) :
    (scope.share crossed fetch).places = scope.places := by
  simp only [places, root, entity_share, joins_share, List.filterMap_map, Function.comp_def, place?_shareJoin]

theorem places_requestFetch (crossed : List String) (scope : Scope) :
    (scope.requestFetch crossed).places = scope.places := scope.places_share crossed true

theorem places_extend (scope : Scope) (join : Join) :
    (scope.extend join).places = scope.places ++ join.place?.toList := by
  cases place : join.place? <;> simp [places, extend, Scope.root, place]

structure Sound (schema : Schema) (scope : Scope) : Prop where
  places : ∀ place ∈ scope.places, schema.entityAt scope.entity place.crossed = some place.entity
  joins : ∀ join ∈ scope.joins, join.Prescribed schema scope.places

theorem Sound.share {scope : Scope} (sound : scope.Sound schema) (crossed : List String) (fetch : Bool) :
    (scope.share crossed fetch).Sound schema := by
  constructor
  · rw [places_share, entity_share]
    exact sound.places
  · rw [places_share, joins_share]
    intro join member
    obtain ⟨old, held, rfl⟩ := List.mem_map.mp member
    exact prescribed_shareJoin (sound.joins old held) crossed fetch

theorem Sound.extend {scope : Scope} {join : Join} (sound : scope.Sound schema)
    (prescribed : join.Prescribed schema scope.places)
    (leads : ∀ place ∈ join.place?, schema.entityAt scope.entity place.crossed = some place.entity) :
    (scope.extend join).Sound schema := by
  have kept : ∀ place ∈ scope.places, place ∈ (scope.extend join).places := by
    intro place member
    rw [places_extend]
    exact List.mem_append_left _ member
  constructor
  · intro place member
    rw [places_extend, List.mem_append] at member
    rcases member with old | fresh
    · exact sound.places place old
    · exact leads place (Option.mem_toList.mp fresh)
  · intro other member
    rcases List.mem_append.mp member with old | fresh
    · exact (sound.joins other old).mono kept
    · rw [List.mem_singleton.mp fresh]
      exact prescribed.mono kept

theorem Step.sound {scope after : Scope} {event : Event} (taken : Step schema scope event after)
    (sound : scope.Sound schema) : after.Sound schema := by
  cases taken with
  | distinct flag => exact ⟨sound.places, sound.joins⟩
  | share join crossed kind fetch found => exact sound.share crossed fetch
  | associate place field relation kind fetch join reached declared absent planned =>
    refine sound.extend (.association place field relation kind fetch _ join reached declared planned) ?_
    intro next isNext
    have entity := Schema.across_of_associationJoin declared planned
    obtain ⟨parent, target, clauses, _, _, _, rfl⟩ := Schema.associationJoin_ok planned
    cases isNext
    simp only [Schema.entityAt_snoc, sound.places place reached, Option.bind_some, entity]
  | collect place field table foreignKey column kind join reached declared planned =>
    refine sound.extend (.collection place field table foreignKey column kind _ join reached declared planned) ?_
    obtain ⟨parent, parentKey, _, _, rfl⟩ := Schema.collectionJoin_ok planned
    intro next isNext
    cases isNext

theorem Run.sound {scope after : Scope} {history : List Event} (run : Run schema scope history after)
    (sound : scope.Sound schema) : after.Sound schema :=
  run.keeps (Sound schema) (fun _ _ _ taken => taken.sound) sound

theorem sound_start (table entity : String) : Sound schema { table, entity } := by
  constructor
  · intro place member
    cases List.mem_singleton.mp member
    rfl
  · intro join member
    exact absurd member List.not_mem_nil

theorem Step.entity {scope after : Scope} {event : Event} (taken : Step schema scope event after) :
    after.entity = scope.entity := by
  cases taken with
  | share join crossed kind fetch found => exact entity_share scope crossed fetch
  | _ => rfl

theorem Run.entity {scope after : Scope} {history : List Event} (run : Run schema scope history after) :
    after.entity = scope.entity :=
  run.keeps (fun reached => reached.entity = scope.entity)
    (fun _ _ _ taken same => taken.entity.trans same) rfl

theorem Step.places {scope after : Scope} {event : Event} (taken : Step schema scope event after) (place : Place)
    (reached : place ∈ scope.places) : place ∈ after.places := by
  cases taken with
  | distinct flag => exact reached
  | share join crossed kind fetch found => rwa [places_share]
  | associate | collect =>
    rw [places_extend]
    exact List.mem_append_left _ reached

inductive Addresses (schema : Schema) (scope : Scope) : Column → Prop where
  | scalar (place : Place) (field column : String) (reached : place ∈ scope.places)
      (declared : schema.field place.entity field = .ok (.scalar column)) : Addresses schema scope (place.column column)
  | key (place : Place) (entity : Entity) (column : String) (reached : place ∈ scope.places)
      (found : schema.entity place.entity = .ok entity) (key : entity.keyColumn = .ok column) :
      Addresses schema scope (place.column column)
  | element (place : Place) (field table foreignKey column : String) (kind : JoinKind) (number : Nat) (join : Join)
      (reached : place ∈ scope.places) (declared : schema.field place.entity field = .ok (.collection table foreignKey column))
      (planned : schema.collectionJoin kind place field table foreignKey number = .ok join) (held : join ∈ scope.joins) :
      Addresses schema scope (columnOf number column)

theorem Step.addresses {scope after : Scope} {event : Event} (taken : Step schema scope event after) {column : Column}
    (addressed : scope.Addresses schema column) : after.Addresses schema column := by
  cases addressed with
  | scalar place field column reached declared => exact .scalar place field column (taken.places place reached) declared
  | key place entity column reached found key => exact .key place entity column (taken.places place reached) found key
  | element place field table foreignKey column kind number join reached declared planned held =>
    refine .element place field table foreignKey column kind number join (taken.places place reached) declared planned ?_
    obtain ⟨parent, parentKey, _, _, rfl⟩ := Schema.collectionJoin_ok planned
    cases taken with
    | distinct flag => exact held
    | share other crossed kind fetch found =>
      rw [joins_share]
      refine List.mem_map.mpr ⟨_, held, ?_⟩
      simp [shareJoin, Join.leadsTo]
    | associate | collect => exact List.mem_append_left _ held

theorem Run.addresses {scope after : Scope} {history : List Event} (run : Run schema scope history after)
    {column : Column} (addressed : scope.Addresses schema column) : after.Addresses schema column :=
  run.keeps (fun reached => reached.Addresses schema column) (fun _ _ _ taken => taken.addresses) addressed

end Scope

namespace Schema

def events (schema : Schema) (kind : JoinKind) (fetch : Bool) :
    (entity : String) → (crossed : List String) → List String → List Scope.Event
  | _, _, [] => []
  | entity, crossed, field :: rest =>
    match schema.across entity field with
    | some next => .cross (crossed ++ [field]) kind fetch :: schema.events kind fetch next (crossed ++ [field]) rest
    | none =>
      match schema.field entity field with
      | .ok (.collection _ _ _) => [.collect (crossed ++ [field]) kind]
      | _ => []

end Schema

section Walk

variable {schema : Schema} {scope after : Scope}
  {kind : JoinKind} {fetch : Bool} {place next : Place} {field : String}

theorem joinAssociation_step {relation : Relation} (reached : place ∈ scope.places)
    (declared : schema.field place.entity field = .ok (.association relation))
    (absent : scope.association? (place.crossed ++ [field]) = none)
    (succeeded : (joinAssociation schema kind fetch place field relation).outcome scope = (.ok next, after)) :
    Scope.Step schema scope (.cross (place.crossed ++ [field]) kind fetch) after ∧ next ∈ after.places ∧
      next.crossed = place.crossed ++ [field] := by
  simp only [joinAssociation] at succeeded
  obtain ⟨parent, parentFound, afterParent⟩ := Resolve.outcome_lift_bind_ok succeeded
  obtain ⟨target, targetFound, afterTarget⟩ := Resolve.outcome_lift_bind_ok afterParent
  rw [Resolve.outcome_freshNumber_bind, Resolve.outcome_bind,
    Scope.outcome_clauses] at afterTarget
  cases written : relation.clausesAt kind parent target place.number scope.nextNumber with
  | error error => simp [written] at afterTarget
  | ok clauses =>
    have planned : schema.associationJoin kind fetch place field relation scope.nextNumber =
        .ok ⟨place.crossed ++ [field], some target.name, scope.nextNumber, fetch, clauses⟩ := by
      simp [Schema.associationJoin, parentFound, targetFound, written, Bind.bind, Except.bind, Pure.pure, Except.pure]
    simp only [written, Resolve.outcome_bind, Resolve.outcome_modify, Resolve.outcome_pure, Prod.mk.injEq,
      Except.ok.injEq] at afterTarget
    obtain ⟨rfl, rfl⟩ := afterTarget
    refine ⟨.associate scope place field relation kind fetch _ reached declared absent planned, ?_, rfl⟩
    exact List.mem_cons_of_mem _ (List.mem_filterMap.mpr ⟨_, List.mem_append_right _ (List.mem_singleton_self _), rfl⟩)

theorem crossAssociation_step {relation : Relation} (reached : place ∈ scope.places)
    (declared : schema.field place.entity field = .ok (.association relation))
    (succeeded : (crossAssociation schema kind fetch place field relation).outcome scope = (.ok next, after)) :
    Scope.Step schema scope (.cross (place.crossed ++ [field]) kind fetch) after ∧ next ∈ after.places ∧
      next.crossed = place.crossed ++ [field] := by
  simp only [crossAssociation] at succeeded
  rw [Resolve.outcome_bind, Resolve.outcome_get] at succeeded
  cases found : scope.association? (place.crossed ++ [field]) with
  | none =>
    simp only [found] at succeeded
    exact joinAssociation_step reached declared found succeeded
  | some join =>
    have held : join ∈ scope.joins := List.mem_of_find?_eq_some found
    have leads := (join.leadsTo_iff _).mp (List.find?_some found)
    obtain ⟨crossed, entity, number, fetched, clauses⟩ := join
    obtain ⟨related, rfl⟩ := leads
    cases entity with
    | none => simp at related
    | some entity =>
      have step : Scope.Step schema scope _ _ := .share scope _ (place.crossed ++ [field]) kind fetch found
      have standing : (⟨place.crossed ++ [field], entity, number⟩ : Place) ∈ scope.places :=
        List.mem_cons_of_mem _ (List.mem_filterMap.mpr ⟨_, held, rfl⟩)
      cases fetch with
      | false =>
        simp only [found, Bool.false_eq_true, if_false, Resolve.outcome_pure, Prod.mk.injEq,
          Except.ok.injEq] at succeeded
        obtain ⟨rfl, rfl⟩ := succeeded
        exact ⟨step, standing, rfl⟩
      | true =>
        simp only [found, if_true, Resolve.outcome_bind, Resolve.outcome_modify, Resolve.outcome_pure, Prod.mk.injEq,
          Except.ok.injEq] at succeeded
        obtain ⟨rfl, rfl⟩ := succeeded
        exact ⟨step, by rwa [Scope.places_requestFetch], rfl⟩

theorem joinCollection_ok {table foreignKey name : String} {column : Column}
    (succeeded : (joinCollection schema kind place field table foreignKey name).outcome scope = (.ok column, after)) :
    ∃ join, schema.collectionJoin kind place field table foreignKey scope.nextNumber = .ok join ∧
      after = scope.extend join ∧ column = columnOf join.number name := by
  simp only [joinCollection] at succeeded
  obtain ⟨parent, parentFound, afterParent⟩ := Resolve.outcome_lift_bind_ok succeeded
  obtain ⟨parentKey, keyFound, afterKey⟩ := Resolve.outcome_lift_bind_ok afterParent
  have planned : schema.collectionJoin kind place field table foreignKey scope.nextNumber =
      .ok ⟨place.crossed ++ [field], none, scope.nextNumber, false,
        [⟨kind, table, scope.nextNumber, foreignKey, place.column parentKey⟩]⟩ := by
    simp [Schema.collectionJoin, parentFound, keyFound, Bind.bind, Except.bind, Pure.pure, Except.pure]
  simp only [Resolve.outcome_bind, Resolve.outcome_freshNumber, Resolve.outcome_modify, Resolve.outcome_pure,
    Prod.mk.injEq, Except.ok.injEq] at afterKey
  exact ⟨_, planned, afterKey.2.symm, afterKey.1.symm⟩

theorem joinCollection_step {table foreignKey name : String} {column : Column} (reached : place ∈ scope.places)
    (declared : schema.field place.entity field = .ok (.collection table foreignKey name))
    (succeeded : (joinCollection schema kind place field table foreignKey name).outcome scope = (.ok column, after)) :
    Scope.Step schema scope (.collect (place.crossed ++ [field]) kind) after ∧ after.Addresses schema column := by
  obtain ⟨join, planned, rfl, rfl⟩ := joinCollection_ok succeeded
  have step := Scope.Step.collect scope place field table foreignKey name kind join reached declared planned
  have held : join ∈ (scope.extend join).joins := List.mem_append_right _ (List.mem_singleton_self _)
  obtain ⟨parent, parentKey, _, _, rfl⟩ := Schema.collectionJoin_ok planned
  refine ⟨step, ?_⟩
  exact .element place field table foreignKey name kind _ _ (step.places place reached) declared planned held

theorem crossAssociation_across {relation : Relation} (sound : scope.Sound schema) (reached : place ∈ scope.places)
    (declared : schema.field place.entity field = .ok (.association relation))
    (succeeded : (crossAssociation schema kind fetch place field relation).outcome scope = (.ok next, after)) :
    schema.across place.entity field = some next.entity := by
  obtain ⟨step, standing, crossed⟩ := crossAssociation_step reached declared succeeded
  have here := sound.places place reached
  have there := (step.sound sound).places next standing
  rw [step.entity, crossed, Schema.entityAt_snoc, here] at there
  exact there

theorem walk_run (segments : List String) {column : Column} (sound : scope.Sound schema) (reached : place ∈ scope.places)
    (succeeded : (walk schema kind fetch segments place).outcome scope = (.ok column, after)) :
    Scope.Run schema scope (schema.events kind fetch place.entity place.crossed segments) after ∧
      after.Addresses schema column := by
  induction segments generalizing place scope with
  | nil =>
    rw [walk] at succeeded
    obtain ⟨entity, found, afterEntity⟩ := Resolve.outcome_lift_bind_ok succeeded
    obtain ⟨key, keyFound, afterKey⟩ := Resolve.outcome_lift_bind_ok afterEntity
    rw [Resolve.outcome_pure, Prod.mk.injEq, Except.ok.injEq] at afterKey
    obtain ⟨rfl, rfl⟩ := afterKey
    exact ⟨.done scope, .key place entity key reached found keyFound⟩
  | cons field rest ih =>
    rw [walk] at succeeded
    obtain ⟨found, declared, afterField⟩ := Resolve.outcome_lift_bind_ok succeeded
    cases found with
    | scalar name =>
      simp only [Resolve.outcome_pure, Prod.mk.injEq, Except.ok.injEq] at afterField
      obtain ⟨rfl, rfl⟩ := afterField
      refine ⟨?_, .scalar place field name reached declared⟩
      simpa [Schema.events, Schema.across, declared] using Scope.Run.done scope
    | collection table foreignKey name =>
      obtain ⟨step, addressed⟩ := joinCollection_step reached declared afterField
      refine ⟨?_, addressed⟩
      simpa [Schema.events, Schema.across, declared] using Scope.Run.step _ _ _ _ _ step (.done after)
    | association relation =>
      obtain ⟨next, between, crossing, onward⟩ := Resolve.outcome_bind_ok afterField
      obtain ⟨step, standing, crossed⟩ := crossAssociation_step reached declared crossing
      have far := crossAssociation_across sound reached declared crossing
      obtain ⟨finished, addressed⟩ := ih (step.sound sound) standing onward
      refine ⟨?_, addressed⟩
      rw [crossed] at finished
      simpa [Schema.events, far] using Scope.Run.step _ _ _ _ _ step finished

end Walk

structure Request where
  path : Path
  kind : JoinKind
  fetch : Bool
deriving DecidableEq

def Request.events (schema : Schema) (root : String) (request : Request) : List Scope.Event :=
  schema.events request.kind request.fetch root [] request.path.segments

def Predicate.request (predicate : Predicate) : Request :=
  ⟨predicate.options.path, predicate.options.join, predicate.options.fetch⟩

def Predicate.events (schema : Schema) (root : String) (predicate : Predicate) : List Scope.Event :=
  .distinct predicate.options.distinct :: predicate.request.events schema root

def Request.ofOrdering (ordering : Path × Direction) : Request := ⟨ordering.1, .left, false⟩

section Resolution

variable {schema : Schema} {scope after : Scope}

theorem Path.resolve_run {path : Path} {kind : JoinKind} {fetch : Bool} {column : Column} (sound : scope.Sound schema)
    (succeeded : (path.resolve schema kind fetch).outcome scope = (.ok column, after)) :
    Scope.Run schema scope (Request.events schema scope.entity ⟨path, kind, fetch⟩) after ∧
      after.Addresses schema column := by
  simp only [Path.resolve] at succeeded
  obtain ⟨_, _, afterCheck⟩ := Resolve.outcome_lift_bind_ok succeeded
  rw [Resolve.outcome_bind, Resolve.outcome_get] at afterCheck
  exact walk_run path.segments sound (List.mem_cons_self ..) afterCheck

theorem Predicate.resolve_test {predicate : Predicate} {condition : Condition}
    (succeeded : (predicate.resolve schema).outcome scope = (.ok condition, after)) :
    ∃ column, condition = predicate.test.condition column predicate.options.negated := by
  simp only [Predicate.resolve] at succeeded
  obtain ⟨_, _, _, onward⟩ := Resolve.outcome_bind_ok succeeded
  obtain ⟨column, _, _, finished⟩ := Resolve.outcome_bind_ok onward
  rw [Resolve.outcome_pure, Prod.mk.injEq, Except.ok.injEq] at finished
  exact ⟨column, finished.1.symm⟩

theorem Predicate.resolve_run {predicate : Predicate} {condition : Condition} (sound : scope.Sound schema)
    (succeeded : (predicate.resolve schema).outcome scope = (.ok condition, after)) :
    Scope.Run schema scope (predicate.events schema scope.entity) after ∧
      ∃ column, after.Addresses schema column ∧ condition = predicate.test.condition column predicate.options.negated := by
  simp only [Predicate.resolve] at succeeded
  rw [Resolve.outcome_bind, Resolve.outcome_modify] at succeeded
  obtain ⟨column, between, followed, finished⟩ := Resolve.outcome_bind_ok succeeded
  rw [Resolve.outcome_pure, Prod.mk.injEq, Except.ok.injEq] at finished
  obtain ⟨rfl, rfl⟩ := finished
  have step : Scope.Step schema scope _ _ := .distinct scope predicate.options.distinct
  obtain ⟨run, addressed⟩ := Path.resolve_run (step.sound sound) followed
  exact ⟨.step _ _ _ _ _ step run, column, addressed, rfl⟩

end Resolution

end RecordFilter
