import Mathlib.Data.List.Find
import Mathlib.Data.List.Infix
import Mathlib.Data.List.Nodup
import RecordFilter.Proofs.Registry
import RecordFilter.Proofs.Scope.Sharing
import RecordFilter.Proofs.Specification.Built
import RecordFilter.Proofs.Specification.Query

set_option autoImplicit false

namespace RecordFilter

namespace Schema

variable {schema : Schema}

def prefixes (segments : List String) : List (List String) := segments.inits.tail

theorem prefixes_cons (field : String) (rest : List String) :
    prefixes (field :: rest) = [field] :: (prefixes rest).map (field :: ·) := by
  cases rest <;> simp [prefixes]

theorem ne_nil_of_mem_prefixes {segments path : List String} (member : path ∈ prefixes segments) : path ≠ [] := by
  induction segments with
  | nil => simp [prefixes] at member
  | cons field rest ih =>
    rw [prefixes_cons, List.mem_cons, List.mem_map] at member
    rcases member with rfl | ⟨_, _, rfl⟩ <;> simp

theorem entityAt_none_of_across {entity field : String} (stuck : schema.across entity field = none) (rest : List String) :
    schema.entityAt entity (field :: rest) = none := by
  rw [entityAt_cons, stuck, Option.bind_none]

theorem fieldAt_none_of_across {entity field : String} (stuck : schema.across entity field = none) {rest : List String}
    (more : rest ≠ []) : schema.fieldAt entity (field :: rest) = none := by
  rw [fieldAt_cons schema entity field more, stuck, Option.bind_none]

theorem events_crossings (kind : JoinKind) (fetch : Bool) (entity : String) (crossed segments : List String) :
    (schema.events kind fetch entity crossed segments).filterMap Scope.Event.crossing? =
      ((prefixes segments).filter fun further => (schema.entityAt entity further).isSome).map
        fun further => ⟨crossed ++ further, kind, fetch⟩ := by
  induction segments generalizing entity crossed with
  | nil => rfl
  | cons field rest ih =>
    rw [prefixes_cons, events]
    cases far : schema.across entity field with
    | some next =>
      simp [entityAt, far, Scope.Event.crossing?, ih next, List.filter_map, Function.comp_def]
    | none =>
      -- The walk stops here, and no longer beginning crosses associations only.
      have blocked : ([field] :: (prefixes rest).map (field :: ·)).filter
          (fun further => (schema.entityAt entity further).isSome) = [] := by
        simp [List.filter_eq_nil_iff, entityAt_none_of_across far]
      rw [blocked]
      simp only
      split <;> rfl

theorem events_collected (kind : JoinKind) (fetch : Bool) (entity : String) (crossed segments : List String) :
    (schema.events kind fetch entity crossed segments).filterMap Scope.Event.collected? =
      (((prefixes segments).find? fun further => (schema.fieldAt entity further).any Field.isCollection).map
        (crossed ++ ·)).toList := by
  induction segments generalizing entity crossed with
  | nil => rfl
  | cons field rest ih =>
    rw [prefixes_cons, events, List.find?_cons, fieldAt_singleton, List.find?_map]
    cases far : schema.across entity field with
    | some next =>
      obtain ⟨relation, declared⟩ := association_of_across far
      have onward : ((prefixes rest).find? fun further =>
            (schema.fieldAt entity (field :: further)).any Field.isCollection) =
          (prefixes rest).find? fun further => (schema.fieldAt next further).any Field.isCollection := by
        refine List.find?_congr fun further member => ?_
        rw [fieldAt_cons schema entity field (ne_nil_of_mem_prefixes member), far, Option.bind_some]
      simp [List.filterMap_cons, Scope.Event.collected?, ih next, declared, Except.toOption, Field.isCollection,
        Function.comp_def, onward]
    | none =>
      have blocked : ((prefixes rest).find? fun further =>
          (schema.fieldAt entity (field :: further)).any Field.isCollection) = none := by
        refine List.find?_eq_none.mpr fun further member => ?_
        simp [fieldAt_none_of_across far (ne_nil_of_mem_prefixes member)]
      cases declared : schema.field entity field with
      | error error => simp [Except.toOption, blocked]
      | ok found =>
        cases found <;>
          simp [Except.toOption, blocked, Field.isCollection, Scope.Event.collected?]

end Schema

namespace Request

def crossings (schema : Schema) (root : String) (request : Request) : List (List String) :=
  (Schema.prefixes request.path.segments).filter fun crossed => (schema.entityAt root crossed).isSome

def crosses (schema : Schema) (root : String) (crossed : List String) (request : Request) : Bool :=
  (request.crossings schema root).contains crossed

def collection? (schema : Schema) (root : String) (request : Request) : Option (List String) :=
  (Schema.prefixes request.path.segments).find? fun crossed => (schema.fieldAt root crossed).any Field.isCollection

variable {schema : Schema} {root : String}

theorem events_crossings (request : Request) :
    (request.events schema root).filterMap Scope.Event.crossing? =
      (request.crossings schema root).map fun crossed => ⟨crossed, request.kind, request.fetch⟩ :=
  Schema.events_crossings request.kind request.fetch root [] request.path.segments

theorem events_collected (request : Request) :
    (request.events schema root).filterMap Scope.Event.collected? = (request.collection? schema root).toList := by
  rw [events, Schema.events_collected]
  simp [collection?]

theorem find?_crossings (request : Request) (crossed : List String) :
    ((request.crossings schema root).map fun path => (⟨path, request.kind, request.fetch⟩ : Crossing)).find?
        (fun crossing => crossing.crossed = crossed) =
      if request.crosses schema root crossed then some ⟨crossed, request.kind, request.fetch⟩ else none := by
  rw [crosses]
  induction request.crossings schema root with
  | nil => rfl
  | cons path rest ih =>
    rw [List.map_cons, List.find?_cons, ih, List.contains_cons]
    by_cases same : path = crossed
    · simp [same]
    · simp [same, Ne.symm same]

def allCrossings (schema : Schema) (root : String) (requests : List Request) : List Crossing :=
  requests.flatMap fun request =>
    (request.crossings schema root).map fun crossed => ⟨crossed, request.kind, request.fetch⟩

theorem find?_allCrossings (requests : List Request) (crossed : List String) :
    (allCrossings schema root requests).find? (fun crossing => crossing.crossed = crossed) =
      (requests.find? (crosses schema root crossed)).map fun first => ⟨crossed, first.kind, first.fetch⟩ := by
  induction requests with
  | nil => rfl
  | cons request rest ih =>
    rw [allCrossings] at ih ⊢
    rw [List.flatMap_cons, List.find?_append, find?_crossings, ih, List.find?_cons]
    cases request.crosses schema root crossed <;> simp

theorem any_allCrossings (requests : List Request) (crossed : List String) :
    (allCrossings schema root requests).any (fun crossing => crossing.fetch && crossing.crossed = crossed) =
      requests.any fun request => request.fetch && request.crosses schema root crossed := by
  rw [allCrossings, List.any_flatMap]
  congr 1
  funext request
  rw [crosses]
  induction request.crossings schema root with
  | nil => simp
  | cons path rest ih =>
    rw [List.map_cons, List.any_cons, ih, List.contains_cons, Bool.and_or_distrib_left, Bool.beq_eq_decide_eq]
    simp [eq_comm]

end Request

def Specification.requests (specification : Specification) : List Request :=
  specification.predicates.map Predicate.request

theorem Query.Follows.tracks {schema : Schema} {entity : Entity} {specification : Specification}
    {orderings : List (Path × Direction)} {conditions : List Condition} {query : Query}
    (follows : query.Follows schema entity specification orderings conditions) :
    query.scope.Tracks
      (Request.allCrossings schema entity.name (specification.requests ++ orderings.map Request.ofOrdering))
      ((specification.requests ++ orderings.map Request.ofOrdering).filterMap
        (Request.collection? schema entity.name)) := by
  have tracks := follows.run.tracks (Scope.tracks_start entity.table entity.name)
  have crossed (predicate : Predicate) :
      (predicate.events schema entity.name).filterMap Scope.Event.crossing? =
        (predicate.request.crossings schema entity.name).map
          fun crossed => ⟨crossed, predicate.request.kind, predicate.request.fetch⟩ :=
    predicate.request.events_crossings
  have collected (predicate : Predicate) :
      (predicate.events schema entity.name).filterMap Scope.Event.collected? =
        (predicate.request.collection? schema entity.name).toList :=
    predicate.request.events_collected
  simp only [List.nil_append, List.filterMap_append, List.filterMap_flatMap, crossed, collected,
    Request.events_crossings, Request.events_collected] at tracks
  simpa only [Request.allCrossings, Specification.requests, List.filterMap_eq_flatMap_toList,
    List.flatMap_append, List.flatMap_map] using tracks

structure Scope.Shares (schema : Schema) (root : String) (requests : List Request) (scope : Scope) : Prop where
  associations : scope.associations.map Join.crossed = (requests.flatMap (Request.crossings schema root)).eraseDups
  kinds : ∀ join ∈ scope.associations, ∃ first, requests.find? (Request.crosses schema root join.crossed) = some first ∧
    join.clauses ≠ [] ∧ ∀ clause ∈ join.clauses, clause.kind = first.kind ∧
      ∃ rest, clause.text = Text.uppercase first.kind.name ++ " JOIN " ++ rest
  fetches : ∀ join ∈ scope.associations, join.fetch =
    requests.any fun request => request.fetch && request.crosses schema root join.crossed
  collections : scope.collections.map Join.crossed = requests.filterMap (Request.collection? schema root)

theorem Scope.Tracks.shares {schema : Schema} {scope : Scope} {root : String} {requests : List Request}
    (tracks : scope.Tracks (Request.allCrossings schema root requests)
      (requests.filterMap (Request.collection? schema root))) : scope.Shares schema root requests := by
  constructor
  · rw [tracks.shared, Request.allCrossings, List.map_flatMap]
    simp [Function.comp_def]
  · intro join held
    obtain ⟨first, isFirst, kinds⟩ := tracks.settled join held
    rw [Request.find?_allCrossings, Option.map_eq_some_iff] at isFirst
    obtain ⟨request, earliest, rfl⟩ := isFirst
    refine ⟨request, earliest, kinds.1, fun clause member => ⟨kinds.2 clause member, ?_⟩⟩
    have begins := clause.text_begins
    rwa [kinds.2 clause member] at begins
  · intro join held
    rw [tracks.fetched join held, Request.any_allCrossings]
  · exact tracks.collections

namespace Scope

variable {schema : Schema} {root : String} {requests : List Request} {scope : Scope}

theorem nodup_eraseDups (items : List (List String)) : items.eraseDups.Nodup := by
  induction items using List.reverseRecOn with
  | nil => exact List.nodup_nil
  | append_singleton items item ih =>
    rw [eraseDups_concat]
    split
    · exact ih
    · rename_i fresh
      rw [← List.concat_eq_append, List.nodup_concat, List.mem_eraseDups]
      exact ⟨fresh, ih⟩

theorem Shares.once (shares : scope.Shares schema root requests) : (scope.associations.map Join.crossed).Nodup := by
  rw [shares.associations]
  exact nodup_eraseDups _

theorem Shares.association? (shares : scope.Shares schema root requests) {join : Join}
    (held : join ∈ scope.associations) : scope.association? join.crossed = some join := by
  have leads : join.leadsTo join.crossed = true := (join.leadsTo_iff _).mpr ⟨(List.mem_filter.mp held).2, rfl⟩
  cases found : scope.association? join.crossed with
  | none => exact absurd leads (List.find?_eq_none.mp found join (List.mem_filter.mp held).1)
  | some first =>
    obtain ⟨related, same⟩ := (first.leadsTo_iff _).mp (List.find?_some found)
    have firstHeld : first ∈ scope.associations := List.mem_filter.mpr ⟨List.mem_of_find?_eq_some found, related⟩
    rw [List.inj_on_of_nodup_map shares.once firstHeld held same]

theorem Shares.mem_crossed (shares : scope.Shares schema root requests) (crossed : List String) :
    crossed ∈ scope.associations.map Join.crossed ↔ ∃ request ∈ requests, crossed ∈ request.crossings schema root := by
  rw [shares.associations, List.mem_eraseDups, List.mem_flatMap]

end Scope

theorem Scope.joinCount_eq (scope : Scope) : scope.joinCount = scope.associations.length + scope.collections.length := by
  rw [joinCount, List.length_eq_length_filter_add fun join => join.entity.isSome]
  simp only [associations, collections, Option.not_isSome]

theorem Query.joins_of_paths {schema : Schema} {root : String} {specification : Specification} {start query : Query}
    {orderings : List (Path × Direction)} (resolved : specification.query schema root = .ok start)
    (ordered : start.orderByAll orderings = .ok query) :
    ∃ entity requests, schema.entity root = .ok entity ∧
      requests = specification.requests ++ orderings.map Request.ofOrdering ∧
      query.scope.Shares schema entity.name requests ∧
      query.joinCount = (requests.flatMap (Request.crossings schema entity.name)).eraseDups.length +
        (requests.filterMap (Request.collection? schema entity.name)).length ∧
      (∀ request ∈ orderings.map Request.ofOrdering, request.kind = .left) ∧
      ∀ composition : Composition, composition.specification = specification →
        ∀ predicate ∈ specification.predicates, predicate.test = .null → predicate.request.kind = .left := by
  obtain ⟨entity, conditions, found, follows⟩ := Query.follows resolved ordered
  have shares := follows.tracks.shares
  refine ⟨entity, _, found, rfl, shares, ?_, ?_, ?_⟩
  · rw [Query.joinCount, Scope.joinCount_eq, ← shares.associations, ← shares.collections, List.length_map,
      List.length_map]
  · intro request member
    obtain ⟨ordering, _, rfl⟩ := List.mem_map.mp member
    rfl
  · rintro composition rfl predicate member isNull
    exact (composition.specification_built.predicates predicate member).nullJoin isNull

def booksBy (author tag : String) : Specification :=
  .ofPredicates [
    equalPredicate { path := ⟨["author", "name"]⟩, fetch := true } (.text author),
    equalPredicate { path := ⟨["tags"]⟩, join := .left } (.text tag)]

theorem Query.joins_of_books :
    ∃ start query, (booksBy "Ada" "logic").query books.schema "Book" = .ok start ∧
      start.orderByAll [(⟨["author"]⟩, .ascending)] = .ok query ∧ query.joinCount = 2 ∧
      ∃ requests, query.scope.Shares books.schema "Book" requests := by
  refine ⟨_, _, rfl, rfl, rfl, ?_⟩
  obtain ⟨entity, requests, found, _, shares, _⟩ := Query.joins_of_paths
    (show (booksBy "Ada" "logic").query books.schema "Book" = .ok _ from rfl)
    (show Query.orderByAll _ [(⟨["author"]⟩, .ascending)] = .ok _ from rfl)
  cases found
  exact ⟨requests, shares⟩

end RecordFilter
