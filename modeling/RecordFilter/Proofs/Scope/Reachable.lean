import RecordFilter.Proofs.Path
import RecordFilter.Proofs.Scope.Binding

set_option autoImplicit false

namespace RecordFilter

namespace Scope

def spend (scope : Scope) : Scope := { scope with nextNumber := scope.nextNumber + 1 }

def Event.crossed : Event → List String
  | distinct _ => []
  | cross crossed _ _ | collect crossed _ => crossed

-- An attempt that takes these steps, and then at most one number for nothing.
def Takes (schema : Schema) (scope : Scope) (history : List Event) (after : Scope) : Prop :=
  ∃ reached, Run schema scope history reached ∧ (after = reached ∨ after = reached.spend)

def Leaves (schema : Schema) (scope after : Scope) : Prop := ∃ history, scope.Takes schema history after

variable {schema : Schema} {scope between after : Scope}

theorem takes_nothing (schema : Schema) (scope : Scope) : scope.Takes schema [] scope := ⟨scope, .done scope, .inl rfl⟩

theorem Step.takes {event : Event} {history : List Event} (taken : Step schema scope event between)
    (onward : between.Takes schema history after) : scope.Takes schema (event :: history) after := by
  obtain ⟨reached, run, left⟩ := onward
  exact ⟨reached, .step scope event between history reached taken run, left⟩

theorem Takes.leaves {history : List Event} (takes : scope.Takes schema history after) : scope.Leaves schema after :=
  ⟨history, takes⟩

theorem Takes.keeps {history : List Event} (invariant : Scope → Prop)
    (kept : ∀ scope, ∀ event ∈ history, ∀ after, Step schema scope event after → invariant scope → invariant after)
    (spent : ∀ scope, invariant scope → invariant scope.spend) (takes : scope.Takes schema history after)
    (holds : invariant scope) : invariant after := by
  obtain ⟨reached, run, left⟩ := takes
  have along : invariant reached := by
    clear left
    induction run with
    | done scope => exact holds
    | step scope event between rest reached taken onward ih =>
      refine ih (fun scope later member => kept scope later (List.mem_cons_of_mem _ member)) ?_
      exact kept scope event (List.mem_cons_self ..) between taken holds
  rcases left with rfl | rfl
  · exact along
  · exact spent reached along

theorem Leaves.keeps (invariant : Scope → Prop)
    (kept : ∀ scope event after, Step schema scope event after → invariant scope → invariant after)
    (spent : ∀ scope, invariant scope → invariant scope.spend) (leaves : scope.Leaves schema after)
    (holds : invariant scope) : invariant after := by
  obtain ⟨history, takes⟩ := leaves
  exact Takes.keeps invariant (fun scope event _ => kept scope event) spent takes holds

end Scope

section Walk

variable {schema : Schema} {scope after : Scope} {kind : JoinKind} {fetch : Bool} {place : Place} {field : String}
  {relation : Relation} {error : Error}

theorem joinAssociation_refused
    (refused : (joinAssociation schema kind fetch place field relation).outcome scope = (.error error, after)) :
    after = scope ∨ after = scope.spend := by
  rw [joinAssociation, Resolve.outcome_bind, Resolve.outcome_lift] at refused
  cases parentFound : schema.entity place.entity with
  | error error => simp_all
  | ok parent =>
    simp only [parentFound] at refused
    rw [Resolve.outcome_bind, Resolve.outcome_lift] at refused
    cases targetFound : schema.entity relation.target with
    | error error => simp_all
    | ok target =>
      simp only [targetFound] at refused
      rw [Resolve.outcome_freshNumber_bind, Resolve.outcome_bind,
        Scope.outcome_clauses] at refused
      cases written : relation.clausesAt kind parent target place.number scope.nextNumber with
      | error error =>
        simp only [written, Prod.mk.injEq] at refused
        exact .inr refused.2.symm
      | ok clauses => simp [written, Resolve.outcome_map, Resolve.outcome_modify, Except.map] at refused

theorem crossAssociation_refused
    (refused : (crossAssociation schema kind fetch place field relation).outcome scope = (.error error, after)) :
    after = scope ∨ after = scope.spend := by
  simp only [crossAssociation] at refused
  rw [Resolve.outcome_bind, Resolve.outcome_get] at refused
  cases found : scope.association? (place.crossed ++ [field]) with
  | none =>
    simp only [found] at refused
    exact joinAssociation_refused refused
  | some join =>
    obtain ⟨crossed, entity, number, fetched, clauses⟩ := join
    cases entity with
    | none =>
      simp only [found] at refused
      exact joinAssociation_refused refused
    | some entity =>
      cases fetch <;>
        simp [found, Resolve.outcome_map, Resolve.outcome_modify, Resolve.outcome_pure, Except.map] at refused

theorem joinCollection_refused {table foreignKey column : String}
    (refused : (joinCollection schema kind place field table foreignKey column).outcome scope = (.error error, after)) :
    after = scope := by
  rw [joinCollection, Resolve.outcome_bind, Resolve.outcome_lift] at refused
  cases parentFound : schema.entity place.entity with
  | error error => simp_all
  | ok parent =>
    simp only [parentFound] at refused
    rw [Resolve.outcome_bind, Resolve.outcome_lift] at refused
    cases keyFound : parent.keyColumn with
    | error error => simp_all
    | ok key =>
      simp only [keyFound] at refused
      rw [Resolve.outcome_freshNumber_bind] at refused
      simp [Resolve.outcome_map, Resolve.outcome_modify, Except.map] at refused

theorem walk_takes (segments : List String) (sound : scope.Sound schema) (reached : place ∈ scope.places) :
    ∃ history, scope.Takes schema history ((walk schema kind fetch segments place).outcome scope).2 ∧
      ∀ event ∈ history, event.crossed ⊆ place.crossed ++ segments := by
  induction segments generalizing place scope with
  | nil =>
    have unchanged : ((walk schema kind fetch [] place).outcome scope).2 = scope := by
      rw [walk, Resolve.outcome_bind, Resolve.outcome_lift]
      cases schema.entity place.entity with
      | error error => rfl
      | ok entity =>
        dsimp only
        rw [Resolve.outcome_bind, Resolve.outcome_lift]
        cases entity.keyColumn <;> rfl
    rw [unchanged]
    exact ⟨[], scope.takes_nothing schema, List.forall_mem_nil _⟩
  | cons field rest ih =>
    have here : place.crossed ++ [field] ⊆ place.crossed ++ field :: rest := by simp
    rw [walk, Resolve.outcome_bind, Resolve.outcome_lift]
    cases declared : schema.field place.entity field with
    | error error => exact ⟨[], scope.takes_nothing schema, List.forall_mem_nil _⟩
    | ok found =>
      cases found with
      | scalar column => exact ⟨[], scope.takes_nothing schema, List.forall_mem_nil _⟩
      | collection table foreignKey column =>
        dsimp only
        rcases joined : (joinCollection schema kind place field table foreignKey column).outcome scope with ⟨outcome, after⟩
        cases outcome with
        | error error =>
          rw [joinCollection_refused joined]
          exact ⟨[], scope.takes_nothing schema, List.forall_mem_nil _⟩
        | ok column =>
          have step := (joinCollection_step reached declared joined).1
          exact ⟨_, step.takes (after.takes_nothing schema), List.forall_mem_singleton.mpr here⟩
      | association relation =>
        dsimp only
        rw [Resolve.outcome_bind]
        rcases crossed : (crossAssociation schema kind fetch place field relation).outcome scope with ⟨outcome, between⟩
        cases outcome with
        | error error => exact ⟨[], ⟨scope, .done scope, crossAssociation_refused crossed⟩, List.forall_mem_nil _⟩
        | ok next =>
          obtain ⟨step, standing, further⟩ := crossAssociation_step reached declared crossed
          obtain ⟨history, takes, along⟩ := ih (step.sound sound) standing
          rw [further, List.append_assoc] at along
          exact ⟨_, step.takes takes, List.forall_mem_cons.mpr ⟨here, along⟩⟩

end Walk

theorem Path.resolve_takes {schema : Schema} {scope : Scope} (path : Path) (kind : JoinKind) (fetch : Bool)
    (sound : scope.Sound schema) :
    ∃ history, scope.Takes schema history ((path.resolve schema kind fetch).outcome scope).2 ∧
      ∀ event ∈ history, "" ∉ event.crossed := by
  rw [Path.resolve, Resolve.outcome_bind, Resolve.outcome_lift]
  cases checked : path.check with
  | error error => exact ⟨[], scope.takes_nothing schema, List.forall_mem_nil _⟩
  | ok passed =>
    obtain ⟨history, takes, along⟩ := walk_takes path.segments sound (List.mem_cons_self ..)
    exact ⟨history, takes, fun event member empty => (path.check_ok_iff.mp checked).2 (along event member empty)⟩

theorem Path.resolve_leaves {schema : Schema} {scope : Scope} (path : Path) (kind : JoinKind) (fetch : Bool)
    (sound : scope.Sound schema) : scope.Leaves schema ((path.resolve schema kind fetch).outcome scope).2 := by
  obtain ⟨history, takes, _⟩ := path.resolve_takes kind fetch sound
  exact takes.leaves

theorem Schema.scope_ok {schema : Schema} {root : String} {scope : Scope} (begun : schema.scope root = .ok scope) :
    ∃ entity, schema.entity root = .ok entity ∧ scope = { table := entity.table, entity := entity.name } := by
  rw [Schema.scope] at begun
  cases found : schema.entity root with
  | error error => simp [found] at begun
  | ok entity =>
    rw [found, Except.ok.injEq] at begun
    exact ⟨entity, rfl, begun.symm⟩

namespace Scope

inductive Reachable (schema : Schema) (root : String) : Scope → Prop where
  | start (scope : Scope) (begun : schema.scope root = .ok scope) : Reachable schema root scope
  | distinct (scope : Scope) (flag : Bool) (before : Reachable schema root scope) :
      Reachable schema root (scope.setDistinct flag)
  | resolve (scope : Scope) (path : Path) (kind : JoinKind) (fetch : Bool) (before : Reachable schema root scope) :
      Reachable schema root ((path.resolve schema kind fetch).run scope).2

structure Orderly (scope : Scope) : Prop where
  places : (scope.places.map Place.crossed).Nodup
  numbers : (0 :: scope.clauses.map JoinClause.number).Nodup
  taken : ∀ number ∈ 0 :: scope.clauses.map JoinClause.number, number < scope.nextNumber

variable {schema : Schema} {scope after : Scope}

theorem Orderly.extend (orderly : scope.Orderly) {join : Join} (prescribed : join.Prescribed schema scope.places)
    (number : join.number = scope.nextNumber)
    (fresh : ∀ place ∈ join.place?, place.crossed ∉ scope.places.map Place.crossed) : (scope.extend join).Orderly := by
  have clauses : 0 :: (scope.extend join).clauses.map JoinClause.number =
      (0 :: scope.clauses.map JoinClause.number) ++ join.clauses.map JoinClause.number := by
    rw [clauses_extend, List.map_append, List.cons_append]
  have next : (scope.extend join).nextNumber = scope.nextNumber + join.clauses.length := rfl
  have numbers := prescribed.numbers
  rw [number] at numbers
  refine ⟨?_, ?_, fun used member => ?_⟩
  · rw [places_extend, List.map_append, List.nodup_append']
    refine ⟨orderly.places, ?_, ?_⟩
    · cases join.place? <;> simp
    · intro crossed old new
      obtain ⟨place, isPlace, rfl⟩ := List.mem_map.mp new
      exact fresh place (Option.mem_toList.mp isPlace) old
  · rw [clauses, List.nodup_append']
    refine ⟨orderly.numbers, numbers.nodup_iff.mpr List.nodup_range', fun used old new => ?_⟩
    have below := orderly.taken used old
    have above := List.mem_range'_1.mp (numbers.mem_iff.mp new)
    omega
  · rw [clauses, List.mem_append] at member
    rw [next]
    rcases member with old | new
    · have below := orderly.taken used old
      omega
    · exact (List.mem_range'_1.mp (numbers.mem_iff.mp new)).2

theorem Step.orderly {event : Event} (step : Step schema scope event after) (orderly : scope.Orderly) :
    after.Orderly := by
  cases step with
  | distinct flag => exact ⟨orderly.places, orderly.numbers, orderly.taken⟩
  | share join crossed kind fetch found =>
    constructor
    · rw [places_share]
      exact orderly.places
    · rw [clauses_share]
      exact orderly.numbers
    · rw [clauses_share, nextNumber_share]
      exact orderly.taken
  | associate place field relation kind fetch join reached declared absent planned =>
    have prescribed := Join.Prescribed.association place field relation kind fetch _ join reached declared planned
    obtain ⟨parent, target, clauses, _, _, _, rfl⟩ := Schema.associationJoin_ok planned
    refine orderly.extend prescribed rfl fun next stands known => ?_
    cases stands
    obtain ⟨other, held, same⟩ := List.mem_map.mp known
    rcases List.mem_cons.mp held with rfl | joined
    · exact absurd same.symm (List.concat_ne_nil _ _ ·)
    · obtain ⟨old, member, stands⟩ := List.mem_filterMap.mp joined
      have leads := Join.leadsTo_place stands
      rw [same] at leads
      exact List.find?_eq_none.mp absent old member leads
  | collect place field table foreignKey column kind join reached declared planned =>
    have prescribed := Join.Prescribed.collection place field table foreignKey column kind _ join reached declared planned
    obtain ⟨parent, parentKey, _, _, rfl⟩ := Schema.collectionJoin_ok planned
    exact orderly.extend prescribed rfl fun next stands => nomatch stands

theorem orderly_start (table entity : String) : Orderly { table, entity } :=
  ⟨List.nodup_singleton _, List.nodup_singleton _, by simp [clauses]⟩

theorem Leaves.settled (leaves : scope.Leaves schema after) (settled : scope.Sound schema ∧ scope.Orderly) :
    after.Sound schema ∧ after.Orderly := by
  refine leaves.keeps (fun scope => scope.Sound schema ∧ scope.Orderly) ?_ ?_ settled
  · intro scope event after step ⟨sound, orderly⟩
    exact ⟨step.sound sound, step.orderly orderly⟩
  · intro scope ⟨sound, orderly⟩
    exact ⟨⟨sound.places, sound.joins⟩, orderly.places, orderly.numbers,
      fun number member => Nat.lt_succ_of_lt (orderly.taken number member)⟩

theorem Reachable.settled {root : String} (reachable : scope.Reachable schema root) :
    scope.Sound schema ∧ scope.Orderly := by
  induction reachable with
  | start scope begun =>
    obtain ⟨entity, _, rfl⟩ := Schema.scope_ok begun
    exact ⟨sound_start entity.table entity.name, orderly_start entity.table entity.name⟩
  | distinct scope flag before ih => exact ⟨⟨ih.1.places, ih.1.joins⟩, ih.2.places, ih.2.numbers, ih.2.taken⟩
  | resolve scope path kind fetch before ih => exact (path.resolve_leaves kind fetch ih.1).settled ih

theorem Reachable.keeps {root : String} (invariant : Scope → Prop)
    (begins : ∀ entity, schema.entity root = .ok entity → invariant { table := entity.table, entity := entity.name })
    (kept : ∀ scope event after, Step schema scope event after → "" ∉ event.crossed → invariant scope → invariant after)
    (spent : ∀ scope, invariant scope → invariant scope.spend) (reachable : scope.Reachable schema root) :
    invariant scope := by
  induction reachable with
  | start scope begun =>
    obtain ⟨entity, found, rfl⟩ := Schema.scope_ok begun
    exact begins entity found
  | distinct scope flag before ih => exact kept scope (.distinct flag) _ (.distinct scope flag) List.not_mem_nil ih
  | resolve scope path kind fetch before ih =>
    obtain ⟨history, takes, named⟩ := path.resolve_takes kind fetch before.settled.1
    exact takes.keeps invariant (fun scope event member after taken => kept scope event after taken (named event member))
      spent ih

theorem Reachable.entity {root : String} (reachable : scope.Reachable schema root) :
    ∃ entity, schema.entity root = .ok entity ∧ scope.entity = entity.name := by
  refine reachable.keeps (fun scope => ∃ entity, schema.entity root = .ok entity ∧ scope.entity = entity.name) ?_ ?_ ?_
  · exact fun entity found => ⟨entity, found, rfl⟩
  · rintro scope event after taken _ ⟨entity, found, same⟩
    exact ⟨entity, found, taken.entity.trans same⟩
  · exact fun _ kept => kept

end Scope

end RecordFilter
