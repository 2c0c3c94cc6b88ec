import Mathlib.Data.Finset.Card
import RecordFilter.Proofs.Registry

set_option autoImplicit false

namespace RecordFilter

namespace Registry

def attemptAll (registry : Registry) : List Entity → Registry
  | [] => registry
  | entity :: rest => (registry.attempt entity).1.attemptAll rest

def registered (registry : Registry) : List Entity → List Entity
  | [] => []
  | entity :: rest =>
    match registry.attempt entity with
    | (grown, .ok ()) => entity :: grown.registered rest
    | (same, .error _) => same.registered rest

def lastNamed (name : String) (entities : List Entity) : Option Entity :=
  (entities.filter fun entity => entity.name = name).getLast?

theorem lastNamed_concat (name : String) (entities : List Entity) (entity : Entity) :
    lastNamed name (entities ++ [entity]) = if entity.name = name then some entity else lastNamed name entities := by
  by_cases same : entity.name = name
  · simp [lastNamed, List.filter_append, same]
  · simp [lastNamed, List.filter_append, same]

theorem lastNamed_isSome (name : String) (entities : List Entity) :
    (lastNamed name entities).isSome = true ↔ name ∈ entities.map Entity.name := by
  rw [lastNamed, List.getLast?_isSome, Ne, List.filter_eq_nil_iff]
  simp

variable {registry : Registry}

theorem attempt_accepted {entity : Entity} (accepted : entity.check = .ok ()) :
    registry.attempt entity = (registry.insert entity, .ok ()) := by
  simp only [attempt, register, accepted]

theorem attempt_refused {entity : Entity} {error : Error} (refused : entity.check = .error error) :
    registry.attempt entity = (registry, .error error) := by
  simp only [attempt, register, refused]

theorem attemptAll_append (before after : List Entity) :
    registry.attemptAll (before ++ after) = (registry.attemptAll before).attemptAll after := by
  induction before generalizing registry with
  | nil => rfl
  | cons entity rest ih => exact ih

theorem find?_insert (registry : Registry) (entity : Entity) (name : String) :
    (registry.insert entity).find? name = if entity.name = name then some entity else registry.find? name := by
  rw [find?, insert, List.find?_append]
  by_cases same : entity.name = name
  · subst same
    have gone : (registry.entities.filter fun held => held.name ≠ entity.name).find? (fun held => held.name = entity.name) =
        none := by
      rw [List.find?_eq_none]
      intro held member
      simpa using (List.mem_filter.mp member).2
    rw [gone]
    simp
  · have kept : (registry.entities.filter fun held => held.name ≠ entity.name).find? (fun held => held.name = name) =
        registry.find? name := by
      rw [List.find?_filter, find?]
      refine congrArg (registry.entities.find? ·) (funext fun held => ?_)
      by_cases found : held.name = name
      · simp [found, Ne.symm same]
      · simp [found]
    rw [kept, if_neg same]
    simp [same]

structure Reflects (registry : Registry) (entities : List Entity) : Prop where
  accepted : registry.Registered
  unique : (registry.entities.map Entity.name).Nodup
  found : ∀ name, registry.find? name = lastNamed name entities

theorem reflects_empty : Reflects {} [] := ⟨.empty, List.nodup_nil, fun _ => rfl⟩

theorem Reflects.insert {earlier : List Entity} (reflects : registry.Reflects earlier) {entity : Entity}
    (accepted : entity.check = .ok ()) : (registry.insert entity).Reflects (earlier ++ [entity]) := by
  refine ⟨.register registry _ entity reflects.accepted (by rw [register, accepted]), ?_, fun name => ?_⟩
  · have fresh : entity.name ∉ (registry.entities.filter fun held => held.name ≠ entity.name).map Entity.name := by
      simp
    rw [Registry.insert, List.map_append, List.map_singleton, ← List.concat_eq_append, List.nodup_concat]
    exact ⟨fresh, reflects.unique.sublist (List.filter_sublist.map Entity.name)⟩
  · rw [find?_insert, lastNamed_concat, reflects.found]

theorem Reflects.attemptAll {earlier : List Entity} (reflects : registry.Reflects earlier) (calls : List Entity) :
    (registry.attemptAll calls).Reflects (earlier ++ registry.registered calls) := by
  induction calls generalizing registry earlier with
  | nil =>
    rw [Registry.attemptAll, registered, List.append_nil]
    exact reflects
  | cons entity rest ih =>
    rw [Registry.attemptAll, registered]
    cases checked : entity.check with
    | error error =>
      rw [attempt_refused checked]
      exact ih reflects
    | ok passed =>
      rw [attempt_accepted checked, List.append_cons]
      exact ih (reflects.insert checked)

theorem Reflects.find?_of_mem {entities : List Entity} (reflects : registry.Reflects entities) {entity : Entity}
    (held : entity ∈ registry.entities) : registry.find? entity.name = some entity := by
  have present : (registry.find? entity.name).isSome = true := List.find?_isSome.mpr ⟨entity, held, decide_eq_true rfl⟩
  obtain ⟨other, found⟩ := Option.isSome_iff_exists.mp present
  have named : other.name = entity.name := by simpa using List.find?_some found
  rw [found, List.inj_on_of_nodup_map reflects.unique (List.mem_of_find?_eq_some found) held named]

theorem Reflects.mem_names {entities : List Entity} (reflects : registry.Reflects entities) (name : String) :
    name ∈ registry.entities.map Entity.name ↔ name ∈ entities.map Entity.name := by
  rw [← lastNamed_isSome name entities, ← reflects.found, find?, List.find?_isSome]
  simp

theorem Reflects.size {entities : List Entity} (reflects : registry.Reflects entities) :
    registry.size = (entities.map Entity.name).toFinset.card := by
  have names : (registry.entities.map Entity.name).toFinset = (entities.map Entity.name).toFinset := by
    ext name
    rw [List.mem_toFinset, List.mem_toFinset, reflects.mem_names]
  rw [← names, List.toFinset_card_of_nodup reflects.unique, List.length_map, Registry.size]

theorem find?_insert_comm (registry : Registry) {first second : Entity} (different : first.name ≠ second.name)
    (name : String) :
    ((registry.insert first).insert second).find? name = ((registry.insert second).insert first).find? name := by
  simp only [find?_insert]
  by_cases isFirst : first.name = name
  · have notSecond : second.name ≠ name := fun same => different (isFirst.trans same.symm)
    rw [if_neg notSecond, if_pos isFirst, if_pos isFirst]
  · rw [if_neg isFirst, if_neg isFirst]

/-- After any calls a refused one leaves the registry as it is, and one is refused just for the names that its entity would
write. A name stands for the entity that was registered under it last, every entity that is held passed its check and is
found under its own name, and there are as many as there were names. Two names can be registered in either order. -/
theorem told_by_calls (calls : List Entity) :
    let registry := attemptAll {} calls
    let entities := registered {} calls
    (∀ entity, (registry.attempt entity).2 = entity.check ∧
      ∀ error, (registry.attempt entity).2 = .error error → (registry.attempt entity).1 = registry) ∧
    (∀ name, registry.schema.entity name =
      match lastNamed name entities with
      | some entity => .ok entity
      | none => .error (.unknownEntity name)) ∧
    (∀ entity ∈ registry.entities, entity.check = .ok () ∧ registry.schema.entity entity.name = .ok entity) ∧
    registry.size = (entities.map Entity.name).toFinset.card ∧
    ∀ first second, first.check = .ok () → second.check = .ok () → first.name ≠ second.name → ∀ name,
      (attemptAll {} (calls ++ [first, second])).schema.entity name =
        (attemptAll {} (calls ++ [second, first])).schema.entity name := by
  intro registry entities
  have reflects : registry.Reflects entities := by
    have whole := reflects_empty.attemptAll calls
    rwa [List.nil_append] at whole
  refine ⟨fun entity => ?_, fun name => ?_, fun entity held => ⟨reflects.accepted.checked entity held, ?_⟩, reflects.size,
    fun first second firstChecked secondChecked different name => ?_⟩
  · cases checked : entity.check with
    | error error =>
      rw [attempt_refused checked]
      exact ⟨rfl, fun _ _ => rfl⟩
    | ok passed =>
      rw [attempt_accepted checked]
      exact ⟨rfl, nofun⟩
  · cases last : lastNamed name entities with
    | none => simp only [schema, reflects.found, last]
    | some entity => simp only [schema, reflects.found, last]
  · simp only [schema, reflects.find?_of_mem held]
  · have both (one other : Entity) (oneChecked : one.check = .ok ()) (otherChecked : other.check = .ok ()) :
        attemptAll {} (calls ++ [one, other]) = (registry.insert one).insert other := by
      rw [attemptAll_append, attemptAll, attempt_accepted oneChecked, attemptAll, attempt_accepted otherChecked, attemptAll]
    rw [both first second firstChecked secondChecked, both second first secondChecked firstChecked]
    simp only [schema, find?_insert_comm registry different name]

example : (attemptAll {} [⟨"Author", "authors", none, []⟩, ⟨"Author", "people.authors", none, []⟩,
    ⟨"Author", "authors; drop", none, []⟩]).entities = [⟨"Author", "people.authors", none, []⟩] := by decide

end Registry

end RecordFilter
