import RecordFilter.Proofs.Registry

set_option autoImplicit false

namespace RecordFilter

namespace Text.Keyed

variable {α : Type}

def Unique (entries : Keyed α) : Prop := (entries.map Prod.fst).Nodup

theorem mem_names_put {name other : String} {value : α} {entries : Keyed α}
    (member : other ∈ (put name value entries).map Prod.fst) : other = name ∨ other ∈ entries.map Prod.fst := by
  induction entries with
  | nil => exact .inl (List.mem_singleton.mp member)
  | cons entry rest ih =>
    obtain ⟨key, old⟩ := entry
    rw [put] at member
    split at member
    · rcases List.mem_cons.mp member with here | later
      · exact .inl here
      · exact .inr (List.mem_cons_of_mem _ later)
    · rcases List.mem_cons.mp member with here | later
      · exact .inr (here ▸ List.mem_cons_self ..)
      · exact (ih later).imp_right (List.mem_cons_of_mem _)

theorem Unique.put {entries : Keyed α} (unique : Unique entries) (name : String) (value : α) :
    Unique (put name value entries) := by
  induction entries with
  | nil => exact List.nodup_cons.mpr ⟨List.not_mem_nil, List.nodup_nil⟩
  | cons entry rest ih =>
    obtain ⟨key, old⟩ := entry
    obtain ⟨fresh, uniqueRest⟩ := List.nodup_cons.mp unique
    rw [Keyed.put]
    split
    · rename_i same
      exact List.nodup_cons.mpr ⟨same ▸ fresh, uniqueRest⟩
    · rename_i other
      refine List.nodup_cons.mpr ⟨fun member => ?_, ih uniqueRest⟩
      exact (mem_names_put member).elim other fresh

theorem Unique.find?_of_mem {entries : Keyed α} (unique : Unique entries) {name : String} {value : α}
    (held : (name, value) ∈ entries) : find? name entries = some value := by
  induction entries with
  | nil => exact absurd held List.not_mem_nil
  | cons entry rest ih =>
    obtain ⟨key, first⟩ := entry
    obtain ⟨fresh, uniqueRest⟩ := List.nodup_cons.mp unique
    rw [find?]
    rcases List.mem_cons.mp held with here | later
    · cases here
      exact if_pos rfl
    · rw [if_neg, ih uniqueRest later]
      rintro rfl
      exact fresh (List.mem_map.mpr ⟨(key, value), later, rfl⟩)

end Text.Keyed

def Declaration.asField? : Declaration → Option (String × Field)
  | primaryKey _ => none
  | scalar field column => some (field, .scalar column)
  | association field relation => some (field, .association relation)
  | collection field table foreignKey column => some (field, .collection table foreignKey column)

def lastUnder (name : String) (entries : List (String × Field)) : Option Field :=
  ((entries.filter fun entry => entry.1 = name).getLast?).map Prod.snd

namespace Entity

variable {entity : Entity} {declarations : List Declaration}

theorem field?_put (entity : Entity) (name other : String) (field : Field) :
    (entity.put name field).field? other = if other = name then some field else entity.field? other := by
  rw [field?, put]
  split
  · rename_i same
    rw [same, Text.Keyed.find?_put_self]
  · rename_i different
    exact Text.Keyed.find?_put_of_ne different field entity.fields

theorem hasScalarOn_iff (unique : Text.Keyed.Unique entity.fields) (column : String) :
    entity.hasScalarOn column = true ↔ ∃ name, entity.field? name = some (.scalar column) := by
  rw [hasScalarOn, List.any_eq_true]
  constructor
  · rintro ⟨⟨name, field⟩, held, reads⟩
    refine ⟨name, unique.find?_of_mem ?_⟩
    cases field with
    | scalar own => exact of_decide_eq_true reads ▸ held
    | association relation => cases reads
    | collection table foreignKey value => cases reads
  · rintro ⟨name, found⟩
    exact ⟨(name, .scalar column), Text.Keyed.mem_of_find? found, decide_eq_true rfl⟩

def LacksColumn (entity : Entity) (column : String) : Prop :=
  (∀ name, entity.field? name ≠ some (.scalar column)) ∧ entity.field? column = none

theorem field?_exposeColumn (unique : Text.Keyed.Unique entity.fields) (column name : String) :
    (entity.LacksColumn column → name = column → (entity.exposeColumn column).field? name = some (.scalar column)) ∧
      (¬ (entity.LacksColumn column ∧ name = column) → (entity.exposeColumn column).field? name = entity.field? name) := by
  rw [exposeColumn]
  split
  · rename_i present
    refine ⟨fun lacks => ?_, fun _ => rfl⟩
    rcases Bool.or_eq_true_iff.mp present with scalar | named
    · obtain ⟨other, found⟩ := (hasScalarOn_iff unique column).mp scalar
      exact absurd found (lacks.1 other)
    · rw [lacks.2] at named
      cases named
  · rename_i absent
    rw [field?_put]
    refine ⟨fun _ same => if_pos same, fun kept => if_neg fun same => kept ⟨⟨fun other found => ?_, ?_⟩, same⟩⟩
    · exact absent (Bool.or_eq_true_iff.mpr (.inl ((hasScalarOn_iff unique column).mpr ⟨other, found⟩)))
    · rw [← Option.not_isSome_iff_eq_none]
      exact fun named => absent (Bool.or_eq_true_iff.mpr (.inr named))

end Entity

end RecordFilter
