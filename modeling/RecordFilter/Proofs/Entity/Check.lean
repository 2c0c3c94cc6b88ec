import RecordFilter.Proofs.Identifier
import RecordFilter.Proofs.Registry

set_option autoImplicit false

namespace RecordFilter

open Identifier (IsPart IsQualified BreaksPart BreaksQualified)

namespace WrittenName

def IsShaped : WrittenName → Prop
  | qualified name => IsQualified name
  | part name => IsPart name

def Breaks : WrittenName → Identifier.Fault → Prop
  | qualified name => BreaksQualified name
  | part name => BreaksPart name

theorem check_ok_iff (written : WrittenName) : written.check = .ok () ↔ written.IsShaped := by
  cases written with
  | qualified name => exact Identifier.checkQualified_ok_iff
  | part name => exact Identifier.checkPart_ok_iff

theorem check_breaks {written : WrittenName} {fault : Identifier.Fault} (refused : written.check = .error fault) :
    ¬ written.IsShaped ∧ written.Breaks fault := by
  constructor
  · rw [← check_ok_iff, refused]
    exact nofun
  · cases written with
    | qualified name => exact Identifier.checkQualified_breaks refused
    | part name => exact Identifier.checkPart_breaks refused

end WrittenName

def Relation.IsShaped : Relation → Prop
  | belongsTo _ key | hasOne _ key | hasMany _ key => IsPart key
  | manyToMany _ through selfKey otherKey => IsQualified through ∧ IsPart selfKey ∧ IsPart otherKey

def Field.IsShaped : Field → Prop
  | scalar column => IsPart column
  | association relation => relation.IsShaped
  | collection table foreignKey column => IsQualified table ∧ IsPart foreignKey ∧ IsPart column

theorem Field.isShaped_iff (field : Field) : field.IsShaped ↔ ∀ written ∈ field.writtenNames, written.IsShaped := by
  cases field with
  | scalar column => simp [IsShaped, writtenNames, WrittenName.IsShaped]
  | association relation => cases relation <;> simp [IsShaped, Relation.IsShaped, writtenNames, WrittenName.IsShaped]
  | collection table foreignKey column => simp [IsShaped, writtenNames, WrittenName.IsShaped]

namespace Entity

structure IsShaped (entity : Entity) : Prop where
  table : IsQualified entity.table
  key : ∀ column, entity.primaryKey = some column → IsPart column
  fields : ∀ name field, (name, field) ∈ entity.fields → field.IsShaped

theorem isShaped_iff (entity : Entity) : entity.IsShaped ↔ ∀ written ∈ entity.writtenNames, written.IsShaped := by
  have keys : (∀ column, entity.primaryKey = some column → IsPart column) ↔
      ∀ written ∈ entity.primaryKey.toList.map WrittenName.part, written.IsShaped := by
    simp [WrittenName.IsShaped]
  have fields : (∀ name field, (name, field) ∈ entity.fields → field.IsShaped) ↔
      ∀ written ∈ entity.fields.flatMap fun entry => entry.2.writtenNames, written.IsShaped := by
    simp only [List.forall_mem_flatMap, Field.isShaped_iff, Prod.forall]
  rw [writtenNames, List.forall_mem_cons, List.forall_mem_append, ← keys, ← fields]
  exact ⟨fun shaped => ⟨shaped.table, shaped.key, shaped.fields⟩, fun shaped => ⟨shaped.1, shaped.2.1, shaped.2.2⟩⟩

theorem firstFault_of_checked {names : List WrittenName} (checked : ∀ name ∈ names, name.check = .ok ()) :
    firstFault names = none := by
  induction names with
  | nil => rfl
  | cons name rest ih =>
    rw [List.forall_mem_cons] at checked
    rw [firstFault, checked.1]
    exact ih checked.2

theorem firstFault_some {names : List WrittenName} {fault : Identifier.Fault} (found : firstFault names = some fault) :
    ∃ before written after, names = before ++ written :: after ∧ (∀ earlier ∈ before, earlier.check = .ok ()) ∧
      written.check = .error fault := by
  induction names with
  | nil => cases found
  | cons name rest ih =>
    rw [firstFault] at found
    cases checked : name.check with
    | error own =>
      rw [checked] at found
      cases found
      exact ⟨[], name, rest, rfl, fun _ none => absurd none List.not_mem_nil, checked⟩
    | ok passed =>
      rw [checked] at found
      obtain ⟨before, written, after, rfl, earlier, refused⟩ := ih found
      exact ⟨name :: before, written, after, rfl, List.forall_mem_cons.mpr ⟨checked, earlier⟩, refused⟩

theorem check_ok_iff (entity : Entity) : entity.check = .ok () ↔ entity.IsShaped := by
  simp only [isShaped_iff, ← WrittenName.check_ok_iff]
  refine ⟨check_ok, fun checked => ?_⟩
  rw [check, firstFault_of_checked checked]

theorem first_unshaped {front before rest after : List WrittenName} {name other : WrittenName}
    (same : front ++ name :: rest = before ++ other :: after) (nameWrong : ¬ name.IsShaped) (otherWrong : ¬ other.IsShaped)
    (shaped : ∀ earlier ∈ front, earlier.IsShaped) (earlierShaped : ∀ earlier ∈ before, earlier.IsShaped) :
    other = name := by
  induction front generalizing before with
  | nil =>
    cases before with
    | nil => exact (List.cons.inj same).1.symm
    | cons first left =>
      obtain ⟨rfl, -⟩ := List.cons.inj same
      exact absurd (earlierShaped _ (List.mem_cons_self ..)) nameWrong
  | cons first left ih =>
    rw [List.forall_mem_cons] at shaped
    cases before with
    | nil =>
      obtain ⟨rfl, -⟩ := List.cons.inj same
      exact absurd shaped.1 otherWrong
    | cons second more =>
      rw [List.forall_mem_cons] at earlierShaped
      exact ih (List.cons.inj same).2 shaped.2 earlierShaped.2

theorem check_error {entity : Entity} {error : Error} (refused : entity.check = .error error) :
    ∃ written ∈ entity.writtenNames, ∃ fault, ¬ written.IsShaped ∧ written.Breaks fault ∧
      error = .validation fault.message ∧ (¬ IsQualified entity.table → written = .qualified entity.table) ∧
      (IsQualified entity.table →
        ∀ column, entity.primaryKey = some column → ¬ IsPart column → written = .part column) := by
  rw [check] at refused
  cases found : firstFault entity.writtenNames with
  | none => simp [found] at refused
  | some fault =>
    simp only [found, Except.error.injEq] at refused
    obtain ⟨before, written, after, names, earlier, faulty⟩ := firstFault_some found
    obtain ⟨unshaped, breaks⟩ := WrittenName.check_breaks faulty
    have member : written ∈ entity.writtenNames := by
      rw [names]
      exact List.mem_append_right before (List.mem_cons_self ..)
    simp only [WrittenName.check_ok_iff] at earlier
    rw [writtenNames] at names
    refine ⟨written, member, fault, unshaped, breaks, refused.symm, fun wrong => ?_, fun right column key wrong => ?_⟩
    · have atTable : [] ++ WrittenName.qualified entity.table :: _ = before ++ written :: after := names
      exact first_unshaped atTable wrong unshaped (List.forall_mem_nil _) earlier
    · rw [key] at names
      have atKey : [WrittenName.qualified entity.table] ++ .part column :: _ = before ++ written :: after := names
      exact first_unshaped atKey wrong unshaped (List.forall_mem_singleton.mpr right) earlier

end Entity

theorem Entity.check_verdict (entity : Entity) {visited : Text.Keyed Field} (order : visited.Perm entity.fields) :
    let verdict := Entity.check { entity with fields := visited }
    (verdict = .ok () ↔ entity.IsShaped) ∧
      ∀ error, verdict = .error error →
        ∃ written ∈ entity.writtenNames, ∃ fault, ¬ written.IsShaped ∧ written.Breaks fault ∧
          error = .validation fault.message ∧ (¬ IsQualified entity.table → written = .qualified entity.table) ∧
          (IsQualified entity.table →
            ∀ column, entity.primaryKey = some column → ¬ IsPart column → written = .part column) := by
  intro verdict
  have same (entry : String × Field) : entry ∈ visited ↔ entry ∈ entity.fields := order.mem_iff
  constructor
  · rw [check_ok_iff]
    constructor
    · exact fun shaped => ⟨shaped.table, shaped.key, fun name field member => shaped.fields name field ((same _).mpr member)⟩
    · exact fun shaped => ⟨shaped.table, shaped.key, fun name field member => shaped.fields name field ((same _).mp member)⟩
  · intro error refused
    obtain ⟨written, member, told⟩ := check_error refused
    have names : (Entity.writtenNames { entity with fields := visited }).Perm entity.writtenNames :=
      .cons _ (.append_left _ (order.flatMap_right _))
    exact ⟨written, names.mem_iff.mp member, told⟩

def ledger : Entity where
  name := "Entry"
  table := "book.entries"
  primaryKey := some "id"
  fields := [("id", .scalar "id"), ("first", .scalar "1st"), ("note", .scalar "note text")]

theorem Entity.check_verdict_ledger :
    let visited := ledger.fields.reverse
    visited.Perm ledger.fields ∧ ¬ ledger.IsShaped ∧
      ∃ written ∈ ledger.writtenNames, ∃ fault, ¬ written.IsShaped ∧ written.Breaks fault ∧
        Entity.check { ledger with fields := visited } = .error (.validation fault.message) ∧
        ledger.check ≠ .error (.validation fault.message) := by
  intro visited
  have order : visited.Perm ledger.fields := List.reverse_perm _
  obtain ⟨accepted, reported⟩ := check_verdict ledger order
  have refused : Entity.check { ledger with fields := visited } =
      .error (.validation "Invalid character ' ' in identifier 'note text'") := by decide
  obtain ⟨written, member, fault, unshaped, breaks, message, -⟩ := reported _ refused
  refine ⟨order, fun shaped => ?_, written, member, fault, unshaped, breaks, refused.trans (congrArg _ message), ?_⟩
  · rw [accepted.mpr shaped] at refused
    cases refused
  · rw [← message]
    decide

end RecordFilter
