import RecordFilter.Proofs.Entity
import RecordFilter.Proofs.Scope.Destination

set_option autoImplicit false

namespace RecordFilter

theorem Text.Keyed.unique_nil {α : Type} : Unique ([] : Keyed α) := List.nodup_nil

namespace Entity

theorem declare_unique {entity : Entity} (unique : Text.Keyed.Unique entity.fields) (declaration : Declaration) :
    Text.Keyed.Unique (entity.declare declaration).fields := by
  cases declaration with
  | primaryKey column =>
    show Text.Keyed.Unique (entity.exposeColumn column).fields
    rw [exposeColumn]
    split
    · exact unique
    · exact unique.put ..
  | scalar | association | collection => exact unique.put ..

theorem declareAll_unique {entity : Entity} (unique : Text.Keyed.Unique entity.fields) (declarations : List Declaration) :
    Text.Keyed.Unique (entity.declareAll declarations).fields := by
  induction declarations generalizing entity with
  | nil => exact unique
  | cons declaration rest ih => exact ih (declare_unique unique declaration)

section KeyDeclared

variable {entity : Entity} (unique : Text.Keyed.Unique entity.fields) {column : String}

include unique

theorem field?_added (lacks : entity.LacksColumn column) :
    (entity.declare (.primaryKey column)).field? column = some (.scalar column) :=
  (field?_exposeColumn unique column column).1 lacks rfl

theorem field?_kept {name : String} (kept : ¬ (entity.LacksColumn column ∧ name = column)) :
    (entity.declare (.primaryKey column)).field? name = entity.field? name :=
  (field?_exposeColumn unique column name).2 kept

theorem field?_of_before {name : String} {kind : Field} (present : entity.field? name = some kind) :
    (entity.declare (.primaryKey column)).field? name = some kind := by
  rw [field?_kept unique, present]
  rintro ⟨lacks, rfl⟩
  rw [lacks.2] at present
  cases present

theorem lacksColumn_of_new {name : String} {kind : Field}
    (present : (entity.declare (.primaryKey column)).field? name = some kind) (absent : entity.field? name = none) :
    entity.LacksColumn column ∧ name = column := by
  by_contra other
  rw [field?_kept unique other, absent] at present
  cases present

theorem reads_column_iff : (∃ name, (entity.declare (.primaryKey column)).field? name = some (.scalar column)) ↔
    (∃ name, entity.field? name = some (.scalar column)) ∨ entity.field? column = none := by
  constructor
  · rintro ⟨name, present⟩
    cases earlier : entity.field? name with
    | none => exact .inr (lacksColumn_of_new unique present earlier).1.2
    | some kind => exact .inl ⟨name, earlier.trans ((field?_of_before unique earlier).symm.trans present)⟩
  · rintro (⟨name, present⟩ | free)
    · exact ⟨name, field?_of_before unique present⟩
    · by_cases mapped : ∃ name, entity.field? name = some (.scalar column)
      · obtain ⟨name, present⟩ := mapped
        exact ⟨name, field?_of_before unique present⟩
      · exact ⟨column, field?_added unique ⟨fun name present => mapped ⟨name, present⟩, free⟩⟩

end KeyDeclared

end Entity

theorem Path.resolve_scalar {schema : Schema} {scope : Scope} {entity : Entity} {field column : String}
    (plain : schema.Plain) (found : schema.entity scope.entity = .ok entity) (declared : entity.field? field = some (.scalar column))
    (named : field ≠ "") (kind : JoinKind) (fetch : Bool) :
    (Path.resolve ⟨[field]⟩ schema kind fetch).run scope = (.ok (columnOf 0 column), scope) := by
  have wellFormed : Path.isWellFormed ⟨[field]⟩ = true := by
    rw [Path.isWellFormed_iff]
    simpa using named.symm
  have scalar : schema.field scope.root.entity field = .ok (.scalar column) := by
    rw [plain, fieldOf, Scope.root, found]
    simp only [declared]
  refine (Path.resolve_wellFormed wellFormed kind fetch).trans ?_
  rw [walk, Resolve.outcome_bind, Resolve.outcome_lift, scalar]
  rfl

/-- Whatever was declared before, declaring the key leaves every field as it was and adds at most the one named like the
column. Afterwards some field reads the column just when one did before or its name was free, and such a field, if it has a
name that a path can hold, leads to the column. -/
theorem Entity.key_exposes_column (name table : String) (declarations : List Declaration) (column : String) :
    let before := Entity.declareAll { name, table } declarations
    let after := before.declare (.primaryKey column)
    after.primaryKey = some column ∧
      (∀ field kind, before.field? field = some kind → after.field? field = some kind) ∧
      (∀ field kind, after.field? field = some kind → before.field? field = none →
        field = column ∧ kind = .scalar column) ∧
      ((∃ field, after.field? field = some (.scalar column)) ↔
        (∃ field, before.field? field = some (.scalar column)) ∨ before.field? column = none) ∧
      ∀ field, after.field? field = some (.scalar column) → field ≠ "" → ∀ (schema : Schema) scope kind fetch,
        schema.Plain → schema.entity scope.entity = .ok after →
          (Path.resolve ⟨[field]⟩ schema kind fetch).run scope = (.ok (columnOf 0 column), scope) := by
  intro before after
  have unique : Text.Keyed.Unique before.fields := declareAll_unique Text.Keyed.unique_nil declarations
  refine ⟨rfl, fun field kind present => field?_of_before unique present, fun field kind present absent => ?_,
    reads_column_iff unique, fun field present named schema scope kind fetch plain found =>
      Path.resolve_scalar plain found present named kind fetch⟩
  obtain ⟨lacks, rfl⟩ := lacksColumn_of_new unique present absent
  rw [field?_added unique lacks, Option.some.injEq] at present
  exact ⟨rfl, present.symm⟩

theorem Entity.key_exposes_column_accounts :
    let account : Entity := { name := "Account", table := "accounts", primaryKey := some "id", fields := [("id", .scalar "id")] }
    let schema : Schema := { entity := fun _ => .ok account }
    schema.Plain ∧ schema.entity "Account" = .ok account ∧
      (Path.resolve ⟨["id"]⟩ schema .inner false).run { table := "accounts", entity := "Account" } =
        (.ok ⟨"t0", "id"⟩, { table := "accounts", entity := "Account" }) := by
  intro account schema
  refine ⟨rfl, rfl, ?_⟩
  exact (Entity.key_exposes_column "Account" "accounts" [] "id").2.2.2.2 "id" rfl (by decide) schema _ .inner false rfl rfl

example : ((Entity.declareAll { name := "Account", table := "accounts" } [.scalar "id" "account_id"]).declare
    (.primaryKey "account_id")).fields = [("id", .scalar "account_id")] := by decide

-- The owner of an account is known by the name of the key's column, and then no field reads that column. A field without a
-- name does read it, but no path leads there.
theorem Entity.key_column_hidden :
    let account (declaration : Declaration) :=
      (Entity.declareAll { name := "Account", table := "accounts" } [declaration]).declare (.primaryKey "id")
    let owned := account (.association "id" (.belongsTo "Owner" "owner_id"))
    let unnamed := account (.scalar "" "id")
    owned.primaryKey = some "id" ∧ (∀ field, owned.field? field ≠ some (.scalar "id")) ∧
      (∀ field kind, unnamed.field? field = some kind → field = "") ∧
      ∀ schema scope kind fetch, (Path.resolve ⟨[""]⟩ schema kind fetch).run scope = (.error (.invalidPath ""), scope) := by
  intro account owned unnamed
  refine ⟨rfl, fun field present => ?_, fun field kind present => ?_, fun _ _ _ _ => rfl⟩
  · have member : (field, Field.scalar "id") ∈ [("id", Field.association (.belongsTo "Owner" "owner_id"))] :=
      Text.Keyed.mem_of_find? present
    simp at member
  · have member : (field, kind) ∈ [("", Field.scalar "id")] := Text.Keyed.mem_of_find? present
    simp only [List.mem_singleton, Prod.mk.injEq] at member
    exact member.1

end RecordFilter
