import Mathlib.Order.Lattice
import RecordFilter.Proofs.Condition.Truth

set_option autoImplicit false

namespace RecordFilter

variable {α : Type}

structure Database (α : Type) where
  read : Value → Option α
  upper : α → α
  fits : (text pattern : α) → Bool

namespace Truth

def ofBool : Bool → Truth
  | true => yes
  | false => no

def both (holds : α → α → Bool) : Option α → Option α → Truth
  | some held, some value => ofBool (holds held value)
  | _, _ => unknown

theorem neg_both {holds opposite : α → α → Bool} (opposed : ∀ held value, opposite held value = !holds held value)
    (held value : Option α) : (both holds held value).neg = both opposite held value := by
  cases held with
  | none => rfl
  | some held =>
    cases value with
    | none => rfl
    | some value =>
      rw [both, both, opposed]
      cases holds held value <;> rfl

end Truth

section Comparison

variable [LinearOrder α]

def Truth.ofComparison (held : Option α) (operator : String) (value : Option α) : Truth :=
  match operator with
  | "=" => both (fun held value => decide (held = value)) held value
  | "!=" => both (fun held value => decide (held ≠ value)) held value
  | "<" => both (fun held value => decide (held < value)) held value
  | "<=" => both (fun held value => decide (held ≤ value)) held value
  | ">" => both (fun held value => decide (value < held)) held value
  | ">=" => both (fun held value => decide (value ≤ held)) held value
  | _ => unknown

namespace Truth

theorem neg_equal (held value : Option α) : (ofComparison held "=" value).neg = ofComparison held "!=" value :=
  neg_both (fun _ _ => decide_not) held value

theorem neg_atLeast (held value : Option α) : (ofComparison held ">=" value).neg = ofComparison held "<" value :=
  neg_both (fun _ _ => by rw [← decide_not, decide_eq_decide, not_le]) held value

theorem neg_atMost (held value : Option α) : (ofComparison held "<=" value).neg = ofComparison held ">" value :=
  neg_both (fun _ _ => by rw [← decide_not, decide_eq_decide, not_le]) held value

end Truth

def Database.truth (database : Database α) (held : Option α) : Condition → Truth
  | .compare _ operator value => Truth.ofComparison held operator (database.read value)
  | .like _ pattern upper negated =>
    Truth.both (fun text pattern => database.fits text pattern != negated)
      (if upper then held.map database.upper else held) (database.read pattern)
  | .nullness _ isNull => Truth.ofBool (held.isNone == isNull)
  | .membership _ values false =>
    Connector.or.joined (values.map fun value => Truth.ofComparison held "=" (database.read value))
  | .membership _ values true =>
    Connector.and.joined (values.map fun value => Truth.ofComparison held "!=" (database.read value))
  | .between _ low high false =>
    (Truth.ofComparison held ">=" (database.read low)).conj (Truth.ofComparison held "<=" (database.read high))
  | .between _ low high true =>
    (Truth.ofComparison held "<" (database.read low)).disj (Truth.ofComparison held ">" (database.read high))
  | _ => .unknown

namespace Database

variable (database : Database α) (held : Option α) (column : Column)

theorem neg_equal (value : Value) :
    (database.truth held (.compare column "=" value)).neg = database.truth held (.compare column "!=" value) :=
  Truth.neg_equal held _

theorem neg_like (pattern : Value) (upper : Bool) :
    (database.truth held (.like column pattern upper false)).neg =
      database.truth held (.like column pattern upper true) :=
  Truth.neg_both (fun text pattern => by cases database.fits text pattern <;> rfl) _ _

theorem neg_nullness :
    (database.truth held (.nullness column true)).neg = database.truth held (.nullness column false) := by
  cases held <;> rfl

theorem neg_membership (values : List Value) :
    (database.truth held (.membership column values false)).neg =
      database.truth held (.membership column values true) := by
  rw [truth, truth, Connector.neg_joined_or, List.map_map]
  exact congrArg Connector.and.joined (List.map_congr_left fun value _ => Truth.neg_equal held _)

theorem neg_between (low high : Value) :
    (database.truth held (.between column low high false)).neg =
      database.truth held (.between column low high true) := by
  rw [truth, truth, Truth.neg_conj, Truth.neg_atLeast, Truth.neg_atMost]

end Database

end Comparison

end RecordFilter
