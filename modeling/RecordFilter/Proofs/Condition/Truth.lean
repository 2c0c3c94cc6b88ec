import RecordFilter.Condition

set_option autoImplicit false

namespace RecordFilter

inductive Truth where
  | no
  | unknown
  | yes
deriving DecidableEq

namespace Truth

def neg : Truth → Truth
  | no => yes
  | unknown => unknown
  | yes => no

def conj : Truth → Truth → Truth
  | no, _ | _, no => no
  | yes, yes => yes
  | _, _ => unknown

def disj : Truth → Truth → Truth
  | yes, _ | _, yes => yes
  | no, no => no
  | _, _ => unknown

theorem conj_assoc (first second third : Truth) : (first.conj second).conj third = first.conj (second.conj third) := by
  cases first <;> cases second <;> cases third <;> rfl

theorem disj_assoc (first second third : Truth) : (first.disj second).disj third = first.disj (second.disj third) := by
  cases first <;> cases second <;> cases third <;> rfl

theorem neg_conj (first second : Truth) : (first.conj second).neg = first.neg.disj second.neg := by
  cases first <;> cases second <;> rfl

theorem neg_disj (first second : Truth) : (first.disj second).neg = first.neg.conj second.neg := by
  cases first <;> cases second <;> rfl

end Truth

namespace Connector

def truth : Connector → Truth → Truth → Truth
  | and => Truth.conj
  | or => Truth.disj

def neutral : Connector → Truth
  | and => .yes
  | or => .no

theorem truth_assoc (connector : Connector) (first second third : Truth) :
    connector.truth (connector.truth first second) third = connector.truth first (connector.truth second third) := by
  cases connector with
  | and => exact Truth.conj_assoc first second third
  | or => exact Truth.disj_assoc first second third

theorem truth_neutral (connector : Connector) (truth : Truth) : connector.truth truth connector.neutral = truth := by
  cases connector <;> cases truth <;> rfl

theorem neutral_truth (connector : Connector) (truth : Truth) : connector.truth connector.neutral truth = truth := by
  cases connector <;> cases truth <;> rfl

def joined (connector : Connector) (truths : List Truth) : Truth := truths.foldr connector.truth connector.neutral

theorem joined_append (connector : Connector) (first second : List Truth) :
    connector.joined (first ++ second) = connector.truth (connector.joined first) (connector.joined second) := by
  induction first with
  | nil => exact (connector.neutral_truth _).symm
  | cons truth rest ih =>
    simp only [joined, List.cons_append, List.foldr_cons] at ih ⊢
    rw [ih, truth_assoc]

theorem joined_singleton (connector : Connector) (truth : Truth) : connector.joined [truth] = truth :=
  connector.truth_neutral truth

theorem joined_pair (connector : Connector) (first second : Truth) :
    connector.joined [first, second] = connector.truth first second :=
  congrArg (connector.truth first) (connector.truth_neutral second)

theorem neg_joined_or (truths : List Truth) : (or.joined truths).neg = and.joined (truths.map Truth.neg) := by
  induction truths with
  | nil => rfl
  | cons truth rest ih => exact (Truth.neg_disj truth _).trans (congrArg (Truth.conj truth.neg) ih)

end Connector

namespace Condition

-- The value of an atomic condition may be any, also that of a negated one: `IS NOT NULL` has a value of its own.
mutual
def truth (atom : Condition → Truth) : Condition → Truth
  | all parts => Connector.and.joined (truths atom parts)
  | any parts => Connector.or.joined (truths atom parts)
  | negation inner => (inner.truth atom).neg
  | group inner => inner.truth atom
  | always => .yes
  | single => atom single

def truths (atom : Condition → Truth) : List Condition → List Truth
  | [] => []
  | part :: rest => part.truth atom :: truths atom rest
end

def pair : Connector → Condition → Condition → Condition
  | .and, left, right => all [left, right]
  | .or, left, right => any [left, right]

theorem truth_pair (atom : Condition → Truth) (connector : Connector) (left right : Condition) :
    (pair connector left right).truth atom = connector.truth (left.truth atom) (right.truth atom) := by
  cases connector with
  | and => exact Connector.and.joined_pair _ _
  | or => exact Connector.or.joined_pair _ _

end Condition

end RecordFilter
