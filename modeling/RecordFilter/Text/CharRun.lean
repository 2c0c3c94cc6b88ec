set_option autoImplicit false

namespace RecordFilter.Text

-- The code points `first`, `first + step`, .. up to `last`.
structure CharRun where
  first : Nat
  last : Nat
  step : Nat

def CharRun.holds (run : CharRun) (code : Nat) : Bool :=
  run.first ≤ code && code ≤ run.last && (code - run.first) % run.step = 0

def inRuns (runs : List CharRun) (char : Char) : Bool := runs.any fun run => run.holds char.toNat

structure CaseRun where
  run : CharRun
  shift : Int

structure CaseMap where
  shifts : List CaseRun
  expansions : List (Nat × List Nat)

namespace CaseMap

def shiftOf (map : CaseMap) (code : Nat) : Int :=
  match map.shifts.find? fun entry => entry.run.holds code with
  | some entry => entry.shift
  | none => 0

def apply (map : CaseMap) (char : Char) : List Char :=
  match map.expansions.find? fun entry => entry.1 = char.toNat with
  | some entry => entry.2.map Char.ofNat
  | none => [Char.ofNat (char.toNat + map.shiftOf char.toNat).toNat]

end CaseMap

end RecordFilter.Text
