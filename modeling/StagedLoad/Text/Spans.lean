/-!
# Classes of characters as spans of code points

A class of characters is written down as a table.  `within bounds n` reads a table of span
boundaries: a span starts at one boundary and ends just before the next, so `n` is in the class
exactly when an odd number of boundaries are at or below it.  A `Run` is every `step`-th code
point between two ends, the shape in which the two cases of an alphabet alternate.
-/

namespace StagedLoad.Text

/-- `n` lies in one of the spans whose boundaries are listed in ascending order -/
def within : List Nat → Nat → Bool
  | [], _ => false
  | b :: bounds, n => Nat.ble b n && !within bounds n

/-- every `step`-th code point from `first` to `last` -/
structure Run where
  first : Nat
  last : Nat
  step : Nat

def Run.has (r : Run) (n : Nat) : Bool :=
  Nat.ble r.first n && Nat.ble n r.last && (n - r.first) % r.step == 0

def inRuns (runs : List Run) (n : Nat) : Bool := runs.any (·.has n)

/-- a run of letters that all move by the same distance to reach their other case -/
structure Shift where
  run : Run
  distance : Int

/-- the code point that `n` moves to under the first shift whose run holds it -/
def shifted? : List Shift → Nat → Option Nat
  | [], _ => none
  | s :: shifts, n => if s.run.has n then some (n + s.distance).toNat else shifted? shifts n

end StagedLoad.Text
