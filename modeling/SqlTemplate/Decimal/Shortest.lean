/-!
This file finds the shortest decimal number that stands for a binary one: the coarsest decimal grid
with a point that rounds to the binary number, and on that grid the nearest such point.
-/

namespace SqlTemplate.Decimal

/-- A decimal number is this many units of a power of ten. -/
structure Scaled where
  digits : Nat
  exponent : Int
  deriving DecidableEq, Repr

/-- An exact half goes to the even neighbour or to the upper one. -/
inductive Tie where
  | even
  | upper
  deriving DecidableEq, Repr

/-- The numbers that round to one binary number lie between two ends, which belong to them exactly
when the significand is even. All three are counted in units of one power of two. -/
structure Interval where
  lower : Nat
  centre : Nat
  upper : Nat
  unit : Int
  closed : Bool
  deriving DecidableEq, Repr

namespace Interval

/-- The ends lie halfway to the neighbours. Below a power of two the neighbour is half as far, unless
the exponent is the lowest one. -/
def ofBinary (significand : Nat) (exponent : Int) (halfStepBelow : Bool) : Interval where
  lower := if halfStepBelow then 4 * significand - 1 else 4 * significand - 2
  centre := 4 * significand
  upper := 4 * significand + 2
  unit := exponent - 2
  closed := significand % 2 == 0

/-- A point of a grid, multiplied by this factor, can be compared with a multiple of the other
factor, which scales the interval. -/
def pointFactor (interval : Interval) (grid : Int) : Nat :=
  Nat.pow 10 grid.toNat * Nat.pow 2 (-interval.unit).toNat

/-- The factor of the interval beside that of the point. -/
def endFactor (interval : Interval) (grid : Int) : Nat :=
  Nat.pow 10 (-grid).toNat * Nat.pow 2 interval.unit.toNat

/-- A multiple of a power of ten lies in the interval. -/
def holds (interval : Interval) (digits : Nat) (grid : Int) : Bool :=
  let point := digits * interval.pointFactor grid
  let scale := interval.endFactor grid
  if interval.closed then interval.lower * scale ≤ point && point ≤ interval.upper * scale
  else interval.lower * scale < point && point < interval.upper * scale

/-- The grid point at or below the centre. -/
def below (interval : Interval) (grid : Int) : Nat :=
  interval.centre * interval.endFactor grid / interval.pointFactor grid

/-- Twice the centre is compared with the sum of the grid points at both of its sides. -/
def prefersUpper (interval : Interval) (tie : Tie) (grid : Int) : Bool :=
  let low := interval.below grid
  let twiceCentre := 2 * interval.centre * interval.endFactor grid
  let middle := (2 * low + 1) * interval.pointFactor grid
  if twiceCentre = middle then
    match tie with
    | .even => low % 2 == 1
    | .upper => true
  else middle < twiceCentre

/-- The nearest point of one grid that lies in the interval. -/
def onGrid? (interval : Interval) (tie : Tie) (grid : Int) : Option Nat :=
  let low := interval.below grid
  match interval.holds low grid, interval.holds (low + 1) grid with
  | true, true => some (if interval.prefersUpper tie grid then low + 1 else low)
  | true, false => some low
  | false, true => some (low + 1)
  | false, false => none

/-- The grids are tried from the coarsest on, each ten times finer than the one before. -/
def search (interval : Interval) (tie : Tie) : (grids : Nat) → (grid : Int) → Scaled
  | 0, grid => ⟨interval.below grid, grid⟩
  | grids + 1, grid =>
      match interval.onGrid? tie grid with
      | some digits => ⟨digits, grid⟩
      | none => interval.search tie grids (grid - 1)

end Interval

/-- Every positive number with 64 bits is below the first grid of this power of ten. -/
def coarsestGrid : Int := 309

/-- Every number with 64 bits is a point of the last of these grids. -/
def gridCount : Nat := 1400

/-- The shortest decimal number that rounds to a positive binary number. -/
def shortest (significand : Nat) (exponent : Int) (halfStepBelow : Bool) (tie : Tie) : Scaled :=
  (Interval.ofBinary significand exponent halfStepBelow).search tie gridCount coarsestGrid

end SqlTemplate.Decimal
