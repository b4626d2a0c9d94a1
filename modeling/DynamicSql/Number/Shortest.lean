/-
This file finds the shortest decimal that reads back as a given finite number. A decimal reads
back as a number when it lies in the number's rounding interval, whose ends are half way to the
neighbouring numbers and belong to it when the significand is even. On the grid of all decimals
with a given number of digits only the two neighbours of the number itself need to be looked at;
the first grid with a neighbour in the interval wins, and of two the nearer.
-/

import DynamicSql.Number.Binary64
import DynamicSql.Number.Decimal

namespace DynamicSql.Number

/-- Which of two equally near decimals is chosen. -/
inductive Tie where
  | up
  | toEven
  deriving DecidableEq

/-- The interval of the decimals that read back as one number, in quarters of a unit. -/
structure Interval where
  low : Nat
  middle : Nat
  high : Nat
  closed : Bool

/-- The rounding interval of a number that is not zero. The gap below a power of two is half as
wide as the gap above it. -/
def Interval.ofUnits (units : Nat) : Interval :=
  let shift := units.log2 - 52
  let significand := units >>> shift
  let gap := 2 <<< shift
  { low := 4 * units - (if significand = 1 <<< 52 ∧ 0 < shift then 1 <<< shift else gap)
    middle := 4 * units
    high := 4 * units + gap
    closed := significand % 2 == 0 }

/-- A decimal grid, the multiples of a power of ten, as the factors by which a count of quarters
of a unit and a multiple are multiplied to become comparable. -/
structure Grid where
  quarters : Nat
  multiples : Nat

/-- The multiples of `10 ^ exponent`. -/
def Grid.ofExponent : Int → Grid
  | .ofNat power => ⟨1, 4 * unitsPerOne * Nat.pow 10 power⟩
  | .negSucc power => ⟨Nat.pow 10 (power + 1), 4 * unitsPerOne⟩

/-- A multiple of the grid's step lies in the interval. -/
def Grid.reaches (grid : Grid) (interval : Interval) (multiple : Nat) : Bool :=
  let place := multiple * grid.multiples
  let low := interval.low * grid.quarters
  let high := interval.high * grid.quarters
  if interval.closed then low ≤ place && place ≤ high else low < place && place < high

/-- The multiple nearest to the middle of the interval among those that lie in the interval. -/
def Grid.nearest? (grid : Grid) (tie : Tie) (interval : Interval) : Option Nat :=
  let middle := interval.middle * grid.quarters
  let below := middle / grid.multiples
  let twice := 2 * (middle % grid.multiples)
  let upward := if twice = grid.multiples then tie = .up || below % 2 == 1
    else grid.multiples < twice
  match grid.reaches interval below, grid.reaches interval (below + 1) with
  | true, true => some (if upward then below + 1 else below)
  | true, false => some below
  | false, true => some (below + 1)
  | false, false => none

/-- The least exponent of a power of ten above the number. -/
def leadingExponent (units : Nat) : Int :=
  let estimate := (Int.ofNat units.log2 - Int.ofNat unitBits) * 30103 / 100000
  let candidates := [estimate - 1, estimate, estimate + 1, estimate + 2]
  (candidates.find? fun exponent =>
    let grid := Grid.ofExponent exponent
    4 * units * grid.quarters < grid.multiples).getD (estimate + 3)

/-- The digits and the exponent of `multiple * 10 ^ exponent` without trailing zeros. -/
def withoutTrailingZeros (fuel : Nat) (multiple : Nat) (exponent : Int) : Nat × Int :=
  match fuel with
  | 0 => (multiple, exponent)
  | fuel + 1 =>
    if multiple % 10 = 0 then withoutTrailingZeros fuel (multiple / 10) (exponent + 1)
    else (multiple, exponent)

/-- The shortest decimal on the grids of `count`, `count + 1`, … digits. -/
def shortestFrom (tie : Tie) (interval : Interval) (lead : Int) :
    (grids count : Nat) → Nat × Int
  | 0, count => (0, lead - Int.ofNat count)
  | grids + 1, count =>
    let exponent := lead - Int.ofNat count
    match (Grid.ofExponent exponent).nearest? tie interval with
    | some multiple => withoutTrailingZeros count multiple exponent
    | none => shortestFrom tie interval lead grids (count + 1)

/-- The shortest decimal that reads back as a number of `units` units, as digits and the exponent
of the power of ten they are multiplied by. Seventeen digits always suffice. -/
def shortest (tie : Tie) (units : Nat) : List Char × Int :=
  let result := shortestFrom tie (.ofUnits units) (leadingExponent units) 17 1
  (decimal result.1, result.2)

end DynamicSql.Number
