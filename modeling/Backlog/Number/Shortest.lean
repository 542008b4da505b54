import Backlog.Number.Double

/-!
The shortest decimal that reads back as a given double. The reals that round to a double form an
interval; on the decimal grids, from the coarsest down, the first that meets the interval gives
the digits, and of its points there the one nearest to the double.
-/

namespace Backlog

/-- `digits * 10 ^ exponent`. -/
structure Decimal where
  digits : Nat
  exponent : Int
deriving DecidableEq, Repr

/-- The reals that round to one value, in whole multiples of a common unit. -/
structure RoundingInterval where
  low : Nat
  middle : Nat
  high : Nat
  closed : Bool

namespace RoundingInterval

def contains (i : RoundingInterval) (n : Nat) : Bool :=
  if i.closed then decide (i.low ≤ n) && decide (n ≤ i.high)
  else decide (i.low < n) && decide (n < i.high)

/-- The multiple of `grid` in the interval that is nearest to the middle, counted in grid steps. -/
def onGrid? (i : RoundingInterval) (grid : Nat) : Option Nat :=
  let below := i.middle / grid
  match i.contains (below * grid), i.contains ((below + 1) * grid) with
  | true, true => some (Double.halfEven i.middle grid)
  | true, false => some below
  | false, true => some (below + 1)
  | false, false => none

/-- The digits and the place of the coarsest power of ten up to the given one that has a point. -/
def coarsest (i : RoundingInterval) : Nat → Nat × Nat
  | 0 => (i.middle, 0)
  | place + 1 =>
    match i.onGrid? (Nat.pow 10 (place + 1)) with
    | some digits => (digits, place + 1)
    | none => i.coarsest place

end RoundingInterval

namespace Magnitude

/-- Decimal places of a quarter of the last binary digit. -/
def places (m : Magnitude) : Nat := 1076 - m.shift

/-- A quarter of the last binary digit, in units of `10 ^ -places`. -/
def quarter (m : Magnitude) : Nat := Nat.pow 2 (m.shift - 1076) * Nat.pow 5 (1076 - m.shift)

/-- Below a power of two the neighbours are half as far apart. -/
def interval (m : Magnitude) : RoundingInterval where
  low := (4 * m.significand - if m.significand = 4503599627370496 ∧ m.shift ≠ 0 then 1 else 2) *
    m.quarter
  middle := 4 * m.significand * m.quarter
  high := (4 * m.significand + 2) * m.quarter
  closed := m.significand % 2 = 0

def shortest (m : Magnitude) : Decimal :=
  if m.significand = 0 then ⟨0, 0⟩
  else
    let found := m.interval.coarsest (Numeral.write m.interval.high).length
    ⟨found.1, found.2 - m.places⟩

end Magnitude

end Backlog
