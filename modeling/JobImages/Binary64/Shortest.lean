import JobImages.Binary64.Basic

/-!
# Shortest decimals

The decimal by which a double is written: of the decimals that round to it, those with the fewest
digits, and of these the nearest to it.  The decimals that round to a double form an interval around
it, half-way to each neighbour, ends included when its significand is even.

A decimal with few digits is a point of a coarse grid of multiples of a power of ten.  So the grids
are tried from the coarsest down, and on each only the two points beside the number have to be
looked at: if any point lies in the interval, one of these does.

## Main definitions

* `Decimal` — a natural number times a power of ten;
* `Binary64.Interval.around` — the reals that round to a magnitude;
* `Binary64.onGrid?` — the nearest point of a grid in that interval;
* `Binary64.shortest` — the result of the search.
-/

namespace JobImages

/-- The number `digits · 10 ^ exponent`. -/
structure Decimal where
  /-- The digits, read as a natural number. -/
  digits : Nat
  /-- The power of ten that the last digit counts. -/
  exponent : Int
  deriving DecidableEq

namespace Binary64

/-- The reals that round to a magnitude, in quarters of a unit. -/
structure Interval where
  /-- The lower end. -/
  low : Nat
  /-- The upper end. -/
  high : Nat
  /-- Whether the ends themselves round to the number. -/
  closed : Bool

/-- Half-way to the neighbours on both sides.  Below a power of two the neighbours are twice as
close, unless that is where the spacing is least already. -/
def Interval.around (units : Nat) : Interval :=
  let grain := Nat.pow 2 (spacing units)
  let belowGrain := if 0 < spacing units && units == Nat.pow 2 52 * grain then grain / 2 else grain
  { low := 4 * units - 2 * belowGrain
    high := 4 * units + 2 * grain
    closed := units / grain % 2 == 0 }

/-- Whether a point, given with the interval's ends in a common measure, lies in the interval. -/
def Interval.holds (interval : Interval) (scale point : Nat) : Bool :=
  if interval.closed then interval.low * scale ≤ point && point ≤ interval.high * scale
  else interval.low * scale < point && point < interval.high * scale

/-- Of the two multiples of `10 ^ exponent` beside a magnitude, the nearer one that rounds to it; a
tie goes to the even multiple. -/
def onGrid? (units : Nat) (exponent : Int) : Option Nat :=
  -- One of `scale` and the power in `step` is one, so that all that follows is in whole numbers.
  let scale := Nat.pow 10 (-exponent).toNat
  let step := 4 * one * Nat.pow 10 exponent.toNat
  let value := 4 * units * scale
  let interval := Interval.around units
  let below := value / step
  let fitsBelow := interval.holds scale (below * step)
  let fitsAbove := interval.holds scale ((below + 1) * step)
  let nearest := roundHalfEven value step
  -- When both fit, the nearer of them is the point nearest to the magnitude.
  if fitsBelow && fitsAbove then some nearest
  else if fitsBelow then some below
  else if fitsAbove then some (below + 1)
  else none

/-- The exponents of the grids, coarsest first: no finite double reaches 10³⁰⁹, and every one but
zero has a point of the grid of 10⁻³²⁴ in its interval. -/
def gridExponents : List Int :=
  (List.range 633).map fun (i : Nat) => 308 - (i : Int)

/-- The decimal with the fewest digits that rounds to a magnitude, nearest to it among those. -/
def shortest (units : Nat) : Decimal :=
  let hit := gridExponents.findSome? fun exponent =>
    (onGrid? units exponent).map fun digits => ({ digits, exponent } : Decimal)
  hit.getD { digits := 0, exponent := 0 }

end Binary64

end JobImages
