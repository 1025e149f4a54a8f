/-!
The shortest decimal that reads back as a given binary number. A number `mantissa * 2 ^ exponent`
is the nearest one to every real in an interval around it; of the decimals in that interval the
one with the coarsest grid of digits is chosen, and on that grid the one nearest to the number.
All comparisons are made between natural numbers, after both sides are multiplied by the same
powers of two and ten.
-/

namespace Retrieval.Decimal

/-- A positive binary number with the interval of reals that round to it. The number is
`middle * 2 ^ exponent`, and the interval reaches from `low` to `high` in the same unit. -/
structure Rounding where
  low : Nat
  middle : Nat
  high : Nat
  exponent : Int
  closed : Bool

/-- The interval of a double with a positive mantissa. Below a power of two the next double is half
as far away, unless the exponent is the least one. -/
def Rounding.ofDouble (mantissa biased : Nat) : Rounding where
  low := if mantissa = Nat.pow 2 52 ∧ 1 < biased then 4 * mantissa - 1 else 4 * mantissa - 2
  middle := 4 * mantissa
  high := 4 * mantissa + 2
  exponent := (biased : Int) - 1077
  closed := mantissa % 2 == 0

/-- The decimal number `digits * 10 ^ exponent`. -/
structure Scaled where
  digits : Nat
  exponent : Int

/-- The number by which the digits of a decimal are multiplied to compare them with a bound that
is multiplied by `boundFactor`. -/
def Rounding.digitFactor (r : Rounding) (grid : Int) : Nat :=
  Nat.pow 10 grid.toNat * Nat.pow 2 (-r.exponent).toNat

/-- The number by which a bound of the interval is multiplied to compare it with digits. -/
def Rounding.boundFactor (r : Rounding) (grid : Int) : Nat :=
  Nat.pow 2 r.exponent.toNat * Nat.pow 10 (-grid).toNat

/-- Whether `digits * 10 ^ grid` lies in the interval. -/
def Rounding.covers (r : Rounding) (grid : Int) (digits : Nat) : Bool :=
  let value := digits * r.digitFactor grid
  let low := r.low * r.boundFactor grid
  let high := r.high * r.boundFactor grid
  if r.closed then low ≤ value && value ≤ high else low < value && value < high

/-- The point of a decimal grid that lies in the interval nearest to the number. Of two points
equally near the larger one is taken. -/
def Rounding.nearest? (r : Rounding) (grid : Int) : Option Scaled :=
  let unit := r.digitFactor grid
  let target := r.middle * r.boundFactor grid
  let below := target / unit
  let above := below + 1
  match r.covers grid below, r.covers grid above with
  | true, true =>
      if target - below * unit < above * unit - target then some ⟨below, grid⟩
      else some ⟨above, grid⟩
  | true, false => some ⟨below, grid⟩
  | false, true => some ⟨above, grid⟩
  | false, false => none

def Rounding.topGrid (r : Rounding) : Int :=
  ((r.middle.log2 : Int) + r.exponent + 1) * 30103 / 100000 + 1

/-- The coarsest grids on which a double may have a point in its interval: seventeen digits always
suffice, and the first grids are too coarse. -/
def Rounding.grids (r : Rounding) : List Int :=
  (List.range 20).map fun (step : Nat) => r.topGrid - (step : Int)

def Rounding.shortest (r : Rounding) : Scaled :=
  (r.grids.findSome? r.nearest?).getD ⟨0, 0⟩

end Retrieval.Decimal
