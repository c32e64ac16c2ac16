import QueryOptions.Number.Binary
import QueryOptions.Number.Decimal

/-!
The fewest decimal digits that read back as a given float. The numbers that read back form an
interval around the float; of the grids of multiples of a power of ten the coarsest that meets the
interval gives the digits, of two hits the nearer one and the upper one on a tie.
-/

set_option autoImplicit false

namespace QueryOptions

-- The numbers that round to one float, over a common denominator. The ends belong to it
-- where the significand is even.
structure RoundingInterval where
  low : Nat
  middle : Nat
  high : Nat
  denominator : Nat
  closed : Bool

-- The interval reaches half way to the neighbours; below a power of two the neighbour is
-- half as far, except among the least values.
def BinaryFormat.interval (format : BinaryFormat) (float : BinaryFloat) : RoundingInterval :=
  let narrow :=
    float.significand = twoPow (format.precision - 1) ∧ format.minExponent < float.exponent
  let low := 4 * float.significand - (if narrow then 1 else 2)
  let middle := 4 * float.significand
  let closed := float.significand % 2 == 0
  match float.exponent - 2 with
  | .ofNat up => ⟨low * twoPow up, middle * twoPow up, (middle + 2) * twoPow up, 1, closed⟩
  | .negSucc down => ⟨low, middle, middle + 2, twoPow (down + 1), closed⟩

namespace RoundingInterval

def onGrid? (interval : RoundingInterval) (power : Int) : Option Nat :=
  let stretch := match power with
    | .ofNat _ => 1
    | .negSucc down => tenPow (down + 1)
  let unit := match power with
    | .ofNat up => tenPow up * interval.denominator
    | .negSucc _ => interval.denominator
  let inside (multiplier : Nat) : Bool :=
    if interval.closed then
      decide (interval.low * stretch ≤ multiplier * unit) &&
        decide (multiplier * unit ≤ interval.high * stretch)
    else
      decide (interval.low * stretch < multiplier * unit) &&
        decide (multiplier * unit < interval.high * stretch)
  let below := interval.middle * stretch / unit
  let above := below + 1
  match inside below, inside above with
  | true, true => if 2 * (interval.middle * stretch % unit) < unit then some below else some above
  | true, false => some below
  | false, true => some above
  | false, false => none

def search (interval : RoundingInterval) : Nat → Int → Option (Nat × Int)
  | 0, _ => none
  | grids + 1, power =>
      match interval.onGrid? power with
      | some multiplier => some (multiplier, power)
      | none => interval.search grids (power - 1)

def startPower (interval : RoundingInterval) : Int :=
  if interval.denominator ≤ interval.high then
    (Nat.toDigits 10 (interval.high / interval.denominator)).length
  else 2 - ((Nat.toDigits 10 (interval.denominator / interval.high)).length : Int)

end RoundingInterval

-- The shortest digits of a float and the power of ten that scales them. No format needs
-- more grids than its significand has bits.
def BinaryFormat.shortest (format : BinaryFormat) (float : BinaryFloat) : Option (Nat × Int) :=
  let interval := format.interval float
  interval.search (format.precision + 3) interval.startPower

namespace Decimal

def hasAbs (decimal : Decimal) (digits : Nat) (power : Int) : Bool :=
  match power with
  | .ofNat up => digits * tenPow up * tenPow decimal.scale == decimal.coefficient
  | .negSucc down => digits * tenPow decimal.scale == decimal.coefficient * tenPow (down + 1)

-- Whether the float nearest to the decimal has the decimal as its shortest digits, so that
-- writing the float down and reading it again loses nothing.
def survives (format : BinaryFormat) (decimal : Decimal) : Bool :=
  decimal.coefficient == 0 ||
    match format.shortest (format.nearest decimal.coefficient (tenPow decimal.scale)) with
    | some (digits, power) => decimal.hasAbs digits power
    | none => false

end Decimal

end QueryOptions
