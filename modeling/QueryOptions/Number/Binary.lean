import QueryOptions.Number.Numeral

set_option autoImplicit false

namespace QueryOptions

structure BinaryFormat where
  precision : Nat
  minExponent : Int
  maxExponent : Nat

namespace BinaryFormat

def single : BinaryFormat := ⟨24, -149, 104⟩

def double : BinaryFormat := ⟨53, -1074, 971⟩

-- Half a unit above the greatest value: from here on a number rounds to infinity.
def overflowBound (format : BinaryFormat) : Nat :=
  twoPow (format.precision + format.maxExponent) - twoPow (format.maxExponent - 1)

end BinaryFormat

structure BinaryFloat where
  significand : Nat
  exponent : Int
deriving DecidableEq

def divHalfEven (numerator denominator : Nat) : Nat :=
  let quotient := numerator / denominator
  let twice := 2 * (numerator % denominator)
  if twice < denominator ∨ (twice = denominator ∧ quotient % 2 = 0) then quotient else quotient + 1

def floorLog2 (numerator denominator : Nat) : Int :=
  let estimate : Int := (numerator.log2 : Int) - denominator.log2
  let reached := match estimate with
    | .ofNat up => decide (denominator * twoPow up ≤ numerator)
    | .negSucc down => decide (denominator ≤ numerator * twoPow (down + 1))
  if reached then estimate else estimate - 1

-- The value of a format nearest to a positive fraction, ties to even, on a format without a
-- greatest exponent.
def BinaryFormat.nearest (format : BinaryFormat) (numerator denominator : Nat) : BinaryFloat :=
  let exponent := max format.minExponent (floorLog2 numerator denominator - (format.precision - 1))
  let significand := match exponent with
    | .ofNat up => divHalfEven numerator (denominator * twoPow up)
    | .negSucc down => divHalfEven (numerator * twoPow (down + 1)) denominator
  if significand = twoPow format.precision then ⟨twoPow (format.precision - 1), exponent + 1⟩
  else ⟨significand, exponent⟩

end QueryOptions
