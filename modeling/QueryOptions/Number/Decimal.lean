import QueryOptions.Number.Numeral

/-!
Exact decimals of 96 bits. A decimal is a signed coefficient of at most 96 bits over a power of ten
of at most 28. Reading a numeral as a decimal never rounds: what does not fit is refused.
-/

set_option autoImplicit false

namespace QueryOptions

def decimalLimit : Nat := twoPow 96

-- The value `coefficient / 10 ^ scale`, negated where `negative` says so.
structure Decimal where
  negative : Bool
  coefficient : Nat
  scale : Nat
  coefficient_lt : coefficient < decimalLimit
  scale_le : scale ≤ 28

namespace Decimal

def ofParts? (negative : Bool) (coefficient scale : Nat) : Option Decimal :=
  if fits : coefficient < decimalLimit ∧ scale ≤ 28 then
    some ⟨negative, coefficient, scale, fits.1, fits.2⟩
  else none

-- Ten times the value, refused where it passes the greatest decimal.
def timesTen? (decimal : Decimal) : Option Decimal :=
  match decimal.scale with
  | 0 => ofParts? decimal.negative (10 * decimal.coefficient) 0
  | scale + 1 => ofParts? decimal.negative decimal.coefficient scale

def raise? : Nat → Decimal → Option Decimal
  | 0, decimal => some decimal
  | power + 1, decimal => decimal.timesTen?.bind (raise? power)

def lower? (power : Nat) (decimal : Decimal) : Option Decimal :=
  ofParts? decimal.negative decimal.coefficient (decimal.scale + power)

def maxPower : Nat := 56

end Decimal

-- The numeral read as a decimal without loss. The exponent has to fit 32 bits even where
-- the digits are all zero.
def Numeral.toDecimal? (numeral : Numeral) : Option Decimal :=
  if -(twoPow 31 : Int) ≤ numeral.power ∧ numeral.power < twoPow 31 then
    (Decimal.ofParts? numeral.negative numeral.coefficient numeral.places).bind fun decimal =>
      if decimal.coefficient = 0 then some decimal
      else match numeral.power with
        | .ofNat up => if up ≤ Decimal.maxPower then decimal.raise? up else none
        | .negSucc down => decimal.lower? (down + 1)
  else none

end QueryOptions
