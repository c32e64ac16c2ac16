set_option autoImplicit false

namespace QueryOptions

def twoPow (exponent : Nat) : Nat := Nat.pow 2 exponent

def tenPow (exponent : Nat) : Nat := Nat.pow 10 exponent

def digitsValue (digits : List Char) : Nat :=
  digits.foldl (fun value digit => 10 * value + (digit.toNat - '0'.toNat)) 0

def maxCount : Nat := twoPow 64 - 1

def unsigned? (text : List Char) : Option Nat :=
  let digits := match text with
    | '+' :: rest => rest
    | _ => text
  if !digits.isEmpty && digits.all Char.isDigit && decide (digitsValue digits ≤ maxCount) then
    some (digitsValue digits)
  else none

structure Exponent where
  mark : Char
  sign : Option Char
  digits : List Char
deriving DecidableEq

namespace Exponent

def text (exponent : Exponent) : List Char :=
  exponent.mark :: (exponent.sign.toList ++ exponent.digits)

def value (exponent : Exponent) : Int :=
  if exponent.sign = some '-' then -(digitsValue exponent.digits : Int)
  else digitsValue exponent.digits

end Exponent

structure Numeral where
  negative : Bool
  whole : List Char
  fraction : Option (List Char)
  exponent : Option Exponent
deriving DecidableEq

namespace Numeral

def text (numeral : Numeral) : List Char :=
  (if numeral.negative then ['-'] else []) ++ numeral.whole ++
    (numeral.fraction.map fun digits => '.' :: digits).getD [] ++
    (numeral.exponent.map Exponent.text).getD []

def isIntegral (numeral : Numeral) : Bool :=
  numeral.fraction.isNone && numeral.exponent.isNone

def digits (numeral : Numeral) : List Char :=
  numeral.whole ++ numeral.fraction.getD []

def coefficient (numeral : Numeral) : Nat := digitsValue numeral.digits

def places (numeral : Numeral) : Nat := (numeral.fraction.getD []).length

def power (numeral : Numeral) : Int := (numeral.exponent.map Exponent.value).getD 0

def toInt (numeral : Numeral) : Int :=
  if numeral.negative then -(numeral.coefficient : Int) else numeral.coefficient

def fitsSigned (bits : Nat) (numeral : Numeral) : Bool :=
  decide (-(twoPow (bits - 1) : Int) ≤ numeral.toInt) &&
    decide (numeral.toInt < twoPow (bits - 1))

-- Whether the absolute value lies below a positive bound. The comparisons before `&&` and
-- `||` settle the question where the power of ten alone outweighs the bound or the digits,
-- so that no power is raised that the numbers compared do not need.
def absBelow (bound : Nat) (numeral : Numeral) : Bool :=
  match numeral.power - numeral.places with
  | .ofNat up =>
      numeral.coefficient == 0 ||
        (decide (up ≤ bound.log2) && decide (numeral.coefficient * tenPow up < bound))
  | .negSucc down =>
      decide (numeral.digits.length ≤ down + 1) ||
        decide (numeral.coefficient < bound * tenPow (down + 1))

end Numeral

end QueryOptions
