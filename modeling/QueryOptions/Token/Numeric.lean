import QueryOptions.Number.Shortest
import QueryOptions.Token.Scan

/-!
Numbers and the types they are literals of. A suffix letter names the type. Without one an integer
takes the narrower of 32 and 64 bits that holds it; any other number is a single where writing it as
a single loses nothing, else a double on the same terms, else a decimal. What no decimal holds is a
double as long as it is finite.
-/

set_option autoImplicit false

namespace QueryOptions

namespace Numeral

def isFinite (format : BinaryFormat) (numeral : Numeral) : Bool :=
  numeral.absBelow format.overflowBound

def fractionalKind? (numeral : Numeral) : Option TokenKind :=
  match numeral.toDecimal? with
  | some decimal =>
      if decimal.survives .single then some .singleLiteral
      else if decimal.survives .double then some .doubleLiteral
      else some .decimalLiteral
  | none => if numeral.isFinite .double then some .doubleLiteral else none

def kind? (numeral : Numeral) : Option TokenKind :=
  if numeral.isIntegral && numeral.fitsSigned 32 then some .integerLiteral
  else if numeral.isIntegral && numeral.fitsSigned 64 then some .int64Literal
  else numeral.fractionalKind?

def suffixedKind? (suffix : Char) (numeral : Numeral) : Option TokenKind :=
  if suffix = 'M' ∨ suffix = 'm' then
    if numeral.toDecimal?.isSome then some .decimalLiteral else none
  else if suffix = 'D' ∨ suffix = 'd' then
    if numeral.isFinite .double then some .doubleLiteral else none
  else if suffix = 'F' ∨ suffix = 'f' then
    if numeral.isFinite .single then some .singleLiteral else none
  else if numeral.isIntegral && numeral.fitsSigned 64 then some .int64Literal
  else none

def isSuffix (c : Char) : Bool :=
  c == 'M' || c == 'm' || c == 'D' || c == 'd' || c == 'L' || c == 'l' || c == 'F' || c == 'f'

def conclude (kind : Option TokenKind) (taken rest : List Char) : Scan :=
  match kind with
  | some kind => .token kind taken rest
  | none => .fault (.invalidNumeric (String.ofList taken) 0) taken rest

def scanSuffix (numeral : Numeral) (rest : List Char) : Scan :=
  match rest with
  | c :: after =>
      if isSuffix c then conclude (numeral.suffixedKind? c) (numeral.text ++ [c]) after
      else conclude numeral.kind? numeral.text rest
  | [] => conclude numeral.kind? numeral.text []

def digitsMissing (taken rest : List Char) : Scan :=
  .fault (.digitExpected (Text.byteLength taken)) taken rest

def exponentSign : List Char → Option Char
  | c :: _ => if c = '+' ∨ c = '-' then some c else none
  | [] => none

def scanExponent (numeral : Numeral) (rest : List Char) : Scan :=
  match rest with
  | mark :: after =>
      if mark = 'e' ∨ mark = 'E' then
        let sign := exponentSign after
        let after := after.drop sign.toList.length
        let digits := after.takeWhile Char.isDigit
        if digits.isEmpty then digitsMissing (numeral.text ++ mark :: sign.toList) after
        else scanSuffix { numeral with exponent := some ⟨mark, sign, digits⟩ }
          (after.dropWhile Char.isDigit)
      else scanSuffix numeral rest
  | [] => scanSuffix numeral []

def scanFraction (numeral : Numeral) (rest : List Char) : Scan :=
  match rest with
  | point :: after =>
      if point = '.' then
        let digits := after.takeWhile Char.isDigit
        if digits.isEmpty then digitsMissing (numeral.text ++ [point]) after
        else scanExponent { numeral with fraction := some digits } (after.dropWhile Char.isDigit)
      else scanExponent numeral rest
  | [] => scanExponent numeral []

def scan (negative : Bool) (text : List Char) : Scan :=
  scanFraction ⟨negative, text.takeWhile Char.isDigit, none, none⟩ (text.dropWhile Char.isDigit)

end Numeral

end QueryOptions
