import QueryOptions.Text.Identifier.Continue
import QueryOptions.Text.Identifier.Start

set_option autoImplicit false

namespace QueryOptions.Text

-- Unicode White_Space.
def blanks : List (Nat × Nat) := [
  (0x9, 0xD), (0x20, 0x20), (0x85, 0x85), (0xA0, 0xA0), (0x1680, 0x1680), (0x2000, 0x200A),
  (0x2028, 0x2029), (0x202F, 0x202F), (0x205F, 0x205F), (0x3000, 0x3000)]

def inRanges (code : Nat) (ranges : List (Nat × Nat)) : Bool :=
  ranges.any fun range => decide (range.1 ≤ code) && decide (code ≤ range.2)

def isBlank (c : Char) : Bool := inRanges c.toNat blanks

def trim (text : List Char) : List Char :=
  ((text.dropWhile isBlank).reverse.dropWhile isBlank).reverse

-- Whether a character is a letter in the sense of Unicode XID_Start.
def isLetter (c : Char) : Bool :=
  if c.toNat < 0x80 then c.isAlpha else inRanges c.toNat Identifier.startRanges

def isIdentifierStart (c : Char) : Bool := c == '_' || c == '$' || isLetter c

def isIdentifierContinue (c : Char) : Bool :=
  if c.toNat < 0x80 then c.isAlphanum || c == '_'
  else isLetter c || inRanges c.toNat Identifier.continueRanges

def isHexDigit (c : Char) : Bool :=
  c.isDigit || (decide ('a' ≤ c) && decide (c ≤ 'f')) || (decide ('A' ≤ c) && decide (c ≤ 'F'))

def hexValue (c : Char) : Nat :=
  if c.isDigit then c.toNat - '0'.toNat
  else if 'a' ≤ c then c.toNat - 'a'.toNat + 10
  else c.toNat - 'A'.toNat + 10

-- Only ASCII letters have a case here, so the Kelvin sign is not a `k`.
def fold (word : String) : List Char := word.toList.map Char.toLower

def sameFolded (left right : String) : Bool := fold left == fold right

def sameWord (ignoreCase : Bool) (left right : String) : Bool :=
  left == right || (ignoreCase && sameFolded left right)

end QueryOptions.Text
