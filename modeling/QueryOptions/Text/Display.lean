import QueryOptions.Text.Basic
import QueryOptions.Text.Display.Extending
import QueryOptions.Text.Display.Unprintable

set_option autoImplicit false

namespace QueryOptions.Text

-- Unicode Default_Ignorable_Code_Point: joiners, marks of direction, selectors of variants, and
-- the fillers of Hangul, which count as letters.
def Display.ignorableRanges : List (Nat × Nat) := [
  (0xAD, 0xAD), (0x34F, 0x34F), (0x61C, 0x61C), (0x115F, 0x1160), (0x17B4, 0x17B5),
  (0x180B, 0x180F), (0x200B, 0x200F), (0x202A, 0x202E), (0x2060, 0x206F), (0x3164, 0x3164),
  (0xFE00, 0xFE0F), (0xFEFF, 0xFEFF), (0xFFA0, 0xFFA0), (0xFFF0, 0xFFF8), (0x1BCA0, 0x1BCA3),
  (0x1D173, 0x1D17A), (0xE0000, 0xE0FFF)]

def isPrintable (c : Char) : Bool :=
  if c.toNat < 0x80 then decide (0x20 ≤ c.toNat) && decide (c.toNat < 0x7F)
  else !inRanges c.toNat Display.unprintableRanges && !inRanges c.toNat Display.extendingRanges &&
    !inRanges c.toNat Display.ignorableRanges

def codePoint (c : Char) : String := String.ofList (Nat.toDigits 16 c.toNat)

def displayChar (c : Char) : String :=
  if c = '\x00' then "\\0"
  else if c = '\t' then "\\t"
  else if c = '\r' then "\\r"
  else if c = '\n' then "\\n"
  else if c = '"' then "\\\""
  else if c = '\\' then "\\\\"
  else if isPrintable c then c.toString
  else "\\u\x7b" ++ codePoint c ++ "\x7d"

def display (text : String) : String :=
  "\"" ++ String.join (text.toList.map displayChar) ++ "\""

end QueryOptions.Text
