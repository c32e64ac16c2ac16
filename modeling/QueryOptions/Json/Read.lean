import QueryOptions.Json.Basic

set_option autoImplicit false

namespace QueryOptions.Json

def isSpace (c : Char) : Bool := c == ' ' || c == '\t' || c == '\n' || c == '\r'

def skipSpace (text : List Char) : List Char := text.dropWhile isSpace

def string? : List Char → Option (List Char × List Char)
  | [] => none
  | '"' :: rest => some ([], rest)
  | '\\' :: 'u' :: h₁ :: h₂ :: h₃ :: h₄ :: rest =>
      if [h₁, h₂, h₃, h₄].all Text.isHexDigit then
        (string? rest).map fun (front, rest) => ('\\' :: 'u' :: h₁ :: h₂ :: h₃ :: h₄ :: front, rest)
      else none
  | '\\' :: c :: rest =>
      if (letterEscape? c).isSome then
        (string? rest).map fun (front, rest) => ('\\' :: c :: front, rest)
      else none
  | c :: rest =>
      if c = '\\' ∨ c.toNat < 0x20 then none
      else (string? rest).map fun (front, rest) => (c :: front, rest)

def digits? (text : List Char) : Option (List Char × List Char) :=
  let digits := text.takeWhile Char.isDigit
  if digits.isEmpty then none else some (digits, text.dropWhile Char.isDigit)

-- The digits before the point: a zero alone, or no zero in front.
def whole? : List Char → Option (List Char × List Char)
  | '0' :: rest => some (['0'], rest)
  | text => digits? text

def fraction? : List Char → Option (List Char × List Char)
  | '.' :: rest => (digits? rest).map fun (digits, rest) => ('.' :: digits, rest)
  | text => some ([], text)

def exponent? (text : List Char) : Option (List Char × List Char) :=
  match text with
  | mark :: rest =>
      if mark = 'e' ∨ mark = 'E' then
        let sign := rest.take 1 |>.filter fun c => c == '+' || c == '-'
        (digits? (rest.drop sign.length)).map fun (digits, rest) => (mark :: (sign ++ digits), rest)
      else some ([], text)
  | [] => some ([], [])

def number? (text : List Char) : Option (List Char × List Char) := do
  let sign := text.take 1 |>.filter (· == '-')
  let (whole, text) ← whole? (text.drop sign.length)
  let (fraction, text) ← fraction? text
  let (exponent, text) ← exponent? text
  some (sign ++ whole ++ fraction ++ exponent, text)

def afterWord? (word : String) (text : List Char) : Option (List Char) :=
  if word.toList.isPrefixOf text then some (text.drop word.length) else none

mutual

def value? : Nat → List Char → Option (Json × List Char)
  | 0, _ => none
  | steps + 1, text =>
      match skipSpace text with
      | [] => none
      | c :: rest =>
          if c = '"' then (string? rest).map fun (front, rest) =>
            (.string (String.ofList front), rest)
          else if c = '[' then
            match skipSpace rest with
            | ']' :: rest => some (.array [], rest)
            | _ => (elements? steps rest).map fun (elements, rest) => (.array elements, rest)
          else if c = '\x7b' then
            match skipSpace rest with
            | '\x7d' :: rest => some (.object [], rest)
            | _ => (members? steps rest).map fun (members, rest) => (.object members, rest)
          else if c = 'n' then (afterWord? "ull" rest).map fun rest => (.null, rest)
          else if c = 't' then (afterWord? "rue" rest).map fun rest => (.bool true, rest)
          else if c = 'f' then (afterWord? "alse" rest).map fun rest => (.bool false, rest)
          else (number? (c :: rest)).map fun (digits, rest) =>
            (.number (String.ofList digits), rest)

def elements? : Nat → List Char → Option (List Json × List Char)
  | 0, _ => none
  | steps + 1, text => do
      let (value, text) ← value? steps text
      match skipSpace text with
      | ',' :: rest =>
          let (values, rest) ← elements? steps rest
          some (value :: values, rest)
      | ']' :: rest => some ([value], rest)
      | _ => none

def members? : Nat → List Char → Option (List (String × Json) × List Char)
  | 0, _ => none
  | steps + 1, text => do
      match skipSpace text with
      | '"' :: rest =>
          let (name, rest) ← string? rest
          match skipSpace rest with
          | ':' :: rest =>
              let (value, rest) ← value? steps rest
              match skipSpace rest with
              | ',' :: rest =>
                  let (members, rest) ← members? steps rest
                  some ((String.ofList name, value) :: members, rest)
              | '\x7d' :: rest => some ([(String.ofList name, value)], rest)
              | _ => none
          | _ => none
      | _ => none

end

-- The document that a text holds. Every second step takes a character at least.
def parse? (text : String) : Option Json :=
  match value? (2 * text.toList.length + 2) text.toList with
  | some (value, rest) => if (skipSpace rest).isEmpty then some value else none
  | none => none

end QueryOptions.Json
