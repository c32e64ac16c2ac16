import QueryOptions.Calendar
import QueryOptions.Guid
import QueryOptions.Text.Basic
import QueryOptions.Token.Numeric

/-!
The tokens of expressions: punctuation, names, and literals of all types. Text that starts like a
number may turn out a date, a time or a guid; it is one when the whole run up to the next comma,
closing parenthesis or blank has that form, and otherwise the longest number at its front.
-/

set_option autoImplicit false

namespace QueryOptions.Expression

def punctuation? : Char → Option TokenKind
  | '(' => some .openParen
  | ')' => some .closeParen
  | '[' => some .openBracket
  | ']' => some .closeBracket
  | ',' => some .comma
  | '.' => some .dot
  | '/' => some .slash
  | ':' => some .colon
  | ';' => some .semicolon
  | '&' => some .ampersand
  | '%' => some .percent
  | '?' => some .question
  | '*' => some .star
  | '=' => some .equal
  | _ => none

-- Whether a character ends the run in which a date, a time or a guid may stand.
def isDelimiter (c : Char) : Bool := c == ',' || c == ')' || Text.isBlank c

def run (text : List Char) : List Char := text.takeWhile fun c => !isDelimiter c

def formKind? (run : List Char) : Option TokenKind :=
  if Calendar.isDate run then some .dateOnlyLiteral
  else if Calendar.isDateTimeOffset run then some .dateTimeOffsetLiteral
  else if Guid.isGuid run then some .guidLiteral
  else if Calendar.isTimeOfDay run then some .timeOnlyLiteral
  else none

-- A literal from its first digit on, the minus sign before it, if any, already read.
def scanDigits (negative : Bool) (text : List Char) : Scan :=
  let sign := if negative then ['-'] else []
  let number :=
    match formKind? (run (sign ++ text)) with
    | some kind => Scan.token kind (run (sign ++ text)) (text.drop ((run text).length))
    | none => Numeral.scan negative text
  match text with
  | '0' :: x :: digits =>
      if x = 'x' ∨ x = 'X' then
        .token .binaryLiteral (sign ++ '0' :: x :: digits.takeWhile Text.isHexDigit)
          (digits.dropWhile Text.isHexDigit)
      else number
  | _ => number

def infinityKind? (word : List Char) : Option TokenKind :=
  if word = ['I', 'N', 'F'] then some .doubleLiteral
  else if word = ['I', 'N', 'F', 'F'] ∨ word = ['I', 'N', 'F', 'f'] then some .singleLiteral
  else none

def scanMinus (rest : List Char) : Scan :=
  match rest with
  | c :: _ =>
      if c.isDigit then scanDigits true rest
      else if c = 'I' then
        let word := rest.takeWhile Text.isIdentifierContinue
        match infinityKind? word with
        | some kind => .token kind ('-' :: word) (rest.dropWhile Text.isIdentifierContinue)
        | none => .token .minus ['-'] rest
      else .token .minus ['-'] rest
  | [] => .token .minus ['-'] []

def quotedKinds : List (String × TokenKind) := [
  ("duration", .durationLiteral), ("binary", .binaryLiteral), ("X", .binaryLiteral),
  ("geography", .geographyLiteral), ("geometry", .geometryLiteral)]

-- The kind of a quoted literal after its type; a null cannot be typed.
def quotedKind? (type : String) : Option TokenKind :=
  if type = "null" then none
  else match quotedKinds.find? fun entry => Text.sameFolded type entry.1 with
    | some entry => some entry.2
    | none => some .quotedLiteral

def wordKind (word : String) : TokenKind :=
  if word = "INF" ∨ word = "NaN" then .doubleLiteral
  else if word = "INFF" ∨ word = "INFf" ∨ word = "NaNF" ∨ word = "NaNf" then .singleLiteral
  else if word = "null" then .nullLiteral
  else if Text.sameFolded word "true" ∨ Text.sameFolded word "false" then .booleanLiteral
  else .identifier

def scanWord (first : Char) (rest : List Char) : Scan :=
  let word := first :: rest.takeWhile Text.isIdentifierContinue
  let after := rest.dropWhile Text.isIdentifierContinue
  let name := Scan.token (wordKind (String.ofList word)) word after
  match after with
  | c :: tail =>
      if c = '\'' then
        match quotedKind? (String.ofList word) with
        | some kind => .quoted kind word c (scanString c tail)
        | none => .fault (.typedNull 0) word after
      else if c = '-' ∧ Guid.isGuid (run (first :: rest)) then
        .token .guidLiteral (run (first :: rest))
          ((first :: rest).drop (run (first :: rest)).length)
      else name
  | [] => name

-- The further characters of a dotted name: a dot belongs to it where a name starts after
-- it.
def dottedTail : List Char → List Char × List Char
  | [] => ([], [])
  | c :: rest =>
      if Text.isIdentifierContinue c then
        let (tail, rest) := dottedTail rest
        (c :: tail, rest)
      else match rest with
        | d :: after =>
            if c = '.' ∧ Text.isIdentifierStart d then
              let (tail, rest) := dottedTail after
              (c :: d :: tail, rest)
            else ([], c :: d :: after)
        | [] => ([], [c])

-- After an `@`: a dotted name, or nothing where the text ends or a blank follows.
def scanAnnotation (rest : List Char) : Scan :=
  match rest with
  | [] => .token .atSign ['@'] []
  | c :: after =>
      if Text.isBlank c then .token .atSign ['@'] rest
      else if Text.isIdentifierStart c then
        let (tail, rest) := dottedTail after
        .token .annotationIdentifier ('@' :: c :: tail) rest
      else .fault (.invalidCharacter c 1) ['@'] rest

-- The token at the front of a text that does not start with a blank.
def scan : List Char → Scan
  | [] => .token .finish [] []
  | c :: rest =>
      match punctuation? c with
      | some kind => .token kind [c] rest
      | none =>
          if c = '-' then scanMinus rest
          else if c = '\'' ∨ c = '"' then .quoted .stringLiteral [] c (scanString c rest)
          else if c = '$' ∧ !(rest.head?.any Text.isIdentifierContinue) then .token .dollar [c] rest
          else if Text.isIdentifierStart c then scanWord c rest
          else if c.isDigit then scanDigits false (c :: rest)
          else if c = '@' then scanAnnotation rest
          else .fault (.invalidCharacter c 0) [] (c :: rest)

end QueryOptions.Expression
