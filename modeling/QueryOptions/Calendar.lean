import QueryOptions.Number.Numeral

/-!
Written dates, times of day and points in time. Each reader takes the text from its front and
answers with what is left; a whole text has the form where nothing is left. Years are those of the
proleptic Gregorian calendar, which has a year zero.
-/

set_option autoImplicit false

namespace QueryOptions.Calendar

def number? (least most : Nat) (text : List Char) : Option (Nat × List Char) :=
  let digits := (text.take most).takeWhile Char.isDigit
  if least ≤ digits.length then some (digitsValue digits, text.drop digits.length) else none

def char? (expected : Char) : List Char → Option (List Char)
  | c :: rest => if c = expected then some rest else none
  | [] => none

-- A year: up to four digits, or any number of them after a minus sign, but never fewer than
-- `least`.
def year? (least : Nat) : List Char → Option (Int × List Char)
  | '-' :: rest => (number? least rest.length rest).map fun (year, rest) => (-(year : Int), rest)
  | text => (number? least 4 text).map fun (year, rest) => ((year : Int), rest)

def isLeapYear (year : Int) : Bool := year % 4 == 0 && (year % 100 != 0 || year % 400 == 0)

def daysInMonth (year : Int) (month : Nat) : Nat :=
  if month = 2 then (if isLeapYear year then 29 else 28)
  else if month = 4 ∨ month = 6 ∨ month = 9 ∨ month = 11 then 30
  else 31

structure Date where
  year : Int
  month : Nat
  day : Nat
deriving DecidableEq

namespace Date

def first : Date := ⟨-262143, 1, 1⟩

def isValid (date : Date) : Bool :=
  decide (first.year ≤ date.year) && decide (1 ≤ date.month) && decide (date.month ≤ 12) &&
    decide (1 ≤ date.day) && decide (date.day ≤ daysInMonth date.year date.month)

end Date

def date? (leastYear least : Nat) (text : List Char) : Option (Date × List Char) := do
  let (year, text) ← year? leastYear text
  let (month, text) ← number? least 2 (← char? '-' text)
  let (day, text) ← number? least 2 (← char? '-' text)
  let date : Date := ⟨year, month, day⟩
  if date.isValid then some (date, text) else none

def isDate (text : List Char) : Bool :=
  match date? 4 2 text with
  | some (_, rest) => rest.isEmpty
  | none => false

def fraction? (most : Nat) : List Char → Option (List Char)
  | '.' :: rest => (number? 1 most rest).map Prod.snd
  | text => some text

def clock? (leastHour leastMinute : Nat) (text : List Char) : Option (Nat × List Char) := do
  let (hour, text) ← number? leastHour 2 text
  let (minute, text) ← number? leastMinute 2 (← char? ':' text)
  if hour < 24 ∧ minute < 60 then some (60 * hour + minute, text) else none

def second? (text : List Char) : Option (List Char) := do
  let (second, text) ← number? 2 2 (← char? ':' text)
  if second ≤ 60 then some text else none

def isTimeOfDay (text : List Char) : Bool :=
  match clock? 1 2 text with
  | some (_, []) => true
  | some (_, rest) => ((second? rest).bind (fraction? 12)) == some []
  | none => false

structure OffsetMinutes where
  read : List Char → Option (Nat × List Char)

def OffsetMinutes.strict : OffsetMinutes :=
  ⟨fun text => (char? ':' text).bind (number? 2 2)⟩

def OffsetMinutes.lenient : OffsetMinutes :=
  ⟨fun text =>
    match text.dropWhile (· == ':') with
    | [] => some (0, [])
    | text => number? 2 2 text⟩

-- The offset at the end of a point in time, in minutes: `Z`, or a sign and hours and
-- minutes. The sign may be the typographic minus.
def offset? (minutes : OffsetMinutes) : List Char → Option Int
  | [] => none
  | sign :: rest =>
      if sign = 'Z' ∨ sign = 'z' then (if rest.isEmpty then some 0 else none)
      else if sign = '+' ∨ sign = '-' ∨ sign = '\u2212' then do
        let (hour, rest) ← number? 2 2 rest
        let (minute, rest) ← minutes.read rest
        if rest.isEmpty ∧ minute < 60 ∧ hour < 24 then
          let size : Int := 60 * hour + minute
          some (if sign = '+' then size else -size)
        else none
      else none

def isFullDateTime (text : List Char) : Bool :=
  let offset := do
    let (year, text) ← number? 4 4 text
    let (month, text) ← number? 2 2 (← char? '-' text)
    let (day, text) ← number? 2 2 (← char? '-' text)
    let text ← char? 'T' text <|> char? 't' text
    let (_, text) ← clock? 2 2 text
    let text ← fraction? text.length (← second? text)
    if (Date.mk year month day).isValid then offset? .strict text else none
  offset.isSome

-- A point in time to the minute such as `2012-12-3T7:16Z`; the minutes of the offset may be
-- missing. Seen from universal time it lies in the calendar too.
def isShortDateTime (text : List Char) : Bool :=
  let instant := do
    let (date, text) ← date? 1 1 text
    let (minutes, text) ← clock? 1 1 (← char? 'T' text)
    let offset ← offset? .lenient text
    if date = Date.first ∧ (minutes : Int) < offset then none else some offset
  instant.isSome

def isDateTimeOffset (text : List Char) : Bool := isFullDateTime text || isShortDateTime text

end QueryOptions.Calendar
