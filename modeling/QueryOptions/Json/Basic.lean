import QueryOptions.Text.Basic

/-!
JSON documents as they are written. Numbers and strings keep their spelling, and members their order
and their repetitions, so a reader can still judge what a decoded value no longer shows: `1.0` is
not `1`, and an escape may stand for half a character only.
-/

set_option autoImplicit false

namespace QueryOptions

inductive Json where
  | null
  | bool (value : Bool)
  | number (written : String)
  -- A string by the characters between its quotes, escapes and all.
  | string (written : String)
  | array (elements : List Json)
  | object (members : List (String × Json))

namespace Json

def hexDigit (value : Nat) : Char := Nat.digitChar (value % 16)

def escapeChar (c : Char) : List Char :=
  if c = '"' then ['\\', '"']
  else if c = '\\' then ['\\', '\\']
  else if c = '\x08' then ['\\', 'b']
  else if c = '\x0C' then ['\\', 'f']
  else if c = '\n' then ['\\', 'n']
  else if c = '\r' then ['\\', 'r']
  else if c = '\t' then ['\\', 't']
  else if c.toNat < 0x20 then ['\\', 'u', '0', '0', hexDigit (c.toNat / 16), hexDigit c.toNat]
  else [c]

def escape (text : String) : String := String.ofList (text.toList.flatMap escapeChar)

def text (value : String) : Json := .string (escape value)

def nat (value : Nat) : Json := .number (toString value)

def codeUnit (h₁ h₂ h₃ h₄ : Char) : Nat :=
  [h₁, h₂, h₃, h₄].foldl (fun unit digit => 16 * unit + Text.hexValue digit) 0

def letterEscape? : Char → Option Char
  | '"' => some '"'
  | '\\' => some '\\'
  | '/' => some '/'
  | 'b' => some '\x08'
  | 'f' => some '\x0C'
  | 'n' => some '\n'
  | 'r' => some '\r'
  | 't' => some '\t'
  | _ => none

-- The characters that a written string stands for. A code unit of a pair outside a pair
-- stands for none.
def unescape : List Char → Option (List Char)
  | [] => some []
  | '\\' :: 'u' :: h₁ :: h₂ :: h₃ :: h₄ :: rest =>
      let first := codeUnit h₁ h₂ h₃ h₄
      if 0xD800 ≤ first ∧ first ≤ 0xDBFF then
        match rest with
        | '\\' :: 'u' :: l₁ :: l₂ :: l₃ :: l₄ :: rest =>
            let second := codeUnit l₁ l₂ l₃ l₄
            if 0xDC00 ≤ second ∧ second ≤ 0xDFFF then
              (unescape rest).map
                (Char.ofNat (0x10000 + (first - 0xD800) * 0x400 + (second - 0xDC00)) :: ·)
            else none
        | _ => none
      else if 0xDC00 ≤ first ∧ first ≤ 0xDFFF then none
      else (unescape rest).map (Char.ofNat first :: ·)
  | '\\' :: c :: rest => (letterEscape? c).bind fun c => (unescape rest).map (c :: ·)
  | c :: rest => (unescape rest).map (c :: ·)

def unquoted? (written : String) : Option String := (unescape written.toList).map String.ofList

def text? : Json → Option String
  | .string written => unquoted? written
  | _ => none

def member? (name : String) : Json → Option Json
  | .object members => (members.find? fun entry => unquoted? entry.1 == some name).map Prod.snd
  | _ => none

end Json

end QueryOptions
