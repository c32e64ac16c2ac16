import QueryOptions.Token.Cursor

/-!
The raw value of an option in a nested list: the text up to the first semicolon or closing
parenthesis that stands outside of strings and of parentheses opened in the value.
-/

set_option autoImplicit false

namespace QueryOptions

-- A raw value as far as it was read; errors count bytes from its front.
structure ValueScan where
  fault : Option ParseError
  taken : List Char
  rest : List Char

namespace ValueScan

def after (front : List Char) (scan : ValueScan) : ValueScan where
  fault := scan.fault.map (ParseError.shift (Text.byteLength front))
  taken := front ++ scan.taken
  rest := scan.rest

end ValueScan

-- A value with `depth` parentheses open, in at most so many pieces.
def scanValue : Nat → Nat → List Char → ValueScan
  | 0, _, text => ⟨none, [], text⟩
  | _ + 1, _, [] => ⟨some (.expectedToken "')'" "end of input" 0), [], []⟩
  | pieces + 1, depth, c :: rest =>
      if c = '\'' ∨ c = '"' then
        let string := scanString c rest
        match string.fault? [] c with
        | none => (scanValue pieces depth string.rest).after (c :: string.taken)
        | some error => ⟨some error, c :: string.taken, string.rest⟩
      else if c = '(' then (scanValue pieces (depth + 1) rest).after [c]
      else if c = ')' then
        match depth with
        | 0 => ⟨none, [], c :: rest⟩
        | depth + 1 => (scanValue pieces depth rest).after [c]
      else if c = ';' ∧ depth = 0 then ⟨none, [], c :: rest⟩
      else (scanValue pieces depth rest).after [c]

namespace Cursor

def optionValue : Step (String × Nat) := fun cursor =>
  let value := scanValue (cursor.rest.length + 1) 0 cursor.rest
  let moved := { cursor with
    rest := value.rest
    offset := cursor.offset + Text.byteLength value.taken }
  match value.fault with
  | some error => .error (error.shift cursor.offset) moved
  | none =>
      match advance moved with
      | .ok _ moved => .ok (String.ofList value.taken, cursor.offset) moved
      | .error error moved => .error error moved

end Cursor

end QueryOptions
