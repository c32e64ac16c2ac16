import QueryOptions.Token.Expression
import QueryOptions.Token.Search

set_option autoImplicit false

namespace QueryOptions

-- The vocabulary of a text: that of searches, or that of all other options.
inductive Dialect where
  | expression
  | search
deriving DecidableEq, Repr

def Dialect.scan : Dialect → List Char → Scan
  | .expression => Expression.scan
  | .search => Search.scan

structure Cursor where
  rest : List Char
  offset : Nat
  token : Token
  dialect : Dialect
  -- Whether blanks between the tokens of expressions are tokens too.
  keepsBlanks : Bool
deriving DecidableEq

namespace Cursor

-- Before the first token of a text whose positions count from `offset`. That is a place in the
-- text around this one, so the offset and the bytes of the text together are a count in 64 bits.
def start (text : String) (dialect : Dialect) (offset : Nat) (keepsBlanks : Bool) : Cursor :=
  ⟨text.toList, offset, .unread offset, dialect, keepsBlanks⟩

abbrev Step (α : Type) := EStateM ParseError Cursor α

def advance : Step Unit := fun cursor =>
  let blanks := cursor.rest.takeWhile Text.isBlank
  let rest := cursor.rest.dropWhile Text.isBlank
  let place := cursor.offset + Text.byteLength blanks
  if cursor.keepsBlanks ∧ cursor.dialect = .expression ∧ blanks ≠ [] then
    .ok () { cursor with
      rest := rest
      offset := place
      token := ⟨.whitespace, String.ofList blanks, cursor.offset⟩ }
  else
    let scan := cursor.dialect.scan rest
    let moved := { cursor with
      rest := scan.rest
      offset := place + Text.byteLength scan.taken }
    match scan.outcome with
    | .ok kind => .ok () { moved with token := ⟨kind, String.ofList scan.taken, place⟩ }
    | .error error => .error (error.shift place) moved

def peek (cursor : Cursor) : Except ParseError (Option Token) :=
  match advance cursor with
  | .ok _ moved => .ok (if moved.token.kind = .finish then none else some moved.token)
  | .error error _ => .error error

def tokens : Nat → Cursor → Except ParseError (List Token)
  | 0, _ => .ok []
  | count + 1, cursor =>
      match advance cursor with
      | .error error _ => .error error
      | .ok _ moved =>
          if moved.token.kind = .finish then .ok []
          else match tokens count moved with
            | .ok rest => .ok (moved.token :: rest)
            | .error error => .error error

def expected (description : String) (cursor : Cursor) : ParseError :=
  .expectedToken description cursor.token.describe cursor.token.position

def expect (kind : TokenKind) (description : String) : Step Unit := do
  let cursor ← get
  if cursor.token.kind = kind then advance
  else throw (cursor.expected description)

def isName (token : Token) : Bool :=
  match token.kind with
  | .identifier => true
  | .booleanLiteral | .nullLiteral | .singleLiteral | .doubleLiteral =>
      token.text.toList.head?.any Text.isIdentifierStart
  | _ => false

-- The further parts of a dotted name, each a dot and a name; with `acceptStar` a star may
-- be the last part.
def dottedParts (acceptStar : Bool) : Nat → String → Step String
  | 0, name => pure name
  | parts + 1, name => do
      if (← get).token.kind = .dot then
        advance
        let cursor ← get
        if isName cursor.token then
          advance
          dottedParts acceptStar parts (name ++ "." ++ cursor.token.text)
        else if cursor.token.kind = .star ∧ acceptStar then
          advance
          pure (name ++ ".*")
        else throw (cursor.expected "identifier")
      else pure name

def dottedName (acceptStar : Bool) : Step String := do
  let cursor ← get
  if isName cursor.token then
    advance
    dottedParts acceptStar (cursor.rest.length + 1) cursor.token.text
  else if cursor.token.kind = .star ∧ acceptStar then
    advance
    pure "*"
  else throw (cursor.expected "identifier")

end Cursor

-- The tokens of a text whose positions count from `offset`, the end not among them. A token
-- takes at least one character.
def tokenize (text : String) (dialect : Dialect) (offset : Nat) : Except ParseError (List Token) :=
  let cursor := Cursor.start text dialect offset false
  cursor.tokens (cursor.rest.length + 1)

end QueryOptions
