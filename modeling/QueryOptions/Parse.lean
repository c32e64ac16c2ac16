import QueryOptions.Context.Basic
import QueryOptions.Token.OptionValue

set_option autoImplicit false

namespace QueryOptions

structure ParseState where
  cursor : Cursor
  -- The names of the range variables in scope, the innermost first.
  scope : List String
  depth : Nat := 0
  links : Nat := 0
deriving DecidableEq

abbrev Parse (α : Type) := EStateM ParseError ParseState α

namespace Parse

def move {α : Type} (step : Cursor.Step α) : Parse α := fun state =>
  match step state.cursor with
  | .ok value cursor => .ok value { state with cursor := cursor }
  | .error error cursor => .error error { state with cursor := cursor }

def current : Parse Token := do return (← get).cursor.token

def advance : Parse Unit := move Cursor.advance

def expect (kind : TokenKind) (description : String) : Parse Unit :=
  move (Cursor.expect kind description)

def failExpected {α : Type} (description : String) : Parse α := do
  throw ((← get).cursor.expected description)

def dottedName (acceptStar : Bool) : Parse String := move (Cursor.dottedName acceptStar)

def expectEnd : Parse Unit := do
  let token ← current
  if token.kind = .finish then pure ()
  else throw (.unexpectedToken token.text token.position)

def atKeyword (ignoreCase : Bool) (keyword : String) : Parse Bool := do
  return (← current).isKeyword ignoreCase keyword

def atKind (kind : TokenKind) : Parse Bool := do return (← current).kind == kind

def expectKeyword (ignoreCase : Bool) (keyword : String) : Parse Unit := do
  if ← atKeyword ignoreCase keyword then advance
  else throw (.keywordExpected keyword (← current).position)

def identifier (description : String) : Parse String := do
  let token ← current
  if token.kind = .identifier then
    advance
    pure token.text
  else failExpected description

def tooDeep {α : Type} (settings : Settings) : Parse α := throw (.depthExceeded settings.maxDepth)

def separated {α : Type} (separator : TokenKind) (item : Parse α) : Nat → Parse (List α)
  | 0 => pure []
  | count + 1 => do
      if ← atKind separator then
        advance
        let first ← item
        let rest ← separated separator item count
        pure (first :: rest)
      else pure []

-- One item or more with separators between them. An item takes at least one character, so
-- there are no more of them than characters left.
def sepBy {α : Type} (separator : TokenKind) (item : Parse α) : Parse (List α) := do
  let first ← item
  let rest ← separated separator item ((← get).cursor.rest.length + 1)
  pure (first :: rest)

def shared {α : Type} (settings : Settings) (step : Context.Step α) : Parse α := fun state =>
  match step ⟨settings, state.depth, state.scope⟩ with
  | .ok value context => .ok value { state with depth := context.depth, scope := context.scope }
  | .error error context => .error error { state with depth := context.depth, scope := context.scope }

def enter [counter : Counter] (settings : Settings) (levels : Nat) : Parse Unit :=
  shared settings (Context.enterBy counter levels)

def leave (settings : Settings) (levels : Nat) : Parse Unit := shared settings (Context.leave levels)

-- Parses a body and then closes levels, whether the body is well-formed or not. Its own
-- error comes before that of closing them.
def closing {α : Type} (settings : Settings) (levels : ParseState → Nat) (body : Parse α) :
    Parse α := fun state =>
  match body state with
  | .ok value after =>
      match leave settings (levels after) after with
      | .ok _ left => .ok value left
      | .error error left => .error error left
  | .error error after =>
      match leave settings (levels after) after with
      | .ok _ left => .error error left
      | .error _ left => .error error left

def recurse [Counter] {α : Type} (settings : Settings) (levels : Nat) (body : Parse α) : Parse α := do
  enter settings levels
  closing settings (fun _ => levels) body

def countingLinks {α : Type} (body : Parse α) : Parse α := fun state =>
  match body { state with links := 0 } with
  | .ok value after => .ok value { after with links := state.links }
  | .error error after => .error error { after with links := state.links }

-- Parses a chain one level deeper. The levels that its links hold are closed with that
-- level.
def chain [Counter] {α : Type} (settings : Settings) (body : Parse α) : Parse α := do
  enter settings 1
  countingLinks (closing settings (fun after => after.links + 1) body)

def hold [Counter] (settings : Settings) : Parse Unit := do
  enter settings 1
  modify fun state => { state with links := state.links + 1 }

def inScope (name : String) : Parse Bool := do return (← get).scope.contains name

def leaving (name : String) (state : ParseState) : ParseState :=
  { state with scope := state.scope.erase name }

-- Parses the body of a range variable and takes the variable out of scope, whether the body
-- is well-formed or not. A name in scope cannot be taken again.
def declaring {α : Type} (settings : Settings) (name : String) (body : Parse α) : Parse α := do
  shared settings (Context.declare name)
  fun state =>
    match body state with
    | .ok value state => .ok value (leaving name state)
    | .error error state => .error error (leaving name state)

def onText {α : Type} (text : String) (dialect : Dialect) (offset : Nat) (scope : List String)
    (parse : Parse α) (depth : Nat := 0) : EStateM.Result ParseError ParseState α :=
  (do advance; parse : Parse α)
    { cursor := .start text dialect offset false, scope := scope, depth := depth }

-- Parses another text in the same scope and at the same depth and returns to this one.
def within {α : Type} (text : String) (dialect : Dialect) (offset : Nat) (parse : Parse α) :
    Parse α := fun state =>
  match (do advance; parse : Parse α) { state with cursor := .start text dialect offset false } with
  | .ok value inner => .ok value { inner with cursor := state.cursor }
  | .error error inner => .error error { inner with cursor := state.cursor }

end Parse

end QueryOptions
