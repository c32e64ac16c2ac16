import QueryOptions.Token.OptionValue

set_option autoImplicit false

namespace QueryOptions

namespace Session

inductive Request where
  | next
  | peek
  | checkpoint
  -- Back to a place kept; the index counts those kept before it.
  | restore (index : Nat)
  | expect (kind : TokenKind) (description : String)
  | dottedName (acceptStar : Bool)
  | optionValue
deriving DecidableEq, Repr

inductive Answer where
  | nothing
  | more (found : Bool)
  | ahead (token : Option Token)
  | name (name : String)
  | value (value : String) (offset : Nat)
deriving DecidableEq, Repr

structure Report where
  answer : Except ParseError Answer
  token : Token
  offset : Nat

end Session

structure Session where
  cursor : Cursor
  -- The places kept, the first one first.
  kept : List Cursor := []
deriving DecidableEq

namespace Session

def start (text : String) (dialect : Dialect) (offset : Nat) (keepsBlanks : Bool) : Session :=
  { cursor := .start text dialect offset keepsBlanks }

def take {α : Type} (step : Cursor.Step α) (answer : α → Answer) (session : Session) :
    Except ParseError Answer × Session :=
  match step session.cursor with
  | .ok value cursor => (.ok (answer value), { session with cursor := cursor })
  | .error error cursor => (.error error, { session with cursor := cursor })

def next : Cursor.Step Bool := do
  Cursor.advance
  return (← get).token.kind != .finish

-- An index beyond the places kept changes nothing.
def perform (session : Session) : Request → Except ParseError Answer × Session
  | .next => session.take next .more
  | .peek => (session.cursor.peek.map .ahead, session)
  | .checkpoint => (.ok .nothing, { session with kept := session.kept ++ [session.cursor] })
  | .restore index =>
      (.ok .nothing, { session with cursor := (session.kept[index]?).getD session.cursor })
  | .expect kind description => session.take (Cursor.expect kind description) fun _ => .nothing
  | .dottedName acceptStar => session.take (Cursor.dottedName acceptStar) .name
  | .optionValue => session.take Cursor.optionValue fun value => .value value.1 value.2

def run : List Request → Session → List Report × Session
  | [], session => ([], session)
  | request :: requests, session =>
      let (answer, moved) := session.perform request
      let (reports, last) := run requests moved
      (⟨answer, moved.cursor.token, moved.cursor.offset⟩ :: reports, last)

def reports (text : String) (dialect : Dialect) (offset : Nat) (keepsBlanks : Bool) (requests : List Request) :
    List Report :=
  (run requests (start text dialect offset keepsBlanks)).1

end Session

end QueryOptions
