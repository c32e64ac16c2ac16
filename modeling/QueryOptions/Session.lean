import QueryOptions.Context
import QueryOptions.Token.Session

set_option autoImplicit false

namespace QueryOptions

inductive GrammarRule where
  | disjunction
  | conjunction
  -- The operand of a conjunction.
  | operand
  | unary
  | primary
  | whole
deriving DecidableEq, Repr

def GrammarRule.parser [Counter] (rule : GrammarRule) (settings : Settings) (levels : Nat) : Dialect → Parse Expr
  | .expression =>
      match rule with
      | disjunction => Expression.disjunction settings levels
      | conjunction => Expression.conjunction settings levels
      | operand => Expression.comparison settings levels
      | unary => Expression.unary settings levels
      | primary => Expression.primary settings levels
      | whole => Expression.whole settings levels
  | .search =>
      match rule with
      | disjunction => Search.disjunction settings levels
      | conjunction => Search.conjunction settings levels
      | operand | unary => Search.negation settings levels
      | primary => Search.primary settings levels
      | whole => Search.whole settings levels

namespace GrammarSession

inductive Request where
  | token (request : Session.Request)
  | atKeyword (keyword : String)
  | parse (rule : GrammarRule)

inductive Answer where
  | token (answer : Session.Answer)
  | holds (found : Bool)
  | tree (expr : Expr)

structure Report where
  answer : Except ParseError Answer
  token : Token
  offset : Nat
  depth : Nat

end GrammarSession

structure GrammarSession where
  state : ParseState
  kept : List Cursor := []

namespace GrammarSession

def take {α : Type} (parse : Parse α) (answer : α → Answer) (session : GrammarSession) :
    Except ParseError Answer × GrammarSession :=
  match parse session.state with
  | .ok value state => (.ok (answer value), { session with state := state })
  | .error error state => (.error error, { session with state := state })

-- The keywords of searches are recognised in any case of letters.
def perform (settings : Settings) (dialect : Dialect) (session : GrammarSession) :
    Request → Except ParseError Answer × GrammarSession
  | .token request =>
      let (answer, moved) := Session.perform ⟨session.state.cursor, session.kept⟩ request
      (answer.map .token, ⟨{ session.state with cursor := moved.cursor }, moved.kept⟩)
  | .atKeyword keyword =>
      session.take (Parse.atKeyword (dialect = .search || settings.ignoreCase) keyword) .holds
  | .parse rule =>
      session.take (fun state => Context.counted settings state.depth fun _ levels =>
        rule.parser settings levels dialect state) .tree

def run (settings : Settings) (dialect : Dialect) :
    List Request → GrammarSession → List Report × GrammarSession
  | [], session => ([], session)
  | request :: requests, session =>
      let (answer, moved) := session.perform settings dialect request
      let (reports, last) := run settings dialect requests moved
      (⟨answer, moved.state.cursor.token, moved.state.cursor.offset, moved.state.depth⟩ :: reports, last)

def start (context : Context) (text : String) (dialect : Dialect) (offset : Nat) :
    Except ParseError GrammarSession :=
  match Parse.onText text dialect offset context.scope (pure ()) context.depth with
  | .ok _ state => .ok { state := state }
  | .error error _ => .error error

def reports (context : Context) (text : String) (dialect : Dialect) (offset : Nat) (requests : List Request) :
    Except ParseError (List Report) :=
  (start context text dialect offset).map fun session => (run context.settings dialect requests session).1

end GrammarSession

end QueryOptions
