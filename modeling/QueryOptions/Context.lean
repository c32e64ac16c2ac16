import QueryOptions.QueryOption

set_option autoImplicit false

namespace QueryOptions

namespace Context

-- What a run comes to that may open the levels left. As long as these suffice no sum passes the
-- greatest count. A lower limit refuses a run that needs more; the greatest one refuses nothing, so
-- the counter wraps around there, and no text opens as many levels as it has values.
def counted {σ α : Type} (settings : Settings) (depth : Nat)
    (run : Counter → Nat → EStateM.Result ParseError σ α) : EStateM.Result ParseError σ α :=
  match run .unbounded (settings.maxDepth - depth) with
  | .error (.depthExceeded limit) after =>
      if settings.maxDepth < maxCount then .error (.depthExceeded limit) after
      else run .wrapping maxCount
  | outcome => outcome

def parseWith [Counter] (option : QueryOption) (text : String) (levels : Nat) : Step ParsedOption := fun context =>
  match Parse.onText text option.dialect 0 context.scope (option.grammar context.settings levels) context.depth with
  | .ok parsed state => .ok parsed { context with depth := state.depth, scope := state.scope }
  | .error error state => .error error { context with depth := state.depth, scope := state.scope }

def parse (option : QueryOption) (text : String) : Step ParsedOption := fun context =>
  counted context.settings context.depth fun _ levels => parseWith option text levels context

end Context

-- A new context has more levels below the greatest count than any text opens.
def parse (settings : Settings) (option : QueryOption) (text : String) :
    Except ParseError ParsedOption :=
  match Context.parseWith option text settings.maxDepth (.ofSettings settings) with
  | .ok parsed _ => .ok parsed
  | .error error _ => .error error

end QueryOptions
