import QueryOptions.Expr.Grammar

set_option autoImplicit false

namespace QueryOptions

inductive Direction where
  | ascending
  | descending
deriving DecidableEq, Repr

structure OrderItem where
  expression : Expr
  direction : Direction

namespace Order

open Parse

def direction (settings : Settings) : Parse Direction := do
  if ← atKeyword settings.ignoreCase "asc" then
    advance
    pure .ascending
  else if ← atKeyword settings.ignoreCase "desc" then
    advance
    pure .descending
  else pure .ascending

def item [Counter] (settings : Settings) (levels : Nat) : Parse OrderItem := do
  let expression ← Expression.disjunction settings levels
  let direction ← direction settings
  pure ⟨expression, direction⟩

def whole [Counter] (settings : Settings) (levels : Nat) : Parse (List OrderItem) := do
  let items ← sepBy .comma (item settings levels)
  expectEnd
  pure items

end Order

end QueryOptions
