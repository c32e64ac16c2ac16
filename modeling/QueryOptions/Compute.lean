import QueryOptions.Expr.Grammar

set_option autoImplicit false

namespace QueryOptions

structure ComputeItem where
  expression : Expr
  name : String

namespace Compute

open Parse

def naming (settings : Settings) : Parse String := do
  expectKeyword settings.ignoreCase "as"
  identifier "alias"

def item [Counter] (settings : Settings) (levels : Nat) : Parse ComputeItem := do
  let expression ← Expression.disjunction settings levels
  let name ← naming settings
  pure ⟨expression, name⟩

def items [Counter] (settings : Settings) (levels : Nat) : Parse (List ComputeItem) :=
  sepBy .comma (item settings levels)

def whole [Counter] (settings : Settings) (levels : Nat) : Parse (List ComputeItem) := do
  let items ← items settings levels
  expectEnd
  pure items

end Compute

end QueryOptions
