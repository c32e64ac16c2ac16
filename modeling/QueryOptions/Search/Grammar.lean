import QueryOptions.Expr.Basic
import QueryOptions.Parse

/-!
The grammar of searches. Its keywords are recognised in any case of letters whatever the settings
say, and two operands side by side are joined by an `AND` that is not written.

    disjunction := conjunction ("OR" conjunction)*
    conjunction := negation (["AND"] negation)*
    negation    := "NOT" negation | primary
    primary     := "(" disjunction ")" | term | phrase

Levels are counted as in the grammar of expressions.
-/

set_option autoImplicit false

namespace QueryOptions.Search

open Parse

def atOperand : Parse Bool := do
  return (← atKind .stringLiteral) || (← atKind .openParen) || (← atKeyword true "not")

def orLink [Counter] (settings : Settings) (operand : Parse Expr) (more : Expr → Parse Expr) (left : Expr) :
    Parse Expr := do
  if ← atKeyword true "or" then
    hold settings
    advance
    let right ← operand
    more (.binary .or left right)
  else pure left

def join [Counter] (settings : Settings) (operand : Parse Expr) (more : Expr → Parse Expr) (left : Expr) :
    Parse Expr := do
  hold settings
  let right ← operand
  more (.binary .and left right)

-- A chain of conditions so far. `AND` is stepped over before the level of the link is
-- taken.
def andLink [Counter] (settings : Settings) (operand : Parse Expr) (more : Expr → Parse Expr) (left : Expr) :
    Parse Expr := do
  if ← atKeyword true "and" then
    advance
    join settings operand more left
  else if ← atOperand then join settings operand more left
  else pure left

def prefixes [Counter] (settings : Settings) (operand more : Parse Expr) : Parse Expr := do
  if ← atKeyword true "not" then
    hold settings
    advance
    return .unary .not (← more)
  else operand

def operand (inner : Parse Expr) : Parse Expr := do
  let token ← current
  if token.kind = .openParen then
    advance
    let expr ← inner
    expect .closeParen "')'"
    pure expr
  else if token.kind = .stringLiteral then
    advance
    pure (.term (unquote token.text))
  else throw (.expressionExpected token.position)

mutual

def disjunction [Counter] (settings : Settings) : Nat → Parse Expr
  | 0 => tooDeep settings
  | levels + 1 => chain settings do disjunctionTail settings levels (← conjunction settings levels)

def disjunctionTail [Counter] (settings : Settings) : Nat → Expr → Parse Expr
  | 0, left => orLink settings (tooDeep settings) (fun _ => tooDeep settings) left
  | levels + 1, left =>
      orLink settings (conjunction settings levels) (disjunctionTail settings levels) left

def conjunction [Counter] (settings : Settings) : Nat → Parse Expr
  | 0 => tooDeep settings
  | levels + 1 =>
      chain settings do conjunctionTail settings levels (← chain settings (negated settings levels))

def conjunctionTail [Counter] (settings : Settings) : Nat → Expr → Parse Expr
  | 0, left => andLink settings (tooDeep settings) (fun _ => tooDeep settings) left
  | levels + 1, left =>
      andLink settings (chain settings (negated settings levels)) (conjunctionTail settings levels) left

def negated [Counter] (settings : Settings) : Nat → Parse Expr
  | 0 => tooDeep settings
  | 1 => prefixes settings (tooDeep settings) (tooDeep settings)
  | levels + 2 => prefixes settings (primary settings (levels + 1)) (negated settings (levels + 1))

def primary [Counter] (settings : Settings) : Nat → Parse Expr
  | 0 => tooDeep settings
  | levels + 1 => recurse settings 1 (operand (disjunction settings levels))

end

def negation [Counter] (settings : Settings) (levels : Nat) : Parse Expr :=
  chain settings (negated settings levels)

def whole [Counter] (settings : Settings) (levels : Nat) : Parse Expr := do
  let expr ← disjunction settings levels
  expectEnd
  pure expr

end QueryOptions.Search
