import QueryOptions.Expr.Basic
import QueryOptions.Parse

/-!
The grammar of expressions, from the operators that bind loosest to the operands.

    disjunction := conjunction ("or" conjunction)*
    conjunction := comparison ("and" comparison)*
    comparison  := sum (("eq" | "ne" | "gt" | "ge" | "lt" | "le" | "has" | custom) sum
                        | "in" ("(" disjunction ("," disjunction)* ")" | primary))*
    sum         := product (("add" | "sub") product)*
    product     := unary (("mul" | "div" | "divby" | "mod") unary)*
    unary       := ("-" | "not") unary | primary
    primary     := "(" disjunction ")" | literal | "@alias" | path
    path        := segment ("/" segment)*
    segment     := name ["(" [disjunction ("," disjunction)*] ")"]
                 | ("any" | "all") "(" name ":" disjunction ")" | "any" "(" ")"

To enter a rule takes one level, which is free again after the rule; a further operand of a chain, a
further prefix and a further segment take one more each, and these stay taken until the chain ends.
The number that each function takes says how many levels are left where it starts. It repeats what
the depth of the state and the limit of the settings say, and the recursion goes down on it.
-/

set_option autoImplicit false

namespace QueryOptions.Expression

open Parse

def operatorOf? (table : List (String × BinaryOperator)) (settings : Settings) :
    Parse (Option BinaryOperator) := do
  let token ← current
  if token.kind = .identifier then
    pure (BinaryOperator.ofKeyword? table settings.ignoreCase token.text)
  else pure none

-- The comparison that the current token spells, custom operators last.
def comparisonOf? (settings : Settings) : Parse (Option BinaryOperator) := do
  let token ← current
  if token.kind = .identifier then
    pure ((BinaryOperator.ofKeyword? BinaryOperator.comparisons settings.ignoreCase token.text).or
      (BinaryOperator.ofCustom? settings token.text))
  else pure none

def keywordOf? (settings : Settings) (keyword : String) (operator : BinaryOperator) :
    Parse (Option BinaryOperator) := do
  return if ← atKeyword settings.ignoreCase keyword then some operator else none

def prefixOf? (settings : Settings) : Parse (Option UnaryOperator) := do
  if ← atKind .minus then pure (some .negate)
  else if ← atKeyword settings.ignoreCase "not" then pure (some .not)
  else pure none

def link [Counter] (settings : Settings) (operator? : Parse (Option BinaryOperator)) (operand : Parse Expr)
    (more : Expr → Parse Expr) (left : Expr) : Parse Expr := do
  match ← operator? with
  | some operator =>
      hold settings
      advance
      let right ← operand
      more (.binary operator left right)
  | none => pure left

def collection (item : Parse Expr) : Parse Expr := do
  advance
  let items ← sepBy .comma item
  expect .closeParen "')'"
  pure (.collection items)

def candidates [Counter] (settings : Settings) (item single : Parse Expr) : Parse Expr := do
  if ← atKind .openParen then recurse settings 1 (collection item)
  else single

def compareLink [Counter] (settings : Settings) (membership operand : Parse Expr)
    (more : Expr → Parse Expr) (left : Expr) : Parse Expr := do
  if ← atKeyword settings.ignoreCase "in" then
    hold settings
    advance
    let right ← membership
    more (.membership left right)
  else link settings (comparisonOf? settings) operand more left

def prefixes [Counter] (settings : Settings) (operand more : Parse Expr) : Parse Expr := do
  match ← prefixOf? settings with
  | some operator =>
      hold settings
      advance
      return .unary operator (← more)
  | none => operand

def arguments (item : Parse Expr) : Parse (List Expr) := do
  expect .openParen "'('"
  if ← atKind .closeParen then
    advance
    pure []
  else
    let items ← sepBy .comma item
    if ← atKind .closeParen then
      advance
      pure items
    else failExpected "',' or ')'"

-- A quantified condition on a collection, from its parenthesis on. The variable is in scope
-- in the condition only.
def lambda (settings : Settings) (body : Parse Expr) (quantifier : Quantifier) (parent : Expr) :
    Parse Expr := do
  expect .openParen "'('"
  if (← atKind .closeParen) && quantifier == .any then
    advance
    pure (.nonempty parent)
  else
    let name ← identifier "range variable"
    expect .colon "':'"
    let condition ← declaring settings name body
    expect .closeParen "')'"
    pure (.lambda quantifier parent name condition)

-- One segment of a path. `inner` reads an expression in the parentheses that may follow its
-- name. A name without parent that is in scope is a variable.
def segment [Counter] (settings : Settings) (inner : Parse Expr) (parent : Option Expr) : Parse Expr := do
  let name ← dottedName false
  if ← atKind .openParen then
    match Quantifier.ofName? name, parent with
    | some quantifier, some source => recurse settings 1 (lambda settings inner quantifier source)
    | _, _ =>
        let arguments ← recurse settings 1 (arguments inner)
        pure (.call name arguments parent)
  else if parent.isNone && (← inScope name) then pure (.rangeVariable name)
  else pure (.endPath name parent)

def segments [Counter] (settings : Settings) (inner : Parse Expr) (more : Expr → Parse Expr)
    (parent : Option Expr) : Parse Expr := do
  let expr ← segment settings inner parent
  if ← atKind .slash then
    hold settings
    advance
    more expr.intoInner
  else pure expr

def operand (inner path : Parse Expr) : Parse Expr := do
  let token ← current
  if token.kind = .openParen then
    advance
    let expr ← inner
    expect .closeParen "')'"
    pure expr
  else if token.kind.isLiteral then
    advance
    pure (.literal token.kind token.text)
  else if token.kind = .annotationIdentifier then
    advance
    pure (.parameterAlias token.text)
  else if token.kind = .identifier then path
  else throw (.expressionExpected token.position)

mutual

def disjunction [Counter] (settings : Settings) : Nat → Parse Expr
  | 0 => tooDeep settings
  | levels + 1 => chain settings do disjunctionTail settings levels (← conjunction settings levels)

def disjunctionTail [Counter] (settings : Settings) : Nat → Expr → Parse Expr
  | 0, left =>
      link settings (keywordOf? settings "or" .or) (tooDeep settings) (fun _ => tooDeep settings) left
  | levels + 1, left =>
      link settings (keywordOf? settings "or" .or) (conjunction settings levels)
        (disjunctionTail settings levels) left

def conjunction [Counter] (settings : Settings) : Nat → Parse Expr
  | 0 => tooDeep settings
  | levels + 1 => chain settings do conjunctionTail settings levels (← comparison settings levels)

def conjunctionTail [Counter] (settings : Settings) : Nat → Expr → Parse Expr
  | 0, left =>
      link settings (keywordOf? settings "and" .and) (tooDeep settings) (fun _ => tooDeep settings) left
  | levels + 1, left =>
      link settings (keywordOf? settings "and" .and) (comparison settings levels)
        (conjunctionTail settings levels) left

def comparison [Counter] (settings : Settings) : Nat → Parse Expr
  | 0 => tooDeep settings
  | levels + 1 => chain settings do comparisonTail settings levels (← sum settings levels)

def comparisonTail [Counter] (settings : Settings) : Nat → Expr → Parse Expr
  | 0, left =>
      compareLink settings (tooDeep settings) (tooDeep settings) (fun _ => tooDeep settings) left
  | 1, left =>
      compareLink settings (tooDeep settings) (sum settings 0) (comparisonTail settings 0) left
  | levels + 2, left =>
      compareLink settings
        (candidates settings (disjunction settings levels) (primary settings (levels + 1)))
        (sum settings (levels + 1)) (comparisonTail settings (levels + 1)) left

def sum [Counter] (settings : Settings) : Nat → Parse Expr
  | 0 => tooDeep settings
  | levels + 1 => chain settings do sumTail settings levels (← product settings levels)

def sumTail [Counter] (settings : Settings) : Nat → Expr → Parse Expr
  | 0, left =>
      link settings (operatorOf? BinaryOperator.additions settings) (tooDeep settings)
        (fun _ => tooDeep settings) left
  | levels + 1, left =>
      link settings (operatorOf? BinaryOperator.additions settings) (product settings levels)
        (sumTail settings levels) left

def product [Counter] (settings : Settings) : Nat → Parse Expr
  | 0 => tooDeep settings
  | levels + 1 =>
      chain settings do productTail settings levels (← chain settings (prefixed settings levels))

def productTail [Counter] (settings : Settings) : Nat → Expr → Parse Expr
  | 0, left =>
      link settings (operatorOf? BinaryOperator.multiplications settings) (tooDeep settings)
        (fun _ => tooDeep settings) left
  | levels + 1, left =>
      link settings (operatorOf? BinaryOperator.multiplications settings)
        (chain settings (prefixed settings levels)) (productTail settings levels) left

-- The prefixes of an operand, with the level of their chain among those counted as left.
def prefixed [Counter] (settings : Settings) : Nat → Parse Expr
  | 0 => tooDeep settings
  | 1 => prefixes settings (tooDeep settings) (tooDeep settings)
  | levels + 2 => prefixes settings (primary settings (levels + 1)) (prefixed settings (levels + 1))

def primary [Counter] (settings : Settings) : Nat → Parse Expr
  | 0 => tooDeep settings
  | levels + 1 => recurse settings 1 (operand (disjunction settings levels) (path settings levels))

def path [Counter] (settings : Settings) : Nat → Parse Expr
  | 0 => tooDeep settings
  | levels + 1 => chain settings (pathFrom settings levels none)

def pathFrom [Counter] (settings : Settings) : Nat → Option Expr → Parse Expr
  | 0, parent => segments settings (tooDeep settings) (fun _ => tooDeep settings) parent
  | levels + 1, parent =>
      segments settings (disjunction settings levels)
        (fun expr => pathFrom settings levels (some expr)) parent

end

def unary [Counter] (settings : Settings) (levels : Nat) : Parse Expr := chain settings (prefixed settings levels)

def whole [Counter] (settings : Settings) (levels : Nat) : Parse Expr := do
  let expr ← disjunction settings levels
  expectEnd
  pure expr

end QueryOptions.Expression
