import QueryOptions.Apply.Basic

/-!
The grammar of aggregation pipelines.

    pipeline       := transformation ("/" transformation)*
    transformation := "aggregate" "(" aggregate ("," aggregate)* ")"
                    | "groupby" "(" "(" path ("," path)* ")" ["," pipeline] ")"
                    | "filter" "(" expression ")"
                    | "compute" "(" expression "as" name ("," ...)* ")"
    aggregate      := expression "with" method "as" name | "$count" "as" name

A transformation takes one level.
-/

set_option autoImplicit false

namespace QueryOptions.Apply

open Parse

def isVirtualCount : Expr → Bool
  | .endPath name none => name == "$count"
  | _ => false

-- The method of an aggregated expression. Only the count of the collection may do without.
def method (settings : Settings) (expression : Expr) : Parse AggregationMethod := do
  if ← atKeyword settings.ignoreCase "with" then
    advance
    return .ofName (← dottedName false)
  else if isVirtualCount expression then pure .virtualCount
  else throw (.keywordExpected "with" (← current).position)

def aggregate [Counter] (settings : Settings) (levels : Nat) : Parse Aggregate := do
  let expression ← Expression.disjunction settings levels
  let method ← method settings expression
  let name ← Compute.naming settings
  pure ⟨expression, method, name⟩

def groupingProperty [Counter] (settings : Settings) (levels : Nat) : Parse Expr := do
  if ← atKind .identifier then Expression.path settings levels
  else failExpected "grouping property"

def grouping [Counter] (settings : Settings) (levels : Nat) (pipeline : Parse (List Transformation)) :
    Parse Transformation := do
  expect .openParen "'('"
  let properties ← sepBy .comma (groupingProperty settings levels)
  expect .closeParen "')'"
  if ← atKind .comma then
    advance
    return .groupBy properties (← pipeline)
  else pure (.groupBy properties [])

def parenthesized (body : Parse Transformation) : Parse Transformation := do
  advance
  expect .openParen "'('"
  let transformation ← body
  expect .closeParen "')'"
  pure transformation

def aggregates [Counter] (settings : Settings) (levels : Nat) : Parse Transformation := do
  return .aggregate (← sepBy .comma (aggregate settings levels))

def filter [Counter] (settings : Settings) (levels : Nat) : Parse Transformation := do
  return .filter (← Expression.disjunction settings levels)

def compute [Counter] (settings : Settings) (levels : Nat) : Parse Transformation := do
  return .compute (← Compute.items settings levels)

-- A transformation, its level already taken. `pipeline` reads what is done to each group.
def transformationWith [Counter] (settings : Settings) (levels : Nat)
    (pipeline : Parse (List Transformation)) : Parse Transformation := do
  let token ← current
  if token.kind = .identifier then
    if ← atKeyword settings.ignoreCase "aggregate" then parenthesized (aggregates settings levels)
    else if ← atKeyword settings.ignoreCase "groupby" then
      parenthesized (grouping settings levels pipeline)
    else if ← atKeyword settings.ignoreCase "filter" then parenthesized (filter settings levels)
    else if ← atKeyword settings.ignoreCase "compute" then parenthesized (compute settings levels)
    else throw (.unsupportedTransformation token.text token.position)
  else failExpected "transformation"

def transformation [Counter] (settings : Settings) : Nat → Parse Transformation
  | 0 => tooDeep settings
  | levels + 1 =>
      recurse settings 1
        (transformationWith settings levels (sepBy .slash (transformation settings levels)))

def whole [Counter] (settings : Settings) (levels : Nat) : Parse (List Transformation) := do
  let transformations ← sepBy .slash (transformation settings levels)
  expectEnd
  pure transformations

end QueryOptions.Apply
