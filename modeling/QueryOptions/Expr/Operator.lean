import QueryOptions.Settings.Basic

set_option autoImplicit false

namespace QueryOptions

inductive BinaryOperator where
  | or
  | and
  | equal
  | notEqual
  | greaterThan
  | greaterThanOrEqual
  | lessThan
  | lessThanOrEqual
  | add
  | subtract
  | multiply
  | divide
  | modulo
  | has
  | custom (keyword : String)
deriving DecidableEq, Repr

inductive UnaryOperator where
  | negate
  | not
deriving DecidableEq, Repr

inductive Quantifier where
  | any
  | all
deriving DecidableEq, Repr

namespace BinaryOperator

def comparisons : List (String × BinaryOperator) := [
  ("eq", equal), ("ne", notEqual), ("gt", greaterThan), ("ge", greaterThanOrEqual),
  ("lt", lessThan), ("le", lessThanOrEqual), ("has", has)]

def additions : List (String × BinaryOperator) := [("add", add), ("sub", subtract)]

def multiplications : List (String × BinaryOperator) := [
  ("mul", multiply), ("div", divide), ("divby", divide), ("mod", modulo)]

def ofKeyword? (table : List (String × BinaryOperator)) (ignoreCase : Bool) (word : String) :
    Option BinaryOperator :=
  (table.find? fun entry => Text.sameWord ignoreCase entry.1 word).map Prod.snd

-- The first custom operator that a word spells, under the name that the settings give it.
def ofCustom? (settings : Settings) (word : String) : Option BinaryOperator :=
  (settings.customOperators.find? (settings.matchesKeyword word)).map custom

end BinaryOperator

-- The quantifier of a name, which no setting lets vary in case.
def Quantifier.ofName? (name : String) : Option Quantifier :=
  if name = "any" then some .any
  else if name = "all" then some .all
  else none

end QueryOptions
