import QueryOptions.Expr.Basic
import QueryOptions.Outline.Basic

set_option autoImplicit false

namespace QueryOptions

namespace BinaryOperator

def outline : BinaryOperator → Outline
  | or => .word "Or"
  | and => .word "And"
  | equal => .word "Equal"
  | notEqual => .word "NotEqual"
  | greaterThan => .word "GreaterThan"
  | greaterThanOrEqual => .word "GreaterThanOrEqual"
  | lessThan => .word "LessThan"
  | lessThanOrEqual => .word "LessThanOrEqual"
  | add => .word "Add"
  | subtract => .word "Subtract"
  | multiply => .word "Multiply"
  | divide => .word "Divide"
  | modulo => .word "Modulo"
  | has => .word "Has"
  | custom keyword => .wrapped "Customized" (.text keyword)

end BinaryOperator

def UnaryOperator.outline : UnaryOperator → Outline
  | .negate => .word "Negate"
  | .not => .word "Not"

def Quantifier.outline : Quantifier → Outline
  | .any => .word "Any"
  | .all => .word "All"

namespace Expr

def node (name : String) (fields : List (String × Outline)) : Outline :=
  .tagged "type" name (some (name ++ "Token")) fields

mutual

def outline : Expr → Outline
  | .literal kind text => node "Literal" [("kind", .word kind.name), ("text", .text text)]
  | .term text => node "StringLiteral" [("text", .text text)]
  | .endPath name parent =>
      node "EndPath" [("identifier", .text name), ("parent", outlineParent parent)]
  | .innerPath name parent =>
      node "InnerPath" [("identifier", .text name), ("parent", outlineParent parent)]
  | .rangeVariable name => node "RangeVariable" [("name", .text name)]
  | .parameterAlias name => node "ParameterAlias" [("alias", .text name)]
  | .binary operator left right =>
      node "BinaryOperator"
        [("kind", operator.outline), ("left", outline left), ("right", outline right)]
  | .unary operator operand =>
      node "UnaryOperator" [("kind", operator.outline), ("operand", outline operand)]
  | .membership left right => node "In" [("left", outline left), ("right", outline right)]
  | .collection items => node "Collection" [("items", .list (outlineItems items))]
  | .call name arguments source =>
      node "FunctionCall" [("name", .text name), ("arguments", .list (outlineItems arguments)),
        ("source", outlineParent source)]
  | .lambda quantifier parent name body =>
      node "Lambda" [("kind", quantifier.outline), ("parent", outline parent),
        ("variable", .present (.text name)), ("expression", .present (outline body))]
  | .nonempty parent =>
      node "Lambda" [("kind", Quantifier.any.outline), ("parent", outline parent),
        ("variable", .absent), ("expression", .absent)]

def outlineParent : Option Expr → Outline
  | none => .absent
  | some expr => .present (outline expr)

def outlineItems : List Expr → List Outline
  | [] => []
  | expr :: rest => outline expr :: outlineItems rest

end

end Expr

end QueryOptions
