import QueryOptions.Expr.Operator
import QueryOptions.Token.Basic

set_option autoImplicit false

namespace QueryOptions

inductive Expr where
  | literal (kind : TokenKind) (text : String)
  | term (text : String)
  | endPath (name : String) (parent : Option Expr)
  | innerPath (name : String) (parent : Option Expr)
  | rangeVariable (name : String)
  | parameterAlias (name : String)
  | binary (operator : BinaryOperator) (left right : Expr)
  | unary (operator : UnaryOperator) (operand : Expr)
  | membership (left right : Expr)
  | collection (items : List Expr)
  | call (name : String) (arguments : List Expr) (source : Option Expr)
  | lambda (quantifier : Quantifier) (parent : Expr) (name : String) (body : Expr)
  | nonempty (parent : Expr)

namespace Expr

def intoInner : Expr → Expr
  | .endPath name parent => .innerPath name parent
  | other => other

end Expr

end QueryOptions
