import QueryOptions.Expr.Basic

set_option autoImplicit false

namespace QueryOptions.Expr

mutual

def same : Expr → Expr → Bool
  | .literal kind text, .literal kind' text' => kind == kind' && text == text'
  | .term text, .term text' => text == text'
  | .endPath name parent, .endPath name' parent' => name == name' && sameAbove parent parent'
  | .innerPath name parent, .innerPath name' parent' => name == name' && sameAbove parent parent'
  | .rangeVariable name, .rangeVariable name' => name == name'
  | .parameterAlias name, .parameterAlias name' => name == name'
  | .binary operator left right, .binary operator' left' right' =>
      operator == operator' && (same left left' && same right right')
  | .unary operator operand, .unary operator' operand' => operator == operator' && same operand operand'
  | .membership left right, .membership left' right' => same left left' && same right right'
  | .collection items, .collection items' => sameAll items items'
  | .call name arguments source, .call name' arguments' source' =>
      name == name' && (sameAll arguments arguments' && sameAbove source source')
  | .lambda quantifier parent name body, .lambda quantifier' parent' name' body' =>
      (quantifier == quantifier' && name == name') && (same parent parent' && same body body')
  | .nonempty parent, .nonempty parent' => same parent parent'
  | _, _ => false

def sameAbove : Option Expr → Option Expr → Bool
  | none, none => true
  | some parent, some parent' => same parent parent'
  | _, _ => false

def sameAll : List Expr → List Expr → Bool
  | [], [] => true
  | item :: items, item' :: items' => same item item' && sameAll items items'
  | _, _ => false

end

mutual

theorem same_iff (tree tree' : Expr) : same tree tree' ↔ tree = tree' := by
  cases tree with
  | literal | term | rangeVariable | parameterAlias => cases tree' <;> simp [same]
  | endPath name parent | innerPath name parent => cases tree' <;> simp [same, same_above_iff parent]
  | binary operator left right => cases tree' <;> simp [same, same_iff left, same_iff right]
  | unary operator operand => cases tree' <;> simp [same, same_iff operand]
  | membership left right => cases tree' <;> simp [same, same_iff left, same_iff right]
  | collection items => cases tree' <;> simp [same, same_all_iff items]
  | call name arguments source => cases tree' <;> simp [same, same_all_iff arguments, same_above_iff source]
  | lambda quantifier parent name body =>
      cases tree' <;> simp [same, same_iff parent, same_iff body, and_assoc, and_left_comm]
  | nonempty parent => cases tree' <;> simp [same, same_iff parent]

theorem same_above_iff (parent parent' : Option Expr) : sameAbove parent parent' ↔ parent = parent' := by
  cases parent with
  | none => cases parent' <;> simp [sameAbove]
  | some tree => cases parent' <;> simp [sameAbove, same_iff tree]

theorem same_all_iff (items items' : List Expr) : sameAll items items' ↔ items = items' := by
  cases items with
  | nil => cases items' <;> simp [sameAll]
  | cons item items => cases items' <;> simp [sameAll, same_iff item, same_all_iff items]

end

instance : DecidableEq Expr := fun tree tree' => decidable_of_iff (same tree tree' = true) (same_iff tree tree')

end QueryOptions.Expr
