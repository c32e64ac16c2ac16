import QueryOptions.Proofs.Rendering.Text
import QueryOptions.QueryOption

set_option autoImplicit false

namespace QueryOptions

namespace Expr

mutual

def names : Expr → List String
  | .literal _ _ | .term _ | .parameterAlias _ => []
  | .endPath name parent | .innerPath name parent => namesAbove parent ++ [name]
  | .rangeVariable name => [name]
  | .binary _ left right | .membership left right => names left ++ names right
  | .unary _ operand => names operand
  | .collection items => itemNames items
  | .call name arguments source => namesAbove source ++ name :: itemNames arguments
  | .lambda quantifier parent name body => names parent ++ quantifier.name :: name :: names body
  | .nonempty parent => names parent ++ [Quantifier.any.name]

def namesAbove : Option Expr → List String
  | none => []
  | some parent => names parent

def itemNames : List Expr → List String
  | [] => []
  | item :: items => names item ++ itemNames items

end

theorem item_names_flat (items : List Expr) : itemNames items = items.flatMap names := by
  induction items with
  | nil => rfl
  | cons item items ih => rw [itemNames, ih, List.flatMap_cons]

theorem names_into_inner (tree : Expr) : tree.intoInner.names = tree.names := by
  cases tree <;> rfl

end Expr

def OrderItem.names (item : OrderItem) : List String := item.expression.names

def ComputeItem.names (item : ComputeItem) : List String := item.expression.names ++ [item.name]

def AggregationMethod.names : AggregationMethod → List String
  | virtualCount => []
  | method => [method.name]

theorem AggregationMethod.names_of_name (name : String) : (ofName name).names = [name] := by
  have renamed := name_of_name name
  cases method : ofName name with
  | virtualCount => exact absurd method (of_name_counts name)
  | _ => rw [← renamed, method]; rfl

def Aggregate.names (aggregate : Aggregate) : List String :=
  aggregate.expression.names ++ (aggregate.method.names ++ [aggregate.name])

namespace Transformation

mutual

def names : Transformation → List String
  | .aggregate aggregates => aggregates.flatMap Aggregate.names
  | .groupBy properties children => properties.flatMap Expr.names ++ allNames children
  | .filter condition => condition.names
  | .compute items => items.flatMap ComputeItem.names

def allNames : List Transformation → List String
  | [] => []
  | transformation :: transformations => names transformation ++ allNames transformations

end

theorem all_names_flat (transformations : List Transformation) : allNames transformations = transformations.flatMap names := by
  induction transformations with
  | nil => rfl
  | cons transformation transformations ih => rw [allNames, ih, List.flatMap_cons]

end Transformation

end QueryOptions
