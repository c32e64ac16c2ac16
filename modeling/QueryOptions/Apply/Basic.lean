import QueryOptions.Compute

set_option autoImplicit false

namespace QueryOptions

inductive AggregationMethod where
  | sum
  | min
  | max
  | average
  | countDistinct
  -- The count of the collection itself, written `$count as Name`.
  | virtualCount
  | custom (name : String)
deriving DecidableEq, Repr

namespace AggregationMethod

def ofName (name : String) : AggregationMethod :=
  if name = "sum" then .sum
  else if name = "min" then .min
  else if name = "max" then .max
  else if name = "average" then .average
  else if name = "countdistinct" then .countDistinct
  else .custom name

end AggregationMethod

structure Aggregate where
  expression : Expr
  method : AggregationMethod
  name : String

inductive Transformation where
  | aggregate (aggregates : List Aggregate)
  | groupBy (properties : List Expr) (children : List Transformation)
  | filter (condition : Expr)
  | compute (items : List ComputeItem)

end QueryOptions
