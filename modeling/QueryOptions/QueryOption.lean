import QueryOptions.Apply.Grammar
import QueryOptions.Item.Grammar

set_option autoImplicit false

namespace QueryOptions

inductive QueryOption where
  | filter
  | search
  | orderBy
  | compute
  | select
  | expand
  | apply
deriving DecidableEq, Repr

namespace QueryOption

def all : List QueryOption := [filter, search, orderBy, compute, select, expand, apply]

def bareName : QueryOption → String
  | filter => "filter"
  | search => "search"
  | orderBy => "orderby"
  | compute => "compute"
  | select => "select"
  | expand => "expand"
  | apply => "apply"

def name (option : QueryOption) : String := "$" ++ option.bareName

def ofName? (name : String) : Option QueryOption :=
  let bare := match name.toList with
    | '$' :: bare => String.ofList bare
    | _ => name
  all.find? fun option => Text.sameFolded option.bareName bare

def dialect : QueryOption → Dialect
  | search => .search
  | _ => .expression

end QueryOption

inductive ParsedOption where
  | filter (condition : Expr)
  | search (condition : Expr)
  | orderBy (items : List OrderItem)
  | compute (items : List ComputeItem)
  | select (items : List SelectItem)
  | expand (items : List ExpandItem)
  | apply (transformations : List Transformation)

def QueryOption.grammar [Counter] (settings : Settings) (levels : Nat) : QueryOption → Parse ParsedOption
  | filter => do return .filter (← Expression.whole settings levels)
  | search => do return .search (← Search.whole settings levels)
  | orderBy => do return .orderBy (← Order.whole settings levels)
  | compute => do return .compute (← Compute.whole settings levels)
  | select => do return .select ((← Items.whole settings .select levels).map Item.toSelect)
  | expand => do return .expand ((← Items.whole settings .expand levels).map Item.toExpand)
  | apply => do return .apply (← Apply.whole settings levels)

end QueryOptions
