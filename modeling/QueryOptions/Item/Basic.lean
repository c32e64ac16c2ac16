import QueryOptions.Compute
import QueryOptions.Order

set_option autoImplicit false

namespace QueryOptions

inductive Levels where
  | max
  | count (levels : Nat)
deriving DecidableEq, Repr

structure ItemOptions where
  filter : Option Expr := none
  orderBy : Option (List OrderItem) := none
  top : Option Nat := none
  skip : Option Nat := none
  count : Option Bool := none
  search : Option Expr := none
  compute : Option (List ComputeItem) := none

structure SelectItem where
  path : List String
  options : ItemOptions
  select : Option (List SelectItem)

structure ExpandItem where
  path : List String
  options : ItemOptions
  select : Option (List SelectItem)
  expand : Option (List ExpandItem)
  levels : Option Levels

inductive ItemKind where
  | select
  | expand
deriving DecidableEq, Repr

inductive ItemOption where
  | filter
  | orderBy
  | top
  | skip
  | count
  | search
  | select
  | compute
  | expand
  | levels
deriving DecidableEq, Repr

namespace ItemOption

def bareName : ItemOption → String
  | filter => "filter"
  | orderBy => "orderby"
  | top => "top"
  | skip => "skip"
  | count => "count"
  | search => "search"
  | select => "select"
  | compute => "compute"
  | expand => "expand"
  | levels => "levels"

def name (option : ItemOption) : String := "$" ++ option.bareName

end ItemOption

namespace ItemKind

def options : ItemKind → List ItemOption
  | select => [.filter, .orderBy, .top, .skip, .count, .search, .select, .compute]
  | expand =>
      [.filter, .orderBy, .top, .skip, .count, .search, .select, .compute, .expand, .levels]

-- The option that a key names. The `$` may be missing only where the settings say so.
def option? (kind : ItemKind) (settings : Settings) (key : String) : Option ItemOption :=
  let bare := match key.toList with
    | '$' :: bare => some (String.ofList bare)
    | _ => if settings.allowBareNames then some key else none
  bare.bind fun bare =>
    kind.options.find? fun option => settings.matchesKeyword bare option.bareName

end ItemKind

structure NestedOptions extends ItemOptions where
  select : Option (List SelectItem) := none
  expand : Option (List ExpandItem) := none
  levels : Option Levels := none

structure Item where
  path : List String
  options : NestedOptions

namespace Item

def toSelect (item : Item) : SelectItem :=
  ⟨item.path, item.options.toItemOptions, item.options.select⟩

def toExpand (item : Item) : ExpandItem :=
  ⟨item.path, item.options.toItemOptions, item.options.select, item.options.expand,
    item.options.levels⟩

end Item

end QueryOptions
