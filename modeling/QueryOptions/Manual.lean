import QueryOptions.Manual.Pages

set_option autoImplicit false

namespace QueryOptions.Manual

inductive Topic where
  | literals
  | filter
  | search
  | orderBy
  | compute
  | selectExpand
  | apply
  | settings
deriving DecidableEq, Repr

namespace Topic

def names : Topic → List String
  | literals => ["literals", "literal", "lexer"]
  | filter => ["filter", "operators", "ops"]
  | search => ["search"]
  | orderBy => ["orderby", "order_by"]
  | compute => ["compute"]
  | selectExpand => ["select_expand", "select", "expand"]
  | apply => ["apply", "aggregate", "groupby"]
  | settings => ["settings", "config"]

def all : List Topic :=
  [literals, filter, search, orderBy, compute, selectExpand, apply, settings]

def canonical (name : String) : String :=
  let letters := name.toList.map fun c => if c = '-' then '_' else c.toLower
  String.ofList (letters.dropWhile (· == '$'))

def ofName? (name : String) : Option Topic :=
  all.find? fun topic => topic.names.contains (canonical name)

def page : Topic → String
  | literals => Page.literals
  | filter => Page.filter
  | search => Page.search
  | orderBy => Page.orderBy
  | compute => Page.compute
  | selectExpand => Page.selectExpand
  | apply => Page.apply
  | settings => Page.settings

end Topic

end QueryOptions.Manual
