import QueryOptions.Outline.Expr
import QueryOptions.QueryOption

set_option autoImplicit false

namespace QueryOptions

def Direction.outline : Direction → Outline
  | .ascending => .word "Ascending"
  | .descending => .word "Descending"

def OrderItem.outline (item : OrderItem) : Outline :=
  .record "OrderByToken"
    [("expression", item.expression.outline), ("direction", item.direction.outline)]

def OrderItem.outlineList (items : List OrderItem) : Outline :=
  .list (items.map OrderItem.outline)

def ComputeItem.outline (item : ComputeItem) : Outline :=
  .record "ComputeItemToken"
    [("expression", item.expression.outline), ("alias", .text item.name)]

def ComputeItem.fields (items : List ComputeItem) : List (String × Outline) :=
  [("items", .list (items.map ComputeItem.outline))]

def ComputeItem.outlineList (items : List ComputeItem) : Outline :=
  .record "ComputeToken" (fields items)

namespace AggregationMethod

def outline : AggregationMethod → Outline
  | sum => .word "Sum"
  | min => .word "Min"
  | max => .word "Max"
  | average => .word "Average"
  | countDistinct => .word "CountDistinct"
  | virtualCount => .word "VirtualPropertyCount"
  | custom name => .wrapped "Custom" (.text name)

end AggregationMethod

def Aggregate.outline (aggregate : Aggregate) : Outline :=
  .record "AggregateExpressionToken"
    [("expression", aggregate.expression.outline), ("method", aggregate.method.outline),
      ("alias", .text aggregate.name)]

namespace Transformation

def node (name : String) (record : Option String) (fields : List (String × Outline)) : Outline :=
  .tagged "transformation" name record fields

mutual

def outline : Transformation → Outline
  | .aggregate aggregates =>
      node "Aggregate" (some "AggregateToken")
        [("expressions", .list (aggregates.map Aggregate.outline))]
  | .groupBy properties children =>
      node "GroupBy" (some "GroupByToken")
        [("properties", .list (properties.map Expr.outline)),
          ("child", .list (outlineItems children))]
  | .filter condition => node "Filter" none [("expression", condition.outline)]
  | .compute items => node "Compute" (some "ComputeToken") (ComputeItem.fields items)

def outlineItems : List Transformation → List Outline
  | [] => []
  | transformation :: rest => outline transformation :: outlineItems rest

end

end Transformation

def Levels.outline : Levels → Outline
  | .max => .word "Max"
  | .count levels => .wrapped "Count" (.nat levels)

def pathOutline (path : List String) : Outline :=
  .record "SegmentPath" [("segments", .list (path.map Outline.text))]

def ItemOptions.fields (path : List String) (options : ItemOptions) (select : Outline) :
    List (String × Outline) :=
  [("path", pathOutline path),
    ("filter", .ofOption Expr.outline options.filter),
    ("order_by", .ofOption OrderItem.outlineList options.orderBy),
    ("top", .ofOption .nat options.top),
    ("skip", .ofOption .nat options.skip),
    ("count", .ofOption .bool options.count),
    ("search", .ofOption Expr.outline options.search),
    ("select", select),
    ("compute", .ofOption ComputeItem.outlineList options.compute)]

namespace SelectItem

mutual

def outline : SelectItem → Outline
  | ⟨path, options, select⟩ =>
      .record "SelectItemToken" (options.fields path (outlineNested select))

def outlineNested : Option (List SelectItem) → Outline
  | none => .absent
  | some items => .present (.record "SelectToken" [("items", .list (outlineItems items))])

def outlineItems : List SelectItem → List Outline
  | [] => []
  | item :: rest => outline item :: outlineItems rest

end

def outlineList (items : List SelectItem) : Outline :=
  .record "SelectToken" [("items", .list (outlineItems items))]

end SelectItem

namespace ExpandItem

mutual

def outline : ExpandItem → Outline
  | ⟨path, options, select, expand, levels⟩ =>
      .record "ExpandItemToken"
        (options.fields path (SelectItem.outlineNested select) ++
          [("expand", outlineNested expand), ("levels", .ofOption Levels.outline levels)])

def outlineNested : Option (List ExpandItem) → Outline
  | none => .absent
  | some items => .present (.record "ExpandToken" [("items", .list (outlineItems items))])

def outlineItems : List ExpandItem → List Outline
  | [] => []
  | item :: rest => outline item :: outlineItems rest

end

def outlineList (items : List ExpandItem) : Outline :=
  .record "ExpandToken" [("items", .list (outlineItems items))]

end ExpandItem

namespace ParsedOption

def node (name : String) (content : Outline) : Outline := .labelled "option" name "tokens" content

def outline : ParsedOption → Outline
  | .filter condition => node "Filter" condition.outline
  | .search condition => node "Search" condition.outline
  | .orderBy items => node "OrderBy" (OrderItem.outlineList items)
  | .compute items => node "Compute" (ComputeItem.outlineList items)
  | .select items => node "Select" (SelectItem.outlineList items)
  | .expand items => node "Expand" (ExpandItem.outlineList items)
  | .apply transformations =>
      node "Apply"
        (.record "ApplyToken"
          [("transform_tokens", .list (Transformation.outlineItems transformations))])

end ParsedOption

end QueryOptions
