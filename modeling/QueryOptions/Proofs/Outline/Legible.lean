import Mathlib.Data.List.Forall2
import QueryOptions.Equality
import QueryOptions.Proofs.Outline.Shape

set_option autoImplicit false

namespace QueryOptions

inductive ValueType where
  | option
  | expr
  | tokenKind
  | binaryOperator
  | unaryOperator
  | quantifier
  | orderItem
  | direction
  | compute
  | computeItem
  | path
  | levels
  | select
  | selectItem
  | expand
  | expandItem
  | apply
  | transformation
  | aggregate
  | aggregationMethod

namespace ValueType

open Outline (Shape Variant Fits Legible)

def exprNode (name : String) (fields : List (String × Shape ValueType)) : Variant ValueType :=
  .tagged "type" name (some (name ++ "Token")) fields

def optionNode (name : String) (content : Shape ValueType) : Variant ValueType :=
  .labelled "option" name "tokens" content

def itemFields : List (String × Shape ValueType) := [
  ("path", .named path),
  ("filter", .optional (.named expr)),
  ("order_by", .optional (.list (.named orderItem))),
  ("top", .optional .nat),
  ("skip", .optional .nat),
  ("count", .optional .bool),
  ("search", .optional (.named expr)),
  ("select", .optional (.named select)),
  ("compute", .optional (.named compute))]

-- Every value of a type, whether a parse can give it or not, has one of these forms: either
-- quantifier may have a variable without a body, or neither, or the body alone.
def variants : ValueType → List (Variant ValueType)
  | option => [
      optionNode "Filter" (.named expr), optionNode "Search" (.named expr),
      optionNode "OrderBy" (.list (.named orderItem)), optionNode "Compute" (.named compute),
      optionNode "Select" (.named select), optionNode "Expand" (.named expand), optionNode "Apply" (.named apply)]
  | expr => [
      exprNode "Literal" [("kind", .named tokenKind), ("text", .text)],
      exprNode "StringLiteral" [("text", .text)],
      exprNode "EndPath" [("identifier", .text), ("parent", .optional (.named expr))],
      exprNode "InnerPath" [("identifier", .text), ("parent", .optional (.named expr))],
      exprNode "RangeVariable" [("name", .text)],
      exprNode "ParameterAlias" [("alias", .text)],
      exprNode "BinaryOperator" [("kind", .named binaryOperator), ("left", .named expr), ("right", .named expr)],
      exprNode "UnaryOperator" [("kind", .named unaryOperator), ("operand", .named expr)],
      exprNode "In" [("left", .named expr), ("right", .named expr)],
      exprNode "Collection" [("items", .list (.named expr))],
      exprNode "FunctionCall"
        [("name", .text), ("arguments", .list (.named expr)), ("source", .optional (.named expr))],
      exprNode "Lambda" [("kind", .named quantifier), ("parent", .named expr), ("variable", .optional .text),
        ("expression", .optional (.named expr))]]
  | tokenKind => TokenKind.all.map fun kind => .word kind.name
  | binaryOperator =>
      ["Or", "And", "Equal", "NotEqual", "GreaterThan", "GreaterThanOrEqual", "LessThan", "LessThanOrEqual", "Add",
        "Subtract", "Multiply", "Divide", "Modulo", "Has"].map .word ++ [.wrapped "Customized" .text]
  | unaryOperator => [.word "Negate", .word "Not"]
  | quantifier => [.word "Any", .word "All"]
  | orderItem => [.record "OrderByToken" [("expression", .named expr), ("direction", .named direction)]]
  | direction => [.word "Ascending", .word "Descending"]
  | compute => [.record "ComputeToken" [("items", .list (.named computeItem))]]
  | computeItem => [.record "ComputeItemToken" [("expression", .named expr), ("alias", .text)]]
  | path => [.record "SegmentPath" [("segments", .list .text)]]
  | levels => [.word "Max", .wrapped "Count" .nat]
  | select => [.record "SelectToken" [("items", .list (.named selectItem))]]
  | selectItem => [.record "SelectItemToken" itemFields]
  | expand => [.record "ExpandToken" [("items", .list (.named expandItem))]]
  | expandItem => [.record "ExpandItemToken"
      (itemFields ++ [("expand", .optional (.named expand)), ("levels", .optional (.named levels))])]
  | apply => [.record "ApplyToken" [("transform_tokens", .list (.named transformation))]]
  | transformation => [
      .tagged "transformation" "Aggregate" (some "AggregateToken") [("expressions", .list (.named aggregate))],
      .tagged "transformation" "GroupBy" (some "GroupByToken")
        [("properties", .list (.named expr)), ("child", .list (.named transformation))],
      .tagged "transformation" "Filter" none [("expression", .named expr)],
      .tagged "transformation" "Compute" (some "ComputeToken") [("items", .list (.named computeItem))]]
  | aggregate => [.record "AggregateExpressionToken"
      [("expression", .named expr), ("method", .named aggregationMethod), ("alias", .text)]]
  | aggregationMethod =>
      ["Sum", "Min", "Max", "Average", "CountDistinct", "VirtualPropertyCount"].map .word ++ [.wrapped "Custom" .text]

theorem variants_legible : Legible variants where
  apart type := by cases type <;> decide +kernel
  plain type := by cases type <;> decide +kernel

theorem fits_variant {type : ValueType} {outline : Outline} {contents : List Outline} (index : Nat)
    (listed : index < (variants type).length)
    (each : List.Forall₂ (Fits variants) ((variants type).get ⟨index, listed⟩).shapes contents)
    (built : outline = ((variants type).get ⟨index, listed⟩).build contents) : Fits variants (.named type) outline := by
  obtain ⟨full, parts⟩ := List.forall₂_iff_zip.mp each
  rw [built]
  exact .named (List.get_mem _ _) full.symm fun part paired => parts paired

theorem fits_optional {α : Type} {content : Shape ValueType} (once : content.isOptional = false) {outline : α → Outline}
    (fits : ∀ value, Fits variants content (outline value)) (value : Option α) :
    Fits variants (.optional content) (.ofOption outline value) := by
  cases value with
  | none => exact .absent content
  | some value => exact .present once (fits value)

theorem fits_list {α : Type} {content : Shape ValueType} {outline : α → Outline}
    (fits : ∀ value, Fits variants content (outline value)) (values : List α) :
    Fits variants (.list content) (.list (values.map outline)) :=
  .list (List.forall_mem_map.mpr fun value _ => fits value)

theorem fits_token_kind (kind : TokenKind) : Fits variants (.named tokenKind) (.word kind.name) := by
  have listed : .word kind.name ∈ variants tokenKind :=
    List.mem_map.mpr ⟨kind, by cases kind <;> decide, rfl⟩
  have parts : ∀ part ∈ ([] : List (Shape ValueType)).zip [], Fits variants part.1 part.2 :=
    fun _ none => absurd none List.not_mem_nil
  exact .named listed rfl parts

theorem fits_binary_operator (operator : BinaryOperator) : Fits variants (.named binaryOperator) operator.outline := by
  cases operator with
  | or => exact fits_variant 0 (by decide) .nil rfl
  | and => exact fits_variant 1 (by decide) .nil rfl
  | equal => exact fits_variant 2 (by decide) .nil rfl
  | notEqual => exact fits_variant 3 (by decide) .nil rfl
  | greaterThan => exact fits_variant 4 (by decide) .nil rfl
  | greaterThanOrEqual => exact fits_variant 5 (by decide) .nil rfl
  | lessThan => exact fits_variant 6 (by decide) .nil rfl
  | lessThanOrEqual => exact fits_variant 7 (by decide) .nil rfl
  | add => exact fits_variant 8 (by decide) .nil rfl
  | subtract => exact fits_variant 9 (by decide) .nil rfl
  | multiply => exact fits_variant 10 (by decide) .nil rfl
  | divide => exact fits_variant 11 (by decide) .nil rfl
  | modulo => exact fits_variant 12 (by decide) .nil rfl
  | has => exact fits_variant 13 (by decide) .nil rfl
  | custom keyword => exact fits_variant 14 (by decide) (.cons (.text keyword) .nil) rfl

theorem fits_unary_operator (operator : UnaryOperator) : Fits variants (.named unaryOperator) operator.outline := by
  cases operator with
  | negate => exact fits_variant 0 (by decide) .nil rfl
  | not => exact fits_variant 1 (by decide) .nil rfl

theorem fits_quantifier (given : Quantifier) : Fits variants (.named quantifier) given.outline := by
  cases given with
  | any => exact fits_variant 0 (by decide) .nil rfl
  | all => exact fits_variant 1 (by decide) .nil rfl

mutual

theorem fits_expr (tree : Expr) : Fits variants (.named expr) tree.outline := by
  match tree with
  | .literal kind text => exact fits_variant 0 (by decide) (.cons (fits_token_kind kind) (.cons (.text text) .nil)) rfl
  | .term text => exact fits_variant 1 (by decide) (.cons (.text text) .nil) rfl
  | .endPath name parent => exact fits_variant 2 (by decide) (.cons (.text name) (.cons (fits_parent parent) .nil)) rfl
  | .innerPath name parent => exact fits_variant 3 (by decide) (.cons (.text name) (.cons (fits_parent parent) .nil)) rfl
  | .rangeVariable name => exact fits_variant 4 (by decide) (.cons (.text name) .nil) rfl
  | .parameterAlias name => exact fits_variant 5 (by decide) (.cons (.text name) .nil) rfl
  | .binary operator left right =>
      exact fits_variant 6 (by decide)
        (.cons (fits_binary_operator operator) (.cons (fits_expr left) (.cons (fits_expr right) .nil))) rfl
  | .unary operator operand =>
      exact fits_variant 7 (by decide) (.cons (fits_unary_operator operator) (.cons (fits_expr operand) .nil)) rfl
  | .membership left right => exact fits_variant 8 (by decide) (.cons (fits_expr left) (.cons (fits_expr right) .nil)) rfl
  | .collection items => exact fits_variant 9 (by decide) (.cons (.list (fits_exprs items)) .nil) rfl
  | .call name arguments source =>
      exact fits_variant 10 (by decide)
        (.cons (.text name) (.cons (.list (fits_exprs arguments)) (.cons (fits_parent source) .nil))) rfl
  | .lambda given parent name body =>
      exact fits_variant 11 (by decide) (.cons (fits_quantifier given) (.cons (fits_expr parent)
        (.cons (.present rfl (.text name)) (.cons (.present rfl (fits_expr body)) .nil)))) rfl
  | .nonempty parent =>
      exact fits_variant 11 (by decide) (.cons (fits_quantifier .any) (.cons (fits_expr parent)
        (.cons (.absent _) (.cons (.absent _) .nil)))) rfl

theorem fits_parent (parent : Option Expr) : Fits variants (.optional (.named expr)) (Expr.outlineParent parent) := by
  match parent with
  | none => exact .absent _
  | some tree => exact .present rfl (fits_expr tree)

theorem fits_exprs (trees : List Expr) : ∀ item ∈ Expr.outlineItems trees, Fits variants (.named expr) item := by
  match trees with
  | [] => exact fun item none => absurd none List.not_mem_nil
  | tree :: trees => exact List.forall_mem_cons.mpr ⟨fits_expr tree, fits_exprs trees⟩

end

theorem fits_order_item (item : OrderItem) : Fits variants (.named orderItem) item.outline := by
  have direction : Fits variants (.named direction) item.direction.outline := by
    cases item.direction with
    | ascending => exact fits_variant 0 (by decide) .nil rfl
    | descending => exact fits_variant 1 (by decide) .nil rfl
  exact fits_variant 0 (by decide) (.cons (fits_expr item.expression) (.cons direction .nil)) rfl

theorem fits_compute_item (item : ComputeItem) : Fits variants (.named computeItem) item.outline :=
  fits_variant 0 (by decide) (.cons (fits_expr item.expression) (.cons (.text item.name) .nil)) rfl

theorem fits_compute (items : List ComputeItem) : Fits variants (.named compute) (ComputeItem.outlineList items) :=
  fits_variant 0 (by decide) (.cons (fits_list fits_compute_item items) .nil) rfl

theorem fits_path (segments : List String) : Fits variants (.named path) (pathOutline segments) :=
  fits_variant 0 (by decide) (.cons (fits_list Fits.text segments) .nil) rfl

theorem fits_levels (given : Levels) : Fits variants (.named levels) given.outline := by
  cases given with
  | max => exact fits_variant 0 (by decide) .nil rfl
  | count levels => exact fits_variant 1 (by decide) (.cons (.nat levels) .nil) rfl

theorem fits_aggregate (given : Aggregate) : Fits variants (.named aggregate) given.outline := by
  have method : Fits variants (.named aggregationMethod) given.method.outline := by
    cases given.method with
    | sum => exact fits_variant 0 (by decide) .nil rfl
    | min => exact fits_variant 1 (by decide) .nil rfl
    | max => exact fits_variant 2 (by decide) .nil rfl
    | average => exact fits_variant 3 (by decide) .nil rfl
    | countDistinct => exact fits_variant 4 (by decide) .nil rfl
    | virtualCount => exact fits_variant 5 (by decide) .nil rfl
    | custom name => exact fits_variant 6 (by decide) (.cons (.text name) .nil) rfl
  exact fits_variant 0 (by decide) (.cons (fits_expr given.expression) (.cons method (.cons (.text given.name) .nil))) rfl

mutual

theorem fits_transformation (given : Transformation) : Fits variants (.named transformation) given.outline := by
  match given with
  | .aggregate aggregates => exact fits_variant 0 (by decide) (.cons (fits_list fits_aggregate aggregates) .nil) rfl
  | .groupBy properties children =>
      exact fits_variant 1 (by decide)
        (.cons (fits_list fits_expr properties) (.cons (.list (fits_transformations children)) .nil)) rfl
  | .filter condition => exact fits_variant 2 (by decide) (.cons (fits_expr condition) .nil) rfl
  | .compute items => exact fits_variant 3 (by decide) (.cons (fits_list fits_compute_item items) .nil) rfl

theorem fits_transformations (given : List Transformation) :
    ∀ item ∈ Transformation.outlineItems given, Fits variants (.named transformation) item := by
  match given with
  | [] => exact fun item none => absurd none List.not_mem_nil
  | first :: rest => exact List.forall_mem_cons.mpr ⟨fits_transformation first, fits_transformations rest⟩

end

theorem fits_item_fields (segments : List String) (options : ItemOptions) {nested : Outline}
    (fits : Fits variants (.optional (.named select)) nested) :
    List.Forall₂ (Fits variants) (itemFields.map Prod.snd) ((options.fields segments nested).map Prod.snd) :=
  .cons (fits_path segments) (.cons (fits_optional rfl fits_expr options.filter)
    (.cons (fits_optional rfl (fits_list fits_order_item) options.orderBy) (.cons (fits_optional rfl .nat options.top)
      (.cons (fits_optional rfl .nat options.skip) (.cons (fits_optional rfl .bool options.count)
        (.cons (fits_optional rfl fits_expr options.search) (.cons fits
          (.cons (fits_optional rfl fits_compute options.compute) .nil))))))))

mutual

theorem fits_select_item (item : SelectItem) : Fits variants (.named selectItem) item.outline := by
  match item with
  | ⟨segments, options, nested⟩ =>
      exact fits_variant 0 (by decide) (fits_item_fields segments options (fits_nested_select nested)) rfl

theorem fits_nested_select (nested : Option (List SelectItem)) :
    Fits variants (.optional (.named select)) (SelectItem.outlineNested nested) := by
  match nested with
  | none => exact .absent _
  | some items => exact .present rfl (fits_variant 0 (by decide) (.cons (.list (fits_select_items items)) .nil) rfl)

theorem fits_select_items (items : List SelectItem) :
    ∀ item ∈ SelectItem.outlineItems items, Fits variants (.named selectItem) item := by
  match items with
  | [] => exact fun item none => absurd none List.not_mem_nil
  | first :: rest => exact List.forall_mem_cons.mpr ⟨fits_select_item first, fits_select_items rest⟩

end

mutual

theorem fits_expand_item (item : ExpandItem) : Fits variants (.named expandItem) item.outline := by
  match item with
  | ⟨segments, options, nested, further, limit⟩ =>
      have front := fits_item_fields segments options (fits_nested_select nested)
      have back : List.Forall₂ (Fits variants) [.optional (.named expand), .optional (.named levels)]
          [ExpandItem.outlineNested further, .ofOption Levels.outline limit] :=
        .cons (fits_nested_expand further) (.cons (fits_optional rfl fits_levels limit) .nil)
      exact fits_variant 0 (by decide) (List.rel_append front back) rfl

theorem fits_nested_expand (nested : Option (List ExpandItem)) :
    Fits variants (.optional (.named expand)) (ExpandItem.outlineNested nested) := by
  match nested with
  | none => exact .absent _
  | some items => exact .present rfl (fits_variant 0 (by decide) (.cons (.list (fits_expand_items items)) .nil) rfl)

theorem fits_expand_items (items : List ExpandItem) :
    ∀ item ∈ ExpandItem.outlineItems items, Fits variants (.named expandItem) item := by
  match items with
  | [] => exact fun item none => absurd none List.not_mem_nil
  | first :: rest => exact List.forall_mem_cons.mpr ⟨fits_expand_item first, fits_expand_items rest⟩

end

theorem fits_parsed (parsed : ParsedOption) : Fits variants (.named option) parsed.outline := by
  cases parsed with
  | filter condition => exact fits_variant 0 (by decide) (.cons (fits_expr condition) .nil) rfl
  | search condition => exact fits_variant 1 (by decide) (.cons (fits_expr condition) .nil) rfl
  | orderBy items => exact fits_variant 2 (by decide) (.cons (fits_list fits_order_item items) .nil) rfl
  | compute items => exact fits_variant 3 (by decide) (.cons (fits_compute items) .nil) rfl
  | select items =>
      have content : Fits variants (.named select) (SelectItem.outlineList items) :=
        fits_variant 0 (by decide) (.cons (.list (fits_select_items items)) .nil) rfl
      exact fits_variant 4 (by decide) (.cons content .nil) rfl
  | expand items =>
      have content : Fits variants (.named expand) (ExpandItem.outlineList items) :=
        fits_variant 0 (by decide) (.cons (.list (fits_expand_items items)) .nil) rfl
      exact fits_variant 5 (by decide) (.cons content .nil) rfl
  | apply transformations =>
      have content : Fits variants (.named apply) (.record "ApplyToken"
          [("transform_tokens", .list (Transformation.outlineItems transformations))]) :=
        fits_variant 0 (by decide) (.cons (.list (fits_transformations transformations)) .nil) rfl
      exact fits_variant 6 (by decide) (.cons content .nil) rfl

end ValueType

end QueryOptions
