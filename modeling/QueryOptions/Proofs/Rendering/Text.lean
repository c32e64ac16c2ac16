import QueryOptions.Proofs.Render
import QueryOptions.Proofs.Search.Render

set_option autoImplicit false

namespace QueryOptions

def Expr.searchText : Expr → List Char
  | .term text => Search.phrase text.toList
  | .unary _ operand => "NOT ".toList ++ parenthesized operand.searchText
  | .binary .and left right => parenthesized left.searchText ++ (" AND ".toList ++ parenthesized right.searchText)
  | .binary _ left right => parenthesized left.searchText ++ (" OR ".toList ++ parenthesized right.searchText)
  | _ => []

theorem search_text (tree : Search.Tree) : tree.expr.searchText = tree.render.toList := by
  induction tree with
  | term text =>
      simp only [Search.Tree.expr, Expr.searchText, Search.Tree.render, String.toList_append, String.toList_ofList]
      rfl
  | not operand ih =>
      simp only [Search.Tree.expr, Expr.searchText, Search.Tree.render, String.toList_append, ih, parenthesized]
      rfl
  | and left right ihLeft ihRight | or left right ihLeft ihRight =>
      simp only [Search.Tree.expr, Expr.searchText, Search.Tree.render, String.toList_append, ihLeft, ihRight,
        parenthesized, List.append_assoc, List.cons_append]
      rfl

def Direction.word : Direction → String
  | .ascending => "asc"
  | .descending => "desc"

def clause (word : String) (text : List Char) : List Char := ' ' :: (word.toList ++ ' ' :: text)

def Levels.text : Levels → List Char
  | .max => "max".toList
  | .count levels => Nat.toDigits 10 levels

namespace AggregationMethod

def name : AggregationMethod → String
  | sum => "sum"
  | min => "min"
  | max => "max"
  | average => "average"
  | countDistinct => "countdistinct"
  | virtualCount => ""
  | custom name => name

theorem name_of_name (name : String) : (ofName name).name = name := by
  unfold ofName
  repeat' split
  all_goals first | exact Eq.symm ‹name = _› | rfl

theorem of_name_counts (name : String) : ofName name ≠ virtualCount := by
  unfold ofName
  repeat' split
  all_goals simp

def text : AggregationMethod → List Char
  | virtualCount => []
  | method => clause "with" method.name.toList

theorem text_of_name (name : String) : (ofName name).text = clause "with" name.toList := by
  have renamed := name_of_name name
  cases method : ofName name with
  | virtualCount => exact absurd method (of_name_counts name)
  | _ => rw [← renamed, method]; rfl

end AggregationMethod

def ItemKind.optionsText (kind : ItemKind) (value : ItemOption → Option (List Char)) : List Char :=
  match kind.options.filterMap fun option => (value option).map fun text => option.name.toList ++ '=' :: text with
  | [] => []
  | pieces => parenthesized (punctuated ';' pieces)

def pipelineText : List (List Char) → List Char
  | [] => []
  | texts => ',' :: punctuated '/' texts

theorem pipeline_text {texts : List (List Char)} (some : texts ≠ []) : pipelineText texts = ',' :: punctuated '/' texts := by
  obtain ⟨first, others, rfl⟩ := List.exists_cons_of_ne_nil some
  rfl

def pathText (path : List String) : List Char := punctuated '/' (path.map String.toList)

section

variable (keyword : BinaryOperator → String)

def OrderItem.render (item : OrderItem) : List Char :=
  item.expression.render keyword ++ ' ' :: item.direction.word.toList

def ComputeItem.render (item : ComputeItem) : List Char :=
  item.expression.render keyword ++ clause "as" item.name.toList

def Aggregate.render (aggregate : Aggregate) : List Char :=
  aggregate.expression.render keyword ++ (aggregate.method.text ++ clause "as" aggregate.name.toList)

mutual

def Transformation.render : Transformation → List Char
  | .aggregate aggregates => "aggregate".toList ++ parenthesized (punctuated ',' (aggregates.map (·.render keyword)))
  | .groupBy properties children =>
      "groupby".toList ++ parenthesized (parenthesized (punctuated ',' (properties.map (·.render keyword))) ++
        pipelineText (Transformation.renderEach children))
  | .filter condition => "filter".toList ++ parenthesized (condition.render keyword)
  | .compute items => "compute".toList ++ parenthesized (punctuated ',' (items.map (·.render keyword)))

def Transformation.renderEach : List Transformation → List (List Char)
  | [] => []
  | transformation :: others => transformation.render :: Transformation.renderEach others

end

def ItemOptions.text (options : ItemOptions) : ItemOption → Option (List Char)
  | .filter => options.filter.map (·.render keyword)
  | .orderBy => options.orderBy.map fun items => punctuated ',' (items.map (·.render keyword))
  | .top => options.top.map (Nat.toDigits 10)
  | .skip => options.skip.map (Nat.toDigits 10)
  | .count => options.count.map fun counts => (if counts then "true" else "false").toList
  | .search => options.search.map Expr.searchText
  | .compute => options.compute.map fun items => punctuated ',' (items.map (·.render keyword))
  | .select | .expand | .levels => none

mutual

def SelectItem.render : SelectItem → List Char
  | ⟨path, options, select⟩ =>
      let selected := SelectItem.renderGiven select
      pathText path ++ ItemKind.select.optionsText fun
        | .select => selected
        | option => options.text keyword option

def SelectItem.renderGiven : Option (List SelectItem) → Option (List Char)
  | none => none
  | some items => some (punctuated ',' (SelectItem.renderEach items))

def SelectItem.renderEach : List SelectItem → List (List Char)
  | [] => []
  | item :: items => item.render :: SelectItem.renderEach items

end

mutual

def ExpandItem.render : ExpandItem → List Char
  | ⟨path, options, select, expand, levels⟩ =>
      let expanded := ExpandItem.renderGiven expand
      pathText path ++ ItemKind.expand.optionsText fun
        | .select => SelectItem.renderGiven keyword select
        | .expand => expanded
        | .levels => levels.map Levels.text
        | option => options.text keyword option

def ExpandItem.renderGiven : Option (List ExpandItem) → Option (List Char)
  | none => none
  | some items => some (punctuated ',' (ExpandItem.renderEach items))

def ExpandItem.renderEach : List ExpandItem → List (List Char)
  | [] => []
  | item :: items => item.render :: ExpandItem.renderEach items

end

def ParsedOption.render : ParsedOption → List Char
  | filter condition => condition.render keyword
  | search condition => condition.searchText
  | orderBy items => punctuated ',' (items.map (·.render keyword))
  | compute items => punctuated ',' (items.map (·.render keyword))
  | select items => punctuated ',' (items.map (·.render keyword))
  | expand items => punctuated ',' (items.map (·.render keyword))
  | apply transformations => punctuated '/' (transformations.map (·.render keyword))

end

variable {keyword : BinaryOperator → String}

theorem Transformation.render_each (transformations : List Transformation) :
    renderEach keyword transformations = transformations.map (·.render keyword) := by
  induction transformations with
  | nil => rfl
  | cons transformation others ih => rw [renderEach, ih, List.map_cons]

theorem SelectItem.render_each (items : List SelectItem) : renderEach keyword items = items.map (·.render keyword) := by
  induction items with
  | nil => rfl
  | cons item items ih => rw [renderEach, ih, List.map_cons]

theorem ExpandItem.render_each (items : List ExpandItem) : renderEach keyword items = items.map (·.render keyword) := by
  induction items with
  | nil => rfl
  | cons item items ih => rw [renderEach, ih, List.map_cons]

theorem SelectItem.render_given (items : Option (List SelectItem)) :
    renderGiven keyword items = items.map fun list => punctuated ',' (list.map (·.render keyword)) := by
  cases items with
  | none => rfl
  | some list => rw [renderGiven, render_each, Option.map_some]

theorem ExpandItem.render_given (items : Option (List ExpandItem)) :
    renderGiven keyword items = items.map fun list => punctuated ',' (list.map (·.render keyword)) := by
  cases items with
  | none => rfl
  | some list => rw [renderGiven, render_each, Option.map_some]

def SelectItem.text (keyword : BinaryOperator → String) (item : SelectItem) : ItemOption → Option (List Char)
  | .select => item.select.map fun items => punctuated ',' (items.map (·.render keyword))
  | option => item.options.text keyword option

def ExpandItem.text (keyword : BinaryOperator → String) (item : ExpandItem) : ItemOption → Option (List Char)
  | .select => item.select.map fun items => punctuated ',' (items.map (·.render keyword))
  | .expand => item.expand.map fun items => punctuated ',' (items.map (·.render keyword))
  | .levels => item.levels.map Levels.text
  | option => item.options.text keyword option

theorem SelectItem.render_text (item : SelectItem) :
    item.render keyword = pathText item.path ++ ItemKind.select.optionsText (item.text keyword) := by
  obtain ⟨path, options, select⟩ := item
  rw [SelectItem.render, SelectItem.render_given]
  exact congrArg (fun value => pathText path ++ ItemKind.select.optionsText value) (funext fun option => by cases option <;> rfl)

theorem ExpandItem.render_text (item : ExpandItem) :
    item.render keyword = pathText item.path ++ ItemKind.expand.optionsText (item.text keyword) := by
  obtain ⟨path, options, select, expand, levels⟩ := item
  rw [ExpandItem.render, ExpandItem.render_given, SelectItem.render_given]
  exact congrArg (fun value => pathText path ++ ItemKind.expand.optionsText value) (funext fun option => by cases option <;> rfl)

end QueryOptions
