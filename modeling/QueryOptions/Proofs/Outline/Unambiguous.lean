import QueryOptions.Proofs.Outline.Legible

set_option autoImplicit false

namespace QueryOptions

theorem kind_of_name (kind : TokenKind) : TokenKind.ofName? kind.name = some kind := by
  cases kind <;> decide +kernel

theorem kind_name_injective : Function.Injective TokenKind.name := fun kind kind' same => by
  have back := congrArg TokenKind.ofName? same
  rwa [kind_of_name, kind_of_name, Option.some.injEq] at back

theorem BinaryOperator.outline_injective : Function.Injective BinaryOperator.outline := fun operator operator' same => by
  cases operator <;> cases operator' <;> simp_all [outline]

theorem UnaryOperator.outline_injective : Function.Injective UnaryOperator.outline := fun operator operator' same => by
  cases operator <;> cases operator' <;> simp_all [outline]

theorem Quantifier.outline_injective : Function.Injective Quantifier.outline := fun quantifier quantifier' same => by
  cases quantifier <;> cases quantifier' <;> simp_all [outline]

namespace Expr

mutual

theorem outline_injective (tree tree' : Expr) (same : tree.outline = tree'.outline) : tree = tree' := by
  match tree with
  | .literal kind text =>
      cases tree' <;> simp [outline, node, kind_name_injective.eq_iff] at same ⊢
      exact same
  | .term text =>
      cases tree' <;> simp [outline, node] at same ⊢
      exact same
  | .endPath name parent =>
      cases tree' <;> simp [outline, node] at same ⊢
      exact ⟨same.1, outline_parent_injective _ _ same.2⟩
  | .innerPath name parent =>
      cases tree' <;> simp [outline, node] at same ⊢
      exact ⟨same.1, outline_parent_injective _ _ same.2⟩
  | .rangeVariable name =>
      cases tree' <;> simp [outline, node] at same ⊢
      exact same
  | .parameterAlias name =>
      cases tree' <;> simp [outline, node] at same ⊢
      exact same
  | .binary operator left right =>
      cases tree' <;> simp [outline, node, BinaryOperator.outline_injective.eq_iff] at same ⊢
      exact ⟨same.1, outline_injective _ _ same.2.1, outline_injective _ _ same.2.2⟩
  | .unary operator operand =>
      cases tree' <;> simp [outline, node, UnaryOperator.outline_injective.eq_iff] at same ⊢
      exact ⟨same.1, outline_injective _ _ same.2⟩
  | .membership left right =>
      cases tree' <;> simp [outline, node] at same ⊢
      exact ⟨outline_injective _ _ same.1, outline_injective _ _ same.2⟩
  | .collection items =>
      cases tree' <;> simp [outline, node] at same ⊢
      exact outline_items_injective _ _ same
  | .call name arguments source =>
      cases tree' <;> simp [outline, node] at same ⊢
      exact ⟨same.1, outline_items_injective _ _ same.2.1, outline_parent_injective _ _ same.2.2⟩
  | .lambda quantifier parent name body =>
      cases tree' <;> simp [outline, node, Quantifier.outline_injective.eq_iff] at same ⊢
      exact ⟨same.1, outline_injective _ _ same.2.1, same.2.2.1, outline_injective _ _ same.2.2.2⟩
  | .nonempty parent =>
      cases tree' <;> simp [outline, node] at same ⊢
      exact outline_injective _ _ same

theorem outline_parent_injective (parent parent' : Option Expr)
    (same : outlineParent parent = outlineParent parent') : parent = parent' := by
  match parent, parent' with
  | none, none => rfl
  | none, some tree => cases same
  | some tree, none => cases same
  | some tree, some tree' => rw [outline_injective tree tree' (Outline.present.inj same)]

theorem outline_items_injective (trees trees' : List Expr)
    (same : outlineItems trees = outlineItems trees') : trees = trees' := by
  match trees, trees' with
  | [], [] => rfl
  | [], tree :: rest => cases same
  | tree :: rest, [] => cases same
  | tree :: rest, tree' :: rest' =>
      obtain ⟨first, others⟩ := List.cons.inj same
      rw [outline_injective tree tree' first, outline_items_injective rest rest' others]

end

end Expr

theorem Outline.of_option_injective {α : Type} {outline : α → Outline} (injective : Function.Injective outline) :
    Function.Injective (Outline.ofOption outline) := fun value value' same => by
  match value, value' with
  | none, none => rfl
  | none, some value' => cases same
  | some value, none => cases same
  | some value, some value' => rw [injective (Outline.present.inj same)]

theorem Outline.list_injective {α : Type} {outline : α → Outline} (injective : Function.Injective outline) :
    Function.Injective fun values : List α => Outline.list (values.map outline) := fun _ _ same =>
  List.map_injective_iff.mpr injective (Outline.list.inj same)

theorem Expr.outlines_injective : Function.Injective Expr.outline := fun tree tree' => Expr.outline_injective tree tree'

theorem Direction.outline_injective : Function.Injective Direction.outline := fun direction direction' same => by
  cases direction <;> cases direction' <;> simp_all [outline]

theorem OrderItem.outline_injective : Function.Injective OrderItem.outline := fun item item' same => by
  obtain ⟨expression, direction⟩ := item
  obtain ⟨expression', direction'⟩ := item'
  simpa [outline, Expr.outlines_injective.eq_iff, Direction.outline_injective.eq_iff] using same

theorem ComputeItem.outline_injective : Function.Injective ComputeItem.outline := fun item item' same => by
  obtain ⟨expression, name⟩ := item
  obtain ⟨expression', name'⟩ := item'
  simpa [outline, Expr.outlines_injective.eq_iff] using same

theorem OrderItem.outline_list_injective : Function.Injective OrderItem.outlineList :=
  Outline.list_injective OrderItem.outline_injective

theorem ComputeItem.outline_list_injective : Function.Injective ComputeItem.outlineList := fun items items' same => by
  simp only [outlineList, fields, Outline.record.injEq, List.cons.injEq, Prod.mk.injEq, true_and, and_true] at same
  exact Outline.list_injective ComputeItem.outline_injective same

theorem path_outline_injective : Function.Injective pathOutline := fun path path' same => by
  simp only [pathOutline, Outline.record.injEq, List.cons.injEq, Prod.mk.injEq, true_and, and_true] at same
  exact Outline.list_injective (fun _ _ => Outline.text.inj) same

theorem Levels.outline_injective : Function.Injective Levels.outline := fun levels levels' same => by
  cases levels <;> cases levels' <;> simp_all [outline]

theorem AggregationMethod.outline_injective : Function.Injective AggregationMethod.outline := fun method method' same => by
  cases method <;> cases method' <;> simp_all [outline]

theorem Aggregate.outline_injective : Function.Injective Aggregate.outline := fun aggregate aggregate' same => by
  obtain ⟨expression, method, name⟩ := aggregate
  obtain ⟨expression', method', name'⟩ := aggregate'
  simpa [outline, Expr.outlines_injective.eq_iff, AggregationMethod.outline_injective.eq_iff] using same

namespace Transformation

mutual

theorem outline_injective (given given' : Transformation) (same : given.outline = given'.outline) : given = given' := by
  match given with
  | .aggregate aggregates =>
      cases given' <;> simp [outline, node, ComputeItem.fields] at same ⊢
      exact List.map_injective_iff.mpr Aggregate.outline_injective same
  | .groupBy properties children =>
      cases given' <;> simp [outline, node, ComputeItem.fields] at same ⊢
      exact ⟨List.map_injective_iff.mpr Expr.outlines_injective same.1, outline_items_injective _ _ same.2⟩
  | .filter condition =>
      cases given' <;> simp [outline, node, ComputeItem.fields] at same ⊢
      exact Expr.outlines_injective same
  | .compute items =>
      cases given' <;> simp [outline, node, ComputeItem.fields] at same ⊢
      exact List.map_injective_iff.mpr ComputeItem.outline_injective same

theorem outline_items_injective (given given' : List Transformation)
    (same : outlineItems given = outlineItems given') : given = given' := by
  match given, given' with
  | [], [] => rfl
  | [], first :: rest => cases same
  | first :: rest, [] => cases same
  | first :: rest, first' :: rest' =>
      obtain ⟨head, tail⟩ := List.cons.inj same
      rw [outline_injective first first' head, outline_items_injective rest rest' tail]

end

end Transformation

theorem ItemOptions.fields_injective {path path' : List String} {options options' : ItemOptions} {select select' : Outline}
    (same : options.fields path select = options'.fields path' select') :
    path = path' ∧ options = options' ∧ select = select' := by
  obtain ⟨filter, orderBy, top, skip, count, search, compute⟩ := options
  obtain ⟨filter', orderBy', top', skip', count', search', compute'⟩ := options'
  simp only [fields, List.cons.injEq, Prod.mk.injEq, true_and, and_true, path_outline_injective.eq_iff,
    (Outline.of_option_injective Expr.outlines_injective).eq_iff,
    (Outline.of_option_injective OrderItem.outline_list_injective).eq_iff,
    (Outline.of_option_injective ComputeItem.outline_list_injective).eq_iff,
    (Outline.of_option_injective fun _ _ => Outline.nat.inj).eq_iff,
    (Outline.of_option_injective fun _ _ => Outline.bool.inj).eq_iff] at same
  obtain ⟨rfl, rfl, rfl, rfl, rfl, rfl, rfl, rfl, rfl⟩ := same
  exact ⟨rfl, rfl, rfl⟩

namespace SelectItem

mutual

theorem outline_injective (item item' : SelectItem) (same : item.outline = item'.outline) : item = item' := by
  match item, item' with
  | ⟨path, options, nested⟩, ⟨path', options', nested'⟩ =>
      obtain ⟨rfl, rfl, select⟩ := ItemOptions.fields_injective (Outline.record.inj same).2
      rw [outline_nested_injective nested nested' select]

theorem outline_nested_injective (nested nested' : Option (List SelectItem))
    (same : outlineNested nested = outlineNested nested') : nested = nested' := by
  match nested, nested' with
  | none, none => rfl
  | none, some items => cases same
  | some items, none => cases same
  | some items, some items' =>
      simp only [outlineNested, Outline.present.injEq, Outline.record.injEq, List.cons.injEq, Prod.mk.injEq,
        Outline.list.injEq, true_and, and_true] at same
      rw [outline_items_injective items items' same]

theorem outline_items_injective (items items' : List SelectItem)
    (same : outlineItems items = outlineItems items') : items = items' := by
  match items, items' with
  | [], [] => rfl
  | [], first :: rest => cases same
  | first :: rest, [] => cases same
  | first :: rest, first' :: rest' =>
      obtain ⟨head, tail⟩ := List.cons.inj same
      rw [outline_injective first first' head, outline_items_injective rest rest' tail]

end

end SelectItem

namespace ExpandItem

mutual

theorem outline_injective (item item' : ExpandItem) (same : item.outline = item'.outline) : item = item' := by
  match item, item' with
  | ⟨path, options, nested, further, levels⟩, ⟨path', options', nested', further', levels'⟩ =>
      obtain ⟨front, back⟩ := List.append_inj (Outline.record.inj same).2 rfl
      obtain ⟨rfl, rfl, select⟩ := ItemOptions.fields_injective front
      simp only [List.cons.injEq, Prod.mk.injEq, true_and, and_true] at back
      rw [SelectItem.outline_nested_injective nested nested' select, outline_nested_injective further further' back.1,
        Outline.of_option_injective Levels.outline_injective back.2]

theorem outline_nested_injective (nested nested' : Option (List ExpandItem))
    (same : outlineNested nested = outlineNested nested') : nested = nested' := by
  match nested, nested' with
  | none, none => rfl
  | none, some items => cases same
  | some items, none => cases same
  | some items, some items' =>
      simp only [outlineNested, Outline.present.injEq, Outline.record.injEq, List.cons.injEq, Prod.mk.injEq,
        Outline.list.injEq, true_and, and_true] at same
      rw [outline_items_injective items items' same]

theorem outline_items_injective (items items' : List ExpandItem)
    (same : outlineItems items = outlineItems items') : items = items' := by
  match items, items' with
  | [], [] => rfl
  | [], first :: rest => cases same
  | first :: rest, [] => cases same
  | first :: rest, first' :: rest' =>
      obtain ⟨head, tail⟩ := List.cons.inj same
      rw [outline_injective first first' head, outline_items_injective rest rest' tail]

end

end ExpandItem

namespace ParsedOption

theorem outline_injective : Function.Injective outline := fun parsed parsed' same => by
  cases parsed <;> cases parsed' <;>
    simp [outline, node, SelectItem.outlineList, ExpandItem.outlineList] at same ⊢
  case filter.filter => exact Expr.outlines_injective same
  case search.search => exact Expr.outlines_injective same
  case orderBy.orderBy => exact OrderItem.outline_list_injective same
  case compute.compute => exact ComputeItem.outline_list_injective same
  case select.select => exact SelectItem.outline_items_injective _ _ same
  case expand.expand => exact ExpandItem.outline_items_injective _ _ same
  case apply.apply => exact Transformation.outline_items_injective _ _ same

open ValueType (variants variants_legible fits_parsed fits_expr fits_quantifier fits_variant)

-- Two options with the same JSON text are equal, whichever options they are and whatever
-- text they hold. The same is true of all values of their types, also of those that no
-- parse gives: quantified conditions with a variable and no body, or without a variable.
theorem json_unambiguous :
    (∀ parsed parsed' : ParsedOption,
      (parsed.outline.print .json = parsed'.outline.print .json ↔ parsed = parsed') ∧
        (parsed.outline.print .prettyJson = parsed'.outline.print .prettyJson ↔ parsed = parsed')) ∧
    (∀ parsed : ParsedOption, Outline.Fits variants (.named .option) parsed.outline) ∧
    ∀ outline outline', Outline.Fits variants (.named .option) outline →
      Outline.Fits variants (.named .option) outline' →
        (outline.print .json = outline'.print .json ↔ outline = outline') ∧
          (outline.print .prettyJson = outline'.print .prettyJson ↔ outline = outline') := by
  refine ⟨fun parsed parsed' => ?_, fits_parsed, fun outline outline' => Outline.Fits.print_injective variants_legible⟩
  have told := Outline.Fits.print_injective variants_legible (fits_parsed parsed) (fits_parsed parsed')
  rwa [outline_injective.eq_iff] at told

theorem bodiless_json_unambiguous :
    let bodiless (name : Outline) : Outline := node "Filter" (Expr.node "Lambda" [("kind", .word "All"),
      ("parent", Expr.outline (.endPath "Items" none)), ("variable", name), ("expression", .absent)])
    let unnamed := bodiless .absent
    let named := bodiless (.present (.text "null"))
    Outline.Fits variants (.named .option) unnamed ∧ Outline.Fits variants (.named .option) named ∧
      unnamed.print .json ≠ named.print .json ∧ unnamed.print .prettyJson ≠ named.print .prettyJson := by
  intro bodiless unnamed named
  have fits {name : Outline} (given : Outline.Fits variants (.optional .text) name) :
      Outline.Fits variants (.named .option) (bodiless name) :=
    have condition : Outline.Fits variants (.named .expr) (Expr.node "Lambda" [("kind", .word "All"),
        ("parent", Expr.outline (.endPath "Items" none)), ("variable", name), ("expression", .absent)]) :=
      fits_variant 11 (by decide) (.cons (fits_quantifier .all) (.cons (fits_expr (.endPath "Items" none))
        (.cons given (.cons (.absent _) .nil)))) rfl
    fits_variant 0 (by decide) (.cons condition .nil) rfl
  have different : unnamed ≠ named := by simp [unnamed, named, bodiless, node, Expr.node]
  have fits_unnamed := fits (.absent .text)
  have fits_named := fits (.present rfl (.text "null"))
  obtain ⟨compact, pretty⟩ := json_unambiguous.2.2 unnamed named fits_unnamed fits_named
  exact ⟨fits_unnamed, fits_named, fun same => different (compact.mp same), fun same => different (pretty.mp same)⟩

end ParsedOption

end QueryOptions
