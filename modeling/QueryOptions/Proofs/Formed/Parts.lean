import QueryOptions.Proofs.Formed.Items

set_option autoImplicit false

namespace QueryOptions

-- An item without the lists of items inside of it.
structure Entry where
  kind : ItemKind
  path : List String
  options : ItemOptions

mutual

def SelectItem.entries : SelectItem → List Entry
  | ⟨path, options, select⟩ => ⟨.select, path, options⟩ :: SelectItem.entriesGiven select

def SelectItem.entriesGiven : Option (List SelectItem) → List Entry
  | none => []
  | some items => SelectItem.entriesListed items

def SelectItem.entriesListed : List SelectItem → List Entry
  | [] => []
  | item :: items => item.entries ++ SelectItem.entriesListed items

end

mutual

def ExpandItem.entries : ExpandItem → List Entry
  | ⟨path, options, select, expand, _⟩ =>
      ⟨.expand, path, options⟩ :: (SelectItem.entriesGiven select ++ ExpandItem.entriesGiven expand)

def ExpandItem.entriesGiven : Option (List ExpandItem) → List Entry
  | none => []
  | some items => ExpandItem.entriesListed items

def ExpandItem.entriesListed : List ExpandItem → List Entry
  | [] => []
  | item :: items => item.entries ++ ExpandItem.entriesListed items

end

mutual

def Transformation.stages : Transformation → List Transformation
  | .groupBy properties children => .groupBy properties children :: Transformation.stagesListed children
  | other => [other]

def Transformation.stagesListed : List Transformation → List Transformation
  | [] => []
  | transformation :: others => transformation.stages ++ Transformation.stagesListed others

end

def ItemOptions.expressions (options : ItemOptions) : List Expr :=
  options.filter.toList ++ (options.orderBy.getD []).map (·.expression) ++ (options.compute.getD []).map (·.expression)

def Transformation.expressions : Transformation → List Expr
  | .aggregate aggregates => aggregates.map (·.expression)
  | .groupBy properties _ => properties
  | .filter condition => [condition]
  | .compute items => items.map (·.expression)

def Transformation.aggregates : Transformation → List Aggregate
  | .aggregate aggregates => aggregates
  | _ => []

namespace ParsedOption

def entries : ParsedOption → List Entry
  | select items => SelectItem.entriesListed items
  | expand items => ExpandItem.entriesListed items
  | _ => []

def stages : ParsedOption → List Transformation
  | apply transformations => Transformation.stagesListed transformations
  | _ => []

def expressions (parsed : ParsedOption) : List Expr :=
  let own := match parsed with
    | filter condition => [condition]
    | orderBy items => items.map (·.expression)
    | compute items => items.map (·.expression)
    | _ => []
  own ++ parsed.entries.flatMap (·.options.expressions) ++ parsed.stages.flatMap (·.expressions)

def searches (parsed : ParsedOption) : List Expr :=
  let own := match parsed with
    | search condition => [condition]
    | _ => []
  own ++ parsed.entries.flatMap (·.options.search.toList)

def aggregates (parsed : ParsedOption) : List Aggregate := parsed.stages.flatMap (·.aggregates)

end ParsedOption

variable {settings : Settings} {scope : List String}

structure Entry.Formed (settings : Settings) (scope : List String) (entry : Entry) : Prop where
  spelled : Items.PathFormed settings entry.kind entry.path
  given : entry.options.Formed settings scope

def Expr.Derived (settings : Settings) (scope : List String) (tree : Expr) : Prop :=
  tree.Formed settings scope ∨ tree.GroupingProperty settings scope

theorem given_parts {α β : Type} {items : Option (List α)} {parts : α → List β} {told : β → Prop}
    (each : ∀ list, items = some list → ∀ item ∈ list, ∀ part ∈ parts item, told part) :
    ∀ part ∈ (items.getD []).flatMap parts, told part := by
  cases items with
  | none => exact List.forall_mem_nil _
  | some list => exact List.forall_mem_flatMap.mpr (each list rfl)

namespace SelectItem

theorem entries_listed (items : List SelectItem) : entriesListed items = items.flatMap entries := by
  induction items with
  | nil => rfl
  | cons item items ih => rw [entriesListed, ih, List.flatMap_cons]

theorem entries_given (items : Option (List SelectItem)) : entriesGiven items = (items.getD []).flatMap entries := by
  cases items with
  | none => rfl
  | some list => exact entries_listed list

theorem entries_formed {item : SelectItem} (formed : item.Formed settings scope) :
    ∀ entry ∈ item.entries, entry.Formed settings scope := by
  induction formed with
  | mk spelled given _ ih =>
      rw [entries, entries_given, List.forall_mem_cons]
      exact ⟨⟨spelled, given⟩, given_parts ih⟩

end SelectItem

namespace ExpandItem

theorem entries_listed (items : List ExpandItem) : entriesListed items = items.flatMap entries := by
  induction items with
  | nil => rfl
  | cons item items ih => rw [entriesListed, ih, List.flatMap_cons]

theorem entries_given (items : Option (List ExpandItem)) : entriesGiven items = (items.getD []).flatMap entries := by
  cases items with
  | none => rfl
  | some list => exact entries_listed list

theorem entries_formed {item : ExpandItem} (formed : item.Formed settings scope) :
    ∀ entry ∈ item.entries, entry.Formed settings scope := by
  induction formed with
  | mk spelled given selected _ _ ih =>
      rw [entries, SelectItem.entries_given, entries_given, List.forall_mem_cons, List.forall_mem_append]
      refine ⟨⟨spelled, given⟩, given_parts fun list same item listed => ?_, given_parts ih⟩
      exact SelectItem.entries_formed (selected list same item listed)

end ExpandItem

namespace Transformation

theorem stages_listed (transformations : List Transformation) :
    stagesListed transformations = transformations.flatMap stages := by
  induction transformations with
  | nil => rfl
  | cons transformation others ih => rw [stagesListed, ih, List.flatMap_cons]

theorem stages_formed {transformation : Transformation} (formed : transformation.Formed settings scope) :
    ∀ stage ∈ transformation.stages, stage.Formed settings scope := by
  induction formed with
  | aggregate some each => exact List.forall_mem_singleton.mpr (.aggregate some each)
  | groupBy some each others ih =>
      rw [stages, stages_listed, List.forall_mem_cons, List.forall_mem_flatMap]
      exact ⟨.groupBy some each others, ih⟩
  | filter formed => exact List.forall_mem_singleton.mpr (.filter formed)
  | compute some each => exact List.forall_mem_singleton.mpr (.compute some each)

theorem expressions_derived {stage : Transformation} (formed : stage.Formed settings scope) :
    ∀ tree ∈ stage.expressions, tree.Derived settings scope := by
  cases formed with
  | aggregate _ each => exact List.forall_mem_map.mpr fun aggregate listed => .inl (each aggregate listed).expression
  | groupBy _ each => exact fun tree listed => .inr (each tree listed)
  | filter formed => exact List.forall_mem_singleton.mpr (.inl formed)
  | compute _ each => exact List.forall_mem_map.mpr fun item listed => .inl (each item listed).expression

theorem aggregates_formed {stage : Transformation} (formed : stage.Formed settings scope) :
    ∀ aggregate ∈ stage.aggregates, aggregate.Formed settings scope := by
  cases formed with
  | aggregate _ each => exact each
  | groupBy | filter | compute => exact List.forall_mem_nil _

end Transformation

theorem ItemOptions.expressions_formed {options : ItemOptions} (formed : options.Formed settings scope) :
    ∀ tree ∈ options.expressions, tree.Formed settings scope := by
  have listed {α : Type} {items : Option (List α)} {told : α → Prop} (each : ∀ list ∈ items, ∀ item ∈ list, told item) :
      ∀ item ∈ items.getD [], told item := by
    cases items with
    | none => exact List.forall_mem_nil _
    | some list => exact each list rfl
  simp only [expressions, List.forall_mem_append, List.forall_mem_map, Option.mem_toList]
  refine ⟨⟨formed.filter, ?_⟩, ?_⟩
  · exact listed fun items given => (formed.orderBy items given).2
  · exact fun item member => (listed (fun items given => (formed.compute items given).2) item member).expression

namespace ParsedOption

variable {parsed : ParsedOption}

theorem entries_formed (formed : parsed.Formed settings scope) : ∀ entry ∈ parsed.entries, entry.Formed settings scope := by
  cases parsed with
  | select items =>
      rw [entries, SelectItem.entries_listed, List.forall_mem_flatMap]
      exact fun item listed => SelectItem.entries_formed (formed item listed)
  | expand items =>
      rw [entries, ExpandItem.entries_listed, List.forall_mem_flatMap]
      exact fun item listed => ExpandItem.entries_formed (formed item listed)
  | _ => exact List.forall_mem_nil _

theorem stages_formed (formed : parsed.Formed settings scope) : ∀ stage ∈ parsed.stages, stage.Formed settings scope := by
  cases parsed with
  | apply transformations =>
      rw [stages, Transformation.stages_listed, List.forall_mem_flatMap]
      exact fun transformation listed => Transformation.stages_formed (formed.2 transformation listed)
  | _ => exact List.forall_mem_nil _

theorem expressions_derived (formed : parsed.Formed settings scope) :
    ∀ tree ∈ parsed.expressions, tree.Derived settings scope := by
  simp only [expressions, List.forall_mem_append, List.forall_mem_flatMap]
  refine ⟨⟨?_, fun entry listed tree member => ?_⟩, fun stage listed => ?_⟩
  · cases parsed with
    | filter condition => exact List.forall_mem_singleton.mpr (.inl formed)
    | orderBy items => exact List.forall_mem_map.mpr fun item listed => .inl (formed.2 item listed)
    | compute items => exact List.forall_mem_map.mpr fun item listed => .inl (formed.2 item listed).expression
    | _ => exact List.forall_mem_nil _
  · exact .inl (ItemOptions.expressions_formed (entries_formed formed entry listed).given tree member)
  · exact Transformation.expressions_derived (stages_formed formed stage listed)

theorem searches_formed (formed : parsed.Formed settings scope) : ∀ tree ∈ parsed.searches, Search.Formed tree := by
  simp only [searches, List.forall_mem_append, List.forall_mem_flatMap, Option.mem_toList]
  refine ⟨?_, fun entry listed => (entries_formed formed entry listed).given.search⟩
  cases parsed with
  | search condition => exact List.forall_mem_singleton.mpr formed
  | _ => exact List.forall_mem_nil _

theorem aggregates_formed (formed : parsed.Formed settings scope) :
    ∀ aggregate ∈ parsed.aggregates, aggregate.Formed settings scope := by
  simp only [aggregates, List.forall_mem_flatMap]
  exact fun stage listed => Transformation.aggregates_formed (stages_formed formed stage listed)

end ParsedOption

end QueryOptions
