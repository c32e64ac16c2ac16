import QueryOptions.Expr.Equality
import QueryOptions.QueryOption

set_option autoImplicit false

namespace QueryOptions

deriving instance DecidableEq for OrderItem
deriving instance DecidableEq for ComputeItem
deriving instance DecidableEq for Aggregate
deriving instance DecidableEq for ItemOptions

namespace Transformation

mutual

def same : Transformation → Transformation → Bool
  | .aggregate aggregates, .aggregate aggregates' => aggregates == aggregates'
  | .groupBy properties children, .groupBy properties' children' =>
      properties == properties' && sameAll children children'
  | .filter condition, .filter condition' => condition == condition'
  | .compute items, .compute items' => items == items'
  | _, _ => false

def sameAll : List Transformation → List Transformation → Bool
  | [], [] => true
  | child :: children, child' :: children' => same child child' && sameAll children children'
  | _, _ => false

end

mutual

theorem same_iff (transformation transformation' : Transformation) :
    same transformation transformation' ↔ transformation = transformation' := by
  cases transformation with
  | aggregate | filter | compute => cases transformation' <;> simp [same]
  | groupBy properties children => cases transformation' <;> simp [same, same_all_iff children]

theorem same_all_iff (children children' : List Transformation) : sameAll children children' ↔ children = children' := by
  cases children with
  | nil => cases children' <;> simp [sameAll]
  | cons child children => cases children' <;> simp [sameAll, same_iff child, same_all_iff children]

end

instance : DecidableEq Transformation := fun transformation transformation' =>
  decidable_of_iff (same transformation transformation' = true) (same_iff transformation transformation')

end Transformation

namespace SelectItem

mutual

def same : SelectItem → SelectItem → Bool
  | ⟨path, options, select⟩, ⟨path', options', select'⟩ =>
      path == path' && (options == options' && sameGiven select select')

def sameGiven : Option (List SelectItem) → Option (List SelectItem) → Bool
  | none, none => true
  | some items, some items' => sameAll items items'
  | _, _ => false

def sameAll : List SelectItem → List SelectItem → Bool
  | [], [] => true
  | item :: items, item' :: items' => same item item' && sameAll items items'
  | _, _ => false

end

mutual

theorem same_iff (item item' : SelectItem) : same item item' ↔ item = item' := by
  obtain ⟨path, options, select⟩ := item
  obtain ⟨path', options', select'⟩ := item'
  simp [same, same_given_iff select]

theorem same_given_iff (items items' : Option (List SelectItem)) : sameGiven items items' ↔ items = items' := by
  cases items with
  | none => cases items' <;> simp [sameGiven]
  | some list => cases items' <;> simp [sameGiven, same_all_iff list]

theorem same_all_iff (items items' : List SelectItem) : sameAll items items' ↔ items = items' := by
  cases items with
  | nil => cases items' <;> simp [sameAll]
  | cons item items => cases items' <;> simp [sameAll, same_iff item, same_all_iff items]

end

instance : DecidableEq SelectItem := fun item item' =>
  decidable_of_iff (same item item' = true) (same_iff item item')

end SelectItem

namespace ExpandItem

mutual

def same : ExpandItem → ExpandItem → Bool
  | ⟨path, options, select, expand, levels⟩, ⟨path', options', select', expand', levels'⟩ =>
      path == path' && (options == options' && (select == select' && (sameGiven expand expand' && levels == levels')))

def sameGiven : Option (List ExpandItem) → Option (List ExpandItem) → Bool
  | none, none => true
  | some items, some items' => sameAll items items'
  | _, _ => false

def sameAll : List ExpandItem → List ExpandItem → Bool
  | [], [] => true
  | item :: items, item' :: items' => same item item' && sameAll items items'
  | _, _ => false

end

mutual

theorem same_iff (item item' : ExpandItem) : same item item' ↔ item = item' := by
  obtain ⟨path, options, select, expand, levels⟩ := item
  obtain ⟨path', options', select', expand', levels'⟩ := item'
  simp [same, same_given_iff expand]

theorem same_given_iff (items items' : Option (List ExpandItem)) : sameGiven items items' ↔ items = items' := by
  cases items with
  | none => cases items' <;> simp [sameGiven]
  | some list => cases items' <;> simp [sameGiven, same_all_iff list]

theorem same_all_iff (items items' : List ExpandItem) : sameAll items items' ↔ items = items' := by
  cases items with
  | nil => cases items' <;> simp [sameAll]
  | cons item items => cases items' <;> simp [sameAll, same_iff item, same_all_iff items]

end

instance : DecidableEq ExpandItem := fun item item' =>
  decidable_of_iff (same item item' = true) (same_iff item item')

end ExpandItem

deriving instance DecidableEq for ParsedOption

end QueryOptions
