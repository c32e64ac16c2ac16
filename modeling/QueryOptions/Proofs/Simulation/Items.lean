import QueryOptions.Context
import QueryOptions.Proofs.Simulation.Options

set_option autoImplicit false

namespace QueryOptions

open Parse

def behindParen {α : Type} (f : Nat → Parse α) : Parse α := do
  let position := (← current).position
  expect .openParen "'('"
  f position

structure NestedSimulation [Counter] (settings settings' : Settings) (place : String → Nat → Nat → Prop) (Sim : Relation) :
    Prop extends Simulation settings settings' place Sim where
  within : ∀ {α : Type} (text : String) (dialect : Dialect) {position position' : Nat} {p q : Parse α},
    place text position position' → Sim .rule α p q →
    Sim .rule α (within text dialect position p) (within text dialect position' q)
  optionValue : ∀ {α : Type} {f g : String × Nat → Parse α},
    (∀ value position position', place value position position' →
      Sim .rule α (f (value, position)) (g (value, position'))) →
    Sim .rule α (move Cursor.optionValue >>= f) (move Cursor.optionValue >>= g)
  behindParen : ∀ {α : Type} {f g : Nat → Parse α},
    (∀ position position', place "(" position position' → Sim .rule α (f position) (g position')) →
    Sim .rule α (behindParen f) (behindParen g)
  length : ∀ {α : Type} {f g : Nat → Parse α}, (∀ length, Sim .rule α (f length) (g length)) →
    Sim .rule α (do f (← get).cursor.rest.length) (do g (← get).cursor.rest.length)

theorem Sequencing.behindParen {place : Nat → Nat → Prop} {Sim : Relation} (S : Sequencing (fun _ => place) Sim)
    {α : Type} {f g : Nat → Parse α}
    (steps : ∀ position position', place position position' → Sim .rule α (f position) (g position')) :
    Sim .rule α (behindParen f) (behindParen g) :=
  S.current fun _ _ _ _ alike => S.bind (S.expect _ _) fun _ => steps _ _ alike

namespace Items

variable [Counter] {settings settings' : Settings} {place : String → Nat → Nat → Prop} {Sim : Relation}
variable (S : NestedSimulation settings settings' place Sim)

include S

theorem refuse_related (fault : Option PathFault) {piece : String} {position position' : Nat}
    (alike : place piece position position') :
    Sim .rule _ (refuse fault position) (refuse fault position') := by
  cases fault with
  | none => exact S.pure _
  | some fault => exact S.fail ⟨fun _ => rfl, fun _ _ => rfl, fun _ _ => Text.stands_boundary⟩ alike

theorem segmentName_related (kind : ItemKind) :
    Sim .rule _ (segmentName settings kind) (segmentName settings' kind) := by
  obtain ⟨limit, rfl⟩ := S.limit
  exact S.current fun _ _ _ _ alike => ite_related
    (ite_related (S.bind S.advance fun _ => S.pure _)
      (S.fail ⟨fun _ => rfl, fun _ _ => rfl, fun _ _ => Text.stands_boundary⟩ alike))
    (S.dottedName true)

theorem segment_related (kind : ItemKind) (count : Nat) (last : Option String) :
    Sim .rule _ (segment settings kind count last) (segment settings' kind count last) := by
  have name := segmentName_related S kind
  obtain ⟨limit, rfl⟩ := S.limit
  refine S.current fun _ _ position position' alike => S.bind name fun segment => ?_
  have bounded : Sim .rule _
      (if settings.maxPathLength < count + 1 then
        throw (.invalidPath (.tooLong settings.maxPathLength) position) else pure segment)
      (if settings.maxPathLength < count + 1 then
        throw (.invalidPath (.tooLong settings.maxPathLength) position') else pure segment) :=
    ite_related (S.fail ⟨fun _ => rfl, fun _ _ => rfl, fun _ _ => Text.stands_boundary⟩ alike) (S.pure _)
  exact ite_related (S.bind (refuse_related S _ alike) fun _ => bounded) bounded

theorem segments_related (kind : ItemKind) (fuel count : Nat) (last : Option String) :
    Sim .rule _ (segments settings kind fuel count last) (segments settings' kind fuel count last) := by
  induction fuel generalizing count last with
  | zero => exact S.pure _
  | succ fuel ih =>
      refine S.bind (segment_related S kind count last) fun first => S.bind (S.atKind _) fun _ => ?_
      exact ite_related
        (S.current fun _ _ _ _ alike => S.bind (refuse_related S _ alike) fun _ =>
          S.bind S.advance fun _ => S.bind (ih _ _) fun _ => S.pure _)
        (S.pure _)

theorem path_related (kind : ItemKind) : Sim .rule _ (path settings kind) (path settings' kind) :=
  S.length fun length => segments_related S kind (length + 1) 0 none

theorem countValue_related (option : ItemOption) (value : String) {position position' : Nat}
    (alike : place value position position') :
    Sim .rule _ (countValue option value position) (countValue option value position') := by
  unfold countValue
  split
  · exact S.pure _
  · exact S.fail ⟨fun _ => rfl, fun _ _ => rfl, fun _ _ => id⟩ alike

theorem boolValue_related (option : ItemOption) (value : String) {position position' : Nat}
    (alike : place value position position') :
    Sim .rule _ (boolValue option value position) (boolValue option value position') := by
  unfold boolValue
  exact ite_related (S.pure _)
    (ite_related (S.pure _) (S.fail ⟨fun _ => rfl, fun _ _ => rfl, fun _ _ => id⟩ alike))

theorem levelsValue_related (option : ItemOption) (value : String) {position position' : Nat}
    (alike : place value position position') :
    Sim .rule _ (levelsValue option value position) (levelsValue option value position') :=
  ite_related (S.pure _) (S.bind (countValue_related S option value alike) fun _ => S.pure _)

theorem optionName_related (kind : ItemKind) (seen : List ItemOption) :
    Sim .rule _ (optionName settings kind seen) (optionName settings' kind seen) := by
  obtain ⟨limit, rfl⟩ := S.limit
  refine S.current fun _ text _ _ alike => ite_related ?_ (S.failExpected _)
  have unknown : Positional text (ParseError.unknownOption text) := ⟨fun _ => rfl, fun _ _ => rfl, fun _ _ => id⟩
  have duplicate (option : ItemOption) : Positional text (ParseError.duplicateOption option.name) :=
    ⟨fun _ => rfl, fun _ _ => rfl, fun _ _ => Text.stands_boundary⟩
  dsimp only
  rw [show kind.option? (settings.withDepth limit) text = kind.option? settings text from rfl]
  cases kind.option? settings text with
  | none => exact S.fail unknown alike
  | some option =>
      exact S.bind S.advance fun _ => S.bind (S.atKind _) fun _ => ite_related
        (ite_related (S.fail (duplicate option) alike) (S.pure _)) (S.failExpected _)

def NestedRelated (place : String → Nat → Nat → Prop) (Sim : Relation)
    (nested nested' : ItemKind → String → Nat → Parse (List Item)) : Prop :=
  ∀ kind value position position', place value position position' →
    Sim .rule _ (nested kind value position) (nested' kind value position')

section

variable {levels levels' : Nat} (leaves : Leaves settings Sim levels levels')
variable {nested nested' : ItemKind → String → Nat → Parse (List Item)}
variable (lists : NestedRelated place Sim nested nested')

include leaves lists

theorem readValue_related (options : NestedOptions) (option : ItemOption) (value : String)
    {position position' : Nat} (alike : place value position position') :
    Sim .rule _ (readValue settings levels nested options option value position)
      (readValue settings' levels' nested' options option value position') := by
  have S' := S.toSimulation
  cases option with
  | filter =>
      exact S.bind (S.within _ _ alike (Expression.whole_related S'.wording _ _ leaves)) fun _ => S.pure _
  | orderBy => exact S.bind (S.within _ _ alike (Order.whole_related S'.wording _ _ leaves)) fun _ => S.pure _
  | top => exact S.bind (countValue_related S _ _ alike) fun _ => S.pure _
  | skip => exact S.bind (countValue_related S _ _ alike) fun _ => S.pure _
  | count => exact S.bind (boolValue_related S _ _ alike) fun _ => S.pure _
  | search => exact S.bind (S.within _ _ alike (Search.whole_related S'.toLevelling _ _ leaves)) fun _ => S.pure _
  | compute => exact S.bind (S.within _ _ alike (Compute.whole_related S'.wording _ _ leaves)) fun _ => S.pure _
  | select => exact S.bind (lists _ _ _ _ alike) fun _ => S.pure _
  | expand => exact S.bind (lists _ _ _ _ alike) fun _ => S.pure _
  | levels => exact S.bind (levelsValue_related S _ _ alike) fun _ => S.pure _

theorem optionsFrom_related (kind : ItemKind) (count : Nat) (seen : List ItemOption)
    (options : NestedOptions) :
    Sim .rule _ (optionsFrom settings kind levels nested count seen options)
      (optionsFrom settings' kind levels' nested' count seen options) := by
  induction count generalizing seen options with
  | zero => exact S.pure _
  | succ count ih =>
      refine S.bind (optionName_related S kind seen) fun option => S.optionValue ?_
      intro value position position' alike
      refine S.bind (readValue_related S leaves lists options option value alike) fun options => ?_
      exact S.bind (S.atKind _) fun _ => S.bind S.advance fun _ => ite_related (S.pure _) (ih _ _)

theorem options_related (kind : ItemKind) :
    Sim .rule _ (options settings kind levels nested) (options settings' kind levels' nested') :=
  have empty : Positional "(" ParseError.emptyOptionList := ⟨fun _ => rfl, fun _ _ => rfl, fun _ _ => id⟩
  S.behindParen
    (f := fun position => do
      if ← atKind .closeParen then throw (.emptyOptionList position)
      else optionsFrom settings kind levels nested ((← get).cursor.rest.length + 1) [] {})
    (g := fun position => do
      if ← atKind .closeParen then throw (.emptyOptionList position)
      else optionsFrom settings' kind levels' nested' ((← get).cursor.rest.length + 1) [] {})
    fun _ _ alike => S.bind (S.atKind _) fun _ => ite_related (S.fail empty alike)
    (S.length fun length => optionsFrom_related S leaves lists kind (length + 1) [] {})

theorem item_related (kind : ItemKind) :
    Sim .rule _ (item settings kind levels nested) (item settings' kind levels' nested') :=
  S.bind (path_related S kind) fun _ => S.bind (S.atKind _) fun _ => ite_related
    (S.bind (options_related S leaves lists kind) fun _ => S.pure _) (S.pure _)

theorem list_related (kind : ItemKind) :
    Sim .rule _ (list settings kind levels nested) (list settings' kind levels' nested') :=
  S.bind (S.atKind _) fun _ => ite_related (S.pure _)
    (S.bind (S.sepBy .comma (item_related S leaves lists kind)) fun _ => S.bind S.expectEnd fun _ => S.pure _)

end

theorem whole_related (kind : ItemKind) (levels levels' : Nat) (leaves : Leaves settings Sim levels levels') :
    Sim .rule _ (whole settings kind levels) (whole settings' kind levels') := by
  induction levels using Nat.strongRecOn generalizing kind levels' with
  | _ levels ih =>
      by_cases few : levels < 8
      · unfold whole
        split
        · omega
        · rcases leaves with rfl | ⟨le, free⟩
          · split
            · omega
            · exact list_related S (.inl rfl) (fun _ _ _ _ _ => S.tooDeep) kind
          · split <;> exact list_related S (.inr ⟨le, free⟩) (fun _ _ _ _ _ => free _) kind
      · obtain ⟨fewer, rfl⟩ : ∃ fewer, levels = fewer + 8 := ⟨levels - 8, by omega⟩
        obtain ⟨fewer', rfl, further⟩ := leaves_down 8 leaves
        refine list_related S leaves (fun kind value position position' alike => ?_) kind
        exact S.recurse 8 (S.within value .expression alike (ih fewer (by omega) kind fewer' further))

end Items

theorem grammar_related [Counter] {settings settings' : Settings} {place : String → Nat → Nat → Prop} {Sim : Relation}
    (S : NestedSimulation settings settings' place Sim) (option : QueryOption) {levels levels' : Nat}
    (leaves : Leaves settings Sim levels levels') :
    Sim .rule _ (option.grammar settings levels) (option.grammar settings' levels') := by
  have S' := S.toSimulation
  cases option with
  | filter => exact S.bind (Expression.whole_related S'.wording levels levels' leaves) fun _ => S.pure _
  | search => exact S.bind (Search.whole_related S'.toLevelling levels levels' leaves) fun _ => S.pure _
  | orderBy => exact S.bind (Order.whole_related S'.wording levels levels' leaves) fun _ => S.pure _
  | compute => exact S.bind (Compute.whole_related S'.wording levels levels' leaves) fun _ => S.pure _
  | select => exact S.bind (Items.whole_related S .select levels levels' leaves) fun _ => S.pure _
  | expand => exact S.bind (Items.whole_related S .expand levels levels' leaves) fun _ => S.pure _
  | apply => exact S.bind (Apply.whole_related S'.wording levels levels' leaves) fun _ => S.pure _

end QueryOptions
