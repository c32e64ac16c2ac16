import QueryOptions.Proofs.Rendering.Pipeline

set_option autoImplicit false

namespace QueryOptions

open Parse Expression

variable {settings : Settings} {keyword : BinaryOperator → String}

def Settings.Holds (settings : Settings) (text : List Char) : Prop := 8 * (Text.byteLength text + 1) ≤ settings.maxDepth

theorem restores_parses {α : Type} {option : QueryOption} {rule : Nat → Parse α} {make : α → ParsedOption}
    {ends : List Char → Prop} {follows : Lexeme → Prop} {text : List Char} {value : α}
    (grammar : ∀ levels, option.grammar settings levels =
      (do let value ← rule levels; expectEnd; pure value : Parse α) >>= fun value => pure (make value))
    (dialect : option.dialect = .expression) (restores : Restores rule Context.standing ends follows text value)
    (alone : ends []) (last : ∀ lexeme : Lexeme, lexeme.kind = .finish → follows lexeme) (room : settings.Holds text) :
    parse settings option (String.ofList text) = .ok (make value) := by
  obtain ⟨own, -, written, brings⟩ := restores
  have spelled : Spelled .expression (String.ofList text).toList own := by
    rw [String.toList_ofList]
    exact spelled_written written alone
  refine Brings.parses dialect spelled ?_ (by rwa [String.toList_ofList])
  rw [grammar]
  exact ((brings settings.maxDepth).whole last).of_bind_pure make

theorem search_text_parses {tree : Expr} (formed : Search.Formed tree) (room : settings.Holds tree.searchText) :
    parse settings .search (String.ofList tree.searchText) = .ok (.search tree) := by
  obtain ⟨search, rfl⟩ := formed
  rw [search_text] at room ⊢
  rw [String.ofList_toList]
  have nothing : Spelled .search [] [] := .blank rfl
  have spelled := Search.spelled_render search nothing
  rw [List.append_nil, List.append_nil] at spelled
  have enough : search.levels ≤ settings.maxDepth := by
    have long := Search.levels_fit search
    have bytes := Text.length_le_byteLength search.render.toList
    unfold Settings.Holds at room
    omega
  refine search_of_gets spelled (Search.whole_gets ?_)
  have gets := @Search.tree_gets settings search _ [] enough ⟨⟨rfl, rfl⟩, rfl⟩
  rwa [List.append_nil] at gets

section

variable (fixed : Keywords keyword) (plain : settings.customOperators = []) (exact : settings.ignoreCase = false)

include fixed plain exact

theorem filter_text_parses {tree : Expr} (formed : tree.Formed settings Context.standing)
    (room : settings.Holds (tree.render keyword)) :
    parse settings .filter (String.ofList (tree.render keyword)) = .ok (.filter tree) :=
  restores_parses (fun _ => rfl) rfl (expression_restores fixed plain exact formed) (fun _ none => by cases none)
    (fun _ finish => ends_expression_of_kind finish (by decide)) room

theorem order_text_parses {items : List OrderItem} (some : items ≠ [])
    (formed : ∀ item ∈ items, item.Formed settings Context.standing)
    (room : settings.Holds (punctuated ',' (items.map (·.render keyword)))) :
    parse settings .orderBy (String.ofList (punctuated ',' (items.map (·.render keyword)))) = .ok (.orderBy items) := by
  have listed : Restores _ _ _ (fun lexeme => True ∧ _) _ items := restores_commas some
    (fun item member => order_restores fixed plain exact (formed item member)) fun _ _ => trivial
  exact restores_parses (fun _ => rfl) rfl listed (fun _ none => by cases none)
    (fun _ finish => ⟨trivial, by rw [finish]; decide⟩) room

theorem compute_text_parses {items : List ComputeItem} (some : items ≠ [])
    (formed : ∀ item ∈ items, item.Formed settings Context.standing)
    (room : settings.Holds (punctuated ',' (items.map (·.render keyword)))) :
    parse settings .compute (String.ofList (punctuated ',' (items.map (·.render keyword)))) = .ok (.compute items) := by
  have listed : Restores _ _ _ (fun lexeme => True ∧ _) _ items := restores_commas some
    (fun item member => compute_restores fixed plain exact (formed item member)) fun _ _ => trivial
  exact restores_parses (fun _ => rfl) rfl listed (fun _ none => by cases none)
    (fun _ finish => ⟨trivial, by rw [finish]; decide⟩) room

theorem pipeline_text_parses {transformations : List Transformation} (some : transformations ≠ [])
    (formed : ∀ transformation ∈ transformations, transformation.Formed settings Context.standing)
    (room : settings.Holds (punctuated '/' (transformations.map (·.render keyword)))) :
    parse settings .apply (String.ofList (punctuated '/' (transformations.map (·.render keyword)))) =
      .ok (.apply transformations) := by
  have listed : Restores _ _ _ (fun lexeme => True ∧ _) _ transformations := restores_punctuated some
    (fun transformation member => Apply.transformation_restores fixed plain exact (formed transformation member))
    (show _ ∧ punctuation? '/' = .some .slash ∧ _ by decide) (fun _ => trivial) fun _ _ => trivial
  exact restores_parses (fun _ => rfl) rfl listed trivial (fun _ finish => ⟨trivial, by rw [finish]; decide⟩) room

end

end QueryOptions
