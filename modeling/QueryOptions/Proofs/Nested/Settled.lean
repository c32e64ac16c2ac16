import QueryOptions.Proofs.Nested.Pieces
import QueryOptions.Proofs.Recession

set_option autoImplicit false

namespace QueryOptions

open Parse

-- The first parse gives no more than the second one, which leaves the state as it is, whatever the text around.
def Settled {α : Type} (p q : Parse α) : Prop :=
  ∀ (state : ParseState) (value : α) (after : ParseState), p state = .ok value after →
    ∀ cursor, q { state with cursor := cursor } = .ok value { state with cursor := cursor }

variable {α β : Type} {settings : Settings} {levels : Nat} {p q : Parse α} {text : String} {position position' : Nat}

theorem settled_within {M : Motion} {levels cost : Nat} (body : Fits M settings .rule levels cost p)
    (back : Recession position 0 .rule α p p) (on : Extension position' 0 .rule α p p) :
    Settled (within text M.dialect position p) (within text M.dialect position' p) := by
  intro state value after done cursor
  rw [within_by_map] at done
  obtain ⟨there, ran, -⟩ := map_state_ok done
  -- The same run at the front of a text, and from there to the other place.
  have nearer : Recession position 0 .rule α (do advance; p) (do advance; p) :=
    Recession.of_bind (Recession.of_move Cursor.advance_shifts) fun _ => back
  obtain ⟨front, ran, -, -⟩ := nearer { state with cursor := .start text M.dialect 0 false } value there ran
  have further : Extension position' 0 .rule α (do advance; p) (do advance; p) :=
    Extension.of_bind (Extension.of_move Cursor.advance_shifts) fun _ => on
  have again := further { state with cursor := .start text M.dialect 0 false }
  rw [ran] at again
  have read : within text M.dialect position' p { state with cursor := cursor } =
      .ok value { front.shift position' 0 with cursor := cursor } := by
    rw [within_by_map]
    exact congrArg _ again
  have stays : Stays False { state with cursor := cursor }
      (within text M.dialect position' p { state with cursor := cursor }) :=
    within_stays body False.elim
  rw [read] at stays ⊢
  rw [show _ = _ from stays]

theorem recurse_again {count : Nat} {state after : ParseState} {value : α}
    (done : recurse settings count p state = .ok value after) {cursor : Cursor}
    (ran : q { state with cursor := cursor, depth := state.depth + count } =
      .ok value { state with cursor := cursor, depth := state.depth + count }) :
    recurse settings count q { state with cursor := cursor } = .ok value { state with cursor := cursor } := by
  obtain ⟨_, between, entered, -⟩ := bind_ok done
  have entered' : enter settings count { state with cursor := cursor } =
      .ok () { state with cursor := cursor, depth := state.depth + count } :=
    enter_done (enter_fits entered).1
  refine (bind_done entered').trans ((closing_ok ran (Nat.le_add_left _ _)).trans ?_)
  change EStateM.Result.ok value ({ state with cursor := cursor, depth := state.depth + count - count } : ParseState) = _
  rw [Nat.add_sub_cancel]

theorem settled_recurse {count : Nat} (body : Settled p q) : Settled (recurse settings count p) (recurse settings count q) := by
  intro state value after done cursor
  obtain ⟨before, ran, -⟩ := recurse_ok done
  exact recurse_again done (body _ value before ran cursor)

theorem settled_given (given : ∀ state value after, p state = .ok value after → q = pure value) : Settled p q := by
  intro state value after done cursor
  rw [given state value after done]
  rfl

theorem count_settled (option : ItemOption) (text : String) (position position' : Nat) :
    Settled (Items.countValue option text position) (Items.countValue option text position') := by
  refine settled_given fun state value after done => ?_
  unfold Items.countValue at done ⊢
  cases found : unsigned? (Text.trim text.toList) with
  | none =>
      rw [found] at done
      cases done
  | some count =>
      rw [found] at done
      cases done
      rfl

theorem bool_settled (option : ItemOption) (text : String) (position position' : Nat) :
    Settled (Items.boolValue option text position) (Items.boolValue option text position') := by
  refine settled_given fun state value after done => ?_
  unfold Items.boolValue at done ⊢
  dsimp only at done ⊢
  by_cases yes : Text.sameFolded (String.ofList (Text.trim text.toList)) "true"
  · rw [if_pos yes] at done ⊢
    cases done
    rfl
  · rw [if_neg yes] at done ⊢
    by_cases no : Text.sameFolded (String.ofList (Text.trim text.toList)) "false"
    · rw [if_pos no] at done ⊢
      cases done
      rfl
    · rw [if_neg no] at done
      cases done

theorem settled_map {f : α → β} (first : Settled p q) : Settled (do return f (← p)) (do return f (← q)) := by
  intro state value after done cursor
  obtain ⟨inner, between, ran, rest⟩ := bind_ok done
  cases rest
  exact bind_done (first state inner _ ran cursor)

theorem levels_settled (option : ItemOption) (text : String) (position position' : Nat) :
    Settled (Items.levelsValue option text position) (Items.levelsValue option text position') := by
  intro state value after done cursor
  unfold Items.levelsValue at done ⊢
  by_cases unbounded : Text.sameFolded (String.ofList (Text.trim text.toList)) "max"
  · rw [if_pos unbounded] at done ⊢
    cases done
    rfl
  · rw [if_neg unbounded] at done ⊢
    exact settled_map (count_settled option text position position') state value after done cursor

theorem recession_level (position : Nat) :
    NestedSimulation settings settings (fun _ place place' => place = position + place') (Recession position 0) :=
  @Recession.simulation position 0 settings.maxDepth settings ⟨Nat.le_refl _, .inl rfl⟩

theorem inner_settled (list : ItemKind) (text : String) (position position' : Nat) :
    Settled (Items.inner settings levels list text position)
      (Items.inner settings levels list text position') := by
  unfold Items.inner
  by_cases few : levels < 8
  · rw [if_pos few, if_pos few]
    rintro _ _ _ ⟨⟩
  · rw [if_neg few, if_neg few]
    have fits := Items.whole_fits settings list (levels - 8)
    exact settled_recurse (settled_within (M := .raw) fits (Items.whole_related (recession_level position) list _ _ (.inl rfl))
      (Items.whole_related (Extension.simulation (Nat.le_refl _)) list _ _ (.inl rfl)))

theorem value_settled {option : ItemOption} {options others : NestedOptions} {state after : ParseState}
    (done : Items.readValue settings levels (Items.inner settings levels) options option text
      position state = .ok others after) (options' : NestedOptions) (position' : Nat) (cursor : Cursor) :
    Items.readValue settings levels (Items.inner settings levels) options' option text position'
      { state with cursor := cursor } = .ok (options'.adopt option others) { state with cursor := cursor } := by
  have back : NestedSimulation settings settings (fun _ place place' => place = position + place') (Recession position 0) :=
    recession_level position
  have on : NestedSimulation settings settings (fun _ place place' => place' = position' + place)
      (Extension position' 0) := Extension.simulation (Nat.le_refl _)
  cases option
  all_goals obtain ⟨field, between, ran, rest⟩ := bind_ok done
  all_goals cases rest
  case filter =>
    have filter : Settled _ (within text .expression position' (Expression.whole settings levels)) :=
      settled_within (Expression.whole_fits .raw settings levels)
        (Expression.whole_related back.toSimulation.wording _ _ (.inl rfl)) (Expression.whole_related on.toSimulation.wording _ _ (.inl rfl))
    exact bind_done (filter state field _ ran cursor)
  case orderBy =>
    have orderBy : Settled _ (within text .expression position' (Order.whole settings levels)) :=
      settled_within (Order.whole_fits .raw settings levels)
        (Order.whole_related back.toSimulation.wording _ _ (.inl rfl)) (Order.whole_related on.toSimulation.wording _ _ (.inl rfl))
    exact bind_done (orderBy state field _ ran cursor)
  case search =>
    have search : Settled _ (within text .search position' (Search.whole settings levels)) :=
      settled_within (Search.whole_fits settings levels)
        (Search.whole_related back.toLevelling _ _ (.inl rfl)) (Search.whole_related on.toLevelling _ _ (.inl rfl))
    exact bind_done (search state field _ ran cursor)
  case compute =>
    have compute : Settled _ (within text .expression position' (Compute.whole settings levels)) :=
      settled_within (Compute.whole_fits .raw settings levels)
        (Compute.whole_related back.toSimulation.wording _ _ (.inl rfl)) (Compute.whole_related on.toSimulation.wording _ _ (.inl rfl))
    exact bind_done (compute state field _ ran cursor)
  case top | skip => exact bind_done (count_settled _ text position position' state field _ ran cursor)
  case count => exact bind_done (bool_settled .count text position position' state field _ ran cursor)
  case levels => exact bind_done (levels_settled .levels text position position' state field _ ran cursor)
  case select | expand => exact bind_done (inner_settled _ text position position' state field _ ran cursor)

end QueryOptions
