import QueryOptions.Proofs.Reading.Basic

set_option autoImplicit false

namespace QueryOptions

open Parse

def Gets (settings : Settings) (part : Part) (levels : Nat) {α : Type} (p : Parse α)
    (here : List String → Cursor → Prop) (value : α) (there : List String → Cursor → Prop) : Prop :=
  ∀ state, here state.scope state.cursor → state.depth + levels ≤ settings.maxDepth →
    ∃ after, p state = .ok value after ∧ there after.scope after.cursor ∧ Kept part state after

def Finds {α : Type} (look : Parse α) (here : List String → Cursor → Prop) (seen : α) : Prop :=
  ∀ state, here state.scope state.cursor → look state = .ok seen state

variable {settings : Settings} {part : Part} {levels : Nat} {α β : Type}
variable {here between there : List String → Cursor → Prop}

theorem gets_pure (value : α) : Gets settings part levels (pure value) here value here :=
  fun state holds _ => ⟨state, rfl, holds, kept_same _ _⟩

theorem gets_bind {p : Parse α} {f : α → Parse β} {value : α} {value' : β}
    (first : Gets settings .rule levels p here value between)
    (second : Gets settings part levels (f value) between value' there) :
    Gets settings part levels (p >>= f) here value' there := by
  intro state holds enough
  obtain ⟨middle, ran, reached, kept⟩ := first state holds enough
  have depth : middle.depth = state.depth := by
    have sum := kept.depth
    rw [kept.links rfl] at sum
    exact Nat.add_right_cancel sum
  obtain ⟨after, ran', ended, kept'⟩ := second middle reached (by rw [depth]; exact enough)
  exact ⟨after, (bind_done ran).trans ran', ended, kept_trans (kept_rule kept) kept'⟩

theorem gets_map {p : Parse α} {f : α → β} {value : α} (gets : Gets settings part levels p here value there) :
    Gets settings part levels (do return f (← p)) here (f value) there := by
  intro state holds enough
  obtain ⟨after, ran, reached, kept⟩ := gets state holds enough
  exact ⟨after, bind_done ran, reached, kept⟩

theorem gets_of_rule {p : Parse α} {value : α} (gets : Gets settings .rule levels p here value there) :
    Gets settings part levels p here value there := by
  intro state holds enough
  obtain ⟨after, ran, reached, kept⟩ := gets state holds enough
  exact ⟨after, ran, reached, kept_rule kept⟩

theorem gets_step (moves : ∀ scope cursor, here scope cursor →
      ∃ moved, Cursor.advance cursor = .ok () moved ∧ there scope moved) :
    Gets settings part levels advance here () there := by
  intro state holds _
  obtain ⟨moved, advanced, reached⟩ := moves state.scope state.cursor holds
  exact ⟨{ state with cursor := moved }, advance_done advanced, reached, kept_cursor moved (kept_same _ _)⟩

theorem gets_advance {f : Unit → Parse β} {value : β}
    (moves : ∀ scope cursor, here scope cursor →
      ∃ moved, Cursor.advance cursor = .ok () moved ∧ between scope moved)
    (next : Gets settings part levels (f ()) between value there) :
    Gets settings part levels (advance >>= f) here value there := gets_bind (gets_step moves) next

theorem gets_recurse {p : Parse α} {value : α} (body : Gets settings .rule levels p here value there) :
    Gets settings .rule (levels + 1) (recurse settings 1 p) here value there := by
  intro state holds enough
  obtain ⟨after, ran, reached, kept⟩ := body { state with depth := state.depth + 1 } holds (by dsimp only; omega)
  have depth := kept.depth
  have links := kept.links rfl
  dsimp only at depth links
  refine ⟨{ after with depth := after.depth - 1 }, ?_, reached, kept.scope, ?_, fun _ => links⟩
  · exact (bind_done (enter_done (by omega))).trans (closing_ok ran (by omega))
  · dsimp only
    omega

theorem gets_chain {p : Parse α} {value : α} (body : Gets settings .links levels p here value there) :
    Gets settings .rule (levels + 1) (chain settings p) here value there := by
  intro state holds enough
  obtain ⟨after, ran, reached, kept⟩ :=
    body { state with depth := state.depth + 1, links := 0 } holds (by dsimp only; omega)
  have depth := kept.depth
  dsimp only at depth
  refine ⟨{ after with depth := after.depth - (after.links + 1), links := state.links }, ?_, reached, kept.scope, ?_,
    fun _ => rfl⟩
  · refine (bind_done (enter_done (by omega))).trans ?_
    rw [counting_links_by_map, closing_ok ran (by omega)]
    rfl
  · dsimp only
    omega

theorem gets_hold {f : Unit → Parse β} {value : β} (next : Gets settings .links levels (f ()) here value there) :
    Gets settings .links (levels + 1) (hold settings >>= f) here value there := by
  intro state holds enough
  obtain ⟨after, ran, reached, kept⟩ :=
    next { state with depth := state.depth + 1, links := state.links + 1 } holds (by dsimp only; omega)
  have held : hold settings state = .ok () { state with depth := state.depth + 1, links := state.links + 1 } :=
    bind_done (enter_done (by omega))
  have depth := kept.depth
  dsimp only at depth
  exact ⟨after, (bind_done held).trans ran, reached, kept.scope, by omega, fun rule => by cases rule⟩

theorem gets_chain_of {first : Parse α} {tail : α → Parse β} {left : α} {value : β}
    (operand : Gets settings .rule levels first here left between)
    (rest : Gets settings .links levels (tail left) between value there) :
    Gets settings .rule (levels + 1) (chain settings do tail (← first)) here value there :=
  gets_chain (gets_bind operand rest)

theorem gets_current {f : Token → Parse β} {value : β}
    (next : ∀ scope cursor, here scope cursor → Gets settings part levels (f cursor.token) here value there) :
    Gets settings part levels (current >>= f) here value there :=
  fun state holds enough => next state.scope state.cursor holds state holds enough

theorem gets_expect {kind : TokenKind} {description : String}
    (found : ∀ scope cursor, here scope cursor → cursor.token.kind = kind)
    (moves : ∀ scope cursor, here scope cursor →
      ∃ moved, Cursor.advance cursor = .ok () moved ∧ there scope moved) :
    Gets settings part levels (expect kind description) here () there := by
  rw [expect_by_current]
  refine gets_current fun scope cursor holds => ?_
  rw [if_pos (found scope cursor holds)]
  exact gets_step moves

theorem gets_look {look : Parse α} {f : α → Parse β} {seen : α} {value : β} (finds : Finds look here seen)
    (next : Gets settings part levels (f seen) here value there) :
    Gets settings part levels (look >>= f) here value there := by
  intro state holds enough
  obtain ⟨after, ran, reached, kept⟩ := next state holds enough
  exact ⟨after, (bind_done (finds state holds)).trans ran, reached, kept⟩

theorem finds_of_token {look : Parse α} {f : Token → α} {seen : α}
    (same : ∀ state, look state = .ok (f state.cursor.token) state)
    (sees : ∀ scope cursor, here scope cursor → f cursor.token = seen) : Finds look here seen := by
  intro state holds
  rw [same, sees state.scope state.cursor holds]

end QueryOptions
