import QueryOptions.Proofs.Extension
import QueryOptions.Proofs.Reading.Basic

/-!
A text parsed nearer to the front, with fewer levels open. What is parsed further on and deeper with some tree is
parsed here with the same tree, under a limit lower by the levels that are not open, so whether a text is
accepted does not depend on where it stands, and of levels it matters only how many are left.
-/

set_option autoImplicit false

namespace QueryOptions

open Parse

-- The second run does what the first one does in a text further on, with more levels open, if that one succeeds.
def Recession (bytes levels : Nat) : Relation := fun part α p q =>
  ∀ (state : ParseState) (value : α) (after : ParseState), p (state.shift bytes levels) = .ok value after →
    ∃ nearer, q state = .ok value nearer ∧ after = nearer.shift bytes levels ∧ Kept part state nearer

-- A limit that leaves as many levels. It is a limit on both sides, or the same on both.
structure Recedes (settings : Settings) (limit levels : Nat) : Prop where
  enough : settings.maxDepth ≤ limit + levels
  limited : levels = 0 ∨ settings.maxDepth < maxCount

namespace Recession

variable {bytes levels limit : Nat} {part : Part} {α β : Type} {settings : Settings}

theorem of_pure (value : α) : Recession bytes levels part α (pure value) (pure value) := by
  rintro state _ _ ⟨⟩
  exact ⟨state, rfl, rfl, kept_same _ _⟩

theorem of_throw (error : ParseError) (q : Parse α) : Recession bytes levels part α (throw error) q := by
  rintro _ _ _ ⟨⟩

theorem of_bind {p q : Parse α} {f g : α → Parse β} (first : Recession bytes levels part α p q)
    (second : ∀ value, Recession bytes levels part β (f value) (g value)) :
    Recession bytes levels part β (p >>= f) (q >>= g) := by
  intro state value after done
  obtain ⟨between, there, ran, rest⟩ := bind_ok done
  obtain ⟨here, ran', rfl, kept⟩ := first state _ _ ran
  obtain ⟨nearer, rest', same, kept'⟩ := second _ here _ _ rest
  exact ⟨nearer, (bind_done ran').trans rest', same, kept_trans kept kept'⟩

theorem of_move {step : Cursor.Step α} (shifts : Cursor.Shifts bytes step step) :
    Recession bytes levels part α (move step) (move step) := by
  intro state value after done
  have shifted := shifts state.cursor
  unfold move at done ⊢
  cases result : step state.cursor with
  | ok value cursor =>
      rw [result] at shifted
      rw [show step (state.shift bytes levels).cursor = _ from shifted] at done
      cases done
      exact ⟨{ state with cursor := cursor }, rfl, rfl, kept_cursor cursor (kept_same _ _)⟩
  | error error cursor =>
      rw [result] at shifted
      rw [show step (state.shift bytes levels).cursor = _ from shifted] at done
      cases done

theorem sequencing : Sequencing (fun _ place place' => place = bytes + place') (Recession bytes levels) where
  pure := of_pure
  bind := of_bind
  current step state := step _ _ _ _ rfl state
  fail _ _ := of_throw _ _
  advance := of_move Cursor.advance_shifts

theorem of_get {f g : ParseState → Parse α}
    (steps : ∀ state, Recession bytes levels part α (f (state.shift bytes levels)) (g state)) :
    Recession bytes levels part α (get >>= f) (get >>= g) := fun state => steps state state

theorem of_sep_by (separator : TokenKind) {p q : Parse α} (item : Recession bytes levels .rule α p q) :
    Recession bytes levels .rule (List α) (sepBy separator p) (sepBy separator q) :=
  of_bind item fun _ => of_get fun _ =>
    of_bind (sequencing.separated separator item _) fun _ => of_pure _

theorem of_declaring (name : String) {p q : Parse α} (body : Recession bytes levels .rule α p q) :
    Recession bytes levels .rule α (declaring settings name p) (declaring (settings.withDepth limit) name q) := by
  rw [declaring_by_map, declaring_by_map]
  intro state value after done
  obtain ⟨_, between, declared, done⟩ := bind_ok done
  unfold shared Context.declare Context.isVariable at declared
  by_cases known : state.scope.contains name
  · have known' : (state.shift bytes levels).scope.contains name := known
    rw [if_pos known'] at declared
    cases declared
  · have known' : ¬ (state.shift bytes levels).scope.contains name := known
    rw [if_neg known'] at declared
    cases declared
    have declared' : shared (settings.withDepth limit) (Context.declare name) state =
        .ok () { state with scope := name :: state.scope } := by
      unfold shared Context.declare Context.isVariable
      rw [if_neg known]
    obtain ⟨_, ran, rfl⟩ := map_state_ok done
    obtain ⟨nearer, ran', rfl, kept⟩ := body { state with scope := name :: state.scope } _ _ ran
    refine ⟨leaving name nearer, (bind_done declared').trans (by rw [ran']; rfl), rfl, ?_, kept.depth, kept.links⟩
    unfold leaving
    rw [kept.scope]
    exact List.erase_cons_head name state.scope

theorem of_within (text : String) (dialect : Dialect) {position position' : Nat} {p q : Parse α}
    (alike : position = bytes + position') (body : Recession bytes levels .rule α p q) :
    Recession bytes levels .rule α (within text dialect position p) (within text dialect position' q) := by
  subst alike
  intro state value after done
  rw [within_by_map] at done ⊢
  have whole : Recession bytes levels .rule α (do advance; p) (do advance; q) :=
    of_bind (of_move Cursor.advance_shifts) fun _ => body
  obtain ⟨_, ran, rfl⟩ := map_state_ok done
  obtain ⟨nearer, ran', rfl, kept⟩ := whole { state with cursor := .start text dialect position' false } _ _ ran
  exact ⟨{ nearer with cursor := state.cursor }, congrArg (mapState _) ran', rfl, kept.scope, kept.depth, kept.links⟩

theorem of_option_value {f g : String × Nat → Parse α}
    (steps : ∀ value position position', position = bytes + position' →
      Recession bytes levels .rule α (f (value, position)) (g (value, position'))) :
    Recession bytes levels .rule α (move Cursor.optionValue >>= f) (move Cursor.optionValue >>= g) := by
  intro state value after done
  have same := Cursor.option_value_shift bytes state.cursor
  change EStateM.bind (move Cursor.optionValue) f (state.shift bytes levels) = _ at done
  change ∃ nearer, EStateM.bind (move Cursor.optionValue) g state = _ ∧ _
  unfold EStateM.bind move at done ⊢
  rw [show (state.shift bytes levels).cursor = state.cursor.shift bytes from rfl, same] at done
  cases result : Cursor.optionValue state.cursor with
  | ok pair cursor =>
      rw [result] at done
      obtain ⟨nearer, ran, same, kept⟩ := steps pair.1 _ pair.2 rfl { state with cursor := cursor } value after done
      exact ⟨nearer, ran, same, kept_cursor _ kept⟩
  | error error cursor =>
      rw [result] at done
      cases done

theorem of_closing (state : ParseState) {count : ParseState → Nat} {p q : Parse α} {after : ParseState} {value : α}
    (same : ∀ state : ParseState, count (state.shift bytes levels) = count state)
    (body : Recession bytes levels part α p q) (opened : ∀ nearer, Kept part state nearer → count nearer ≤ nearer.depth)
    (done : closing settings count p (state.shift bytes levels) = .ok value after) :
    ∃ nearer, closing (settings.withDepth limit) count q state =
        .ok value { nearer with depth := nearer.depth - count nearer } ∧
      after = { nearer with depth := nearer.depth - count nearer }.shift bytes levels ∧ Kept part state nearer := by
  obtain ⟨before, ran, -⟩ := closing_done done
  obtain ⟨nearer, ran', rfl, kept⟩ := body state value before ran
  have fits := opened nearer kept
  have further : count (nearer.shift bytes levels) ≤ (nearer.shift bytes levels).depth := by
    rw [same]
    exact Nat.le_add_right_of_le fits
  rw [closing_ok ran further] at done
  cases done
  refine ⟨nearer, closing_ok ran' fits, ?_, kept⟩
  rw [same]
  simp only [ParseState.shift, Nat.sub_add_comm fits]

section

variable (recedes : Recedes settings limit levels)

include recedes

theorem of_enter {count : Nat} {state after : ParseState} (entered : enter settings count (state.shift bytes levels) = .ok () after) :
    enter (settings.withDepth limit) count state = .ok () { state with depth := state.depth + count } ∧
      after = { state with depth := state.depth + count }.shift bytes levels := by
  obtain ⟨enough, limited⟩ := recedes
  obtain ⟨fits, rfl⟩ := enter_fits entered
  have nearer : state.depth + count ≤ (settings.withDepth limit).maxDepth := by
    dsimp only [ParseState.shift, Settings.withDepth] at fits ⊢
    omega
  refine ⟨enter_done nearer, ?_⟩
  simp only [ParseState.shift, Nat.add_right_comm]

theorem of_recurse (count : Nat) {p q : Parse α} (body : Recession bytes levels .rule α p q) :
    Recession bytes levels .rule α (recurse settings count p) (recurse (settings.withDepth limit) count q) := by
  intro state value after done
  obtain ⟨_, between, entered, closed⟩ := bind_ok done
  obtain ⟨entered', rfl⟩ := of_enter recedes entered
  have depth {nearer : ParseState} (kept : Kept .rule { state with depth := state.depth + count } nearer) :
      nearer.depth = state.depth + count := by
    have sum := kept.depth
    rw [kept.links rfl] at sum
    exact Nat.add_right_cancel sum
  obtain ⟨nearer, closed', rfl, kept⟩ := of_closing _ (fun _ => rfl) body (fun _ kept => by rw [depth kept]; omega) closed
  refine ⟨_, (bind_done entered').trans closed', rfl, kept.scope, ?_, kept.links⟩
  dsimp only
  rw [depth kept, kept.links rfl, Nat.add_sub_cancel]

theorem of_chain {p q : Parse α} (body : Recession bytes levels .links α p q) :
    Recession bytes levels .rule α (chain settings p) (chain (settings.withDepth limit) q) := by
  intro state value after done
  obtain ⟨_, between, entered, counted⟩ := bind_ok done
  obtain ⟨entered', rfl⟩ := of_enter recedes entered
  rw [counting_links_by_map] at counted
  obtain ⟨before, closed, rfl⟩ := map_state_ok counted
  -- The body starts without links, so the levels it leaves open are those it counts.
  have depth {nearer : ParseState} (kept : Kept .links { state with depth := state.depth + 1, links := 0 } nearer) :
      nearer.depth = state.depth + 1 + nearer.links := kept.depth
  obtain ⟨nearer, closed', rfl, kept⟩ :=
    of_closing { state with depth := state.depth + 1, links := 0 } (fun _ => rfl) body
      (fun _ kept => by rw [depth kept]; omega) closed
  refine ⟨{ nearer with depth := nearer.depth - (nearer.links + 1), links := state.links },
    (bind_done entered').trans ?_, rfl, kept.scope, ?_, fun _ => rfl⟩
  · rw [counting_links_by_map, closed']
    rfl
  · dsimp only
    rw [depth kept]
    omega

theorem of_hold : Recession bytes levels .links Unit (hold settings) (hold (settings.withDepth limit)) := by
  intro state value after done
  obtain ⟨_, between, entered, held⟩ := bind_ok done
  obtain ⟨entered', rfl⟩ := of_enter recedes entered
  cases held
  refine ⟨{ state with depth := state.depth + 1, links := state.links + 1 }, bind_done entered', rfl, rfl, ?_, nofun⟩
  dsimp only
  omega

theorem simulation : NestedSimulation settings (settings.withDepth limit) (fun _ place place' => place = bytes + place')
    (Recession bytes levels) where
  toSequencing := sequencing
  rule body state value after done := by
    obtain ⟨nearer, ran, same, kept⟩ := body state value after done
    exact ⟨nearer, ran, same, kept_rule kept⟩
  limit := ⟨limit, rfl⟩
  dottedName acceptStar := of_move (Cursor.dotted_name_shifts acceptStar)
  inScope _ := of_get fun _ => of_pure _
  declaring := of_declaring
  tooDeep := of_throw _ _
  recurse := of_recurse recedes
  chain := of_chain recedes
  hold := of_hold recedes
  sepBy := of_sep_by
  within := of_within
  optionValue := of_option_value
  behindParen := sequencing.behindParen
  length steps := of_get fun _ => steps _

end

end Recession

end QueryOptions
