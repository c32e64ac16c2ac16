import QueryOptions.Proofs.Threshold
import QueryOptions.Proofs.Token.Words

set_option autoImplicit false

namespace QueryOptions

open Parse

inductive NestedKind where
  | filter
  | orderBy
  | compute
  | select
  | expand

namespace NestedKind

def option : NestedKind → QueryOption
  | filter => .filter
  | orderBy => .orderBy
  | compute => .compute
  | select => .select
  | expand => .expand

def itemOption : NestedKind → ItemOption
  | filter => .filter
  | orderBy => .orderBy
  | compute => .compute
  | select => .select
  | expand => .expand

def levels : NestedKind → Nat
  | select | expand => 8
  | _ => 0

end NestedKind

namespace ParsedOption

def queryOption : ParsedOption → QueryOption
  | filter _ => .filter
  | search _ => .search
  | orderBy _ => .orderBy
  | compute _ => .compute
  | select _ => .select
  | expand _ => .expand
  | apply _ => .apply

def into (options : NestedOptions) : ParsedOption → NestedOptions
  | filter condition => { options with filter := some condition }
  | orderBy items => { options with orderBy := some items }
  | compute items => { options with compute := some items }
  | select items => { options with select := some items }
  | expand items => { options with expand := some items }
  | search condition => { options with search := some condition }
  | apply _ => options

end ParsedOption

variable {α β : Type} {settings : Settings} {kind : NestedKind} {value : String} {parsed : ParsedOption}

def Finishes (p : Parse α) : Prop :=
  ∀ state value after, p state = .ok value after → after.cursor.token.kind = .finish

theorem finishes_map {p : Parse α} {f : α → β} (finishes : Finishes p) :
    Finishes (do return f (← p) : Parse β) := by
  intro state value after done
  obtain ⟨first, between, ran, rest⟩ := bind_ok done
  cases rest
  exact finishes state first _ ran

theorem finishes_expect_end {p : Parse α} {f : α → β} :
    Finishes (do let value ← p; expectEnd; pure (f value) : Parse β) := by
  intro state value after done
  obtain ⟨first, between, -, rest⟩ := bind_ok done
  obtain ⟨_, ended, looked, last⟩ := bind_ok rest
  cases last
  obtain ⟨rfl, finish⟩ := expect_end_ok looked
  exact finish

theorem list_finishes (kind : ItemKind) (levels : Nat) (nested : ItemKind → String → Nat → Parse (List Item)) :
    Finishes (Items.list settings kind levels nested) := by
  intro state value after done
  change (if state.cursor.token.kind == .finish then pure [] else _ : Parse (List Item)) state = _ at done
  by_cases finish : state.cursor.token.kind == .finish
  · rw [if_pos finish] at done
    cases done
    exact eq_of_beq finish
  · rw [if_neg finish] at done
    exact finishes_expect_end (f := id) state value after done

theorem whole_finishes (kind : ItemKind) (levels : Nat) : Finishes (Items.whole settings kind levels) := by
  rw [Items.whole_by_inner]
  exact list_finishes kind levels _

theorem grammar_finishes (option : QueryOption) (levels : Nat) : Finishes (option.grammar settings levels) := by
  cases option with
  | filter => exact finishes_map (finishes_expect_end (f := id))
  | search => exact finishes_map (finishes_expect_end (f := id))
  | orderBy => exact finishes_map (finishes_expect_end (f := id))
  | compute => exact finishes_map (finishes_expect_end (f := id))
  | select => exact finishes_map (whole_finishes .select levels)
  | expand => exact finishes_map (whole_finishes .expand levels)
  | apply => exact finishes_map (finishes_expect_end (f := id))

theorem nested_motion (kind : NestedKind) : kind.option.motion = .raw := by cases kind <;> rfl

theorem parser_reached {option : QueryOption} {after : ParseState}
    (done : option.parser settings (option.start value) = .ok parsed after) :
    Reached option.motion .rule 0 0 (option.start value) after := by
  have start : (option.start value).cursor = .start value option.motion.dialect 0 false := by
    rw [motion_dialect]
    rfl
  have reads : Reads option.motion (Room settings settings.maxDepth 8 (option.start value)) .rule 0 0
      (option.start value) (option.parser settings (option.start value)) :=
    start_reads (grammar_fits settings option settings.maxDepth) start
  rw [done] at reads
  exact reads

theorem accepted_crosses {after : ParseState}
    (done : kind.option.parser settings (kind.option.start value) = .ok parsed after) :
    Crosses 0 value.toList 0 [] := by
  have reached := parser_reached done
  rw [nested_motion] at reached
  obtain ⟨_, between, _, ran⟩ := bind_ok done
  have ended : after.cursor.ahead = [] :=
    reached.lexed.finish (grammar_finishes kind.option settings.maxDepth between parsed after ran)
  have passed : Crosses 0 value.toList 0 after.cursor.ahead := reached.passed
  rwa [ended] at passed

theorem within_crosses {p : Parse α} {levels cost position : Nat} {state after : ParseState} {result : α}
    (body : Fits .raw settings .rule levels cost p) (finishes : Finishes p)
    (done : within value .expression position p state = .ok result after) : Crosses 0 value.toList 0 [] := by
  rw [within_by_map] at done
  obtain ⟨there, ran, -⟩ := map_state_ok done
  have reads : Reads .raw (Room settings levels cost { state with cursor := .start value .expression position false }) .rule 0 0
      { state with cursor := .start value .expression position false }
      ((do advance; p : Parse α) { state with cursor := .start value .expression position false }) := start_reads body rfl
  rw [ran] at reads
  have reached : Reached .raw .rule 0 0 { state with cursor := .start value .expression position false } there := reads
  obtain ⟨_, between, _, ended⟩ := bind_ok ran
  have passed : Crosses 0 value.toList 0 there.cursor.ahead := reached.passed
  rwa [reached.lexed.finish (finishes between result there ended)] at passed

theorem within_extends {bytes levels : Nat} {option : QueryOption} {dialect : Dialect} {p q : Parse α} {result : α}
    {after state : ParseState} (related : Extension bytes levels .rule α p q) (spoken : option.dialect = dialect)
    (ran : (do advance; p : Parse α) (option.start value) = .ok result after)
    (kept : Kept .rule (option.start value) after) (scope : state.scope = Context.standing)
    (depth : state.depth = levels) (links : state.links = 0) :
    within value dialect bytes q state = .ok result state := by
  subst spoken
  have extended : Extends bytes levels ((do advance; p : Parse α) (option.start value))
      ((do advance; q : Parse α) ((option.start value).shift bytes levels)) :=
    Extension.of_bind (Extension.of_move Cursor.advance_shifts) (fun _ => related) (option.start value)
  rw [ran] at extended
  obtain ⟨cursor, scope', depth', links'⟩ := state
  obtain rfl : scope' = Context.standing := scope
  obtain rfl : links' = 0 := links
  obtain rfl : depth' = levels := depth
  have start : (option.start value).shift bytes depth' =
      ⟨.start value option.dialect bytes false, Context.standing, depth', 0⟩ := by
    change ParseState.mk (.start value option.dialect bytes false) Context.standing (0 + depth') 0 = _
    rw [Nat.zero_add]
  rw [start] at extended
  rw [within_by_map, show (do advance; q : Parse α) _ = _ from extended]
  have same := kept.depth
  have none : after.links = 0 := kept.links rfl
  obtain ⟨cursor', scope', depth, links⟩ := after
  obtain rfl : scope' = Context.standing := kept.scope
  obtain rfl : links = 0 := none
  obtain rfl : depth = 0 := same
  change EStateM.Result.ok result (ParseState.mk cursor Context.standing (0 + depth') 0) = _
  rw [Nat.zero_add]

theorem recurse_done {count : Nat} {p : Parse α} {result : α} {state : ParseState}
    (enough : state.depth + count ≤ settings.maxDepth)
    (ran : p { state with depth := state.depth + count } = .ok result { state with depth := state.depth + count }) :
    recurse settings count p state = .ok result state := by
  refine (bind_done (enter_done enough)).trans ((closing_ok ran (Nat.le_add_left _ _)).trans ?_)
  change EStateM.Result.ok result ({ state with depth := state.depth + count - count } : ParseState) = _
  rw [Nat.add_sub_cancel]

-- The settings under which a value is read as it is by itself: a nested list takes eight
-- levels more.
def NestedKind.settingsOf (kind : NestedKind) (settings : Settings) : Settings :=
  settings.withDepth (settings.maxDepth + kind.levels)

theorem parser_kept {option : QueryOption} {after : ParseState}
    (done : option.parser settings (option.start value) = .ok parsed after) :
    Kept .rule (option.start value) after := (parser_reached done).kept

theorem inner_extends (list : ItemKind) {items : List Item} {after state : ParseState} (position : Nat)
    (ran : (do advance; Items.whole settings list settings.maxDepth : Parse (List Item)) (kind.option.start value) =
      .ok items after)
    (kept : Kept .rule (kind.option.start value) after) (scope : state.scope = Context.standing)
    (depth : state.depth = 0) (links : state.links = 0) :
    Items.inner (settings.withDepth (settings.maxDepth + 8)) (settings.maxDepth + 8) list value position state =
      .ok items state := by
  have related : Extension position 8 .rule _ (Items.whole settings list settings.maxDepth)
      (Items.whole (settings.withDepth (settings.maxDepth + 8)) list settings.maxDepth) :=
    Items.whole_related (Extension.simulation (Nat.le_refl _)) list _ _ (.inl rfl)
  unfold Items.inner
  rw [if_neg (by omega), Nat.add_sub_cancel]
  refine recurse_done ?_ (within_extends related (by cases kind <;> rfl) ran kept scope ?_ links)
  · rw [depth, Nat.zero_add]
    exact Nat.le_add_left _ _
  · dsimp only
    rw [depth]

theorem read_value_extends {after state : ParseState} (options : NestedOptions) (position : Nat)
    (done : kind.option.parser settings (kind.option.start value) = .ok parsed after)
    (scope : state.scope = Context.standing) (depth : state.depth = 0) (links : state.links = 0) :
    Items.readValue (kind.settingsOf settings) (settings.maxDepth + kind.levels)
      (Items.inner (kind.settingsOf settings) (settings.maxDepth + kind.levels)) options kind.itemOption value position
        state = .ok (parsed.into options) state := by
  have kept := parser_kept done
  have S : NestedSimulation settings (settings.withDepth (settings.maxDepth + 0)) (fun _ p p' => p' = position + p)
    (Extension position 0) := Extension.simulation (Nat.le_refl _)
  obtain ⟨_, between, advanced, ran⟩ := bind_ok done
  have start {β : Type} (p : Parse β) : (do advance; p : Parse β) (kind.option.start value) = p between :=
    bind_done advanced
  cases kind with
  | filter =>
      obtain ⟨result, _, ran, rest⟩ := bind_ok ran
      cases rest
      have related := Expression.whole_related S.toSimulation.wording settings.maxDepth _ (.inl rfl)
      exact bind_done (within_extends related rfl ((start _).trans ran) kept scope depth links)
  | orderBy =>
      obtain ⟨result, _, ran, rest⟩ := bind_ok ran
      cases rest
      have related := Order.whole_related S.toSimulation.wording settings.maxDepth _ (.inl rfl)
      exact bind_done (within_extends related rfl ((start _).trans ran) kept scope depth links)
  | compute =>
      obtain ⟨result, _, ran, rest⟩ := bind_ok ran
      cases rest
      have related := Compute.whole_related S.toSimulation.wording settings.maxDepth _ (.inl rfl)
      exact bind_done (within_extends related rfl ((start _).trans ran) kept scope depth links)
  | select =>
      obtain ⟨result, _, ran, rest⟩ := bind_ok ran
      cases rest
      exact bind_done (inner_extends .select position ((start _).trans ran) kept scope depth links)
  | expand =>
      obtain ⟨result, _, ran, rest⟩ := bind_ok ran
      cases rest
      exact bind_done (inner_extends .expand position ((start _).trans ran) kept scope depth links)

inductive Delimiter : Char → TokenKind → Prop where
  | close : Delimiter ')' .closeParen
  | semicolon : Delimiter ';' .semicolon

def Cursor.pastValue (cursor : Cursor) (value : List Char) (kind : TokenKind) (c : Char) (after : List Char) : Cursor :=
  ({ cursor with rest := c :: after, offset := cursor.offset + Text.byteLength value } : Cursor).onto kind [c] after

theorem option_value_taken {cursor : Cursor} {c : Char} {delimiter : TokenKind} {after : List Char}
    (scan : scanValue (cursor.rest.length + 1) 0 cursor.rest = ⟨none, value.toList, c :: after⟩)
    (dialect : cursor.dialect = .expression) (delimits : Delimiter c delimiter) :
    Cursor.optionValue cursor =
      .ok (value, cursor.offset) (cursor.pastValue value.toList delimiter c after) := by
  unfold Cursor.optionValue
  dsimp only
  rw [scan]
  dsimp only
  have stepped : Cursor.advance
      { cursor with rest := c :: after, offset := cursor.offset + Text.byteLength value.toList } =
        .ok () (cursor.pastValue value.toList delimiter c after) := by
    cases delimits <;> exact Cursor.advance_punctuation dialect rfl rfl rfl
  rw [stepped, String.ofList_toList]

theorem option_value_cut {cursor : Cursor} {c : Char} {delimiter : TokenKind} {after : List Char}
    (crosses : Crosses 0 value.toList 0 []) (dialect : cursor.dialect = .expression)
    (rest : cursor.rest = value.toList ++ c :: after) (delimits : Delimiter c delimiter) :
    Cursor.optionValue cursor =
      .ok (value, cursor.offset) (cursor.pastValue value.toList delimiter c after) := by
  obtain ⟨single, double, delimiting⟩ : c ≠ '\'' ∧ c ≠ '"' ∧ AtDelimiter (c :: after) := by
    cases delimits with
    | close => exact ⟨by decide, by decide, _, _, rfl, .inl rfl⟩
    | semicolon => exact ⟨by decide, by decide, _, _, rfl, .inr rfl⟩
  have further : Crosses 0 cursor.rest 0 (c :: after) := by
    rw [rest]
    exact crosses.before (by simpa using single) (by simpa using double)
  obtain ⟨taken, scan, split⟩ := scan_value_of_crosses further rfl delimiting _ (Nat.lt_succ_self _)
  obtain rfl : taken = value.toList := List.append_cancel_right (split.trans rest)
  exact option_value_taken scan dialect delimits

end QueryOptions
