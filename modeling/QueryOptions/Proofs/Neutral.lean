import QueryOptions.Proofs.Simulation.Items
import QueryOptions.Proofs.Token.Split

set_option autoImplicit false

namespace QueryOptions

open Parse

-- What a part of a grammar leaves as it was: the scope, and the levels that are not of
-- links.
structure Kept (part : Part) (before after : ParseState) : Prop where
  scope : after.scope = before.scope
  depth : after.depth + before.links = before.depth + after.links
  links : part = .rule → after.links = before.links

-- What errors a parse can end with, as far as levels go.
structure Accounted (limit : Nat) (error : ParseError) : Prop where
  balanced : error ≠ .depthMismatch
  limited : ∀ exceeded, error = .depthExceeded exceeded → exceeded = limit

def Ends (limit : Nat) (kept : ParseState → Prop) {α : Type} :
    EStateM.Result ParseError ParseState α → Prop
  | .ok _ after => kept after
  | .error error after => kept after ∧ Accounted limit error

def Neutral (settings : Settings) (part : Part) {α : Type} (p : Parse α) : Prop :=
  ∀ state, Ends settings.maxDepth (Kept part state) (p state)

theorem kept_same (part : Part) (state : ParseState) : Kept part state state := ⟨rfl, rfl, fun _ => rfl⟩

theorem kept_trans {part : Part} {before between after : ParseState} (first : Kept part before between)
    (second : Kept part between after) : Kept part before after where
  scope := second.scope.trans first.scope
  depth := by have := first.depth; have := second.depth; omega
  links rule := (second.links rule).trans (first.links rule)

theorem kept_cursor {part : Part} {before after : ParseState} (cursor : Cursor)
    (kept : Kept part { before with cursor := cursor } after) : Kept part before after :=
  ⟨kept.scope, kept.depth, kept.links⟩

theorem kept_rule {part : Part} {before after : ParseState} (kept : Kept .rule before after) :
    Kept part before after :=
  ⟨kept.scope, kept.depth, fun _ => kept.links rfl⟩

theorem kept_moves {before after : ParseState} (kept : Kept .rule before after) :
    after = { before with cursor := after.cursor } := by
  obtain ⟨cursor, scope, depth, links⟩ := after
  obtain ⟨rfl, depth, links⟩ := kept
  obtain rfl := links rfl
  obtain rfl := Nat.add_right_cancel depth
  rfl

theorem accounted_of_position {limit : Nat} {error : ParseError} (placed : error.position.isSome) :
    Accounted limit error := by
  constructor
  · rintro rfl
    exact absurd placed (by decide)
  · rintro exceeded rfl
    cases placed

variable {limit : Nat} {kept kept' : ParseState → Prop} {α : Type}
variable {result : EStateM.Result ParseError ParseState α}

theorem ends_of_imp (ended : Ends limit kept result) (still : ∀ after, kept after → kept' after) :
    Ends limit kept' result := by
  cases result with
  | ok => exact still _ ended
  | error => exact ⟨still _ ended.1, ended.2⟩

theorem ends_map {change : ParseState → ParseState} (ended : Ends limit kept result)
    (changed : ∀ after, kept after → kept' (change after)) :
    Ends limit kept' (mapState change result) := by
  cases result with
  | ok => exact changed _ ended
  | error => exact ⟨changed _ ended.1, ended.2⟩

def Cursor.Placed {α : Type} (step : Cursor.Step α) : Prop :=
  ∀ cursor error moved, step cursor = .error error moved → error.position.isSome

namespace Cursor

theorem placed_pure {α : Type} (value : α) : Placed (pure value) := by
  rintro cursor error moved ⟨⟩

theorem placed_throw {α : Type} {error : ParseError} (placed : error.position.isSome) :
    Placed (throw error : Step α) := by
  rintro cursor _ _ ⟨⟩
  exact placed

theorem placed_get {α : Type} {f : Cursor → Step α} (steps : ∀ cursor, Placed (f cursor)) :
    Placed (get >>= f) := fun cursor => steps cursor cursor

theorem placed_bind {α β : Type} {step : Step α} {f : α → Step β} (first : Placed step)
    (second : ∀ value, Placed (f value)) : Placed (step >>= f) := by
  intro cursor error moved failed
  change EStateM.bind step f cursor = _ at failed
  unfold EStateM.bind at failed
  cases result : step cursor with
  | ok value between =>
      rw [result] at failed
      exact second value between error moved failed
  | error fault between =>
      rw [result] at failed
      cases failed
      exact first cursor error moved result

theorem placed_ite {α : Type} {c : Prop} [Decidable c] {step other : Step α} (yes : Placed step)
    (no : Placed other) : Placed (if c then step else other) := by
  split
  · exact yes
  · exact no

theorem shift_position (bytes : Nat) (error : ParseError) :
    (error.shift bytes).position = error.position.map (bytes + ·) := by
  cases error <;> rfl

theorem scan_placed (dialect : Dialect) (text : List Char) (error : ParseError)
    (failed : (dialect.scan text).outcome = .error error) : error.position.isSome := by
  cases text with
  | nil =>
      rw [Dialect.scan_nil] at failed
      cases failed
  | cons c rest => exact (Dialect.scan_splits dialect c rest).placed error failed

theorem advance_placed : Placed advance := by
  intro cursor error moved failed
  unfold advance at failed
  dsimp only at failed
  split at failed
  · cases failed
  · split at failed
    · cases failed
    · rename_i fault found
      cases failed
      rw [shift_position, Option.isSome_map]
      exact scan_placed _ _ fault found

theorem dotted_parts_placed (acceptStar : Bool) (parts : Nat) (name : String) :
    Placed (dottedParts acceptStar parts name) := by
  induction parts generalizing name with
  | zero => exact placed_pure name
  | succ parts ih =>
      refine placed_get fun cursor => placed_ite ?_ (placed_pure name)
      refine placed_bind advance_placed fun _ => placed_get fun _ => placed_ite ?_ ?_
      · exact placed_bind advance_placed fun _ => ih _
      · exact placed_ite (placed_bind advance_placed fun _ => placed_pure _) (placed_throw rfl)

theorem dotted_name_placed (acceptStar : Bool) : Placed (dottedName acceptStar) := by
  refine placed_get fun cursor => placed_ite ?_ (placed_ite ?_ (placed_throw rfl))
  · exact placed_bind advance_placed fun _ => dotted_parts_placed _ _ _
  · exact placed_bind advance_placed fun _ => placed_pure _

theorem value_after_placed {scan : ValueScan} (front : List Char)
    (placed : ∀ error, scan.fault = some error → error.position.isSome) (error : ParseError)
    (failed : (scan.after front).fault = some error) : error.position.isSome := by
  obtain ⟨fault, found, rfl⟩ := Option.map_eq_some_iff.mp failed
  rw [shift_position, Option.isSome_map]
  exact placed fault found

theorem quote_fault_placed {front : List Char} {quote : Char} {scan : QuoteScan} {error : ParseError}
    (failed : scan.fault? front quote = some error) : error.position.isSome := by
  unfold QuoteScan.fault? at failed
  split at failed
  · cases failed
  · cases failed
    rfl
  · cases failed
    rfl

theorem value_scan_placed (pieces depth : Nat) (text : List Char) (error : ParseError)
    (failed : (scanValue pieces depth text).fault = some error) : error.position.isSome := by
  induction pieces generalizing depth text error with
  | zero => cases failed
  | succ pieces ih =>
      cases text with
      | nil =>
          cases failed
          rfl
      | cons c rest =>
          have after := fun front depth text => value_after_placed front (ih depth text) error
          unfold scanValue at failed
          split at failed
          · dsimp only at failed
            split at failed
            · exact after _ _ _ failed
            · rename_i fault found
              cases failed
              exact quote_fault_placed found
          · split at failed
            · exact after _ _ _ failed
            · split at failed
              · split at failed
                · cases failed
                · exact after _ _ _ failed
              · split at failed
                · cases failed
                · exact after _ _ _ failed

theorem option_value_placed : Placed optionValue := by
  intro cursor error moved failed
  unfold optionValue at failed
  dsimp only at failed
  split at failed
  · rename_i fault found
    cases failed
    rw [shift_position, Option.isSome_map]
    exact value_scan_placed _ _ _ fault found
  · split at failed
    · cases failed
    · rename_i fault after result
      cases failed
      exact advance_placed _ _ _ result

end Cursor

namespace Neutral

variable {settings : Settings} {part : Part} {α β : Type}

theorem of_bind {p : Parse α} {f : α → Parse β} (first : Neutral settings part p)
    (second : ∀ value, Neutral settings part (f value)) : Neutral settings part (p >>= f) := by
  intro state
  have ended := first state
  change Ends _ _ (EStateM.bind p f state)
  unfold EStateM.bind
  cases result : p state with
  | ok value between =>
      rw [result] at ended
      exact ends_of_imp (second value between) fun after kept => kept_trans ended kept
  | error error between =>
      rw [result] at ended
      exact ended

theorem of_get {f : ParseState → Parse α} (steps : ∀ state, Neutral settings part (f state)) :
    Neutral settings part (get >>= f) := fun state => steps state state

theorem of_move {step : Cursor.Step α} (placed : Cursor.Placed step) :
    Neutral settings part (move step) := by
  intro state
  unfold move
  cases result : step state.cursor with
  | ok value cursor => exact kept_cursor cursor (kept_same part _)
  | error error cursor =>
      exact ⟨kept_cursor cursor (kept_same part _), accounted_of_position (placed _ _ _ result)⟩

theorem of_error {error : ParseError} (accounted : Accounted settings.maxDepth error) :
    Neutral settings part (throw error : Parse α) :=
  fun state => ⟨kept_same part state, accounted⟩

theorem exceeded_accounted (limit : Nat) : Accounted limit (.depthExceeded limit) :=
  ⟨by simp, fun _ same => (ParseError.depthExceeded.inj same).symm⟩

theorem of_pure (value : α) : Neutral settings part (pure value) := fun state => kept_same part state

theorem of_advance : Neutral settings part advance := of_move Cursor.advance_placed

theorem sequencing : Sequencing (fun _ _ _ => True) fun part _ p _ => Neutral settings part p where
  pure := of_pure
  bind := of_bind
  current step state := step _ _ _ state.cursor.token.position trivial state
  fail positional _ := of_error (accounted_of_position (by rw [positional.position]; rfl))
  advance := of_advance

theorem enter_result [Counter] (settings : Settings) (levels : Nat) (state : ParseState) :
    enter settings levels state = .ok () { state with depth := Counter.add state.depth levels } ∨
      enter settings levels state = .error (.depthExceeded settings.maxDepth) state := by
  rw [enter_by_limit]
  by_cases deep : settings.maxDepth < Counter.reached state.depth levels
  · exact .inr (by rw [if_pos deep])
  · exact .inl (by rw [if_neg deep])

theorem leave_result {levels : Nat} {state : ParseState} (entered : levels ≤ state.depth) :
    leave settings levels state = .ok () { state with depth := state.depth - levels } := by
  unfold leave shared Context.leave
  dsimp only
  rw [if_neg (by omega)]

theorem closing_by_map {limit : Nat} {entered : ParseState → Prop} {state : ParseState}
    {levels : ParseState → Nat} {body : Parse α} (ended : Ends limit entered (body state))
    (opened : ∀ after, entered after → levels after ≤ after.depth) :
    closing settings levels body state =
      mapState (fun after => { after with depth := after.depth - levels after }) (body state) := by
  unfold closing
  cases result : body state with
  | ok value after =>
      rw [result] at ended
      dsimp only
      rw [leave_result (opened after ended)]
      rfl
  | error error after =>
      rw [result] at ended
      dsimp only
      rw [leave_result (opened after ended.1)]
      rfl

theorem of_enter (levels : Nat) {p : Parse α}
    (opened : ∀ state : ParseState, Ends settings.maxDepth (Kept part state)
      (p { state with depth := state.depth + levels })) (state : ParseState) :
    Ends settings.maxDepth (Kept part state) ((do enter settings levels; p : Parse α) state) := by
  change Ends _ _ (EStateM.bind (enter settings levels) (fun _ => p) state)
  unfold EStateM.bind
  rcases enter_result settings levels state with entered | entered
  · rw [entered]
    exact opened state
  · rw [entered]
    exact ⟨kept_same _ _, exceeded_accounted _⟩

theorem of_recurse (levels : Nat) {p : Parse α} (body : Neutral settings .rule p) :
    Neutral settings .rule (recurse settings levels p) := by
  refine of_enter levels fun state => ?_
  have ended := body { state with depth := state.depth + levels }
  have depth {after : ParseState} (kept : Kept .rule { state with depth := state.depth + levels } after) :
      after.depth = state.depth + levels := by
    have sum := kept.depth
    rw [kept.links rfl] at sum
    exact Nat.add_right_cancel sum
  rw [closing_by_map ended fun after kept => by rw [depth kept]; omega]
  refine ends_map ended fun after kept => ⟨kept.scope, ?_, kept.links⟩
  change after.depth - levels + state.links = state.depth + after.links
  rw [depth kept, kept.links rfl, Nat.add_sub_cancel]

-- The levels of links are closed together with the level of their chain.
theorem of_chain {p : Parse α} (body : Neutral settings .links p) :
    Neutral settings .rule (chain settings p) := by
  refine of_enter 1 fun state => ?_
  have ended := body { state with depth := state.depth + 1, links := 0 }
  -- The body starts without links, so the levels it leaves open are those it counts.
  have depth {after : ParseState}
      (kept : Kept .links { state with depth := state.depth + 1, links := 0 } after) :
      after.depth = state.depth + 1 + after.links := kept.depth
  rw [counting_links_by_map, closing_by_map ended fun after kept => by rw [depth kept]; omega]
  have closed : Ends settings.maxDepth
      (fun after => after.scope = state.scope ∧ after.depth = state.depth)
      (mapState (fun after => { after with depth := after.depth - (after.links + 1) })
        (p { state with depth := state.depth + 1, links := 0 })) :=
    ends_map ended fun after kept => ⟨kept.scope, by dsimp only; rw [depth kept]; omega⟩
  exact ends_map closed fun after kept =>
    ⟨kept.1, congrArg (· + state.links) kept.2, fun _ => rfl⟩

theorem of_hold : Neutral settings .links (hold settings) :=
  of_enter 1 fun state => ⟨rfl, by dsimp only; omega, fun rule => by cases rule⟩

theorem of_declaring (name : String) {p : Parse α} (body : Neutral settings .rule p) :
    Neutral settings .rule (declaring settings name p) := by
  intro state
  rw [declaring_by_map]
  change Ends _ _ (EStateM.bind (shared settings (Context.declare name)) _ state)
  unfold EStateM.bind shared Context.declare
  cases Context.isVariable ⟨settings, state.depth, state.scope⟩ name with
  | true => exact ⟨kept_same _ _, ⟨by simp, fun _ same => by cases same⟩⟩
  | false =>
      exact ends_map (body { state with scope := name :: state.scope }) fun after kept =>
        ⟨by simp [leaving, kept.scope], kept.depth, kept.links⟩

theorem of_sep_by (separator : TokenKind) {p : Parse α} (item : Neutral settings .rule p) :
    Neutral settings .rule (sepBy separator p) := by
  refine of_bind item fun _ => of_get fun _ => of_bind ?_ fun _ => of_pure _
  exact sequencing.separated (q := p) separator item _

theorem of_within (text : String) (dialect : Dialect) (position : Nat) {p : Parse α}
    (body : Neutral settings .rule p) : Neutral settings .rule (within text dialect position p) := by
  intro state
  rw [within_by_map]
  exact ends_map (of_bind of_advance (fun _ => body) _) fun _ kept =>
    ⟨kept.scope, kept.depth, kept.links⟩

theorem simulation :
    NestedSimulation settings settings (fun _ _ _ => True) fun part _ p _ => Neutral settings part p where
  toSequencing := sequencing
  rule neutral state := ends_of_imp (neutral state) fun _ kept => kept_rule kept
  limit := ⟨settings.maxDepth, rfl⟩
  dottedName acceptStar := of_move (Cursor.dotted_name_placed acceptStar)
  inScope _ state := kept_same _ state
  declaring name _ _ body := of_declaring name body
  tooDeep := of_error (exceeded_accounted _)
  recurse levels _ _ body := of_recurse levels body
  chain := of_chain
  hold := of_hold
  sepBy separator _ _ item := of_sep_by separator item
  within text dialect _ _ _ _ _ := of_within text dialect _
  optionValue steps := of_bind (of_move Cursor.option_value_placed) fun _ => steps _ _ 0 trivial
  behindParen {_ _ g} steps := sequencing.behindParen (g := g) fun position position' => steps position position'
  length steps := of_get fun _ => steps _

end Neutral

theorem grammar_neutral (settings : Settings) (option : QueryOption) (levels : Nat) :
    Neutral settings .rule (option.grammar settings levels) :=
  grammar_related Neutral.simulation option (.inl rfl)

end QueryOptions
