import QueryOptions.Proofs.Context
import QueryOptions.Proofs.Token.Stream

set_option autoImplicit false

namespace QueryOptions

open Parse
open Text (Stands)

def Points (text : List Char) {σ α : Type} (fine : σ → Prop) : EStateM.Result ParseError σ α → Prop
  | .ok _ after => fine after
  | .error error _ => error.Located text

def Keeps (text : List Char) {σ α : Type} (fine : σ → Prop) (step : EStateM ParseError σ α) : Prop :=
  ∀ state, fine state → Points text fine (step state)

section

variable {text : List Char} {σ α β : Type} {fine : σ → Prop}

theorem keeps_pure (value : α) : Keeps text fine (pure value) := fun _ kept => kept

theorem keeps_throw {error : ParseError} (located : error.Located text) :
    Keeps text fine (throw error : EStateM ParseError σ α) := fun _ _ => located

theorem keeps_get {f : σ → EStateM ParseError σ α} (steps : ∀ state, fine state → Keeps text fine (f state)) :
    Keeps text fine (get >>= f) := fun state kept => steps state kept state kept

theorem points_bind {step : EStateM ParseError σ α} {f : α → EStateM ParseError σ β} {state : σ}
    (first : Points text fine (step state)) (second : ∀ value, Keeps text fine (f value)) :
    Points text fine ((step >>= f) state) := by
  change Points text fine (EStateM.bind step f state)
  unfold EStateM.bind
  cases result : step state with
  | ok value between =>
      rw [result] at first
      exact second value between first
  | error error between =>
      rw [result] at first
      exact first

theorem keeps_bind {step : EStateM ParseError σ α} {f : α → EStateM ParseError σ β} (first : Keeps text fine step)
    (second : ∀ value, Keeps text fine (f value)) : Keeps text fine (step >>= f) :=
  fun state kept => points_bind (first state kept) second

theorem keeps_ite {c : Prop} [Decidable c] {step other : EStateM ParseError σ α} (yes : Keeps text fine step)
    (no : Keeps text fine other) : Keeps text fine (if c then step else other) := by
  split
  · exact yes
  · exact no

end

namespace ValueScan

structure Splits (text : List Char) (scan : ValueScan) : Prop where
  split : scan.taken ++ scan.rest = text
  located : ∀ error, scan.fault = some error → error.Located text

theorem splits_after {text : List Char} {scan : ValueScan} (front : List Char) (splits : scan.Splits text) :
    (scan.after front).Splits (front ++ text) where
  split := (List.append_assoc ..).trans (congrArg (front ++ ·) splits.split)
  located error failed := by
    obtain ⟨fault, found, rfl⟩ := Option.map_eq_some_iff.mp failed
    exact ParseError.located_within (Text.stands_behind front text) (splits.located fault found)

theorem splits_stop (text : List Char) : Splits text ⟨none, [], text⟩ := ⟨rfl, fun _ none => by cases none⟩

end ValueScan

theorem value_scan_splits (pieces depth : Nat) (text : List Char) : (scanValue pieces depth text).Splits text := by
  induction pieces generalizing depth text with
  | zero => exact ValueScan.splits_stop text
  | succ pieces ih =>
      cases text with
      | nil =>
          refine ⟨rfl, fun error failed => ?_⟩
          cases failed
          exact .inr ⟨rfl, [], [], rfl, rfl⟩
      | cons c rest =>
          unfold scanValue
          split
          · rename_i quotes
            have string := scan_string_splits c rest
            dsimp only
            split
            · have others := ValueScan.splits_after (c :: (scanString c rest).taken) (ih depth (scanString c rest).rest)
              rwa [List.cons_append, string] at others
            · rename_i fault found
              refine ⟨congrArg (c :: ·) string, fun error failed => ?_⟩
              cases failed
              exact quote_fault_located [] quotes string (scan_string_escapes c rest) found
          · split
            · exact ValueScan.splits_after [c] (ih (depth + 1) rest)
            · split
              · cases depth with
                | zero => exact ValueScan.splits_stop (c :: rest)
                | succ depth => exact ValueScan.splits_after [c] (ih depth rest)
              · split
                · exact ValueScan.splits_stop (c :: rest)
                · exact ValueScan.splits_after [c] (ih depth rest)

namespace Cursor

structure On (text : List Char) (cursor : Cursor) : Prop where
  rest : Stands text cursor.rest cursor.offset
  token : Stands text cursor.token.text.toList cursor.token.position
  opening : cursor.token.kind = .openParen → cursor.token.text = "("

variable {text : List Char} {cursor moved : Cursor} {error : ParseError}

theorem start_on {piece : String} {position : Nat} (dialect : Dialect) (stands : Stands text piece.toList position) :
    On text (start piece dialect position false) :=
  ⟨stands, Text.stands_boundary stands, fun same => by cases same⟩

theorem advance_located (on : On text cursor) (failed : advance cursor = .error error moved) : error.Located text := by
  have whole := List.takeWhile_append_dropWhile (p := Text.isBlank) (l := cursor.rest)
  unfold advance at failed
  dsimp only at failed
  generalize cursor.rest.takeWhile Text.isBlank = blanks at failed whole
  generalize cursor.rest.dropWhile Text.isBlank = visible at failed whole
  split at failed
  · cases failed
  · have stands : Stands text visible (cursor.offset + Text.byteLength blanks) :=
      Text.stands_within on.rest (whole ▸ Text.stands_behind blanks visible)
    cases found : (cursor.dialect.scan visible).outcome with
    | ok kind =>
        rw [found] at failed
        cases failed
    | error fault =>
        rw [found] at failed
        cases failed
        cases visible with
        | nil =>
            rw [Dialect.scan_nil] at found
            cases found
        | cons c rest =>
            exact ParseError.located_within stands ((Dialect.scan_splits cursor.dialect c rest).located fault found)

theorem advance_on (on : On text cursor) (advanced : advance cursor = .ok () moved) : On text moved := by
  obtain ⟨between, reads⟩ := reads_of_advance advanced
  have stands : Stands text (moved.token.text.toList ++ moved.rest) moved.token.position := by
    have behind := Text.stands_behind between (moved.token.text.toList ++ moved.rest)
    rw [← reads.split] at behind
    rw [reads.placed]
    exact Text.stands_within on.rest behind
  refine ⟨?_, Text.stands_start stands, reads.opening⟩
  rw [reads.offset]
  exact Text.stands_within stands (Text.stands_behind _ moved.rest)

theorem advance_keeps : Keeps text (On text) advance := by
  intro cursor on
  cases advanced : advance cursor with
  | ok value moved => exact advance_on on advanced
  | error error moved => exact advance_located on advanced

theorem expected_keeps {α : Type} (description : String) (on : On text cursor) :
    Keeps text (On text) (throw (cursor.expected description) : Step α) :=
  keeps_throw ((expected_positional description cursor.token).located text _ on.token)

theorem dotted_parts_keep (acceptStar : Bool) (parts : Nat) (name : String) :
    Keeps text (On text) (dottedParts acceptStar parts name) := by
  induction parts generalizing name with
  | zero => exact keeps_pure name
  | succ parts ih =>
      refine keeps_get fun _ _ => keeps_ite ?_ (keeps_pure name)
      refine keeps_bind advance_keeps fun _ => keeps_get fun _ on => keeps_ite ?_ (keeps_ite ?_ (expected_keeps _ on))
      · exact keeps_bind advance_keeps fun _ => ih _
      · exact keeps_bind advance_keeps fun _ => keeps_pure _

theorem dotted_name_keeps (acceptStar : Bool) : Keeps text (On text) (dottedName acceptStar) := by
  refine keeps_get fun _ on => keeps_ite ?_ (keeps_ite ?_ (expected_keeps _ on))
  · exact keeps_bind advance_keeps fun _ => dotted_parts_keep _ _ _
  · exact keeps_bind advance_keeps fun _ => keeps_pure _

theorem option_value_points (on : On text cursor) :
    match optionValue cursor with
    | .ok (value, position) moved => Stands text value.toList position ∧ On text moved
    | .error error _ => error.Located text := by
  have splits := value_scan_splits (cursor.rest.length + 1) 0 cursor.rest
  unfold optionValue
  dsimp only
  generalize scanValue (cursor.rest.length + 1) 0 cursor.rest = value at splits ⊢
  obtain ⟨fault, taken, rest⟩ := value
  have split : taken ++ rest = cursor.rest := splits.split
  have value : Stands text taken cursor.offset :=
    Text.stands_within on.rest (split ▸ Text.stands_front taken rest)
  cases fault with
  | some fault => exact ParseError.located_within on.rest (splits.located fault rfl)
  | none =>
      have behind : On text { cursor with rest := rest, offset := cursor.offset + Text.byteLength taken } :=
        ⟨Text.stands_within on.rest (split ▸ Text.stands_behind taken rest), on.token, on.opening⟩
      have points := advance_keeps _ behind
      dsimp only
      cases advanced : advance { cursor with rest := rest, offset := cursor.offset + Text.byteLength taken } with
      | ok _ moved =>
          rw [advanced] at points
          exact ⟨by rwa [String.toList_ofList], points⟩
      | error error moved =>
          rw [advanced] at points
          exact points

end Cursor

def ParseState.On (text : List Char) (state : ParseState) : Prop := state.cursor.On text

def Pointing (text : List Char) {α : Type} (p : Parse α) : Prop := Keeps text (ParseState.On text) p

namespace Pointing

variable {text : List Char} {settings : Settings} {α β : Type}

theorem of_move {step : Cursor.Step α} (keeps : Keeps text (Cursor.On text) step) : Pointing text (move step) := by
  intro state on
  have points := keeps state.cursor on
  unfold move
  cases result : step state.cursor with
  | ok value cursor =>
      rw [result] at points
      exact points
  | error error cursor =>
      rw [result] at points
      exact points

theorem of_shared {step : Context.Step α}
    (located : ∀ context error after, step context = .error error after → error.Located text) :
    Pointing text (shared settings step) := by
  intro state on
  unfold shared
  cases result : step ⟨settings, state.depth, state.scope⟩ with
  | ok value context => exact on
  | error error context => exact located _ error context result

theorem of_enter (levels : Nat) : Pointing text (enter settings levels) := by
  refine of_shared fun context error after failed => ?_
  unfold Context.enterBy at failed
  split at failed <;> cases failed
  trivial

theorem of_leave (levels : Nat) : Pointing text (leave settings levels) := by
  refine of_shared fun context error after failed => ?_
  unfold Context.leave at failed
  split at failed <;> cases failed
  trivial

theorem points_map {change : ParseState → ParseState} {result : EStateM.Result ParseError ParseState α}
    (points : Points text (ParseState.On text) result) (changed : ∀ after, after.On text → (change after).On text) :
    Points text (ParseState.On text) (mapState change result) := by
  cases result with
  | ok value after => exact changed after points
  | error error after => exact points

theorem of_closing (levels : ParseState → Nat) {p : Parse α} (body : Pointing text p) :
    Pointing text (closing settings levels p) := by
  intro state on
  have points := body state on
  cases result : p state with
  | ok value after =>
      rw [result] at points
      have left : Points text _ (leave settings (levels after) after) := of_leave (levels after) after points
      unfold closing
      rw [result]
      dsimp only
      cases closed : leave settings (levels after) after with
      | ok _ last =>
          rw [closed] at left
          exact left
      | error error last =>
          rw [closed] at left
          exact left
  | error error after =>
      rw [result] at points
      obtain ⟨last, failed⟩ := closing_error settings levels result
      rw [failed]
      exact points

theorem of_recurse (levels : Nat) {p : Parse α} (body : Pointing text p) : Pointing text (recurse settings levels p) :=
  keeps_bind (of_enter levels) fun _ => of_closing _ body

theorem of_chain {p : Parse α} (body : Pointing text p) : Pointing text (chain settings p) := by
  refine keeps_bind (of_enter 1) fun _ state on => ?_
  rw [counting_links_by_map]
  exact points_map (of_closing _ body { state with links := 0 } on) fun _ on => on

theorem of_hold : Pointing text (hold settings) := keeps_bind (of_enter 1) fun _ _ on => on

theorem of_declaring (name : String) {p : Parse α} (body : Pointing text p) :
    Pointing text (declaring settings name p) := by
  rw [declaring_by_map]
  refine keeps_bind (of_shared fun context error after failed => ?_) fun _ state on =>
    points_map (body state on) fun _ on => on
  unfold Context.declare at failed
  split at failed <;> cases failed
  trivial

theorem of_advance : Pointing text advance := of_move Cursor.advance_keeps

theorem sequencing :
    Sequencing (fun piece position _ => Stands text piece.toList position) fun _ _ p _ => Pointing text p where
  pure := keeps_pure
  bind := keeps_bind
  current step state on := step _ _ _ 0 on.token state on
  fail positional stands := keeps_throw (positional.located _ _ stands)
  advance := of_advance

theorem of_sep_by (separator : TokenKind) {p : Parse α} (item : Pointing text p) :
    Pointing text (sepBy separator p) := by
  refine keeps_bind item fun _ => keeps_get fun _ _ => keeps_bind ?_ fun _ => keeps_pure _
  exact @Sequencing.separated _ _ sequencing .rule _ separator p p item _

theorem of_within {piece : String} {position : Nat} (dialect : Dialect) (stands : Stands text piece.toList position)
    {p : Parse α} (body : Pointing text p) : Pointing text (within piece dialect position p) := by
  intro state on
  rw [within_by_map]
  exact points_map (keeps_bind of_advance (fun _ => body) _ (Cursor.start_on dialect stands)) fun _ _ => on

theorem of_option_value {f : String × Nat → Parse α}
    (steps : ∀ value position, Stands text value.toList position → Pointing text (f (value, position))) :
    Pointing text (move Cursor.optionValue >>= f) := by
  intro state on
  have points := Cursor.option_value_points on
  change Points _ _ (EStateM.bind (move Cursor.optionValue) f state)
  unfold EStateM.bind move
  cases result : Cursor.optionValue state.cursor with
  | ok value cursor =>
      rw [result] at points
      exact steps value.1 value.2 points.1 { state with cursor := cursor } points.2
  | error error cursor =>
      rw [result] at points
      exact points

theorem of_behind_paren {f : Nat → Parse α}
    (steps : ∀ position, Stands text ['('] position → Pointing text (f position)) : Pointing text (behindParen f) := by
  intro state on
  by_cases opening : state.cursor.token.kind = .openParen
  · have stands : Stands text ['('] state.cursor.token.position := by
      have token := on.token
      rwa [on.opening opening] at token
    exact keeps_bind (@Sequencing.expect _ _ sequencing .rule .openParen "'('") (fun _ => steps _ stands) state on
  · have located := (expected_positional "'('" state.cursor.token).located text _ on.token
    have failed : expect .openParen "'('" state = .error (state.cursor.expected "'('") state := by
      rw [expect_by_current]
      exact congrFun (if_neg opening) state
    change Points _ _ (EStateM.bind (expect .openParen "'('") (fun _ => f _) state)
    unfold EStateM.bind
    rw [failed]
    exact located

theorem simulation :
    NestedSimulation settings settings (fun piece position _ => Stands text piece.toList position)
      fun _ _ p _ => Pointing text p where
  toSequencing := sequencing
  rule := id
  limit := ⟨settings.maxDepth, rfl⟩
  dottedName acceptStar := of_move (Cursor.dotted_name_keeps acceptStar)
  inScope _ _ on := on
  declaring name _ _ body := of_declaring name body
  tooDeep := keeps_throw trivial
  recurse levels _ _ body := of_recurse levels body
  chain := of_chain
  hold := of_hold
  sepBy separator _ _ item := of_sep_by separator item
  within _ dialect _ _ _ _ stands body := of_within dialect stands body
  optionValue steps := of_option_value fun value position stands => steps value position 0 stands
  behindParen steps := of_behind_paren fun position stands => steps position 0 stands
  length steps := keeps_get fun _ _ => steps _

end Pointing

theorem parser_points (settings : Settings) (option : QueryOption) (text : String) :
    Points text.toList (ParseState.On text.toList) (option.parser settings (option.start text)) :=
  have grammar : Pointing text.toList (option.grammar settings settings.maxDepth) :=
    grammar_related Pointing.simulation option (.inl rfl)
  keeps_bind Pointing.of_advance (fun _ => grammar) _
    (Cursor.start_on option.dialect ⟨[], [], (List.append_nil _).symm, rfl⟩)

-- Whatever a parse fails with points at what it is about: a position is a boundary between
-- characters of the whole text, and what the error quotes is what the text goes on with.
theorem parse_error_points {settings : Settings} {option : QueryOption} {text : String} {error : ParseError}
    (failed : parse settings option text = .error error) :
    error.Located text.toList ∧ ∀ position, error.position = some position →
      Stands text.toList [] position ∧ position ≤ Text.byteLength text.toList := by
  have points := parser_points settings option text
  rw [parse_by_steps] at failed
  cases result : option.parser settings (option.start text) with
  | ok parsed after =>
      rw [result] at failed
      cases failed
  | error error' after =>
      rw [result] at failed points
      cases failed
      refine ⟨points, fun position placed => ?_⟩
      have stands := ParseError.located_boundary points placed
      exact ⟨stands, Text.stands_le stands⟩

def failure? : Except ParseError ParsedOption → Option ParseError
  | .error error => some error
  | .ok _ => none

theorem error_of_failure {result : Except ParseError ParsedOption} {error : ParseError}
    (failed : failure? result = some error) : result = .error error := by
  cases result with
  | error error' => exact congrArg Except.error (Option.some.inj failed)
  | ok parsed => cases failed

theorem nested_escape_points :
    parse {} .expand "Ä($filter=ü eq \"\\x\")" = .error (.invalidEscape "\\x" 18) ∧
      Stands "Ä($filter=ü eq \"\\x\")".toList "\\x".toList 18 :=
  have failed : parse {} .expand "Ä($filter=ü eq \"\\x\")" = .error (.invalidEscape "\\x" 18) :=
    error_of_failure (by decide +kernel)
  ⟨failed, (parse_error_points failed).1⟩

end QueryOptions
