import QueryOptions.Proofs.Extension

set_option autoImplicit false

namespace QueryOptions

open Parse

def ParseState.shiftResult {α : Type} (bytes : Nat) :
    EStateM.Result ParseError ParseState α → EStateM.Result ParseError ParseState α
  | .ok value after => .ok value (after.shift bytes 0)
  | .error error after => .error (error.shift bytes) (after.shift bytes 0)

def Shifted (bytes : Nat) : Relation := fun _ _ p q =>
  ∀ state : ParseState, q (state.shift bytes 0) = ParseState.shiftResult bytes (p state)

namespace Shifted

variable {bytes : Nat} {part : Part} {α β : Type} {settings : Settings}

theorem of_pure (value : α) : Shifted bytes part α (pure value) (pure value) := fun _ => rfl

theorem of_throw {error error' : ParseError} (same : error' = error.shift bytes) :
    Shifted bytes part α (throw error) (throw error') := by
  subst same
  exact fun _ => rfl

theorem of_bind {p q : Parse α} {f g : α → Parse β} (first : Shifted bytes part α p q)
    (second : ∀ value, Shifted bytes part β (f value) (g value)) :
    Shifted bytes part β (p >>= f) (q >>= g) := by
  intro state
  change EStateM.bind q g _ = ParseState.shiftResult bytes (EStateM.bind p f state)
  unfold EStateM.bind
  rw [first state]
  cases p state with
  | ok value after => exact second value after
  | error error after => rfl

theorem of_get {f g : ParseState → Parse α}
    (steps : ∀ state, Shifted bytes part α (f state) (g (state.shift bytes 0))) :
    Shifted bytes part α (get >>= f) (get >>= g) := fun state => steps state state

theorem of_move {step : Cursor.Step α} (shifts : Cursor.Shifts bytes step step) :
    Shifted bytes part α (move step) (move step) := by
  intro state
  have same := shifts state.cursor
  unfold move
  rw [show (state.shift bytes 0).cursor = state.cursor.shift bytes from rfl, same]
  cases step state.cursor <;> rfl

theorem sequencing : Sequencing (fun _ place place' => place' = bytes + place) (Shifted bytes) where
  pure := of_pure
  bind := of_bind
  current step state := step _ _ _ _ rfl state
  fail positional alike := of_throw (by rw [positional.shift, alike])
  advance := of_move Cursor.advance_shifts

theorem of_sep_by (separator : TokenKind) {p q : Parse α} (item : Shifted bytes .rule α p q) :
    Shifted bytes .rule (List α) (sepBy separator p) (sepBy separator q) :=
  of_bind item fun _ => of_get fun _ =>
    of_bind (sequencing.separated separator item _) fun _ => of_pure _

theorem of_shared {step : Context.Step α}
    (placeless : ∀ context error after, step context = .error error after → error.shift bytes = error) :
    Shifted bytes part α (shared settings step) (shared settings step) := by
  intro state
  unfold shared
  rw [show step ⟨settings, (state.shift bytes 0).depth, (state.shift bytes 0).scope⟩ =
    step ⟨settings, state.depth, state.scope⟩ from rfl]
  cases result : step ⟨settings, state.depth, state.scope⟩ with
  | ok value context => rfl
  | error error context => exact congrArg (EStateM.Result.error · _) (placeless _ _ _ result).symm

theorem of_enter [Counter] (levels : Nat) : Shifted bytes part Unit (enter settings levels) (enter settings levels) := by
  refine of_shared fun context error after failed => ?_
  unfold Context.enterBy at failed
  split at failed <;> cases failed
  rfl

theorem leave_shifts (levels : Nat) : Shifted bytes .rule Unit (leave settings levels) (leave settings levels) := by
  refine of_shared fun context error after failed => ?_
  unfold Context.leave at failed
  split at failed <;> cases failed
  rfl

theorem of_declare (name : String) :
    Shifted bytes part Unit (shared settings (Context.declare name)) (shared settings (Context.declare name)) := by
  refine of_shared fun context error after failed => ?_
  unfold Context.declare at failed
  split at failed <;> cases failed
  rfl

theorem of_closing {levels : ParseState → Nat} {p q : Parse α}
    (same : ∀ state : ParseState, levels (state.shift bytes 0) = levels state)
    (body : Shifted bytes part α p q) :
    Shifted bytes part α (closing settings levels p) (closing settings levels q) := by
  intro state
  have left (after : ParseState) : leave settings (levels (after.shift bytes 0)) (after.shift bytes 0) =
      ParseState.shiftResult bytes (leave settings (levels after) after) := by
    rw [same]
    exact leave_shifts (levels after) after
  unfold closing
  rw [body state]
  cases p state with
  | ok value after =>
      simp only [ParseState.shiftResult, left]
      cases leave settings (levels after) after <;> rfl
  | error error after =>
      simp only [ParseState.shiftResult, left]
      cases leave settings (levels after) after <;> rfl

theorem shift_map {result : EStateM.Result ParseError ParseState α} {change change' : ParseState → ParseState}
    (same : ∀ after, change' (after.shift bytes 0) = (change after).shift bytes 0) :
    mapState change' (ParseState.shiftResult bytes result) = ParseState.shiftResult bytes (mapState change result) := by
  cases result with
  | ok value after => exact congrArg (EStateM.Result.ok value) (same after)
  | error error after => exact congrArg (EStateM.Result.error (error.shift bytes)) (same after)

theorem of_counting_links {p q : Parse α} (body : Shifted bytes .links α p q) :
    Shifted bytes .rule α (countingLinks p) (countingLinks q) := by
  intro state
  rw [counting_links_by_map, counting_links_by_map]
  exact (congrArg (mapState _) (body { state with links := 0 })).trans (shift_map fun _ => rfl)

theorem of_declaring (name : String) {p q : Parse α} (body : Shifted bytes .rule α p q) :
    Shifted bytes .rule α (declaring settings name p) (declaring settings name q) := by
  rw [declaring_by_map, declaring_by_map]
  refine of_bind (of_declare name) fun _ state => ?_
  exact (congrArg (mapState _) (body state)).trans (shift_map fun _ => rfl)

theorem of_within (text : String) (dialect : Dialect) {position position' : Nat} {p q : Parse α}
    (alike : position' = bytes + position) (body : Shifted bytes .rule α p q) :
    Shifted bytes .rule α (within text dialect position p) (within text dialect position' q) := by
  subst alike
  intro state
  have whole := of_bind (of_move Cursor.advance_shifts) fun _ => body
  rw [within_by_map, within_by_map]
  exact (congrArg (mapState _) (whole { state with cursor := .start text dialect position false })).trans
    (shift_map fun _ => rfl)

theorem of_option_value {f g : String × Nat → Parse α}
    (steps : ∀ value position position', position' = bytes + position →
      Shifted bytes .rule α (f (value, position)) (g (value, position'))) :
    Shifted bytes .rule α (move Cursor.optionValue >>= f) (move Cursor.optionValue >>= g) := by
  intro state
  have same := Cursor.option_value_shift bytes state.cursor
  change EStateM.bind _ g _ = ParseState.shiftResult bytes (EStateM.bind _ f state)
  unfold EStateM.bind move
  rw [show (state.shift bytes 0).cursor = state.cursor.shift bytes from rfl, same]
  cases Cursor.optionValue state.cursor with
  | ok value cursor => exact steps value.1 value.2 _ rfl { state with cursor := cursor }
  | error error cursor => rfl

theorem simulation [Counter] :
    NestedSimulation settings settings (fun _ place place' => place' = bytes + place) (Shifted bytes) where
  toSequencing := sequencing
  rule := id
  limit := ⟨settings.maxDepth, rfl⟩
  dottedName acceptStar := of_move (Cursor.dotted_name_shifts acceptStar)
  inScope _ _ := rfl
  declaring := of_declaring
  tooDeep := of_throw rfl
  recurse levels _ _ body := of_bind (of_enter levels) fun _ => of_closing (fun _ => rfl) body
  chain body := of_bind (of_enter 1) fun _ => of_counting_links (of_closing (fun _ => rfl) body)
  hold := of_bind (of_enter 1) fun _ _ => rfl
  sepBy := of_sep_by
  within := of_within
  optionValue := of_option_value
  behindParen := sequencing.behindParen
  length steps := of_get fun _ => steps _

-- Which counter a run comes to does not depend on where it stands.
theorem of_counted {p : Counter → Nat → Parse α}
    (runs : ∀ counter levels, Shifted bytes part α (p counter levels) (p counter levels)) :
    Shifted bytes part α (fun state => Context.counted settings state.depth fun counter levels => p counter levels state)
      (fun state => Context.counted settings state.depth fun counter levels => p counter levels state) := by
  intro state
  have exact_run := runs .unbounded (settings.maxDepth - state.depth) state
  have wrapped := runs .wrapping maxCount state
  unfold Context.counted
  dsimp only
  rw [show (state.shift bytes 0).depth = state.depth from rfl, exact_run, wrapped]
  cases p .unbounded (settings.maxDepth - state.depth) state with
  | ok value after => rfl
  | error error after =>
      cases error <;> try rfl
      -- The limit has been exceeded, and it decides on the second run.
      dsimp only [ParseState.shiftResult, ParseError.shift]
      split <;> rfl

end Shifted

end QueryOptions
