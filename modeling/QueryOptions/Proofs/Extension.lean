import QueryOptions.Proofs.Simulation.Items

set_option autoImplicit false

namespace QueryOptions

open Parse

def ParseError.OfLevels (error : ParseError) : Prop :=
  error = .depthMismatch ∨ ∃ limit, error = .depthExceeded limit

def Token.shift (bytes : Nat) (token : Token) : Token := { token with position := bytes + token.position }

namespace Cursor

def shift (bytes : Nat) (cursor : Cursor) : Cursor :=
  { cursor with offset := bytes + cursor.offset, token := cursor.token.shift bytes }

def shiftResult {α : Type} (bytes : Nat) :
    EStateM.Result ParseError Cursor α → EStateM.Result ParseError Cursor α
  | .ok value moved => .ok value (moved.shift bytes)
  | .error error moved => .error (error.shift bytes) (moved.shift bytes)

def Shifts (bytes : Nat) {α : Type} (step step' : Step α) : Prop :=
  ∀ cursor, step' (cursor.shift bytes) = shiftResult bytes (step cursor)

variable {bytes : Nat} {α β : Type}

theorem advance_shifts : Shifts bytes advance advance := by
  rintro ⟨rest, offset, token, dialect, keepsBlanks⟩
  by_cases blank : keepsBlanks ∧ dialect = .expression ∧ rest.takeWhile Text.isBlank ≠ []
  · simp only [advance, shift, Token.shift, if_pos blank, shiftResult, Nat.add_assoc]
  · simp only [advance, shift, blank, if_false]
    cases (dialect.scan (rest.dropWhile Text.isBlank)).outcome with
    | ok kind => simp only [shiftResult, shift, Token.shift, Nat.add_assoc]
    | error error => simp only [shiftResult, shift, shift_shift, Nat.add_assoc]

theorem shifts_pure (value : α) : Shifts bytes (pure value) (pure value) := fun _ => rfl

theorem shifts_expected (description : String) (cursor : Cursor) :
    Shifts bytes (throw (cursor.expected description) : Step α)
      (throw ((cursor.shift bytes).expected description)) := fun _ => rfl

theorem shifts_get {f g : Cursor → Step α} (steps : ∀ cursor, Shifts bytes (f cursor) (g (cursor.shift bytes))) :
    Shifts bytes (get >>= f) (get >>= g) := fun cursor => steps cursor cursor

theorem shifts_ite {c : Prop} [Decidable c] {step step' other other' : Step α} (yes : Shifts bytes step step')
    (no : Shifts bytes other other') : Shifts bytes (if c then step else other) (if c then step' else other') := by
  split
  · exact yes
  · exact no

theorem shifts_bind {step step' : Step α} {f g : α → Step β} (first : Shifts bytes step step')
    (second : ∀ value, Shifts bytes (f value) (g value)) : Shifts bytes (step >>= f) (step' >>= g) := by
  intro cursor
  change EStateM.bind step' g (cursor.shift bytes) = shiftResult bytes (EStateM.bind step f cursor)
  unfold EStateM.bind
  rw [first cursor]
  cases step cursor with
  | ok value moved => exact second value moved
  | error error moved => rfl

theorem dotted_parts_shifts (acceptStar : Bool) (parts : Nat) (name : String) :
    Shifts bytes (dottedParts acceptStar parts name) (dottedParts acceptStar parts name) := by
  induction parts generalizing name with
  | zero => exact shifts_pure name
  | succ parts ih =>
      refine shifts_get fun cursor => shifts_ite ?_ (shifts_pure name)
      refine shifts_bind advance_shifts fun _ => shifts_get fun cursor => shifts_ite ?_ (shifts_ite ?_ ?_)
      · exact shifts_bind advance_shifts fun _ => ih _
      · exact shifts_bind advance_shifts fun _ => shifts_pure _
      · exact shifts_expected _ _

theorem dotted_name_shifts (acceptStar : Bool) :
    Shifts bytes (dottedName acceptStar) (dottedName acceptStar) := by
  refine shifts_get fun cursor => shifts_ite ?_ (shifts_ite ?_ (shifts_expected _ _))
  · exact shifts_bind advance_shifts fun _ => dotted_parts_shifts _ _ _
  · exact shifts_bind advance_shifts fun _ => shifts_pure _

theorem option_value_shift (bytes : Nat) (cursor : Cursor) :
    optionValue (cursor.shift bytes) = match optionValue cursor with
      | .ok (value, offset) moved => .ok (value, bytes + offset) (moved.shift bytes)
      | .error error moved => .error (error.shift bytes) (moved.shift bytes) := by
  unfold optionValue
  dsimp only [shift]
  cases (scanValue (cursor.rest.length + 1) 0 cursor.rest).fault with
  | some error => simp only [shift_shift, Nat.add_assoc]
  | none =>
      generalize scanValue (cursor.rest.length + 1) 0 cursor.rest = value
      have same : Shifts bytes advance advance := advance_shifts
      have moved := same { cursor with
        rest := value.rest
        offset := cursor.offset + Text.byteLength value.taken }
      dsimp only [shift] at moved ⊢
      rw [Nat.add_assoc, moved]
      cases advance { cursor with
        rest := value.rest
        offset := cursor.offset + Text.byteLength value.taken } <;> rfl

end Cursor

namespace ParseState

def shift (bytes levels : Nat) (state : ParseState) : ParseState :=
  { state with cursor := state.cursor.shift bytes, depth := state.depth + levels }

end ParseState

-- The second result is that of the first run in a text further on, with more levels open. A
-- run that wants for levels says nothing about the other.
def Extends (bytes levels : Nat) {α : Type} :
    EStateM.Result ParseError ParseState α → EStateM.Result ParseError ParseState α → Prop
  | .ok value after, result => result = .ok value (after.shift bytes levels)
  | .error error _, result => error.OfLevels ∨ ∃ after, result = .error (error.shift bytes) after

def Extension (bytes levels : Nat) : Relation := fun _ _ p q =>
  ∀ state, Extends bytes levels (p state) (q (state.shift bytes levels))

namespace Extension

variable {bytes levels : Nat} {part : Part} {α β : Type}

theorem of_pure (value : α) : Extension bytes levels part α (pure value) (pure value) := fun _ => rfl

theorem of_bind {p q : Parse α} {f g : α → Parse β} (first : Extension bytes levels part α p q)
    (second : ∀ value, Extension bytes levels part β (f value) (g value)) :
    Extension bytes levels part β (p >>= f) (q >>= g) := by
  intro state
  have extended := first state
  change Extends _ _ (EStateM.bind p f state) (EStateM.bind q g _)
  unfold EStateM.bind
  cases result : p state with
  | ok value after =>
      rw [result] at extended
      rw [show q _ = _ from extended]
      exact second value after
  | error error after =>
      rw [result] at extended
      rcases extended with counted | ⟨after', same⟩
      · exact .inl counted
      · rw [same]
        exact .inr ⟨after', rfl⟩

theorem of_move {step : Cursor.Step α} (shifts : Cursor.Shifts bytes step step) :
    Extension bytes levels part α (move step) (move step) := by
  intro state
  have same := shifts state.cursor
  unfold move
  change Extends _ _ _ (match step (state.cursor.shift bytes) with
    | .ok value cursor => .ok value { state.shift bytes levels with cursor := cursor }
    | .error error cursor => .error error { state.shift bytes levels with cursor := cursor })
  rw [same]
  cases step state.cursor with
  | ok value cursor => rfl
  | error error cursor => exact .inr ⟨_, rfl⟩

theorem sequencing : Sequencing (fun _ place place' => place' = bytes + place) (Extension bytes levels) where
  pure := of_pure
  bind := of_bind
  current step state := step _ _ _ _ rfl state
  fail positional alike state := .inr ⟨_, by rw [positional.shift, ← alike]; rfl⟩
  advance := of_move Cursor.advance_shifts

theorem of_get {f g : ParseState → Parse α}
    (steps : ∀ state, Extension bytes levels part α (f state) (g (state.shift bytes levels))) :
    Extension bytes levels part α (get >>= f) (get >>= g) := fun state => steps state state

theorem of_sep_by (separator : TokenKind) {p q : Parse α} (item : Extension bytes levels .rule α p q) :
    Extension bytes levels .rule (List α) (sepBy separator p) (sepBy separator q) :=
  of_bind item fun _ => of_get fun _ =>
    of_bind (sequencing.separated separator item _) fun _ => of_pure _

variable {settings : Settings} {limit : Nat}

theorem leave_extends (count : Nat) (state : ParseState) :
    Extends bytes levels (leave settings count state)
      (leave (settings.withDepth limit) count (state.shift bytes levels)) := by
  unfold leave shared Context.leave
  by_cases missing : state.depth < count
  · rw [if_pos missing]
    exact .inl (.inl rfl)
  · rw [if_neg missing, if_neg (by dsimp only [ParseState.shift]; omega)]
    simp only [Extends, ParseState.shift, Nat.sub_add_comm (Nat.not_lt.mp missing)]

theorem of_closing {count : ParseState → Nat} {p q : Parse α}
    (same : ∀ state : ParseState, count (state.shift bytes levels) = count state)
    (body : Extension bytes levels part α p q) :
    Extension bytes levels part α (closing settings count p)
      (closing (settings.withDepth limit) count q) := by
  intro state
  have extended := body state
  cases result : p state with
  | ok value after =>
      rw [result] at extended
      have left : Extends bytes levels (leave settings (count after) after)
          (leave (settings.withDepth limit) (count after) (after.shift bytes levels)) :=
        leave_extends (count after) after
      unfold closing
      rw [result, show q _ = _ from extended]
      dsimp only
      rw [same]
      cases closed : leave settings (count after) after with
      | ok _ left' =>
          rw [closed] at left
          rw [show leave _ _ _ = _ from left]
          rfl
      | error error left' =>
          rw [closed] at left
          rcases left with counted | ⟨left'', same⟩
          · exact .inl counted
          · rw [same]
            exact .inr ⟨_, rfl⟩
  | error error after =>
      rw [result] at extended
      obtain ⟨left, failed⟩ := closing_error settings count result
      rw [failed]
      rcases extended with counted | ⟨after', same⟩
      · exact .inl counted
      · exact .inr (closing_error _ _ same)

theorem extends_map {result result' : EStateM.Result ParseError ParseState α}
    {change change' : ParseState → ParseState} (extended : Extends bytes levels result result')
    (same : ∀ after, change' (after.shift bytes levels) = (change after).shift bytes levels) :
    Extends bytes levels (mapState change result) (mapState change' result') := by
  cases result with
  | ok value after =>
      rw [show result' = _ from extended]
      exact congrArg (EStateM.Result.ok value) (same after)
  | error error after =>
      rcases extended with counted | ⟨after', failed⟩
      · exact .inl counted
      · rw [failed]
        exact .inr ⟨_, rfl⟩

theorem of_counting_links {p q : Parse α} (body : Extension bytes levels .links α p q) :
    Extension bytes levels .rule α (countingLinks p) (countingLinks q) := by
  intro state
  rw [counting_links_by_map, counting_links_by_map]
  exact extends_map (body { state with links := 0 }) fun _ => rfl

theorem of_declaring (name : String) {p q : Parse α} (body : Extension bytes levels .rule α p q) :
    Extension bytes levels .rule α (declaring settings name p)
      (declaring (settings.withDepth limit) name q) := by
  rw [declaring_by_map, declaring_by_map]
  refine of_bind (fun state => ?_) fun _ state => extends_map (body state) fun _ => rfl
  unfold shared Context.declare Context.isVariable
  by_cases declared : state.scope.contains name
  · have declared' : (state.shift bytes levels).scope.contains name := declared
    simp only [declared, declared', if_true]
    exact .inr ⟨_, rfl⟩
  · have declared' : ¬ (state.shift bytes levels).scope.contains name := declared
    simp only [declared, declared', Bool.false_eq_true, if_false]
    rfl

theorem of_within (text : String) (dialect : Dialect) {position position' : Nat} {p q : Parse α}
    (alike : position' = bytes + position) (body : Extension bytes levels .rule α p q) :
    Extension bytes levels .rule α (within text dialect position p) (within text dialect position' q) := by
  subst alike
  intro state
  rw [within_by_map, within_by_map]
  have whole := of_bind (of_move Cursor.advance_shifts) fun _ => body
  exact extends_map (whole { state with cursor := .start text dialect position false }) fun _ => rfl

theorem of_option_value {f g : String × Nat → Parse α}
    (steps : ∀ value position position', position' = bytes + position →
      Extension bytes levels .rule α (f (value, position)) (g (value, position'))) :
    Extension bytes levels .rule α (move Cursor.optionValue >>= f) (move Cursor.optionValue >>= g) := by
  intro state
  have same := Cursor.option_value_shift bytes state.cursor
  change Extends _ _ (EStateM.bind _ f state) (EStateM.bind _ g _)
  unfold EStateM.bind move
  rw [show (state.shift bytes levels).cursor = state.cursor.shift bytes from rfl, same]
  cases Cursor.optionValue state.cursor with
  | ok value cursor => exact steps value.1 value.2 _ rfl { state with cursor := cursor }
  | error error cursor => exact .inr ⟨_, rfl⟩

theorem of_too_deep (q : Parse α) : Extension bytes levels part α (tooDeep settings) q :=
  fun _ => .inl (.inr ⟨_, rfl⟩)

theorem leaves {fewer more : Nat} (le : fewer ≤ more) : Leaves settings (Extension bytes levels) fewer more :=
  .inr ⟨le, of_too_deep⟩

section

variable (enough : settings.maxDepth + levels ≤ limit)

include enough

theorem of_enter (count : Nat) :
    Extension bytes levels part Unit (enter settings count) (enter (settings.withDepth limit) count) := by
  intro state
  rw [enter_exactly, enter_exactly]
  by_cases deep : settings.maxDepth < state.depth + count
  · rw [if_pos deep]
    exact .inl (.inr ⟨_, rfl⟩)
  · rw [if_neg deep, if_neg (by dsimp only [ParseState.shift, Settings.withDepth]; omega)]
    simp only [Extends, ParseState.shift, Nat.add_right_comm]

theorem of_recurse (count : Nat) {p q : Parse α} (body : Extension bytes levels .rule α p q) :
    Extension bytes levels .rule α (recurse settings count p) (recurse (settings.withDepth limit) count q) :=
  of_bind (of_enter enough count) fun _ => of_closing (fun _ => rfl) body

theorem of_chain {p q : Parse α} (body : Extension bytes levels .links α p q) :
    Extension bytes levels .rule α (chain settings p) (chain (settings.withDepth limit) q) :=
  of_bind (of_enter enough 1) fun _ => of_counting_links (of_closing (fun _ => rfl) body)

theorem simulation :
    NestedSimulation settings (settings.withDepth limit) (fun _ place place' => place' = bytes + place)
      (Extension bytes levels) where
  toSequencing := sequencing
  rule := id
  limit := ⟨limit, rfl⟩
  dottedName acceptStar := of_move (Cursor.dotted_name_shifts acceptStar)
  inScope _ _ := rfl
  declaring := of_declaring
  tooDeep := of_too_deep _
  recurse := of_recurse enough
  chain := of_chain enough
  hold := of_bind (of_enter enough 1) fun _ _ => rfl
  sepBy := of_sep_by
  within := of_within
  optionValue := of_option_value
  behindParen := sequencing.behindParen
  length steps := of_get fun _ => steps _

end

end Extension

end QueryOptions
