import QueryOptions.Parse
import QueryOptions.Proofs.Located

/-!
Relations between two runs of a grammar. Whatever relates the steps that grammars are made of, one by
one, relates whole grammars. `Simulation` lists those steps. Facts about a single run are the case of
a relation that looks at its left side only.
-/

set_option autoImplicit false

namespace QueryOptions

def Settings.withDepth (settings : Settings) (limit : Nat) : Settings :=
  { settings with maxDepth := limit }

-- The same error wherever it stands: only its position moves with the text. It is about
-- nothing but a piece of the text there.
structure Positional (piece : String) (error : Nat → ParseError) : Prop where
  position : ∀ place, (error place).position = some place
  shift : ∀ bytes place, (error place).shift bytes = error (bytes + place)
  located : ∀ text place, Text.Stands text piece.toList place → (error place).Located text

-- A rule ends with as many links counted as it starts with; a part of a chain may add to
-- them.
inductive Part where
  | rule
  | links

abbrev Relation := Part → ∀ α : Type, Parse α → Parse α → Prop

open Parse

-- A relation that goes through sequences of steps. `place` says which positions correspond
-- as those of a piece of text.
structure Sequencing (place : String → Nat → Nat → Prop) (Sim : Relation) : Prop where
  pure : ∀ {part : Part} {α : Type} (value : α), Sim part α (pure value) (pure value)
  bind : ∀ {part : Part} {α β : Type} {p q : Parse α} {f g : α → Parse β},
    Sim part α p q → (∀ value, Sim part β (f value) (g value)) → Sim part β (p >>= f) (q >>= g)
  current : ∀ {part : Part} {β : Type} {f g : Token → Parse β},
    (∀ kind text position position', place text position position' →
      Sim part β (f ⟨kind, text, position⟩) (g ⟨kind, text, position'⟩)) →
    Sim part β (current >>= f) (current >>= g)
  fail : ∀ {part : Part} {α : Type} {piece : String} {error : Nat → ParseError} {position position' : Nat},
    Positional piece error → place piece position position' →
    Sim part α (throw (error position)) (throw (error position'))
  advance : ∀ {part : Part}, Sim part Unit advance advance

structure Levelling [Counter] (settings settings' : Settings) (place : String → Nat → Nat → Prop) (Sim : Relation) : Prop
    extends Sequencing place Sim where
  rule : ∀ {part : Part} {α : Type} {p q : Parse α}, Sim .rule α p q → Sim part α p q
  dottedName : ∀ acceptStar, Sim .rule String (dottedName acceptStar) (dottedName acceptStar)
  inScope : ∀ name, Sim .rule Bool (inScope name) (inScope name)
  declaring : ∀ {α : Type} (name : String) {p q : Parse α},
    Sim .rule α p q → Sim .rule α (declaring settings name p) (declaring settings' name q)
  tooDeep : ∀ {α : Type}, Sim .rule α (tooDeep settings) (tooDeep settings')
  recurse : ∀ {α : Type} (levels : Nat) {p q : Parse α},
    Sim .rule α p q → Sim .rule α (recurse settings levels p) (recurse settings' levels q)
  chain : ∀ {α : Type} {p q : Parse α},
    Sim .links α p q → Sim .rule α (chain settings p) (chain settings' q)
  hold : Sim .links Unit (hold settings) (hold settings')
  sepBy : ∀ {α : Type} (separator : TokenKind) {p q : Parse α},
    Sim .rule α p q → Sim .rule (List α) (sepBy separator p) (sepBy separator q)

structure Simulation [Counter] (settings settings' : Settings) (place : String → Nat → Nat → Prop) (Sim : Relation) : Prop
    extends Levelling settings settings' place Sim where
  limit : ∃ limit, settings' = settings.withDepth limit

-- The levels left to the two runs: as many, or more to the right one where nothing is asked
-- of it once the left one is out of levels.
def Leaves (settings : Settings) (Sim : Relation) (levels levels' : Nat) : Prop :=
  levels' = levels ∨ levels ≤ levels' ∧ ∀ {α : Type} (q : Parse α), Sim .rule α (tooDeep settings) q

theorem leaves_down {settings : Settings} {Sim : Relation} {levels levels' : Nat} (count : Nat)
    (leaves : Leaves settings Sim (levels + count) levels') :
    ∃ fewer, levels' = fewer + count ∧ Leaves settings Sim levels fewer := by
  rcases leaves with rfl | ⟨le, free⟩
  · exact ⟨levels, rfl, .inl rfl⟩
  · exact ⟨levels' - count, by omega, .inr ⟨by omega, free⟩⟩

theorem Levelling.outOf [Counter] {settings settings' : Settings} {place : String → Nat → Nat → Prop} {Sim : Relation}
    (S : Levelling settings settings' place Sim) {levels : Nat} (leaves : Leaves settings Sim 0 levels)
    {α : Type} {q : Parse α} (same : levels = 0 → q = Parse.tooDeep settings' := by rintro ⟨⟩ <;> rfl) :
    Sim .rule α (Parse.tooDeep settings) q := by
  rcases leaves with zero | ⟨_, free⟩
  · rw [same zero]
    exact S.tooDeep
  · exact free q

theorem expected_positional (description : String) (token : Token) :
    Positional token.text (ParseError.expectedToken description token.describe) where
  position _ := rfl
  shift _ _ := rfl
  located text place stands := by
    by_cases finish : token.kind = .finish
    · exact .inr ⟨if_pos finish, Text.stands_boundary stands⟩
    · rw [Token.describe, if_neg finish]
      exact .inl stands

theorem ite_related {α : Type} {Sim : Parse α → Parse α → Prop} {c : Prop} [Decidable c]
    {p q p' q' : Parse α} (yes : Sim p q) (no : Sim p' q') :
    Sim (if c then p else p') (if c then q else q') := by
  split
  · exact yes
  · exact no

theorem expect_by_current (kind : TokenKind) (description : String) :
    expect kind description = (do
      let token ← current
      if token.kind = kind then advance
      else throw (.expectedToken description token.describe token.position)) := by
  funext state
  change move (Cursor.expect kind description) state =
    (if state.cursor.token.kind = kind then advance
      else throw (.expectedToken description state.cursor.token.describe state.cursor.token.position) : Parse Unit) state
  by_cases found : state.cursor.token.kind = kind
  · have step : Cursor.expect kind description state.cursor = Cursor.advance state.cursor :=
      congrFun (if_pos found) state.cursor
    rw [if_pos found, advance, move, move, step]
  · have step : Cursor.expect kind description state.cursor =
        .error (state.cursor.expected description) state.cursor := congrFun (if_neg found) state.cursor
    rw [if_neg found, move, step]
    rfl

def mapState {α : Type} (change : ParseState → ParseState) :
    EStateM.Result ParseError ParseState α → EStateM.Result ParseError ParseState α
  | .ok value after => .ok value (change after)
  | .error error after => .error error (change after)

theorem bind_ok {α β : Type} {p : Parse α} {f : α → Parse β} {state after : ParseState} {value : β}
    (done : (p >>= f) state = .ok value after) :
    ∃ first between, p state = .ok first between ∧ f first between = .ok value after := by
  change EStateM.bind p f state = _ at done
  unfold EStateM.bind at done
  cases result : p state with
  | ok first between =>
      rw [result] at done
      exact ⟨first, between, rfl, done⟩
  | error error between =>
      rw [result] at done
      cases done

theorem bind_done {α β : Type} {p : Parse α} {f : α → Parse β} {state between : ParseState} {value : α}
    (done : p state = .ok value between) : (p >>= f) state = f value between := by
  change EStateM.bind p f state = _
  unfold EStateM.bind
  rw [done]

theorem bind_failed {α β : Type} {p : Parse α} {f : α → Parse β} {state after : ParseState} {error : ParseError}
    (failed : p state = .error error after) : (p >>= f) state = .error error after := by
  change EStateM.bind p f state = _
  unfold EStateM.bind
  rw [failed]

theorem advance_done {state : ParseState} {moved : Cursor} (advanced : Cursor.advance state.cursor = .ok () moved) :
    advance state = .ok () { state with cursor := moved } := by
  unfold advance move
  rw [advanced]

theorem advance_ok {state after : ParseState} (done : advance state = .ok () after) :
    ∃ moved, Cursor.advance state.cursor = .ok () moved ∧ after = { state with cursor := moved } := by
  unfold advance move at done
  cases advanced : Cursor.advance state.cursor with
  | ok _ moved =>
      rw [advanced] at done
      cases done
      exact ⟨moved, rfl, rfl⟩
  | error error moved =>
      rw [advanced] at done
      cases done

theorem map_state_ok {α : Type} {change : ParseState → ParseState} {after : ParseState} {value : α}
    {result : EStateM.Result ParseError ParseState α} (done : mapState change result = .ok value after) :
    ∃ before, result = .ok value before ∧ after = change before := by
  cases result with
  | ok first before =>
      cases done
      exact ⟨before, rfl, rfl⟩
  | error => cases done

theorem counting_links_by_map {α : Type} (body : Parse α) (state : ParseState) :
    countingLinks body state =
      mapState (fun after => { after with links := state.links }) (body { state with links := 0 }) := by
  unfold countingLinks
  cases body { state with links := 0 } <;> rfl

theorem declaring_by_map {α : Type} (settings : Settings) (name : String) (body : Parse α) :
    declaring settings name body = (do
      shared settings (Context.declare name)
      fun state => mapState (leaving name) (body state)) := by
  refine congrArg (shared settings (Context.declare name) >>= ·) (funext fun _ => funext fun state => ?_)
  cases body state <;> rfl

theorem within_by_map {α : Type} (text : String) (dialect : Dialect) (offset : Nat) (body : Parse α)
    (state : ParseState) :
    within text dialect offset body state =
      mapState (fun inner => { inner with cursor := state.cursor })
        ((do advance; body : Parse α) { state with cursor := .start text dialect offset false }) := by
  unfold within
  cases (do advance; body : Parse α) { state with cursor := .start text dialect offset false } <;> rfl

theorem leave_ok {settings : Settings} {levels : Nat} {state after : ParseState}
    (done : leave settings levels state = .ok () after) : after.cursor = state.cursor := by
  unfold leave shared Context.leave at done
  by_cases missing : state.depth < levels
  · rw [if_pos missing] at done
    cases done
  · rw [if_neg missing] at done
    cases done
    rfl

theorem enter_by_limit [counter : Counter] (settings : Settings) (levels : Nat) (state : ParseState) :
    enter settings levels state =
      if settings.maxDepth < counter.reached state.depth levels then .error (.depthExceeded settings.maxDepth) state
      else .ok () { state with depth := counter.add state.depth levels } := by
  unfold enter shared Context.enterBy
  by_cases deep : settings.maxDepth < counter.reached state.depth levels
  · rw [if_pos deep, if_pos deep]
  · rw [if_neg deep, if_neg deep]

theorem enter_exactly (settings : Settings) (levels : Nat) (state : ParseState) :
    enter settings levels state =
      if settings.maxDepth < state.depth + levels then .error (.depthExceeded settings.maxDepth) state
      else .ok () { state with depth := state.depth + levels } :=
  enter_by_limit settings levels state

theorem enter_fits {settings : Settings} {levels : Nat} {state after : ParseState}
    (entered : enter settings levels state = .ok () after) :
    state.depth + levels ≤ settings.maxDepth ∧ after = { state with depth := state.depth + levels } := by
  rw [enter_exactly] at entered
  by_cases deep : settings.maxDepth < state.depth + levels
  · rw [if_pos deep] at entered
    cases entered
  · rw [if_neg deep] at entered
    cases entered
    exact ⟨Nat.not_lt.mp deep, rfl⟩

theorem enter_done {settings : Settings} {levels : Nat} {state : ParseState}
    (enough : state.depth + levels ≤ settings.maxDepth) :
    enter settings levels state = .ok () { state with depth := state.depth + levels } := by
  rw [enter_exactly, if_neg (Nat.not_lt.mpr enough)]

theorem enter_ok [counter : Counter] {settings : Settings} {levels : Nat} {state after : ParseState}
    (done : enter settings levels state = .ok () after) :
    after = { state with depth := counter.add state.depth levels } := by
  rw [enter_by_limit] at done
  by_cases deep : settings.maxDepth < counter.reached state.depth levels
  · rw [if_pos deep] at done
    cases done
  · rw [if_neg deep] at done
    cases done
    rfl

theorem closing_done {α : Type} {settings : Settings} {count : ParseState → Nat} {body : Parse α}
    {state after : ParseState} {value : α} (done : closing settings count body state = .ok value after) :
    ∃ before, body state = .ok value before ∧ after.cursor = before.cursor := by
  unfold closing at done
  cases result : body state with
  | ok first before =>
      rw [result] at done
      dsimp only at done
      cases left : leave settings (count before) before with
      | ok _ closed =>
          rw [left] at done
          cases done
          exact ⟨before, rfl, leave_ok left⟩
      | error error closed =>
          rw [left] at done
          cases done
  | error error before =>
      rw [result] at done
      dsimp only at done
      cases left : leave settings (count before) before <;> rw [left] at done <;> cases done

theorem recurse_ok [counter : Counter] {α : Type} {settings : Settings} {levels : Nat} {body : Parse α} {state after : ParseState}
    {value : α} (done : recurse settings levels body state = .ok value after) :
    ∃ before, body { state with depth := counter.add state.depth levels } = .ok value before ∧
      after.cursor = before.cursor := by
  obtain ⟨_, between, entered, closed⟩ := bind_ok done
  rw [enter_ok entered] at closed
  exact closing_done closed

theorem chain_ok [counter : Counter] {α : Type} {settings : Settings} {body : Parse α} {state after : ParseState} {value : α}
    (done : chain settings body state = .ok value after) :
    ∃ before, body { state with depth := counter.add state.depth 1, links := 0 } = .ok value before ∧
      after.cursor = before.cursor := by
  obtain ⟨_, between, entered, closed⟩ := bind_ok done
  rw [enter_ok entered, counting_links_by_map] at closed
  obtain ⟨inner, finished, rfl⟩ := map_state_ok closed
  obtain ⟨before, ran, same⟩ := closing_done finished
  exact ⟨before, ran, same⟩

theorem closing_error {α : Type} (settings : Settings) (count : ParseState → Nat) {body : Parse α}
    {state after : ParseState} {error : ParseError} (failed : body state = .error error after) :
    ∃ left, closing settings count body state = .error error left := by
  unfold closing
  rw [failed]
  dsimp only
  cases leave settings (count after) after <;> exact ⟨_, rfl⟩

namespace Sequencing

variable {place : String → Nat → Nat → Prop} {Sim : Relation} (S : Sequencing place Sim) {part : Part}

include S

theorem failExpected {α : Type} (description : String) :
    Sim part α (failExpected description) (failExpected description) :=
  S.current (f := fun token => throw (.expectedToken description token.describe token.position))
    (g := fun token => throw (.expectedToken description token.describe token.position))
    fun _ _ _ _ alike => S.fail (expected_positional _ _) alike

theorem atKind (kind : TokenKind) : Sim part Bool (atKind kind) (atKind kind) :=
  S.current fun _ _ _ _ _ => S.pure _

theorem atKeyword (ignoreCase : Bool) (keyword : String) :
    Sim part Bool (atKeyword ignoreCase keyword) (atKeyword ignoreCase keyword) :=
  S.current fun _ _ _ _ _ => S.pure _

theorem expect (kind : TokenKind) (description : String) :
    Sim part Unit (expect kind description) (expect kind description) := by
  rw [expect_by_current]
  exact S.current fun _ _ _ _ alike => ite_related S.advance (S.fail (expected_positional _ _) alike)

theorem expectEnd : Sim part Unit expectEnd expectEnd :=
  S.current fun _ _ _ _ alike =>
    ite_related (S.pure _) (S.fail ⟨fun _ => rfl, fun _ _ => rfl, fun _ _ => id⟩ alike)

theorem expectKeyword (ignoreCase : Bool) (keyword : String) :
    Sim part Unit (expectKeyword ignoreCase keyword) (expectKeyword ignoreCase keyword) :=
  S.bind (S.atKeyword ignoreCase keyword) fun _ =>
    ite_related S.advance
      (S.current fun _ _ _ _ alike => S.fail ⟨fun _ => rfl, fun _ _ => rfl, fun _ _ => Text.stands_boundary⟩ alike)

theorem identifier (description : String) :
    Sim part String (identifier description) (identifier description) :=
  S.current fun _ _ _ _ _ =>
    ite_related (S.bind S.advance fun _ => S.pure _) (S.failExpected description)

theorem separated {α : Type} (separator : TokenKind) {p q : Parse α} (item : Sim part α p q)
    (count : Nat) : Sim part (List α) (separated separator p count) (separated separator q count) := by
  induction count with
  | zero => exact S.pure _
  | succ count ih =>
      refine S.bind (S.atKind separator) fun _ => ite_related ?_ (S.pure _)
      exact S.bind S.advance fun _ => S.bind item fun _ => S.bind ih fun _ => S.pure _

end Sequencing

section

variable {settings settings' : Settings} (limit : settings'.maxDepth = settings.maxDepth)

include limit

theorem enter_of_limit [Counter] (levels : Nat) : enter settings levels = enter settings' levels := by
  funext state
  rw [enter_by_limit, enter_by_limit, limit]

omit limit in
theorem leave_of_any (settings settings' : Settings) (levels : Nat) : leave settings levels = leave settings' levels := by
  funext state
  unfold leave shared Context.leave
  by_cases missing : state.depth < levels
  · rw [if_pos missing, if_pos missing]
  · rw [if_neg missing, if_neg missing]

omit limit in
theorem closing_of_any {α : Type} (settings settings' : Settings) (count : ParseState → Nat) (p : Parse α) :
    closing settings count p = closing settings' count p := by
  unfold closing
  rw [funext (leave_of_any settings settings')]

theorem levelling_of_limit [Counter] :
    Levelling settings settings' (fun _ place place' => place = place') (fun _ _ p q => p = q) where
  pure _ := rfl
  bind first second := by rw [first, funext second]
  current steps := congrArg (Parse.current >>= ·) (funext fun token => steps _ _ _ _ rfl)
  fail _ same := by rw [same]
  advance := rfl
  rule := id
  dottedName _ := rfl
  inScope _ := rfl
  declaring name p q same := by
    rw [same, declaring_by_map, declaring_by_map]
    refine congrArg (· >>= _) (funext fun state => ?_)
    unfold shared Context.declare Context.isVariable
    by_cases declared : state.scope.contains name
    · rw [if_pos declared, if_pos declared]
    · rw [if_neg declared, if_neg declared]
  tooDeep := by
    unfold Parse.tooDeep
    rw [limit]
    intros
    rfl
  recurse levels p q same := by
    unfold recurse
    rw [same, enter_of_limit limit, closing_of_any settings settings']
  chain same := by
    unfold chain
    rw [same, enter_of_limit limit, closing_of_any settings settings']
  hold := by
    unfold hold
    rw [enter_of_limit limit]
  sepBy _ _ _ same := by rw [same]

end

end QueryOptions
