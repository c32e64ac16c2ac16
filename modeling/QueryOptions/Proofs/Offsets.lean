import QueryOptions.Proofs.Context
import QueryOptions.Proofs.Reading.Items
import QueryOptions.Proofs.Shifted
import QueryOptions.Session

set_option autoImplicit false

namespace QueryOptions

def shiftOutcome {α : Type} (bytes : Nat) (move : α → α) : Except ParseError α → Except ParseError α
  | .ok value => .ok (move value)
  | .error error => .error (error.shift bytes)

namespace Cursor

variable {bytes : Nat}

theorem expect_shifts (kind : TokenKind) (description : String) :
    Shifts bytes (expect kind description) (expect kind description) :=
  shifts_get fun _ => shifts_ite advance_shifts (shifts_expected _ _)

theorem next_shifts : Shifts bytes Session.next Session.next :=
  shifts_bind advance_shifts fun _ => shifts_get fun _ => shifts_pure _

theorem peek_shift (cursor : Cursor) :
    (cursor.shift bytes).peek = shiftOutcome bytes (Option.map (Token.shift bytes)) cursor.peek := by
  unfold peek
  rw [show advance (cursor.shift bytes) = _ from advance_shifts cursor]
  cases advance cursor with
  | error error moved => rfl
  | ok _ moved =>
      by_cases finish : moved.token.kind = .finish
      · have finish' : (moved.shift bytes).token.kind = .finish := finish
        simp only [shiftResult, if_pos finish, if_pos finish', shiftOutcome, Option.map_none]
      · have finish' : (moved.shift bytes).token.kind ≠ .finish := finish
        simp only [shiftResult, if_neg finish, if_neg finish', shiftOutcome, Option.map_some]
        rfl

end Cursor

namespace Session

variable {bytes : Nat}

def Answer.shift (bytes : Nat) : Answer → Answer
  | .ahead token => .ahead (token.map (Token.shift bytes))
  | .value text offset => .value text (bytes + offset)
  | answer => answer

def Report.shift (bytes : Nat) (report : Report) : Report where
  answer := shiftOutcome bytes (Answer.shift bytes) report.answer
  token := report.token.shift bytes
  offset := bytes + report.offset

def shift (bytes : Nat) (session : Session) : Session where
  cursor := session.cursor.shift bytes
  kept := session.kept.map (Cursor.shift bytes)

def shiftStep (bytes : Nat) (step : Except ParseError Answer × Session) : Except ParseError Answer × Session :=
  (shiftOutcome bytes (Answer.shift bytes) step.1, step.2.shift bytes)

theorem take_shift {α : Type} {step : Cursor.Step α} {answer : α → Answer}
    (shifts : Cursor.Shifts bytes step step) (still : ∀ value, (answer value).shift bytes = answer value)
    (session : Session) : (session.shift bytes).take step answer = shiftStep bytes (session.take step answer) := by
  unfold take
  rw [show step (session.shift bytes).cursor = _ from shifts session.cursor]
  cases step session.cursor with
  | ok value moved => simp only [Cursor.shiftResult, shiftStep, shiftOutcome, still]; rfl
  | error error moved => rfl

theorem perform_shift (bytes : Nat) (session : Session) (request : Request) :
    (session.shift bytes).perform request = shiftStep bytes (session.perform request) := by
  cases request with
  | next => exact take_shift Cursor.next_shifts (fun _ => rfl) session
  | peek =>
      simp only [perform, show (session.shift bytes).cursor.peek = _ from session.cursor.peek_shift]
      cases session.cursor.peek <;> rfl
  | checkpoint => simp only [perform, shiftStep, shiftOutcome, Answer.shift, shift, List.map_append, List.map_singleton]
  | restore index =>
      simp only [perform, shiftStep, shiftOutcome, Answer.shift, shift, List.getElem?_map]
      cases session.kept[index]? <;> rfl
  | expect kind description => exact take_shift (Cursor.expect_shifts kind description) (fun _ => rfl) session
  | dottedName acceptStar => exact take_shift (Cursor.dotted_name_shifts acceptStar) (fun _ => rfl) session
  | optionValue =>
      simp only [perform, take, show Cursor.optionValue (session.shift bytes).cursor = _ from
        Cursor.option_value_shift bytes session.cursor]
      cases Cursor.optionValue session.cursor <;> rfl

theorem run_shift (bytes : Nat) (requests : List Request) (session : Session) :
    (session.shift bytes).run requests =
      ((session.run requests).1.map (Report.shift bytes), (session.run requests).2.shift bytes) := by
  induction requests generalizing session with
  | nil => rfl
  | cons request requests ih =>
      unfold run
      rw [perform_shift]
      dsimp only [shiftStep]
      rw [ih]
      rfl

end Session

open Parse

namespace GrammarSession

variable {bytes : Nat} {settings : Settings}

def Answer.shift (bytes : Nat) : Answer → Answer
  | .token answer => .token (answer.shift bytes)
  | answer => answer

def Report.shift (bytes : Nat) (report : Report) : Report :=
  { report with
    answer := shiftOutcome bytes (Answer.shift bytes) report.answer
    token := report.token.shift bytes
    offset := bytes + report.offset }

def shift (bytes : Nat) (session : GrammarSession) : GrammarSession where
  state := session.state.shift bytes 0
  kept := session.kept.map (Cursor.shift bytes)

def shiftStep (bytes : Nat) (step : Except ParseError Answer × GrammarSession) :
    Except ParseError Answer × GrammarSession :=
  (shiftOutcome bytes (Answer.shift bytes) step.1, step.2.shift bytes)

theorem parser_shifted [Counter] (rule : GrammarRule) (levels : Nat) (dialect : Dialect) :
    Shifted bytes .rule _ (rule.parser settings levels dialect) (rule.parser settings levels dialect) := by
  have S : Simulation settings settings (fun _ place place' => place' = bytes + place) (Shifted bytes) :=
    Shifted.simulation.toSimulation
  have expressions := Expression.related S.wording levels levels (.inl rfl)
  have searches := Search.related S.toLevelling levels levels (.inl rfl)
  cases dialect with
  | expression =>
      cases rule with
      | disjunction => exact expressions.disjunction
      | conjunction => exact expressions.conjunction
      | operand => exact expressions.comparison
      | unary => exact S.chain expressions.prefixed
      | primary => exact expressions.primary
      | whole => exact Expression.whole_related S.wording levels levels (.inl rfl)
  | search =>
      cases rule with
      | disjunction => exact searches.disjunction
      | conjunction => exact searches.conjunction
      | operand => exact S.chain searches.negated
      | unary => exact S.chain searches.negated
      | primary => exact searches.primary
      | whole => exact Search.whole_related S.toLevelling levels levels (.inl rfl)

theorem take_shift {α : Type} {parse : Parse α} {answer : α → Answer}
    (shifted : Shifted bytes .rule α parse parse) (still : ∀ value, (answer value).shift bytes = answer value)
    (session : GrammarSession) :
    (session.shift bytes).take parse answer = shiftStep bytes (session.take parse answer) := by
  unfold take
  rw [show parse (session.shift bytes).state = _ from shifted session.state]
  cases parse session.state with
  | ok value after => simp only [ParseState.shiftResult, shiftStep, shiftOutcome, still]; rfl
  | error error after => rfl

theorem perform_shift (dialect : Dialect) (session : GrammarSession) (request : Request) :
    (session.shift bytes).perform settings dialect request =
      shiftStep bytes (session.perform settings dialect request) := by
  cases request with
  | token request =>
      have moved := Session.perform_shift bytes ⟨session.state.cursor, session.kept⟩ request
      dsimp only [Session.shift] at moved
      simp only [perform, shift, ParseState.shift, moved, Session.shiftStep]
      cases (Session.perform ⟨session.state.cursor, session.kept⟩ request).1 <;> rfl
  | atKeyword keyword => exact take_shift (Shifted.sequencing.atKeyword _ keyword) (fun _ => rfl) session
  | parse rule =>
      refine take_shift (Shifted.of_counted fun _ levels => ?_) (fun _ => rfl) session
      exact parser_shifted rule levels dialect

theorem run_shift (bytes : Nat) (dialect : Dialect) (requests : List Request) (session : GrammarSession) :
    (session.shift bytes).run settings dialect requests =
      ((session.run settings dialect requests).1.map (Report.shift bytes),
        (session.run settings dialect requests).2.shift bytes) := by
  induction requests generalizing session with
  | nil => rfl
  | cons request requests ih =>
      unfold run
      rw [perform_shift]
      dsimp only [shiftStep]
      rw [ih]
      rfl

theorem reports_shift (context : Context) (text : String) (dialect : Dialect) (offset : Nat) (requests : List Request) :
    reports context text dialect offset requests =
      shiftOutcome offset (List.map (Report.shift offset)) (reports context text dialect 0 requests) := by
  have first : Shifted offset .rule Unit (do advance; pure ()) (do advance; pure ()) :=
    Shifted.of_bind Shifted.sequencing.advance fun _ => Shifted.of_pure ()
  have begun : onText text dialect offset context.scope (pure ()) context.depth =
      ParseState.shiftResult offset (onText text dialect 0 context.scope (pure ()) context.depth) :=
    first { cursor := .start text dialect 0 false, scope := context.scope, depth := context.depth }
  unfold reports start
  rw [begun]
  cases onText text dialect 0 context.scope (pure ()) context.depth with
  | error error state => rfl
  | ok _ state =>
      exact congrArg (fun ran => Except.ok ran.1) (run_shift offset dialect requests { state := state })

end GrammarSession

def failure {σ α : Type} : EStateM.Result ParseError σ α → Option ParseError
  | .ok _ _ => none
  | .error error _ => some error

def shiftError {α : Type} (bytes : Nat) :
    EStateM.Result ParseError ParseState α → EStateM.Result ParseError ParseState α
  | .ok value after => .ok value after
  | .error error after => .error (error.shift bytes) after

-- Two parses of a text of its own in one and the same state, the second further on.
def Displaced (bytes : Nat) {α : Type} (p q : Parse α) : Prop :=
  ∀ state, q state = shiftError bytes (p state)

section

variable {bytes : Nat} {α β : Type} {settings : Settings} {p q : Parse α}

theorem displaced_pure (value : α) : Displaced bytes (pure value) (pure value) := fun _ => rfl

theorem displaced_throw (error : ParseError) :
    Displaced bytes (throw error : Parse α) (throw (error.shift bytes)) := fun _ => rfl

theorem displaced_map (f : α → β) (displaced : Displaced bytes p q) :
    Displaced bytes (do return f (← p) : Parse β) (do return f (← q)) := by
  intro state
  change EStateM.bind q _ state = shiftError bytes (EStateM.bind p _ state)
  unfold EStateM.bind
  rw [displaced state]
  cases p state <;> rfl

theorem displaced_recurse [Counter] (levels : Nat) (displaced : Displaced bytes p q) :
    Displaced bytes (recurse settings levels p) (recurse settings levels q) := by
  intro state
  change EStateM.bind (enter settings levels) (fun _ => closing settings (fun _ => levels) q) state =
    shiftError bytes (EStateM.bind (enter settings levels) (fun _ => closing settings (fun _ => levels) p) state)
  unfold EStateM.bind
  rcases Neutral.enter_result settings levels state with entered | entered
  · rw [entered]
    unfold closing
    dsimp only
    rw [displaced]
    cases p { state with depth := Counter.add state.depth levels } with
    | ok value after =>
        simp only [shiftError]
        unfold leave shared Context.leave
        by_cases missing : after.depth < levels
        · rw [if_pos missing]
          rfl
        · rw [if_neg missing]
    | error error after =>
        simp only [shiftError]
        cases leave settings levels after <;> rfl
  · rw [entered]
    rfl

theorem within_displaced (text : String) (dialect : Dialect) (body : Shifted bytes .rule α p p) :
    Displaced bytes (within text dialect 0 p) (within text dialect bytes p) := by
  intro state
  have whole := Shifted.of_bind (Shifted.of_move Cursor.advance_shifts) fun _ => body
  rw [within_by_map, within_by_map]
  refine (congrArg (mapState _) (whole { state with cursor := .start text dialect 0 false })).trans ?_
  change mapState _ (ParseState.shiftResult bytes ((do advance; p : Parse α) _)) = _
  cases (do advance; p : Parse α) { state with cursor := .start text dialect 0 false } <;> rfl

theorem failure_map (f : α → β) (p : Parse α) (state : ParseState) :
    failure ((do return f (← p) : Parse β) state) = failure (p state) := by
  change failure (EStateM.bind p _ state) = _
  unfold EStateM.bind
  cases p state <;> rfl

theorem failure_after_advance (f : α → β) (p : Parse α) (state : ParseState) :
    failure ((do advance; let value ← p; pure (f value) : Parse β) state) = failure ((do advance; p : Parse α) state) := by
  change failure (EStateM.bind advance _ state) = failure (EStateM.bind advance _ state)
  unfold EStateM.bind
  cases advance state with
  | ok _ after => exact failure_map f p after
  | error error after => rfl

theorem failure_displaced (displaced : Displaced bytes p q) (state : ParseState) :
    failure (q state) = (failure (p state)).map (ParseError.shift bytes) := by
  rw [displaced]
  cases p state <;> rfl

theorem failure_within (text : String) (dialect : Dialect) (p : Parse α) (state : ParseState) :
    failure (within text dialect 0 p state) =
      failure ((do advance; p : Parse α) { state with cursor := .start text dialect 0 false }) := by
  rw [within_by_map]
  cases (do advance; p : Parse α) { state with cursor := .start text dialect 0 false } <;> rfl

theorem failure_own {γ : Type} (f : α → β) (g : α → γ) (text : String) (dialect : Dialect) (p : Parse α)
    (state : ParseState) :
    failure ((do return f (← within text dialect 0 p) : Parse β) state) =
      failure ((do advance; let value ← p; pure (g value) : Parse γ)
        { state with cursor := .start text dialect 0 false }) :=
  calc failure ((do return f (← within text dialect 0 p) : Parse β) state)
      = failure (within text dialect 0 p state) := failure_map f _ state
    _ = failure ((do advance; p : Parse α) { state with cursor := .start text dialect 0 false }) :=
        failure_within text dialect p state
    _ = _ := (failure_after_advance g p _).symm

theorem failure_recurse {levels : Nat} {state : ParseState} (neutral : Neutral settings .rule p)
    (enough : state.depth + levels ≤ settings.maxDepth) :
    failure (recurse settings levels p state) = failure (p { state with depth := state.depth + levels }) := by
  have opened (after : ParseState) (kept : Kept .rule { state with depth := state.depth + levels } after) :
      levels ≤ after.depth := by
    have depth := kept.depth
    rw [kept.links rfl] at depth
    dsimp only at depth
    omega
  refine (congrArg failure (bind_done (enter_done enough))).trans ?_
  rw [Neutral.closing_by_map (neutral _) opened]
  cases p { state with depth := state.depth + levels } <;> rfl

theorem failure_alone (option : QueryOption) (text : String) (levels : Nat) (context : Context) :
    failure (Context.parseWith option text levels context) =
      failure ((do advance; option.grammar context.settings levels : Parse ParsedOption)
        { cursor := .start text option.dialect 0 false, scope := context.scope, depth := context.depth }) := by
  unfold Context.parseWith onText
  cases (do advance; option.grammar context.settings levels : Parse ParsedOption)
    { cursor := .start text option.dialect 0 false, scope := context.scope, depth := context.depth } <;> rfl

end

namespace Items

variable {settings : Settings} {levels bytes : Nat}

theorem inner_displaced [Counter] (kind : ItemKind) (value : String) :
    Displaced bytes (inner settings levels kind value 0) (inner settings levels kind value bytes) := by
  unfold inner
  split
  · exact displaced_throw (.depthExceeded settings.maxDepth)
  · exact displaced_recurse 8
      (within_displaced value .expression (Items.whole_related Shifted.simulation kind _ _ (.inl rfl)))

theorem count_displaced (option : ItemOption) (value : String) :
    Displaced bytes (countValue option value 0) (countValue option value bytes) := by
  unfold countValue
  split
  · exact displaced_pure _
  · exact displaced_throw (.invalidOptionValue option.name value 0)

theorem bool_displaced (option : ItemOption) (value : String) :
    Displaced bytes (boolValue option value 0) (boolValue option value bytes) := by
  unfold boolValue
  dsimp only
  split
  · exact displaced_pure _
  · split
    · exact displaced_pure _
    · exact displaced_throw (.invalidOptionValue option.name value 0)

theorem levels_displaced (option : ItemOption) (value : String) :
    Displaced bytes (levelsValue option value 0) (levelsValue option value bytes) := by
  unfold levelsValue
  split
  · exact displaced_pure _
  · exact displaced_map Levels.count (count_displaced option value)

theorem value_displaced [Counter] (options : NestedOptions) (option : ItemOption) (value : String) :
    Displaced bytes (readValue settings levels (inner settings levels) options option value 0)
      (readValue settings levels (inner settings levels) options option value bytes) := by
  have S : Simulation settings settings (fun _ place place' => place' = bytes + place) (Shifted bytes) :=
    Shifted.simulation.toSimulation
  cases option with
  | filter =>
      exact displaced_map _ (within_displaced value _ (Expression.whole_related S.wording levels levels (.inl rfl)))
  | orderBy =>
      exact displaced_map _ (within_displaced value _ (Order.whole_related S.wording levels levels (.inl rfl)))
  | top => exact displaced_map _ (count_displaced _ value)
  | skip => exact displaced_map _ (count_displaced _ value)
  | count => exact displaced_map _ (bool_displaced _ value)
  | search =>
      exact displaced_map _ (within_displaced value _ (Search.whole_related S.toLevelling levels levels (.inl rfl)))
  | compute =>
      exact displaced_map _ (within_displaced value _ (Compute.whole_related S.wording levels levels (.inl rfl)))
  | select => exact displaced_map _ (inner_displaced .select value)
  | expand => exact displaced_map _ (inner_displaced .expand value)
  | levels => exact displaced_map _ (levels_displaced _ value)

end Items

-- The option whose texts are the values of an option of items, and the levels that are
-- opened before such a value is read.
def ItemOption.alone? : ItemOption → Option (QueryOption × Nat)
  | filter => some (.filter, 0)
  | orderBy => some (.orderBy, 0)
  | search => some (.search, 0)
  | compute => some (.compute, 0)
  | select => some (.select, 8)
  | expand => some (.expand, 8)
  | top | skip | count | levels => none

theorem failure_inner (kind : ItemKind) (value : String) (context : Context) (cursor : Cursor)
    (enough : 8 ≤ context.remaining) :
    failure (Items.inner context.settings context.remaining kind value 0 ⟨cursor, context.scope, context.depth, 0⟩) =
      failure ((do advance; Items.whole context.settings kind (context.remaining - 8) : Parse (List Item))
        ⟨.start value .expression 0 false, context.scope, context.depth + 8, 0⟩) := by
  have neutral : Neutral context.settings .rule (within value .expression 0
      (Items.whole context.settings kind (context.remaining - 8))) :=
    Neutral.of_within value _ _ (Items.whole_related Neutral.simulation kind _ _ (.inl rfl))
  have room : context.depth + 8 ≤ context.settings.maxDepth := by
    unfold Context.remaining at enough
    omega
  unfold Items.inner
  rw [if_neg (Nat.not_lt.mpr enough), failure_recurse neutral room, failure_within]

theorem failure_value {option : ItemOption} {alone : QueryOption} {levels : Nat} (context : Context)
    (own : option.alone? = some (alone, levels)) (enough : levels ≤ context.remaining) (options : NestedOptions)
    (value : String) (cursor : Cursor) :
    failure (Items.readValue context.settings context.remaining (Items.inner context.settings context.remaining)
        options option value 0 ⟨cursor, context.scope, context.depth, 0⟩) =
      failure (Context.parseWith alone value (context.remaining - levels)
        { context with depth := context.depth + levels }) := by
  rw [failure_alone]
  cases option with
  | filter =>
      cases own
      exact failure_own _ _ value _ _ _
  | orderBy =>
      cases own
      exact failure_own _ _ value _ _ _
  | search =>
      cases own
      exact failure_own _ _ value _ _ _
  | compute =>
      cases own
      exact failure_own _ _ value _ _ _
  | select =>
      cases own
      refine (failure_map _ _ _).trans ((failure_inner .select value context cursor enough).trans ?_)
      exact (failure_after_advance _ _ _).symm
  | expand =>
      cases own
      refine (failure_map _ _ _).trans ((failure_inner .expand value context cursor enough).trans ?_)
      exact (failure_after_advance _ _ _).symm
  | top => cases own
  | skip => cases own
  | count => cases own
  | levels => cases own

theorem parse_alone {context : Context} {option : QueryOption} {text : String} {levels : Nat}
    (counts : Context.Counts { context with depth := context.depth + levels } option text) :
    Context.parse option text { context with depth := context.depth + levels } =
      Context.parseWith option text (context.remaining - levels) { context with depth := context.depth + levels } := by
  rw [Context.remaining, Nat.sub_sub]
  exact Context.parse_of_counts counts

-- A base offset is added to every position that is reported, once, and changes nothing else,
-- in sessions with a text and with a grammar, failed steps included. So the value of an
-- option of an item is read as at the front of a text, and where it has a text of its own its
-- error is the one of that text in the same context with the levels left there, moved to where the
-- value was cut out. That is what a parse in that context gives as long as the counter keeps up.
theorem positions_move_with_offset (offset : Nat) :
    (∀ text dialect keepsBlanks requests, Session.reports text dialect offset keepsBlanks requests =
      (Session.reports text dialect 0 keepsBlanks requests).map (Session.Report.shift offset)) ∧
    (∀ context text dialect requests, GrammarSession.reports context text dialect offset requests =
      shiftOutcome offset (List.map (GrammarSession.Report.shift offset))
        (GrammarSession.reports context text dialect 0 requests)) ∧
    (∀ (_ : Counter) settings levels options option value state,
      Items.readValue settings levels (Items.inner settings levels) options option value offset state =
        shiftError offset (Items.readValue settings levels (Items.inner settings levels) options option value 0 state)) ∧
    ∀ (option : ItemOption) (alone : QueryOption) (levels : Nat) (context : Context),
      option.alone? = some (alone, levels) → levels ≤ context.remaining →
      ∀ (options : NestedOptions) (value : String) (cursor : Cursor),
        failure (Items.readValue context.settings context.remaining
            (Items.inner context.settings context.remaining) options option value offset
            ⟨cursor, context.scope, context.depth, 0⟩) =
          (failure (Context.parseWith alone value (context.remaining - levels)
            { context with depth := context.depth + levels })).map (ParseError.shift offset) ∧
        (Context.Counts { context with depth := context.depth + levels } alone value →
          Context.parse alone value { context with depth := context.depth + levels } =
            Context.parseWith alone value (context.remaining - levels)
              { context with depth := context.depth + levels }) := by
  refine ⟨fun text dialect keepsBlanks requests => ?_, fun context text dialect requests => ?_, ?_, ?_⟩
  · exact congrArg Prod.fst (Session.run_shift offset requests (.start text dialect 0 keepsBlanks))
  · exact GrammarSession.reports_shift context text dialect offset requests
  · exact fun _ settings levels options option value state => Items.value_displaced options option value state
  · intro option alone levels context own enough options value cursor
    refine ⟨?_, parse_alone⟩
    rw [failure_displaced (Items.value_displaced options option value),
      failure_value context own enough options value cursor]

-- The filter of an item in the list of an item. In the whole text the list stands behind
-- `A($expand=`, so ten bytes are added to where the filter ends too soon.
theorem cut_short_moves :
    ItemOption.alone? .expand = some (.expand, 8) ∧ 8 ≤ (Context.ofSettings {}).remaining ∧
      failure (Items.readValue {} (Context.ofSettings {}).remaining (Items.inner {} (Context.ofSettings {}).remaining)
        {} .expand "B($filter=n eq)" 10 ⟨.start "" .expression 0 false, Context.standing, 0, 0⟩) =
      some (.expressionExpected 24) := by
  refine ⟨rfl, by decide, ?_⟩
  refine ((positions_move_with_offset 10).2.2.2 .expand .expand 8 (.ofSettings {}) rfl (by decide) {}
    "B($filter=n eq)" (.start "" .expression 0 false)).1.trans ?_
  decide +kernel

end QueryOptions
