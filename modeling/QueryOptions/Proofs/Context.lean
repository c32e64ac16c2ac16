import QueryOptions.Proofs.Neutral

set_option autoImplicit false

namespace QueryOptions

namespace Context

def run {α : Type} (step : Step α) (context : Context) : Except ParseError α × Context :=
  match step context with
  | .ok value after => (.ok value, after)
  | .error error after => (.error error, after)

theorem step_of_value {α : Type} {step : Step α} {context : Context} {value : α}
    (given : (run step context).1 = .ok value) : ∃ after, step context = .ok value after := by
  unfold run at given
  cases result : step context with
  | ok found after =>
      rw [result] at given
      cases given
      exact ⟨after, rfl⟩
  | error error after =>
      rw [result] at given
      cases given

theorem step_of_error {α : Type} {step : Step α} {context : Context} {error : ParseError}
    (given : (run step context).1 = .error error) : ∃ after, step context = .error error after := by
  unfold run at given
  cases result : step context with
  | ok value after =>
      rw [result] at given
      cases given
  | error found after =>
      rw [result] at given
      cases given
      exact ⟨after, rfl⟩

-- Parses texts one after the other in a context that they share. A text that is refused does not
-- stop those after it.
def parseEach : List (QueryOption × String) → Context → List (Except ParseError ParsedOption) × Context
  | [], context => ([], context)
  | (option, text) :: calls, context =>
      let first := run (parse option text) context
      let others := parseEach calls first.2
      (first.1 :: others.1, others.2)

theorem on_text_ends (option : QueryOption) (text : String) (levels : Nat) (context : Context) :
    Ends context.settings.maxDepth
      (fun after => after.depth = context.depth ∧ after.scope = context.scope)
      (Parse.onText text option.dialect 0 context.scope (option.grammar context.settings levels) context.depth) := by
  have neutral := Neutral.of_bind Neutral.of_advance
    fun _ => grammar_neutral context.settings option levels
  refine ends_of_imp (neutral _) fun after kept => ⟨?_, kept.scope⟩
  have depth := kept.depth
  rw [kept.links rfl] at depth
  exact depth

theorem parse_with_ends (option : QueryOption) (text : String) (levels : Nat) (context : Context) :
    (run (parseWith option text levels) context).2 = context ∧
      ∀ error, (run (parseWith option text levels) context).1 = .error error →
        Accounted context.settings.maxDepth error := by
  have ended := on_text_ends option text levels context
  unfold run parseWith
  cases result : Parse.onText text option.dialect 0 context.scope
      (option.grammar context.settings levels) context.depth with
  | ok parsed state =>
      rw [result] at ended
      obtain ⟨depth, scope⟩ := ended
      exact ⟨by dsimp only; rw [depth, scope], fun _ same => by cases same⟩
  | error error state =>
      rw [result] at ended
      obtain ⟨⟨depth, scope⟩, accounted⟩ := ended
      exact ⟨by dsimp only; rw [depth, scope], fun _ same => Except.error.inj same ▸ accounted⟩

-- Where the levels left are enough, or the limit is one that can be passed, a parse opens no more.
theorem counted_of_enough {settings : Settings} {depth : Nat} {σ α : Type}
    {outcomes : Counter → Nat → EStateM.Result ParseError σ α}
    (enough : settings.maxDepth < maxCount ∨
      ∀ limit after, outcomes .unbounded (settings.maxDepth - depth) ≠ .error (.depthExceeded limit) after) :
    counted settings depth outcomes = outcomes .unbounded (settings.maxDepth - depth) := by
  unfold counted
  split
  next limit after exceeded =>
    rcases enough with limited | never
    · rw [if_pos limited, exceeded]
    · exact absurd exceeded (never limit after)
  next => rfl

-- The counter keeps up with a text: the limit is below the greatest count, or the text opens
-- no level beyond that count.
def Counts (context : Context) (option : QueryOption) (text : String) : Prop :=
  context.settings.maxDepth < maxCount ∨
    ∀ limit after, parseWith option text context.remaining context ≠ .error (.depthExceeded limit) after

theorem parse_of_counts {context : Context} {option : QueryOption} {text : String} (counts : context.Counts option text) :
    parse option text context = parseWith option text context.remaining context :=
  counted_of_enough counts

-- What is accepted has been accepted by one of the two counters.
theorem counted_ok {settings : Settings} {depth : Nat} {σ α : Type}
    {outcomes : Counter → Nat → EStateM.Result ParseError σ α} {value : α} {after : σ}
    (accepted : counted settings depth outcomes = .ok value after) :
    ∃ counter levels, outcomes counter levels = .ok value after := by
  unfold counted at accepted
  split at accepted
  · split at accepted
    · cases accepted
    · exact ⟨_, _, accepted⟩
  · exact ⟨_, _, accepted⟩

end Context

theorem parse_by_run (settings : Settings) (option : QueryOption) (text : String) :
    parse settings option text =
      (Context.run (Context.parseWith option text settings.maxDepth) (.ofSettings settings)).1 := by
  unfold parse Context.run
  cases Context.parseWith option text settings.maxDepth (.ofSettings settings) <;> rfl

open Parse

def QueryOption.start (option : QueryOption) (text : String) : ParseState :=
  { cursor := .start text option.dialect 0 false, scope := Context.standing }

def QueryOption.parser (option : QueryOption) (settings : Settings) : Parse ParsedOption := do
  advance
  option.grammar settings settings.maxDepth

theorem parse_by_steps (settings : Settings) (option : QueryOption) (text : String) :
    parse settings option text = match option.parser settings (option.start text) with
      | .ok parsed _ => .ok parsed
      | .error error _ => .error error := by
  have same : onText text option.dialect 0 Context.standing (option.grammar settings settings.maxDepth) 0 =
      option.parser settings (option.start text) := rfl
  unfold parse Context.parseWith
  dsimp only [Context.ofSettings] at same ⊢
  rw [same]
  cases option.parser settings (option.start text) <;> rfl

theorem parse_of_ok {settings : Settings} {option : QueryOption} {text : String} {parsed : ParsedOption} {after : ParseState}
    (result : option.parser settings (option.start text) = .ok parsed after) :
    parse settings option text = .ok parsed := by
  rw [parse_by_steps, result]

theorem parse_of_error {settings : Settings} {option : QueryOption} {text : String} {error : ParseError} {after : ParseState}
    (result : option.parser settings (option.start text) = .error error after) :
    parse settings option text = .error error := by
  rw [parse_by_steps, result]

theorem parser_ok {settings : Settings} {option : QueryOption} {text : String} {parsed : ParsedOption}
    (done : parse settings option text = .ok parsed) :
    ∃ after, option.parser settings (option.start text) = .ok parsed after := by
  rw [parse_by_steps] at done
  cases result : option.parser settings (option.start text) with
  | ok parsed' after =>
      rw [result] at done
      cases done
      exact ⟨after, rfl⟩
  | error error after =>
      rw [result] at done
      cases done

end QueryOptions
