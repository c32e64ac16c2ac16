import QueryOptions.Proofs.Derivation.Basic
import QueryOptions.Proofs.Simulation.Basic

set_option autoImplicit false

namespace QueryOptions.Expression

open Parse

def rule [Counter] (settings : Settings) : Nat → Nat → Parse Expr
  | 0 => disjunction settings
  | 1 => conjunction settings
  | 2 => comparison settings
  | 3 => sum settings
  | 4 => product settings
  | _ => unary settings

def tail [Counter] (settings : Settings) : Nat → Nat → Expr → Parse Expr
  | 0 => disjunctionTail settings
  | 1 => conjunctionTail settings
  | 2 => comparisonTail settings
  | 3 => sumTail settings
  | 4 => productTail settings
  | _ => fun _ left => pure left

def body [Counter] (settings : Settings) (level levels : Nat) : Parse Expr :=
  if level < 5 then do tail settings level levels (← rule settings (level + 1) levels)
  else prefixed settings levels

def below {α : Type} (settings : Settings) (rule : Nat → Parse α) : Nat → Parse α
  | 0 => tooDeep settings
  | levels + 1 => rule levels

def candidatesAt [Counter] (settings : Settings) : Nat → Parse Expr :=
  below settings (below settings fun levels =>
    candidates settings (disjunction settings levels) (primary settings (levels + 1)))

def goOn [Counter] (settings : Settings) (operand : Parse Expr) (more : Expr → Parse Expr) : Parse Expr := do
  hold settings
  advance
  let right ← operand
  more right

def linkAt [Counter] (settings : Settings) (operand : Parse Expr) (more : Expr → Parse Expr) (left : Expr) :
    Option BinaryOperator → Parse Expr
  | some operator => goOn settings operand fun right => more (.binary operator left right)
  | none => pure left

variable {settings : Settings} {level : Nat} {state : ParseState}

theorem loose_cases (loose : level < 5) : level = 0 ∨ level = 1 ∨ level = 2 ∨ level = 3 ∨ level = 4 := by
  omega

theorem rule_loose [Counter] (loose : level < 5) :
    rule settings level = below settings fun levels => chain settings (body settings level levels) := by
  funext levels
  rcases loose_cases loose with rfl | rfl | rfl | rfl | rfl <;> cases levels <;> rfl

theorem rule_tight [Counter] (tight : ¬ level < 5) (levels : Nat) :
    rule settings level levels = chain settings (body settings level levels) := by
  obtain ⟨more, rfl⟩ : ∃ more, level = more + 5 := ⟨level - 5, by omega⟩
  rw [body, if_neg tight]
  rfl

theorem keyword_at (keyword : String) (operator : BinaryOperator) :
    keywordOf? settings keyword operator state =
      .ok (if state.cursor.token.lexeme.isKeyword settings keyword then some operator else none) state := rfl

theorem operator_at (table : List (String × BinaryOperator)) :
    operatorOf? table settings state =
      .ok (if state.cursor.token.lexeme.kind = .identifier then
        BinaryOperator.ofKeyword? table settings.ignoreCase state.cursor.token.lexeme.text else none) state := by
  change (if state.cursor.token.kind = .identifier then _ else _ : Parse _) state = _
  by_cases word : state.cursor.token.kind = .identifier
  · rw [if_pos word]
    exact congrArg (EStateM.Result.ok · state) (if_pos word).symm
  · rw [if_neg word]
    exact congrArg (EStateM.Result.ok · state) (if_neg word).symm

theorem comparison_at :
    comparisonOf? settings state = .ok (operatorAt settings 2 state.cursor.token.lexeme) state := by
  change (if state.cursor.token.kind = .identifier then _ else _ : Parse _) state = _
  by_cases word : state.cursor.token.kind = .identifier
  · rw [if_pos word]
    exact congrArg (EStateM.Result.ok · state) (if_pos word).symm
  · rw [if_neg word]
    exact congrArg (EStateM.Result.ok · state) (if_neg word).symm

theorem prefix_at :
    prefixOf? settings state = .ok (prefixAt settings state.cursor.token.lexeme) state := by
  change (if state.cursor.token.kind == .minus then _ else (atKeyword settings.ignoreCase "not" >>= _) : Parse _) state = _
  by_cases minus : state.cursor.token.kind == .minus
  · rw [if_pos minus]
    exact congrArg (EStateM.Result.ok · state) (if_pos minus).symm
  · rw [if_neg minus]
    refine Eq.trans ?_ (congrArg (EStateM.Result.ok · state) (if_neg minus).symm)
    change (if state.cursor.token.isKeyword settings.ignoreCase "not" then _ else _ : Parse _) state = _
    by_cases negated : state.cursor.token.isKeyword settings.ignoreCase "not"
    · rw [if_pos negated]
      exact congrArg (EStateM.Result.ok · state) (if_pos negated).symm
    · rw [if_neg negated]
      exact congrArg (EStateM.Result.ok · state) (if_neg negated).symm

theorem link_at [Counter] {operator? : Parse (Option BinaryOperator)} {operand : Parse Expr} {more : Expr → Parse Expr}
    {left : Expr} {found : Option BinaryOperator} (seen : operator? state = .ok found state) :
    link settings operator? operand more left state = linkAt settings operand more left found state := by
  refine (bind_done seen).trans ?_
  cases found <;> rfl

-- A tail goes on where the token spells an operator of its level, or `in` among
-- comparisons, and ends everywhere else.
theorem tail_at [Counter] (loose : level < 5) (levels : Nat) (left : Expr) :
    tail settings level levels left state =
      if isMembership settings level state.cursor.token.lexeme then
        goOn settings (candidatesAt settings levels)
          (fun right => below settings (fun fewer => tail settings level fewer (.membership left right)) levels) state
      else linkAt settings (below settings (rule settings (level + 1)) levels)
        (fun expr => below settings (fun fewer => tail settings level fewer expr) levels) left
        (operatorAt settings level state.cursor.token.lexeme) state := by
  have last {operator? : Parse (Option BinaryOperator)} {found : Option BinaryOperator}
      (seen : operator? state = .ok found state) :
      link settings operator? (tooDeep settings) (fun _ => tooDeep settings) left state =
        linkAt settings (tooDeep settings) (fun _ => tooDeep settings) left found state := link_at seen
  rcases loose_cases loose with rfl | rfl | rfl | rfl | rfl
  · rw [if_neg (by simp [isMembership])]
    cases levels with
    | zero => exact last (keyword_at _ _)
    | succ levels => exact link_at (keyword_at _ _)
  · rw [if_neg (by simp [isMembership])]
    cases levels with
    | zero => exact last (keyword_at _ _)
    | succ levels => exact link_at (keyword_at _ _)
  · by_cases tests : isMembership settings 2 state.cursor.token.lexeme
    · have found : state.cursor.token.isKeyword settings.ignoreCase "in" := tests
      have goes {membership operand : Parse Expr} {more : Expr → Parse Expr} :
          compareLink settings membership operand more left state =
            goOn settings membership (fun right => more (.membership left right)) state := by
        change (if state.cursor.token.isKeyword settings.ignoreCase "in" then _ else _ : Parse _) state = _
        rw [if_pos found]
        rfl
      rw [if_pos tests]
      rcases levels with _ | _ | levels <;> exact goes
    · have found : ¬ state.cursor.token.isKeyword settings.ignoreCase "in" := tests
      have goes {membership operand : Parse Expr} {more : Expr → Parse Expr} :
          compareLink settings membership operand more left state =
            link settings (comparisonOf? settings) operand more left state := by
        change (if state.cursor.token.isKeyword settings.ignoreCase "in" then _ else _ : Parse _) state = _
        rw [if_neg found]
      rw [if_neg tests]
      rcases levels with _ | _ | levels <;> exact goes.trans (link_at comparison_at)
  · rw [if_neg (by simp [isMembership])]
    cases levels with
    | zero => exact last (operator_at _)
    | succ levels => exact link_at (operator_at _)
  · rw [if_neg (by simp [isMembership])]
    cases levels with
    | zero => exact last (operator_at _)
    | succ levels => exact link_at (operator_at _)

theorem prefixed_succ [Counter] (levels : Nat) :
    prefixed settings (levels + 1) = prefixes settings (primary settings levels) (prefixed settings levels) := by
  cases levels <;> rfl

def prefixesAt [Counter] (settings : Settings) (levels : Nat) : Option UnaryOperator → Parse Expr
  | some operator => goOn settings (prefixed settings levels) fun expr => pure (.unary operator expr)
  | none => primary settings levels

theorem prefixed_at [Counter] (levels : Nat) :
    prefixed settings (levels + 1) state =
      prefixesAt settings levels (prefixAt settings state.cursor.token.lexeme) state := by
  rw [prefixed_succ]
  refine (bind_done prefix_at).trans ?_
  cases prefixAt settings state.cursor.token.lexeme <;> rfl

theorem path_from_at [Counter] (levels : Nat) (parent : Option Expr) :
    pathFrom settings levels parent =
      segments settings (below settings (disjunction settings) levels)
        (fun expr => below settings (fun fewer => pathFrom settings fewer (some expr)) levels) parent := by
  cases levels <;> rfl

end QueryOptions.Expression
