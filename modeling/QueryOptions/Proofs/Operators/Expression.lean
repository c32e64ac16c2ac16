import QueryOptions.Proofs.Derivation.Vocabulary
import QueryOptions.Proofs.Operators.Carry

set_option autoImplicit false

namespace QueryOptions

open Parse

def Settings.withOperators (settings : Settings) (operators : List String) : Settings :=
  { settings with customOperators := operators }

def reservedWords : List String := ["and", "or", "asc", "desc", "as", "with"]

structure FurtherOperators (settings : Settings) (operators : List String) : Prop where
  bare : settings.customOperators = []
  spares : ∀ operator ∈ operators, ∀ word ∈ reservedWords, settings.matchesKeyword word operator = false

variable {settings : Settings} {operators : List String} {levels level : Nat} {α : Type}
variable {good middle : Lexeme → Prop} {p q : Parse α}

theorem levelling_operators (settings : Settings) (operators : List String) :
    Levelling settings (settings.withOperators operators) (fun _ place place' => place = place')
      (fun _ _ p q => p = q) :=
  levelling_of_limit (show (settings.withOperators operators).maxDepth = settings.maxDepth from rfl)

theorem recursion_carried (levels : Nat) (carries : Carries good p q) :
    Carries good (recurse settings levels p) (recurse (settings.withOperators operators) levels q) := by
  rw [← (levelling_operators settings operators).recurse levels (rfl : q = q)]
  exact carries_recurse levels carries

theorem chain_carried (carries : Carries good p q) :
    Carries good (chain settings p) (chain (settings.withOperators operators) q) := by
  rw [← (levelling_operators settings operators).chain (rfl : q = q)]
  exact carries_chain carries

theorem declaring_carried (name : String) (carries : Carries good p q) :
    Carries good (declaring settings name p) (declaring (settings.withOperators operators) name q) := by
  rw [← (levelling_operators settings operators).declaring name rfl]
  exact carries_declaring name carries

theorem hold_carried (carries : Carries good p q) :
    Carries good (do hold settings; p) (do hold (settings.withOperators operators); q) := by
  rw [← (levelling_operators settings operators).hold]
  exact carries_then fun _ => carries

theorem too_deep_carried : Carries good (tooDeep settings : Parse α) q := carries_never fun _ _ _ done => by cases done

namespace Expression

def Plain (settings : Settings) (operators : List String) (lexeme : Lexeme) : Prop :=
  operatorAt (settings.withOperators operators) 2 lexeme = operatorAt settings 2 lexeme

-- The lexemes before which a chain of some level can end. Tighter chains than comparisons end
-- before all of them.
def EndsLevel (settings : Settings) (operators : List String) (level : Nat) (lexeme : Lexeme) : Prop :=
  level ≤ 2 → Plain settings operators lexeme

section Words

variable {lexeme : Lexeme} {operator : BinaryOperator}

theorem same_word_trans {ignoreCase : Bool} {left word right : String} (first : Text.sameWord ignoreCase left word)
    (second : Text.sameWord ignoreCase word right) : Text.sameWord ignoreCase left right := by
  rcases Bool.or_eq_true_iff.mp first with equal | folded
  · rwa [eq_of_beq equal]
  · have alike : Text.fold left = Text.fold right := (same_word_fold first).trans (same_word_fold second)
    exact Bool.or_eq_true_iff.mpr (.inr (Bool.and_eq_true_iff.mpr
      ⟨(Bool.and_eq_true_iff.mp folded).1, beq_iff_eq.mpr alike⟩))

theorem plain_of_kind (other : lexeme.kind ≠ .identifier) : Plain settings operators lexeme :=
  (operator_at_other other).trans (operator_at_other other).symm

-- What spells a reserved word spells no operator that is told apart from all of these.
theorem plain_of_reserved (further : FurtherOperators settings operators) {word : String} (reserved : word ∈ reservedWords)
    (spelled : lexeme.isKeyword settings word) : Plain settings operators lexeme := by
  have same : Text.sameWord settings.ignoreCase lexeme.text word := (Bool.and_eq_true_iff.mp spelled).2
  have other : ∀ operator ∈ operators, ¬ settings.matchesKeyword lexeme.text operator := by
    intro operator listed matched
    rw [same_word_comm] at same
    exact absurd (same_word_trans same matched) (Bool.eq_false_iff.mp (further.spares operator listed word reserved))
  have none : BinaryOperator.ofCustom? (settings.withOperators operators) lexeme.text = none :=
    Option.map_eq_none_iff.mpr (List.find?_eq_none.mpr other)
  exact (operator_at_listed none 2).trans (operator_at_listed (custom_none further.bare _) 2).symm

theorem operator_at_others :
    ∀ {level : Nat}, level ≠ 2 → operatorAt (settings.withOperators operators) level lexeme = operatorAt settings level lexeme
  | 0, _ | 1, _ | 3, _ | 4, _ | _ + 5, _ => rfl
  | 2, compares => absurd rfl compares

theorem operator_kept (bare : settings.customOperators = []) (spelled : operatorAt settings level lexeme = some operator) :
    operatorAt (settings.withOperators operators) level lexeme = some operator := by
  by_cases compares : level = 2
  · subst compares
    have word := operator_word spelled
    rw [operatorAt, if_pos word, custom_none bare, Option.or_none] at spelled
    rw [operatorAt, if_pos word]
    exact Option.or_eq_some_iff.mpr (.inl spelled)
  · exact (operator_at_others compares).trans spelled

theorem operator_at_end (ends : EndsLevel settings operators level lexeme) :
    operatorAt (settings.withOperators operators) level lexeme = operatorAt settings level lexeme := by
  by_cases compares : level = 2
  · subst compares
    exact ends (Nat.le_refl 2)
  · exact operator_at_others compares

theorem plain_mark {kind : TokenKind} (other : kind ≠ .identifier) (lexeme : Lexeme) (marks : lexeme.kind = kind) :
    Plain settings operators lexeme := plain_of_kind (marks ▸ other)

end Words

section Productions

theorem closed_carried {β : Type} {f g : α → Parse β} (body : Carries (Plain settings operators) p q)
    (rest : ∀ value, Carries good (f value) (g value)) :
    Carries good
      (do
        let value ← p
        expect .closeParen "')'"
        f value)
      (do
        let value ← q
        expect .closeParen "')'"
        g value) := carries_closed body (demands_expect (plain_mark (by decide)) _) rest

theorem ended_carried (body : Carries (Plain settings operators) p q) :
    Carries good
      (do
        let value ← p
        expectEnd
        pure value)
      (do
        let value ← q
        expectEnd
        pure value) :=
  carries_closed body (demands_expect_end (plain_mark (by decide))) fun _ => carries_refl _

theorem list_carried {separator : TokenKind} (other : separator ≠ .identifier)
    (item : Carries (Plain settings operators) p q) :
    Carries (Plain settings operators) (sepBy separator p) (sepBy separator q) :=
  carries_sep_by (plain_mark other) item

variable {inner inner' item item' single single' route route' operands operands' : Parse Expr}
variable {more more' : Expr → Parse Expr}

theorem collection_carried (items : Carries (Plain settings operators) item item') :
    Carries good (collection item) (collection item') :=
  carries_then fun _ => closed_carried (list_carried (by decide) items) fun _ => carries_refl _

theorem candidates_carried (items : Carries (Plain settings operators) item item')
    (singles : Carries good single single') :
    Carries good (candidates settings item single) (candidates (settings.withOperators operators) item' single') :=
  carries_then fun _ => carries_ite (recursion_carried 1 (collection_carried items)) singles

theorem arguments_carried (items : Carries (Plain settings operators) item item') :
    Carries good (arguments item) (arguments item') := by
  refine carries_then fun _ => carries_then fun _ => carries_ite (carries_refl _) ?_
  refine carries_bind (list_carried (by decide) items) (fun _ => carries_refl _) fun _ => ?_
  exact demands_at_kind (plain_mark (by decide)) (demands_never fun _ _ _ done => by cases done)

theorem lambda_carried (bodies : Carries (Plain settings operators) inner inner') (quantifier : Quantifier)
    (parent : Expr) :
    Carries good (lambda settings inner quantifier parent)
      (lambda (settings.withOperators operators) inner' quantifier parent) := by
  refine carries_then fun _ => carries_then fun _ => carries_ite (carries_refl _) ?_
  refine carries_then fun name => carries_then fun _ => closed_carried (declaring_carried name bodies) fun _ => ?_
  exact carries_refl _

theorem segment_carried (inners : Carries (Plain settings operators) inner inner') (parent : Option Expr) :
    Carries good (segment settings inner parent) (segment (settings.withOperators operators) inner' parent) := by
  refine carries_then fun name => carries_then fun _ => carries_ite ?_ (carries_refl _)
  have called : Carries good
      (do
        let arguments ← recurse settings 1 (arguments inner)
        pure (Expr.call name arguments parent))
      (do
        let arguments ← recurse (settings.withOperators operators) 1 (arguments inner')
        pure (Expr.call name arguments parent)) :=
    carries_map _ (recursion_carried 1 (arguments_carried inners))
  cases Quantifier.ofName? name with
  | none => exact called
  | some quantifier =>
      cases parent with
      | none => exact called
      | some source => exact recursion_carried 1 (lambda_carried inners quantifier source)

theorem segments_carried (inners : Carries (Plain settings operators) inner inner')
    (rest : ∀ expr, Carries good (more expr) (more' expr)) (parent : Option Expr) :
    Carries good (segments settings inner more parent)
      (segments (settings.withOperators operators) inner' more' parent) := by
  refine carries_bind (segment_carried inners parent) (fun expr => ?_) fun _ => demands_anywhere
  exact carries_then fun _ => carries_ite (hold_carried (carries_then fun _ => rest _)) (carries_refl _)

theorem operand_carried (inners : Carries (Plain settings operators) inner inner') (paths : Carries good route route') :
    Carries good (operand inner route) (operand inner' route') := by
  refine carries_then fun token => carries_ite ?_ (carries_ite (carries_refl _) (carries_ite (carries_refl _) ?_))
  · exact carries_then fun _ => closed_carried inners fun _ => carries_refl _
  · exact carries_ite paths (carries_refl _)

theorem prefixes_carried (operands : Carries good single single') (rest : Carries good route route') :
    Carries good (prefixes settings single route) (prefixes (settings.withOperators operators) single' route') := by
  refine carries_then fun operator => ?_
  cases operator with
  | none => exact operands
  | some operator => exact hold_carried (carries_then fun _ => carries_map _ rest)

theorem go_on_carried (operand : Carries middle operands operands') (rest : ∀ right, Carries good (more right) (more' right))
    (demands : ∀ right, Demands middle good (more right)) :
    Carries good (goOn settings operands more) (goOn (settings.withOperators operators) operands' more') :=
  hold_carried (carries_then fun _ => carries_bind operand rest demands)

end Productions

section Levels

theorem below_carried {rule rule' : Nat → Parse α} (each : ∀ fewer < levels, Carries good (rule fewer) (rule' fewer)) :
    Carries good (below settings rule levels) (below (settings.withOperators operators) rule' levels) := by
  cases levels with
  | zero => exact too_deep_carried
  | succ fewer => exact each fewer (Nat.lt_succ_self fewer)

theorem operator_reserved {lexeme : Lexeme} {operator : BinaryOperator} (loose : level ≤ 1)
    (spelled : operatorAt settings level lexeme = some operator) :
    ∃ word ∈ reservedWords, lexeme.isKeyword settings word := by
  rcases Nat.le_one_iff_eq_zero_or_eq_one.mp loose with rfl | rfl
  · exact ⟨"or", by decide, (Option.ite_none_right_eq_some.mp spelled).1⟩
  · exact ⟨"and", by decide, (Option.ite_none_right_eq_some.mp spelled).1⟩

-- Where a tighter chain ends, a looser one goes on with a reserved word or ends as well.
theorem demands_tail (further : FurtherOperators settings operators) (loose : level < 5) (levels : Nat) (left : Expr) :
    Demands (EndsLevel settings operators (level + 1)) (EndsLevel settings operators level)
      (tail settings level levels left) := by
  intro state value after done here tight
  rw [tail_at loose, if_neg fun tests => absurd (membership_level tests) (by omega)] at done
  cases found : operatorAt settings level state.cursor.token.lexeme with
  | none =>
      rw [found] at done
      cases done
      exact here (by omega)
  | some operator =>
      obtain ⟨word, reserved, spelled⟩ := operator_reserved (by omega) found
      exact plain_of_reserved further reserved spelled

theorem demands_tail_below (further : FurtherOperators settings operators) (loose : level < 5) (levels : Nat)
    (left : Expr) :
    Demands (EndsLevel settings operators (level + 1)) (EndsLevel settings operators level)
      (below settings (fun fewer => tail settings level fewer left) levels) := by
  cases levels with
  | zero => exact demands_never fun _ _ _ done => by cases done
  | succ fewer => exact demands_tail further loose fewer left

structure Carried (settings : Settings) (operators : List String) (levels : Nat) : Prop where
  rule : ∀ level, Carries (EndsLevel settings operators level) (rule settings level levels)
    (rule (settings.withOperators operators) level levels)
  tail : ∀ level < 5, ∀ left, Carries (EndsLevel settings operators level) (tail settings level levels left)
    (tail (settings.withOperators operators) level levels left)
  prefixed : Carries Anywhere (prefixed settings levels) (prefixed (settings.withOperators operators) levels)
  primary : Carries Anywhere (primary settings levels) (primary (settings.withOperators operators) levels)
  path : Carries Anywhere (path settings levels) (path (settings.withOperators operators) levels)
  pathFrom : ∀ parent, Carries Anywhere (pathFrom settings levels parent)
    (pathFrom (settings.withOperators operators) levels parent)

theorem Carried.expression (carried : Carried settings operators levels) :
    Carries (Plain settings operators) (disjunction settings levels)
      (disjunction (settings.withOperators operators) levels) :=
  fun state value after done here => carried.rule 0 state value after done fun _ => here

variable (ih : ∀ fewer < levels, Carried settings operators fewer)

include ih

theorem candidates_at_carried :
    Carries Anywhere (candidatesAt settings levels) (candidatesAt (settings.withOperators operators) levels) := by
  refine below_carried fun fewer less => below_carried fun least lesser => ?_
  exact candidates_carried (ih least (by omega)).expression (ih (least + 1) (by omega)).primary

theorem tail_carried (further : FurtherOperators settings operators) (loose : level < 5) (left : Expr) :
    Carries (EndsLevel settings operators level) (tail settings level levels left)
      (tail (settings.withOperators operators) level levels left) := by
  intro state value after done here
  rw [tail_at loose] at done ⊢
  have rest (expr : Expr) :
      Carries (EndsLevel settings operators level) (below settings (fun fewer => tail settings level fewer expr) levels)
        (below (settings.withOperators operators)
          (fun fewer => tail (settings.withOperators operators) level fewer expr) levels) :=
    below_carried fun fewer less => (ih fewer less).tail level loose expr
  by_cases tests : isMembership settings level state.cursor.token.lexeme
  · rw [if_pos tests] at done
    rw [if_pos (show isMembership (settings.withOperators operators) level _ from tests)]
    exact go_on_carried (candidates_at_carried ih) (fun _ => rest _) (fun _ => demands_anywhere) state value after done here
  · rw [if_neg tests] at done
    rw [if_neg (show ¬ isMembership (settings.withOperators operators) level _ from tests)]
    cases found : operatorAt settings level state.cursor.token.lexeme with
    | none =>
        rw [found] at done
        cases done
        rw [operator_at_end here, found]
        rfl
    | some operator =>
        rw [found] at done
        rw [operator_kept further.bare found]
        have operand : Carries (EndsLevel settings operators (level + 1)) (below settings (rule settings (level + 1)) levels)
            (below (settings.withOperators operators) (rule (settings.withOperators operators) (level + 1)) levels) :=
          below_carried fun fewer less => (ih fewer less).rule (level + 1)
        exact go_on_carried operand (fun _ => rest _) (fun _ => demands_tail_below further loose levels _) state value after
          done here

theorem prefixed_carried :
    Carries Anywhere (prefixed settings levels) (prefixed (settings.withOperators operators) levels) := by
  cases levels with
  | zero => exact too_deep_carried
  | succ fewer =>
      rw [prefixed_succ, prefixed_succ]
      exact prefixes_carried (ih fewer (Nat.lt_succ_self _)).primary (ih fewer (Nat.lt_succ_self _)).prefixed

theorem rule_carried (further : FurtherOperators settings operators) (level : Nat) :
    Carries (EndsLevel settings operators level) (rule settings level levels)
      (rule (settings.withOperators operators) level levels) := by
  by_cases loose : level < 5
  · rw [rule_loose loose, rule_loose loose]
    refine below_carried fun fewer less => chain_carried ?_
    rw [body, body, if_pos loose, if_pos loose]
    exact carries_bind ((ih fewer less).rule (level + 1)) (fun left => (ih fewer less).tail level loose left)
      fun left => demands_tail further loose fewer left
  · rw [rule_tight loose, rule_tight loose, body, body, if_neg loose, if_neg loose]
    exact chain_carried (carries_anywhere (prefixed_carried ih))

theorem primary_carried :
    Carries Anywhere (primary settings levels) (primary (settings.withOperators operators) levels) := by
  cases levels with
  | zero => exact too_deep_carried
  | succ fewer =>
      have carried := ih fewer (Nat.lt_succ_self _)
      exact recursion_carried 1 (operand_carried carried.expression carried.path)

theorem path_carried : Carries Anywhere (path settings levels) (path (settings.withOperators operators) levels) := by
  cases levels with
  | zero => exact too_deep_carried
  | succ fewer => exact chain_carried ((ih fewer (Nat.lt_succ_self _)).pathFrom none)

theorem path_from_carried (parent : Option Expr) :
    Carries Anywhere (pathFrom settings levels parent) (pathFrom (settings.withOperators operators) levels parent) := by
  rw [path_from_at, path_from_at]
  exact segments_carried (below_carried fun fewer less => (ih fewer less).expression)
    (fun expr => below_carried fun fewer less => (ih fewer less).pathFrom (some expr)) parent

end Levels

theorem carried (further : FurtherOperators settings operators) (levels : Nat) : Carried settings operators levels := by
  induction levels using Nat.strongRecOn with
  | ind levels ih =>
      exact {
        rule := rule_carried ih further
        tail := fun _ loose left => tail_carried ih further loose left
        prefixed := prefixed_carried ih
        primary := primary_carried ih
        path := path_carried ih
        pathFrom := path_from_carried ih }

theorem whole_carried (further : FurtherOperators settings operators) (levels : Nat) :
    Carries good (whole settings levels) (whole (settings.withOperators operators) levels) :=
  ended_carried (carried further levels).expression

end Expression

end QueryOptions
