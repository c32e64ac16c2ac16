import QueryOptions.Proofs.Replay.Expression
import QueryOptions.Search.Grammar

set_option autoImplicit false

namespace QueryOptions.Search

open Parse

variable {words settings : Settings} {reads : Bool} {starts : Lexeme → Prop} {alike : Lexeme → Lexeme → Prop} {levels : Nat}
variable {item inner : Parse Expr} {more : Expr → Parse Expr}

def Nameless {α : Type} (_ : α) (names : List String) : Prop := names = []

theorem replays_nameless {p : Parse Expr} {f : Expr → Parse Expr}
    (first : Replays words true starts (Same words) Nameless p)
    (second : ∀ expr, Replays words false Anywhere (Same words) Nameless (f expr)) :
    Replays words true starts (Same words) Nameless (p >>= f) := by
  refine replays_then first ?_ fun _ _ => id
  rintro expr _ rfl
  exact second expr

theorem replays_join (operands : Replays words true Anywhere (Same words) Nameless item)
    (rest : ∀ expr, Replays words false Anywhere (Same words) Nameless (more expr)) (left : Expr) :
    Replays words true starts (Same words) Nameless (join settings item more left) :=
  replays_still still_hold fun _ => replays_nameless (replays_anywhere operands) fun _ => rest _

def startsOperand (words : Settings) (lexeme : Lexeme) : Bool :=
  lexeme.kind == .stringLiteral || lexeme.kind == .openParen || lexeme.isKeyword words "not"

theorem starts_operand_same (x y : Lexeme) (same : Same words x y) : startsOperand words x = startsOperand words y := by
  simp only [startsOperand, same_kind same, same_keyword same]

def operandAt (inner : Parse Expr) (seen : TokenKind × String) : Parse Expr :=
  if seen.1 = .openParen then do
    advance
    let expr ← inner
    expect .closeParen "')'"
    pure expr
  else if seen.1 = .stringLiteral then do
    advance
    pure (.term (unquote seen.2))
  else fun state => (throw (.expressionExpected state.cursor.token.position) : Parse Expr) state

theorem operand_at :
    operand inner = fun state => operandAt inner (Expression.operandSeen state.cursor.token.lexeme) state := by
  funext state
  by_cases word : state.cursor.token.lexeme.kind = .identifier
  · have other (kind : TokenKind) (differs : kind ≠ .identifier) : state.cursor.token.kind ≠ kind :=
      fun same => differs (same.symm.trans word)
    rw [Expression.operandSeen, word]
    exact congrFun ((if_neg (other _ (by decide))).trans (if_neg (other _ (by decide)))) state
  · rw [Expression.operandSeen, if_neg word]
    exact ite_last (ite_last rfl)

theorem replays_operand (inners : Replays words true Anywhere (Same words) Nameless inner) :
    Replays words true starts (Same words) Nameless (operand inner) := by
  rw [operand_at]
  refine replays_look Expression.operand_seen_same nofun fun ⟨kind, text⟩ => ?_
  have first {first : Lexeme} (here : starts first ∧ Expression.operandSeen first = (kind, text)) : first.kind = kind :=
    congrArg Prod.fst here.2
  refine replays_ite (fun opens => ?_) fun _ => replays_ite (fun literal => ?_) fun _ =>
    replays_never fun _ _ _ _ done => by cases done
  · refine replays_advance_then (fun lexeme here => passed_of_kind ((first here).trans opens) (by decide)) (replays_some ?_)
    exact replays_nameless inners fun expr => replays_some (replays_expect_then (by decide) (replays_pure rfl))
  · exact replays_advance_then (fun lexeme here => passed_of_kind ((first here).trans literal) (by decide)) (replays_pure rfl)

def joinAt (settings : Settings) (operand : Parse Expr) (more : Expr → Parse Expr) (left : Expr) (joins : Bool) : Parse Expr :=
  if joins then join settings operand more left else pure left

section

variable (folds : words.ignoreCase = true)

include folds

theorem replays_word {α : Type} {made : α → List String → Prop} {keyword : String} {f : Bool → Parse α}
    (same : reads = false → ∀ x y, alike x y → x.isKeyword words keyword = y.isKeyword words keyword)
    (each : ∀ seen,
      Replays words reads (fun first => starts first ∧ first.isKeyword words keyword = seen) alike made (f seen)) :
    Replays words reads starts alike made (atKeyword true keyword >>= f) := by
  rw [← folds]
  exact replays_at_keyword same each

theorem replays_or_link (operands : Replays words true Anywhere (Same words) Nameless item)
    (rest : ∀ expr, Replays words false Anywhere (Same words) Nameless (more expr)) (left : Expr) :
    Replays words false Anywhere (Same words) Nameless (orLink settings item more left) := by
  refine replays_word folds (fun _ _ _ same => same_keyword same _) fun seen => replays_ite (fun found => replays_some ?_) fun _ =>
    replays_pure rfl
  refine replays_still still_hold fun _ => replays_advance_then (fun first here => .inl ⟨_, here.2.trans found⟩) ?_
  exact replays_some (replays_nameless operands fun _ => rest _)

theorem and_link_at (left : Expr) :
    (do
      if ← atOperand then join settings item more left
      else pure left : Parse Expr) =
      fun state => joinAt settings item more left (startsOperand words state.cursor.token.lexeme) state := by
  funext state
  have word : state.cursor.token.lexeme.isKeyword words "not" = state.cursor.token.isKeyword true "not" := by
    rw [← folds]
    rfl
  rw [startsOperand, word]
  rfl

theorem replays_and_link (operands : Replays words true Anywhere (Same words) Nameless item)
    (rest : ∀ expr, Replays words false Anywhere (Same words) Nameless (more expr)) (left : Expr) :
    Replays words false Anywhere (Same words) Nameless (andLink settings item more left) := by
  refine replays_word folds (fun _ _ _ same => same_keyword same _) fun seen => replays_ite (fun found => replays_some ?_) fun _ => ?_
  · exact replays_advance_then (fun first here => .inl ⟨_, here.2.trans found⟩) (replays_some (replays_join operands rest left))
  · rw [and_link_at folds]
    refine replays_look starts_operand_same (fun _ => starts_operand_same) fun seen => ?_
    exact replays_ite (fun _ => replays_some (replays_join operands rest left)) fun _ => replays_pure rfl

theorem replays_prefixes {levels : Parse Expr} (operands : Replays words true Anywhere (Same words) Nameless item)
    (rest : Replays words true Anywhere (Same words) Nameless levels) :
    Replays words true Anywhere (Same words) Nameless (prefixes settings item levels) := by
  refine replays_word folds nofun fun seen => replays_ite (fun found => ?_) fun _ => replays_anywhere operands
  refine replays_still still_hold fun _ => replays_advance_then (fun first here => .inl ⟨_, here.2.trans found⟩) ?_
  exact replays_some (replays_map (replays_made rest fun _ _ none => none) fun _ _ => id)

end

structure ReplaysAt (words settings : Settings) (levels : Nat) : Prop where
  disjunction : Replays words true Anywhere (Same words) Nameless (disjunction settings levels)
  disjunctionTail : ∀ left, Replays words false Anywhere (Same words) Nameless (disjunctionTail settings levels left)
  conjunction : Replays words true Anywhere (Same words) Nameless (conjunction settings levels)
  conjunctionTail : ∀ left, Replays words false Anywhere (Same words) Nameless (conjunctionTail settings levels left)
  negated : Replays words true Anywhere (Same words) Nameless (negated settings levels)
  primary : Replays words true Anywhere (Same words) Nameless (primary settings levels)

theorem replays_at (folds : words.ignoreCase = true) (settings : Settings) (levels : Nat) : ReplaysAt words settings levels := by
  induction levels with
  | zero =>
      exact {
        disjunction := replays_too_deep
        disjunctionTail := replays_or_link folds replays_too_deep fun _ => replays_too_deep
        conjunction := replays_too_deep
        conjunctionTail := replays_and_link folds replays_too_deep fun _ => replays_too_deep
        negated := replays_too_deep
        primary := replays_too_deep }
  | succ levels ih =>
      exact {
        disjunction := replays_chain (fun _ _ => id) (replays_nameless ih.conjunction ih.disjunctionTail)
        disjunctionTail := replays_or_link folds ih.conjunction ih.disjunctionTail
        conjunction := replays_chain (fun _ _ => id)
          (replays_nameless (replays_chain (fun _ _ => id) ih.negated) ih.conjunctionTail)
        conjunctionTail := replays_and_link folds (replays_chain (fun _ _ => id) ih.negated) ih.conjunctionTail
        negated := by
          cases levels with
          | zero => exact replays_prefixes folds replays_too_deep replays_too_deep
          | succ fewer => exact replays_prefixes folds ih.primary ih.negated
        primary := replays_recurse (fun _ _ => id) (replays_operand ih.disjunction) }

end QueryOptions.Search
