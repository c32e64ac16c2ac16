import QueryOptions.Proofs.Derivation.Spelling
import QueryOptions.Proofs.Token.Phrase

set_option autoImplicit false

namespace QueryOptions

open Parse

-- The parentheses that are open behind a list of lexemes, with so many open in front of it,
-- unless one is closed that was not opened.
def openAfter : Nat → List Lexeme → Option Nat
  | depth, [] => some depth
  | depth, lexeme :: rest =>
      match lexeme.kind with
      | .openParen => openAfter (depth + 1) rest
      | .closeParen =>
          match depth with
          | 0 => none
          | depth + 1 => openAfter depth rest
      | _ => openAfter depth rest

def Balanced (lexemes : List Lexeme) : Prop :=
  ∀ depth back, openAfter depth (lexemes ++ back) = openAfter depth back

variable {depth : Nat} {lexeme opening closing : Lexeme} {front back lexemes : List Lexeme} {text : List Char}

theorem open_after_opening (opens : lexeme.kind = .openParen) :
    openAfter depth (lexeme :: lexemes) = openAfter (depth + 1) lexemes := by
  rw [openAfter.eq_def]
  dsimp only
  rw [opens]

theorem open_after_closing (closes : lexeme.kind = .closeParen) :
    openAfter (depth + 1) (lexeme :: lexemes) = openAfter depth lexemes := by
  rw [openAfter, closes]

theorem open_after_unopened (closes : lexeme.kind = .closeParen) : openAfter 0 (lexeme :: lexemes) = none := by
  rw [openAfter, closes]

theorem open_after_term (term : lexeme.kind.isTerm) : openAfter depth (lexeme :: lexemes) = openAfter depth lexemes := by
  rw [openAfter.eq_def]
  dsimp only
  rcases Bool.or_eq_true_iff.mp term with word | phrase
  · rw [eq_of_beq word]
  · rw [eq_of_beq phrase]

theorem balanced_nil : Balanced [] := fun _ _ => rfl

theorem balanced_term (term : lexeme.kind.isTerm) : Balanced [lexeme] := fun _ _ => open_after_term term

theorem balanced_append (first : Balanced front) (second : Balanced back) : Balanced (front ++ back) := by
  intro depth others
  rw [List.append_assoc, first, second]

theorem balanced_group (opens : opening.kind = .openParen) (inside : Balanced lexemes)
    (closes : closing.kind = .closeParen) : Balanced (opening :: (lexemes ++ [closing])) := by
  intro depth others
  rw [List.cons_append, open_after_opening opens, List.append_assoc, inside]
  exact open_after_closing closes

theorem balanced_closed (balanced : Balanced lexemes) : openAfter 0 lexemes = some 0 := by
  have whole := balanced 0 []
  rwa [List.append_nil] at whole

theorem balanced_ends (first : Balanced front) (closes : closing.kind = .closeParen) :
    ¬ Balanced (front ++ closing :: back) := by
  intro whole
  have closed := balanced_closed whole
  rw [first, open_after_unopened closes] at closed
  cases closed

namespace Search

variable {settings : Settings} {levels : Nat} {state after : ParseState} {α β : Type} {value : α}

def Pairs (p : Parse α) (state : ParseState) : Prop :=
  ∀ value after, p state = .ok value after → ∃ lexemes, Walks state lexemes after ∧ Balanced lexemes

theorem pairs_pure (value : α) : Pairs (pure value) state := by
  rintro _ _ ⟨⟩
  exact ⟨[], walks_nil state, balanced_nil⟩

theorem pairs_too_deep : Pairs (tooDeep settings : Parse α) state := by
  rintro _ _ ⟨⟩

theorem pairs_bind {p : Parse α} {f : α → Parse β} (first : Pairs p state)
    (second : ∀ value after, Pairs (f value) after) : Pairs (p >>= f) state := by
  intro value after done
  obtain ⟨_, between, ran, done⟩ := bind_ok done
  obtain ⟨front, walks, balanced⟩ := first _ between ran
  obtain ⟨back, walks', balanced'⟩ := second _ between value after done
  exact ⟨front ++ back, walks_append walks walks', balanced_append balanced balanced'⟩

theorem pairs_hold {f : Unit → Parse α}
    (next : ∀ depth links, Pairs (f ()) { state with depth := depth, links := links }) :
    Pairs (hold settings >>= f) state := by
  intro value after done
  obtain ⟨_, held, holding, done⟩ := bind_ok done
  obtain rfl := hold_ok holding
  obtain ⟨lexemes, walks, balanced⟩ := next _ _ value after done
  exact ⟨lexemes, ⟨walks.spans, walks.scope⟩, balanced⟩

theorem pairs_advance {f : Unit → Parse α} (term : state.cursor.token.kind.isTerm)
    (next : ∀ moved, Pairs (f ()) moved) : Pairs (advance >>= f) state := by
  refine pairs_bind (fun _ moved advanced => ?_) fun _ => next
  have going : state.cursor.token.kind ≠ .finish := fun finish => by rw [finish] at term; cases term
  exact ⟨_, advance_walks going advanced, balanced_term term⟩

theorem pairs_keyword {ignoreCase : Bool} {keyword : String} {f : Bool → Parse α}
    (yes : state.cursor.token.kind.isTerm → Pairs (f true) state) (no : Pairs (f false) state) :
    Pairs (atKeyword ignoreCase keyword >>= f) state := by
  change Pairs (f (state.cursor.token.isKeyword ignoreCase keyword)) state
  cases found : state.cursor.token.isKeyword ignoreCase keyword with
  | true =>
      have word := (Bool.and_eq_true_iff.mp found).1
      exact yes (Bool.or_eq_true_iff.mpr (.inl word))
  | false => exact no

theorem pairs_chain {p : Parse α} (body : ∀ state, Pairs p state) : Pairs (chain settings p) state := by
  intro value after done
  obtain ⟨before, ran, cursor, scope⟩ := chain_kept done
  obtain ⟨lexemes, walks, balanced⟩ := body _ value before ran
  exact ⟨lexemes, ⟨cursor ▸ walks.spans, scope.trans walks.scope⟩, balanced⟩

theorem pairs_recurse {count : Nat} {p : Parse α} (body : ∀ state, Pairs p state) :
    Pairs (recurse settings count p) state := by
  intro value after done
  obtain ⟨before, ran, cursor, scope⟩ := recurse_kept done
  obtain ⟨lexemes, walks, balanced⟩ := body _ value before ran
  exact ⟨lexemes, ⟨cursor ▸ walks.spans, scope.trans walks.scope⟩, balanced⟩

theorem operand_pairs {inner : Parse Expr} (inners : ∀ state, Pairs inner state) : Pairs (operand inner) state := by
  intro value after done
  change (if state.cursor.token.kind = .openParen then _ else _ : Parse Expr) state = _ at done
  by_cases opens : state.cursor.token.kind = .openParen
  · rw [if_pos opens] at done
    obtain ⟨_, ready, advanced, done⟩ := bind_ok done
    obtain ⟨tree, between, ran, done⟩ := bind_ok done
    obtain ⟨_, last, closing, done⟩ := bind_ok done
    cases done
    have step := advance_walks (by rw [opens]; decide) advanced
    obtain ⟨own, walks, balanced⟩ := inners _ _ between ran
    obtain ⟨closes, step'⟩ := expect_walks (by decide) closing
    exact ⟨_, walks_cons step (walks_append walks step'), balanced_group opens balanced closes⟩
  · rw [if_neg opens] at done
    by_cases phrase : state.cursor.token.kind = .stringLiteral
    · rw [if_pos phrase] at done
      obtain ⟨_, ready, advanced, done⟩ := bind_ok done
      cases done
      have term : state.cursor.token.kind.isTerm := Bool.or_eq_true_iff.mpr (.inr (beq_of_eq phrase))
      exact ⟨_, advance_walks (by rw [phrase]; decide) advanced, balanced_term term⟩
    · rw [if_neg phrase] at done
      cases done

theorem or_link_pairs {operand : Parse Expr} {more : Expr → Parse Expr} (operands : ∀ state, Pairs operand state)
    (rest : ∀ left state, Pairs (more left) state) (left : Expr) : Pairs (orLink settings operand more left) state := by
  refine pairs_keyword (fun word => ?_) (pairs_pure left)
  refine pairs_hold fun _ _ => pairs_advance word fun moved => ?_
  exact pairs_bind (operands moved) fun right => rest _

theorem join_pairs {operand : Parse Expr} {more : Expr → Parse Expr} (operands : ∀ state, Pairs operand state)
    (rest : ∀ left state, Pairs (more left) state) (left : Expr) : Pairs (join settings operand more left) state :=
  pairs_hold fun _ _ => pairs_bind (operands _) fun _ => rest _

theorem and_link_pairs {operand : Parse Expr} {more : Expr → Parse Expr} (operands : ∀ state, Pairs operand state)
    (rest : ∀ left state, Pairs (more left) state) (left : Expr) : Pairs (andLink settings operand more left) state := by
  refine pairs_keyword (fun word => pairs_advance word fun _ => join_pairs operands rest left) ?_
  intro value after done
  change (if _ then join settings operand more left else pure left : Parse Expr) state = _ at done
  split at done
  · exact join_pairs operands rest left value after done
  · exact pairs_pure left value after done

theorem prefixes_pairs {operand more : Parse Expr} (operands : ∀ state, Pairs operand state)
    (rest : ∀ state, Pairs more state) : Pairs (prefixes settings operand more) state := by
  refine pairs_keyword (fun word => ?_) (operands state)
  refine pairs_hold fun _ _ => pairs_advance word fun moved => ?_
  exact pairs_bind (rest moved) fun _ _ => pairs_pure _

structure Pairing (settings : Settings) (levels : Nat) : Prop where
  disjunction : ∀ state, Pairs (disjunction settings levels) state
  disjunctionTail : ∀ left state, Pairs (disjunctionTail settings levels left) state
  conjunction : ∀ state, Pairs (conjunction settings levels) state
  conjunctionTail : ∀ left state, Pairs (conjunctionTail settings levels left) state
  negated : ∀ state, Pairs (negated settings levels) state
  primary : ∀ state, Pairs (primary settings levels) state

theorem pairing_zero : Pairing settings 0 where
  disjunction _ := pairs_too_deep
  disjunctionTail left _ := or_link_pairs (fun _ => pairs_too_deep) (fun _ _ => pairs_too_deep) left
  conjunction _ := pairs_too_deep
  conjunctionTail left _ := and_link_pairs (fun _ => pairs_too_deep) (fun _ _ => pairs_too_deep) left
  negated _ := pairs_too_deep
  primary _ := pairs_too_deep

theorem pairing_succ (below : Pairing settings levels) : Pairing settings (levels + 1) where
  disjunction _ := pairs_chain fun _ => pairs_bind (below.conjunction _) fun left => below.disjunctionTail left
  disjunctionTail left _ := or_link_pairs below.conjunction below.disjunctionTail left
  conjunction _ :=
    pairs_chain fun _ => pairs_bind (pairs_chain below.negated) fun left => below.conjunctionTail left
  conjunctionTail left _ := and_link_pairs (fun _ => pairs_chain below.negated) below.conjunctionTail left
  negated _ := by
    cases levels with
    | zero => exact prefixes_pairs (fun _ => pairs_too_deep) fun _ => pairs_too_deep
    | succ fewer => exact prefixes_pairs below.primary below.negated
  primary _ := pairs_recurse fun _ => operand_pairs below.disjunction

theorem pairing (settings : Settings) (levels : Nat) : Pairing settings levels := by
  induction levels with
  | zero => exact pairing_zero
  | succ levels ih => exact pairing_succ ih

theorem whole_balanced {tree : Expr} (plain : state.cursor.Plain .search)
    (done : (do advance; whole settings levels : Parse Expr) state = .ok tree after) :
    ∃ lexemes, Spelled .search state.cursor.rest lexemes ∧ Balanced lexemes := by
  obtain ⟨first, last, read, spelled⟩ := spelled_whole plain done
  obtain ⟨lexemes, walks, balanced⟩ := (pairing settings levels).disjunction _ _ last read
  exact ⟨lexemes, spelled lexemes walks, balanced⟩

end Search

end QueryOptions
