import QueryOptions.Proofs.Height.Bound
import QueryOptions.Proofs.Line

set_option autoImplicit false

namespace QueryOptions

open Parse

variable {settings : Settings} {levels : Nat}

namespace Expression

variable {operator? : Parse (Option BinaryOperator)} {operand : Parse Expr} {more : Expr → Parse Expr}
variable {left : Expr} {operator : BinaryOperator} {word : Word} {limit : Nat}

def leaf : Expr := .literal .stringLiteral (String.ofList ['\'', '\''])

theorem primary_leaf (rest : List Word) :
    Gives (limited limit) .rule (levels + 1) (primary (limited limit) (levels + 1)) (.emptyString :: rest) leaf rest :=
  literal_gives rfl rest

theorem unary_leaf (rest : List Word) :
    Gives (limited limit) .rule (levels + 2) (chain (limited limit) (prefixed (limited limit) (levels + 2)))
      (.emptyString :: rest) leaf rest :=
  unary_of_operand (fun _ => rfl) (primary_leaf rest)

theorem product_leaf {rest : List Word}
    (noFactor : ∀ position, seeOperator BinaryOperator.multiplications (Word.first rest position) = none) :
    Gives (limited limit) .rule (levels + 3) (product (limited limit) (levels + 3)) (.emptyString :: rest) leaf rest :=
  product_of_operand (fun _ => rfl) (primary_leaf rest) noFactor

theorem comparison_leaf {rest : List Word} (loose : Loose rest) :
    Gives (limited limit) .rule (levels + 5) (comparison (limited limit) (levels + 5)) (.emptyString :: rest) leaf rest :=
  comparison_of_operand (fun _ => rfl) (primary_leaf rest) loose

theorem conjunction_leaf {rest : List Word} (loose : Loose rest)
    (noAnd : ∀ position, seeKeyword "and" .and (Word.first rest position) = none) :
    Gives (limited limit) .rule (levels + 6) (conjunction (limited limit) (levels + 6)) (.emptyString :: rest) leaf
      rest :=
  gets_chain_of (comparison_leaf loose) (link_skips (keyword_sees noAnd))

def memberships : Nat → List Word → List Word
  | 0, rest => rest
  | count + 1, rest =>
      membership :: .emptyString :: memberships count rest

def joined : Nat → Expr → Expr
  | 0, left => left
  | count + 1, left => joined count (.membership left leaf)

theorem joined_height (count : Nat) (left : Expr) (tall : 1 ≤ left.height) :
    (joined count left).height = left.height + count := by
  induction count generalizing left with
  | zero => rfl
  | succ count ih =>
      have one : (Expr.membership left leaf).height = left.height + 1 := by
        rw [Expr.height, leaf, Expr.height, Nat.max_eq_left tall]
      rw [joined, ih _ (by omega), one]
      omega

theorem memberships_give (count : Nat) {rest : List Word} (loose : Loose rest) (left : Expr) :
    Gives (limited limit) .links (count + 1) (comparisonTail (limited limit) (count + 1) left) (memberships count rest)
      (joined count left) rest := by
  induction count generalizing left with
  | zero => exact comparison_tail_skips loose left
  | succ count ih =>
      have opening : Sees (atKind .openParen) (.emptyString :: memberships count rest) false :=
        kind_sees fun _ => rfl
      have candidate : Gives (limited limit) .rule (count + 1)
          (candidates (limited limit) (disjunction (limited limit) count) (primary (limited limit) (count + 1)))
          (.emptyString :: memberships count rest) leaf (memberships count rest) :=
        gets_look opening (primary_leaf _)
      have linked : Gives (limited limit) .links (count + 2) (do
          hold (limited limit)
          advance
          let right ← candidates (limited limit) (disjunction (limited limit) count) (primary (limited limit) (count + 1))
          comparisonTail (limited limit) (count + 1) (.membership left right)) (memberships (count + 1) rest)
          (joined (count + 1) left) rest :=
        gets_hold (gives_advance (gets_bind candidate (ih _)))
      exact gets_look (in_sees fun _ => rfl) linked

theorem last_link_gives {rest : List Word} (finds : Sees operator? (word :: .emptyString :: rest) (some operator))
    (operands : Gives settings .rule levels operand (.emptyString :: rest) leaf rest)
    (ends : ∀ left, Gives settings .links levels (more left) rest left rest) :
    Gives settings .links (levels + 1) (link settings operator? operand more left) (word :: .emptyString :: rest)
      (.binary operator left leaf) rest :=
  link_takes finds operands (ends _)

theorem unary_minus_leaf (rest : List Word) :
    Gives (limited limit) .rule (levels + 3) (chain (limited limit) (prefixed (limited limit) (levels + 3)))
      (.minus :: .emptyString :: rest) (Expr.unary .negate leaf) rest := by
  have operand : Gives (limited limit) .links (levels + 1) (prefixed (limited limit) (levels + 2))
      (.emptyString :: rest) leaf rest :=
    gets_look (prefix_sees fun _ => rfl) (gets_of_rule (primary_leaf rest))
  have negated : Gives (limited limit) .links (levels + 2) (do
      hold (limited limit)
      advance
      return Expr.unary .negate (← prefixed (limited limit) (levels + 2))) (.minus :: .emptyString :: rest)
      (Expr.unary .negate leaf) rest :=
    gets_hold (gives_advance (gets_map operand))
  exact gets_chain (gets_look (prefix_sees fun _ => rfl) negated)

def factor : Expr := .binary .multiply (.unary .negate leaf) leaf

theorem factor_gives {rest : List Word}
    (noFactor : ∀ position, seeOperator BinaryOperator.multiplications (Word.first rest position) = none) :
    Gives (limited limit) .rule (levels + 4) (product (limited limit) (levels + 4))
      (.minus :: .emptyString :: multiplication :: .emptyString :: rest) factor rest :=
  gets_chain_of (unary_minus_leaf _) (last_link_gives (operator_sees fun _ => rfl) (unary_leaf rest)
    fun _ => link_skips (operator_sees noFactor))

def term : Expr := .binary .add factor leaf

theorem term_gives {rest : List Word}
    (noFactor : ∀ position, seeOperator BinaryOperator.multiplications (Word.first rest position) = none)
    (noTerm : ∀ position, seeOperator BinaryOperator.additions (Word.first rest position) = none) :
    Gives (limited limit) .rule (levels + 5) (sum (limited limit) (levels + 5))
      (.minus :: .emptyString :: multiplication :: .emptyString :: addition :: .emptyString :: rest) term rest :=
  gets_chain_of (factor_gives fun _ => rfl) (last_link_gives (operator_sees fun _ => rfl) (product_leaf noFactor)
    fun _ => link_skips (operator_sees noTerm))

def tallWords (count : Nat) : List Word :=
  .minus :: .emptyString :: multiplication :: .emptyString :: addition :: .emptyString ::
    memberships count [both, .emptyString, either, .emptyString]

def tallTree (count : Nat) : Expr := .binary .or (.binary .and (joined count term) leaf) leaf

theorem tall_tree_height (count : Nat) : (tallTree count).height = count + 6 := by
  have four : term.height = 4 := rfl
  have one : leaf.height = 1 := rfl
  rw [tallTree, Expr.height, Expr.height, joined_height _ _ (by rw [four]; decide), four, one]
  omega

theorem loose_either (rest : List Word) : Loose (either :: rest) :=
  ⟨fun _ => rfl, fun _ => rfl, fun _ => rfl, fun _ => rfl⟩

theorem tall_words_give (levels : Nat) :
    Gives (limited limit) .rule (levels + 8) (disjunction (limited limit) (levels + 8)) (tallWords (levels + 4))
      (tallTree (levels + 4)) [] := by
  have compared : Gives (limited limit) .rule (levels + 6) (comparison (limited limit) (levels + 6))
      (tallWords (levels + 4)) (joined (levels + 4) term) [both, .emptyString, either, .emptyString] :=
    gets_chain_of (term_gives (fun _ => rfl) fun _ => rfl) (memberships_give (levels + 4) (loose_both _) term)
  have conjoined : Gives (limited limit) .rule (levels + 7) (conjunction (limited limit) (levels + 7))
      (tallWords (levels + 4)) (.binary .and (joined (levels + 4) term) leaf) [either, .emptyString] :=
    gets_chain_of compared (last_link_gives (keyword_sees fun _ => rfl) (comparison_leaf (loose_either _))
      fun _ => link_skips (keyword_sees fun _ => rfl))
  exact gets_chain_of conjoined (last_link_gives (keyword_sees fun _ => rfl)
    (conjunction_leaf loose_nil fun _ => rfl) fun _ => link_skips (keyword_sees fun _ => rfl))

theorem tall_filter (levels : Nat) :
    parse (limited (levels + 8)) .filter (String.ofList (Word.line (tallWords (levels + 4)))) =
      .ok (.filter (tallTree (levels + 4))) :=
  filter_of_words (congrArg _ String.toList_ofList) (tall_words_give levels)

end Expression

-- The height of the tree of a filter is bounded by the limit on the depth squared. The
-- limit itself bounds it only up to seven, where no chain but that of comparisons has a
-- level for a link: the levels that a chain takes are free again for the chains around it.
theorem filter_height_le_iff (limit : Nat) :
    (∀ settings text tree, settings.maxDepth = limit → parse settings .filter text = .ok (.filter tree) →
      2 * tree.height + 3 * limit + 14 ≤ limit * limit) ∧
    ((∀ settings text tree, settings.maxDepth = limit → parse settings .filter text = .ok (.filter tree) →
      tree.height ≤ limit) ↔ limit ≤ 7) := by
  refine ⟨fun settings text tree same parsed => same ▸ (filter_bounded parsed).2, fun bounded => ?_, ?_⟩
  · refine Nat.not_lt.mp fun more => ?_
    obtain ⟨levels, rfl⟩ : ∃ levels, limit = levels + 8 := ⟨limit - 8, by omega⟩
    have short := bounded _ _ _ rfl (Expression.tall_filter levels)
    rw [Expression.tall_tree_height] at short
    omega
  · intro le settings text tree same parsed
    obtain ⟨enough, short⟩ := filter_bounded parsed
    -- The only limit left is seven, where the square bounds the height by seven itself.
    obtain rfl : limit = 7 := by omega
    rw [same] at short
    omega

end QueryOptions
