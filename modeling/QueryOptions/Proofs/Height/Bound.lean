import Mathlib.Tactic.Linarith
import Mathlib.Tactic.Ring
import QueryOptions.Proofs.Context

set_option autoImplicit false

namespace QueryOptions

open Parse

namespace Expr

mutual

def height : Expr → Nat
  | .literal _ _ => 1
  | .term _ => 1
  | .endPath _ parent => heightAbove parent + 1
  | .innerPath _ parent => heightAbove parent + 1
  | .rangeVariable _ => 1
  | .parameterAlias _ => 1
  | .binary _ left right => max left.height right.height + 1
  | .unary _ operand => operand.height + 1
  | .membership left right => max left.height right.height + 1
  | .collection items => tallest items + 1
  | .call _ arguments source => max (tallest arguments) (heightAbove source) + 1
  | .lambda _ parent _ body => max parent.height body.height + 1
  | .nonempty parent => parent.height + 1

def heightAbove : Option Expr → Nat
  | none => 0
  | some parent => parent.height

def tallest : List Expr → Nat
  | [] => 0
  | item :: items => max item.height (tallest items)

end

theorem into_inner_height (expr : Expr) : expr.intoInner.height = expr.height := by
  cases expr <;> rfl

theorem tallest_le {items : List Expr} {most : Nat} (below : ∀ item ∈ items, 2 * item.height ≤ most) :
    2 * tallest items ≤ most := by
  induction items with
  | nil => exact Nat.zero_le _
  | cons item items ih =>
      have first := below item List.mem_cons_self
      have others := ih fun item member => below item (List.mem_cons_of_mem _ member)
      rw [tallest]
      omega

end Expr

def Returns {α : Type} (p : Parse α) (good : α → Prop) : Prop :=
  ∀ state value after, p state = .ok value after → good value

variable {α β : Type} {good good' : α → Prop} {fine : β → Prop}

theorem returns_pure {value : α} (holds : good value) : Returns (pure value) good := by
  intro state value' after done
  cases done
  exact holds

theorem returns_throw (error : ParseError) : Returns (throw error) good :=
  fun _ _ _ done => by cases done

theorem returns_mono {p : Parse α} (returns : Returns p good) (implies : ∀ value, good value → good' value) :
    Returns p good' := fun state value after done => implies value (returns state value after done)

theorem returns_bind {p : Parse α} {f : α → Parse β} (first : Returns p good)
    (second : ∀ value, good value → Returns (f value) fine) : Returns (p >>= f) fine := by
  intro state value after done
  obtain ⟨middle, between, ran, rest⟩ := bind_ok done
  exact second middle (first state middle between ran) between value after rest

theorem returns_then {p : Parse α} {f : α → Parse β} (second : ∀ value, Returns (f value) fine) :
    Returns (p >>= f) fine := by
  have anything : Returns p fun _ => True := fun _ _ _ _ => trivial
  exact returns_bind anything fun value _ => second value

theorem returns_ite {c : Prop} [Decidable c] {p q : Parse α} (yes : Returns p good) (no : Returns q good) :
    Returns (if c then p else q) good := by
  split
  · exact yes
  · exact no

theorem returns_fail_expected (description : String) : Returns (failExpected description) good :=
  returns_then fun _ => returns_throw _

theorem returns_recurse {settings : Settings} {levels : Nat} {p : Parse α} (body : Returns p good) :
    Returns (recurse settings levels p) good := by
  intro state value after done
  obtain ⟨before, ran, -⟩ := recurse_ok done
  exact body _ value before ran

theorem returns_chain {settings : Settings} {p : Parse α} (body : Returns p good) :
    Returns (chain settings p) good := by
  intro state value after done
  obtain ⟨before, ran, -⟩ := chain_ok done
  exact body _ value before ran

theorem returns_declaring {settings : Settings} {name : String} {p : Parse α} (body : Returns p good) :
    Returns (declaring settings name p) good := by
  rw [declaring_by_map]
  refine returns_then fun _ state value after done => ?_
  obtain ⟨before, ran, -⟩ := map_state_ok done
  exact body state value before ran

theorem returns_sep_by {separator : TokenKind} {item : Parse α} (items : Returns item good) :
    Returns (sepBy separator item) fun values => ∀ value ∈ values, good value := by
  have further (count : Nat) : Returns (separated separator item count) fun values => ∀ value ∈ values, good value := by
    induction count with
    | zero => exact returns_pure (by simp)
    | succ count ih =>
        refine returns_then fun _ => returns_ite (returns_then fun _ => ?_) (returns_pure (by simp))
        refine returns_bind items fun first holds => returns_bind ih fun rest others => returns_pure ?_
        exact List.forall_mem_cons.mpr ⟨holds, others⟩
  refine returns_bind items fun first holds => returns_then fun state => returns_bind (further _) fun rest others => ?_
  exact returns_pure (List.forall_mem_cons.mpr ⟨holds, others⟩)

namespace Expression

-- A rule that needs so many levels at least, and a bound on twice the height of its trees
-- by the levels to spare.
def Within (least : Nat) (bound : Nat → Nat) (levels : Nat) (expr : Expr) : Prop :=
  ∃ spare, levels = spare + least ∧ 2 * expr.height ≤ bound spare

-- A chain that grows by one for each link. A link takes a level, and its operand needs so
-- many at least. `most` bounds twice the heights of what is linked.
def Grows (least : Nat) (bound : Nat → Nat) (levels : Nat) (tail : Expr → Parse Expr) : Prop :=
  ∀ left most, (∀ spare, spare + least < levels → bound spare ≤ most) → 2 * left.height ≤ most →
    Returns (tail left) fun expr => 2 * expr.height ≤ most + 2 * (levels - least)

variable {settings : Settings} {least levels : Nat} {bound : Nat → Nat}

theorem grows_by (join : Expr → Expr → Expr) {operand : Parse Expr} {more : Expr → Parse Expr}
    (joined : ∀ left right, (join left right).height = max left.height right.height + 1)
    (operands : Returns operand (Within least bound levels)) (rest : Grows least bound levels more)
    {left : Expr} {most : Nat} (covers : ∀ spare, spare + least < levels + 1 → bound spare ≤ most)
    (tall : 2 * left.height ≤ most) :
    Returns (do more (join left (← operand)))
      fun expr => 2 * expr.height ≤ most + 2 * (levels + 1 - least) := by
  refine returns_bind operands fun right within => ?_
  obtain ⟨spare, rfl, short⟩ := within
  have enough := covers spare (Nat.lt_succ_self _)
  have grown := rest (join left right) (most + 2)
    (fun spare' fewer => Nat.le_add_right_of_le (covers spare' (Nat.lt_succ_of_lt fewer)))
    (by rw [joined]; omega)
  exact returns_mono grown fun expr bounded => by omega

theorem link_grows {operator? : Parse (Option BinaryOperator)} {operand : Parse Expr}
    {more : Expr → Parse Expr} (operands : Returns operand (Within least bound levels))
    (rest : Grows least bound levels more) :
    Grows least bound (levels + 1) (link settings operator? operand more) := by
  intro left most covers tall
  refine returns_then fun operator => ?_
  cases operator with
  | none => exact returns_pure (Nat.le_add_right_of_le tall)
  | some operator =>
      exact returns_then fun _ => returns_then fun _ =>
        grows_by (.binary operator) (fun _ _ => by rw [Expr.height]) operands rest covers tall

theorem compare_link_grows {membership operand : Parse Expr} {more : Expr → Parse Expr}
    (memberships : Returns membership (Within least bound levels))
    (operands : Returns operand (Within least bound levels)) (rest : Grows least bound levels more) :
    Grows least bound (levels + 1) (compareLink settings membership operand more) := by
  intro left most covers tall
  refine returns_then fun _ => returns_ite ?_ (link_grows operands rest left most covers tall)
  exact returns_then fun _ => returns_then fun _ =>
    grows_by .membership (fun _ _ => by rw [Expr.height]) memberships rest covers tall

theorem chain_within {least' : Nat} {bound' next : Nat → Nat} {first : Parse Expr} {tail : Expr → Parse Expr}
    (operand : Returns first (Within least bound levels)) (rest : Grows least' bound' levels tail)
    (fits : ∀ spare, levels = spare + least → ∃ most, bound spare ≤ most ∧
      (∀ spare', spare' + least' < levels → bound' spare' ≤ most) ∧ most + 2 * (levels - least') ≤ next spare) :
    Returns (chain settings do tail (← first)) (Within (least + 1) next (levels + 1)) := by
  refine returns_chain (returns_bind operand fun left within => ?_)
  obtain ⟨spare, same, short⟩ := within
  obtain ⟨most, above, covers, below⟩ := fits spare same
  refine returns_mono (rest left most covers (Nat.le_trans short above)) fun expr bounded => ?_
  exact ⟨spare, by omega, Nat.le_trans bounded below⟩

-- A bound on twice a height by the levels to spare. It is a square, since an operand can be
-- a tree in parentheses that has links itself; every chain on top adds two to the slope.
def quadratic (slope base spare : Nat) : Nat := spare * spare + slope * spare + base

theorem quadratic_mono {slope base spare spare' : Nat} (le : spare' ≤ spare) :
    quadratic slope base spare' ≤ quadratic slope base spare := by
  have squares := Nat.mul_le_mul le le
  have slopes := Nat.mul_le_mul_left slope le
  unfold quadratic
  omega

theorem quadratic_more (slope base spare : Nat) :
    quadratic slope base spare + 2 * spare = quadratic (slope + 2) base spare := by
  unfold quadratic
  ring

theorem same_chain_within {slope base : Nat} {first : Parse Expr} {tail : Expr → Parse Expr}
    (operand : Returns first (Within least (quadratic slope base) levels))
    (rest : Grows least (quadratic slope base) levels tail) :
    Returns (chain settings do tail (← first)) (Within (least + 1) (quadratic (slope + 2) base) (levels + 1)) := by
  refine chain_within operand rest fun spare same => ⟨_, Nat.le_refl _, fun spare' fewer => ?_, ?_⟩
  · exact quadratic_mono (by omega)
  · rw [← quadratic_more]
    omega

structure Bounded (settings : Settings) (levels : Nat) : Prop where
  disjunction : Returns (disjunction settings levels) (Within 7 (quadratic 11 14) levels)
  disjunctionTail : Grows 6 (quadratic 9 14) levels (disjunctionTail settings levels)
  conjunction : Returns (conjunction settings levels) (Within 6 (quadratic 9 14) levels)
  conjunctionTail : Grows 5 (quadratic 7 14) levels (conjunctionTail settings levels)
  comparison : Returns (comparison settings levels) (Within 5 (quadratic 7 14) levels)
  comparisonTail : Grows 1 (quadratic 1 2) levels (comparisonTail settings levels)
  sum : Returns (sum settings levels) (Within 4 (quadratic 5 2) levels)
  sumTail : Grows 3 (quadratic 3 2) levels (sumTail settings levels)
  product : Returns (product settings levels) (Within 3 (quadratic 3 2) levels)
  productTail : Grows 2 (quadratic 1 2) levels (productTail settings levels)
  prefixed : Returns (prefixed settings levels) (Within 2 (quadratic 1 2) levels)
  primary : Returns (primary settings levels) (Within 1 (quadratic 1 2) levels)
  path : Returns (path settings levels) fun expr => 2 * expr.height ≤ quadratic 1 2 levels
  pathFrom : ∀ parent most, quadratic 1 2 levels ≤ most → 2 * Expr.heightAbove parent ≤ most →
    Returns (pathFrom settings levels parent) fun expr => 2 * expr.height ≤ most + 2 * (levels + 1)

theorem disjunction_fits {expr : Expr} (within : Within 7 (quadratic 11 14) levels expr) :
    2 * expr.height + 2 ≤ quadratic 1 2 levels := by
  obtain ⟨spare, rfl, short⟩ := within
  unfold quadratic at short ⊢
  nlinarith

theorem sum_fits {expr : Expr} (within : Within 4 (quadratic 5 2) levels expr) :
    Within 1 (quadratic 1 2) levels expr := by
  obtain ⟨spare, rfl, short⟩ := within
  refine ⟨spare + 3, rfl, Nat.le_trans short ?_⟩
  unfold quadratic
  nlinarith

theorem list_fits {exprs : List Expr} (within : ∀ expr ∈ exprs, Within 7 (quadratic 11 14) levels expr) :
    2 * (Expr.tallest exprs + 1) ≤ quadratic 1 2 levels := by
  have two : 2 ≤ quadratic 1 2 levels := Nat.le_add_left _ _
  have below : 2 * Expr.tallest exprs ≤ quadratic 1 2 levels - 2 := Expr.tallest_le fun expr member => by
    have fits := disjunction_fits (within expr member)
    omega
  omega

theorem candidates_within {item single : Parse Expr} (items : Returns item (Within 7 (quadratic 11 14) levels))
    (singles : Returns single (Within 1 (quadratic 1 2) (levels + 1))) :
    Returns (candidates settings item single) (Within 1 (quadratic 1 2) (levels + 1)) := by
  refine returns_then fun _ => returns_ite (returns_recurse ?_) singles
  refine returns_then fun _ => returns_bind (returns_sep_by items) fun exprs within => returns_then fun _ => ?_
  refine returns_pure ⟨levels, rfl, ?_⟩
  rw [Expr.height]
  exact list_fits within

-- The levels for a chain of comparisons count in full for its links, a membership test
-- taking one.
theorem comparison_within {first : Parse Expr} {tail : Expr → Parse Expr}
    (operand : Returns first (Within 4 (quadratic 5 2) levels))
    (rest : Grows 1 (quadratic 1 2) levels tail) :
    Returns (chain settings do tail (← first)) (Within 5 (quadratic 7 14) (levels + 1)) := by
  refine chain_within operand rest fun spare same => ⟨quadratic 5 8 spare, ?_, fun spare' fewer => ?_, ?_⟩
  · exact Nat.add_le_add_left (by decide) _
  · refine Nat.le_trans (quadratic_mono (show spare' ≤ spare + 2 by omega)) (Nat.le_of_eq ?_)
    unfold quadratic
    ring
  · subst same
    have links : spare + 4 - 1 = spare + 3 := rfl
    rw [links, Nat.mul_add, ← Nat.add_assoc, quadratic_more]
    exact Nat.le_refl _

theorem prefixes_within {operand more : Parse Expr} (operands : Returns operand (Within 1 (quadratic 1 2) levels))
    (rest : Returns more (Within 2 (quadratic 1 2) levels)) :
    Returns (prefixes settings operand more) (Within 2 (quadratic 1 2) (levels + 1)) := by
  refine returns_then fun operator => ?_
  cases operator with
  | none =>
      refine returns_mono operands ?_
      rintro expr ⟨spare, same, short⟩
      exact ⟨spare, by omega, short⟩
  | some operator =>
      refine returns_then fun _ => returns_then fun _ => returns_bind rest ?_
      rintro expr ⟨spare, same, short⟩
      refine returns_pure ⟨spare + 1, by omega, ?_⟩
      rw [Expr.height]
      unfold quadratic at short ⊢
      nlinarith

theorem operand_within {inner path : Parse Expr} (inners : Returns inner (Within 7 (quadratic 11 14) levels))
    (paths : Returns path fun expr => 2 * expr.height ≤ quadratic 1 2 levels) :
    Returns (operand inner path) (Within 1 (quadratic 1 2) (levels + 1)) := by
  have leaf : 2 * 1 ≤ quadratic 1 2 levels := Nat.le_add_left _ _
  refine returns_then fun token => returns_ite ?_ (returns_ite ?_ (returns_ite ?_ (returns_ite ?_ ?_)))
  · refine returns_then fun _ => returns_bind inners fun expr within => returns_then fun _ => returns_pure ?_
    exact ⟨levels, rfl, Nat.le_trans (Nat.le_add_right _ _) (disjunction_fits within)⟩
  · exact returns_then fun _ => returns_pure ⟨levels, rfl, by rwa [Expr.height]⟩
  · exact returns_then fun _ => returns_pure ⟨levels, rfl, by rwa [Expr.height]⟩
  · exact returns_mono paths fun expr short => ⟨levels, rfl, short⟩
  · exact returns_throw _

theorem arguments_short {item : Parse Expr} (items : Returns item (Within 7 (quadratic 11 14) levels)) :
    Returns (arguments item) fun exprs => 2 * (Expr.tallest exprs + 1) ≤ quadratic 1 2 levels := by
  refine returns_then fun _ => returns_then fun _ => returns_ite ?_ ?_
  · exact returns_then fun _ => returns_pure (Nat.le_add_left _ _)
  · refine returns_bind (returns_sep_by items) fun exprs within => returns_then fun _ => returns_ite ?_ ?_
    · exact returns_then fun _ => returns_pure (list_fits within)
    · exact returns_fail_expected _

theorem lambda_short {body : Parse Expr} {most : Nat} (bodies : Returns body (Within 7 (quadratic 11 14) levels))
    (covers : quadratic 1 2 levels ≤ most) (quantifier : Quantifier) {parent : Expr}
    (tall : 2 * parent.height ≤ most) :
    Returns (lambda settings body quantifier parent) fun expr => 2 * expr.height ≤ most + 2 := by
  refine returns_then fun _ => returns_then fun _ => returns_ite ?_ ?_
  · refine returns_then fun _ => returns_pure ?_
    rw [Expr.height]
    omega
  · refine returns_then fun name => returns_then fun _ => ?_
    refine returns_bind (returns_declaring bodies) fun condition within => returns_then fun _ => returns_pure ?_
    have short := disjunction_fits within
    rw [Expr.height]
    omega

theorem segment_short {inner : Parse Expr} {most : Nat} (inners : Returns inner (Within 7 (quadratic 11 14) levels))
    (covers : quadratic 1 2 levels ≤ most) {parent : Option Expr} (tall : 2 * Expr.heightAbove parent ≤ most) :
    Returns (segment settings inner parent) fun expr => 2 * expr.height ≤ most + 2 := by
  have called (name : String) : Returns (do
      let arguments ← recurse settings 1 (arguments inner)
      pure (Expr.call name arguments parent)) fun expr => 2 * expr.height ≤ most + 2 := by
    refine returns_bind (returns_recurse (arguments_short inners)) fun exprs short => returns_pure ?_
    rw [Expr.height]
    omega
  refine returns_then fun name => returns_then fun _ => returns_ite ?_ ?_
  · cases Quantifier.ofName? name with
    | none => exact called name
    | some quantifier =>
        cases parent with
        | none => exact called name
        | some source => exact returns_recurse (lambda_short inners covers quantifier tall)
  · cases parent with
    | none =>
        refine returns_then fun _ => returns_ite (returns_pure ?_) (returns_pure ?_)
        · rw [Expr.height]
          omega
        · rw [Expr.height]
          omega
    | some source =>
        refine returns_pure ?_
        rw [Expr.height]
        omega

theorem segments_short {inner : Parse Expr} {more : Expr → Parse Expr} {most most' : Nat}
    (inners : Returns inner (Within 7 (quadratic 11 14) levels)) (covers : quadratic 1 2 levels ≤ most)
    (rest : ∀ expr, 2 * expr.height ≤ most + 2 → Returns (more expr) fun expr => 2 * expr.height ≤ most')
    (le : most + 2 ≤ most') {parent : Option Expr} (tall : 2 * Expr.heightAbove parent ≤ most) :
    Returns (segments settings inner more parent) fun expr => 2 * expr.height ≤ most' := by
  refine returns_bind (segment_short inners covers tall) fun expr short => returns_then fun _ => returns_ite ?_ ?_
  · refine returns_then fun _ => returns_then fun _ => rest _ ?_
    rwa [Expr.into_inner_height]
  · exact returns_pure (Nat.le_trans short le)

theorem grows_too_deep (operator? : Parse (Option BinaryOperator)) (least : Nat) (bound : Nat → Nat) :
    Grows least bound 0 (link settings operator? (tooDeep settings) fun _ => tooDeep settings) := by
  intro left most _ tall
  refine returns_then fun operator => ?_
  cases operator with
  | none => exact returns_pure (Nat.le_add_right_of_le tall)
  | some operator => exact returns_then fun _ => returns_then fun _ => returns_then fun _ => returns_throw _

theorem bounded_zero : Bounded settings 0 where
  disjunction := returns_throw _
  disjunctionTail := grows_too_deep _ _ _
  conjunction := returns_throw _
  conjunctionTail := grows_too_deep _ _ _
  comparison := returns_throw _
  comparisonTail left most covers tall := returns_then fun _ => returns_ite
    (returns_then fun _ => returns_then fun _ => returns_then fun _ => returns_throw _)
    (grows_too_deep _ _ _ left most covers tall)
  sum := returns_throw _
  sumTail := grows_too_deep _ _ _
  product := returns_throw _
  productTail := grows_too_deep _ _ _
  prefixed := returns_throw _
  primary := returns_throw _
  path := returns_throw _
  pathFrom _ _ covers tall :=
    segments_short (returns_throw _) covers (fun _ _ => returns_throw _) (Nat.le_refl _) tall

theorem bounded_succ (below : Bounded settings levels)
    (further : ∀ fewer, levels = fewer + 1 → Bounded settings fewer) : Bounded settings (levels + 1) where
  disjunction := same_chain_within below.conjunction below.disjunctionTail
  disjunctionTail := link_grows below.conjunction below.disjunctionTail
  conjunction := same_chain_within below.comparison below.conjunctionTail
  conjunctionTail := link_grows below.comparison below.conjunctionTail
  comparison := comparison_within below.sum below.comparisonTail
  comparisonTail := by
    have operand := returns_mono below.sum fun _ => sum_fits
    -- The candidates take a level of their own besides that of the link.
    cases levels with
    | zero => exact compare_link_grows (returns_throw _) operand below.comparisonTail
    | succ fewer =>
        exact compare_link_grows (candidates_within (further fewer rfl).disjunction below.primary) operand
          below.comparisonTail
  sum := same_chain_within below.product below.sumTail
  sumTail := link_grows below.product below.sumTail
  product := same_chain_within (returns_chain below.prefixed) below.productTail
  productTail := link_grows (returns_chain below.prefixed) below.productTail
  prefixed := by
    cases levels with
    | zero => exact prefixes_within (returns_throw _) (returns_throw _)
    | succ fewer => exact prefixes_within below.primary below.prefixed
  primary := returns_recurse (operand_within below.disjunction below.path)
  path := by
    refine returns_chain (returns_mono (below.pathFrom none _ (Nat.le_refl _) (Nat.zero_le _)) fun expr short => ?_)
    refine Nat.le_trans short (Nat.le_of_eq ?_)
    unfold quadratic
    ring
  pathFrom parent most covers tall := by
    have fewer : quadratic 1 2 levels ≤ quadratic 1 2 (levels + 1) := quadratic_mono (Nat.le_succ levels)
    refine segments_short below.disjunction (Nat.le_trans fewer covers) (fun expr short => ?_) (by omega) tall
    have rest := below.pathFrom (some expr) (most + 2)
      (Nat.le_add_right_of_le (Nat.le_trans fewer covers)) short
    exact returns_mono rest fun expr short => by omega

-- The rules of one level call those of the level below. The candidates of a membership test
-- and the operand after prefixes stand two levels below.
theorem bounded (settings : Settings) (levels : Nat) : Bounded settings levels := by
  induction levels using Nat.strongRecOn with
  | _ levels ih =>
      cases levels with
      | zero => exact bounded_zero
      | succ levels => exact bounded_succ (ih levels (by omega)) fun fewer _ => ih fewer (by omega)

end Expression

theorem filter_bounded {settings : Settings} {text : String} {tree : Expr}
    (parsed : parse settings .filter text = .ok (.filter tree)) :
    7 ≤ settings.maxDepth ∧
      2 * tree.height + 3 * settings.maxDepth + 14 ≤ settings.maxDepth * settings.maxDepth := by
  obtain ⟨after, done⟩ := parser_ok parsed
  have bounded : Returns (QueryOption.filter.parser settings) fun parsed =>
      ∀ tree, parsed = .filter tree → Expression.Within 7 (Expression.quadratic 11 14) settings.maxDepth tree := by
    refine returns_then fun _ => ?_
    refine returns_bind (returns_bind (Expression.bounded settings settings.maxDepth).disjunction
      fun expr within => returns_then fun _ => returns_pure within) fun expr within => returns_pure fun tree same => ?_
    cases same
    exact within
  obtain ⟨spare, same, short⟩ := bounded _ _ _ done tree rfl
  unfold Expression.quadratic at short
  rw [same]
  constructor
  · omega
  · nlinarith

end QueryOptions
