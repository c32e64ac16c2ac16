import QueryOptions.Expr.Grammar
import QueryOptions.Proofs.Simulation.Basic

set_option autoImplicit false

namespace QueryOptions

open Parse

variable [Counter] {settings settings' : Settings} {place : String → Nat → Nat → Prop} {Sim : Relation}

def testedWords : List String :=
  ["or", "and", "not", "in", "asc", "desc", "as", "with", "aggregate", "groupby", "filter", "compute"]

structure Wording [Counter] (settings settings' : Settings) (place : String → Nat → Nat → Prop) (Sim : Relation) : Prop
    extends Levelling settings settings' place Sim where
  keyword : ∀ {part : Part} {word : String}, word ∈ testedWords →
    Sim part Bool (atKeyword settings.ignoreCase word) (atKeyword settings'.ignoreCase word)
  addition : ∀ {part : Part}, Sim part _ (Expression.operatorOf? BinaryOperator.additions settings)
    (Expression.operatorOf? BinaryOperator.additions settings')
  multiplication : ∀ {part : Part}, Sim part _ (Expression.operatorOf? BinaryOperator.multiplications settings)
    (Expression.operatorOf? BinaryOperator.multiplications settings')
  comparison : ∀ {part : Part}, Sim part _ (Expression.comparisonOf? settings) (Expression.comparisonOf? settings')

theorem Simulation.wording (S : Simulation settings settings' place Sim) : Wording settings settings' place Sim := by
  obtain ⟨limit, rfl⟩ := S.limit
  exact {
    toLevelling := S.toLevelling
    keyword := fun _ => S.atKeyword settings.ignoreCase _
    addition := S.current fun _ _ _ _ _ => ite_related (S.pure _) (S.pure _)
    multiplication := S.current fun _ _ _ _ _ => ite_related (S.pure _) (S.pure _)
    comparison := S.current fun _ _ _ _ _ => ite_related (S.pure _) (S.pure _) }

namespace Wording

open Expression

variable (S : Wording settings settings' place Sim) {part : Part}

include S

theorem keywordOf {word : String} (tested : word ∈ testedWords) (operator : BinaryOperator) :
    Sim part _ (keywordOf? settings word operator) (keywordOf? settings' word operator) :=
  S.bind (S.keyword tested) fun _ => S.pure _

theorem expectKeyword {word : String} (tested : word ∈ testedWords) :
    Sim part Unit (expectKeyword settings.ignoreCase word) (expectKeyword settings'.ignoreCase word) :=
  S.bind (S.keyword tested) fun _ => ite_related S.advance
    (S.current fun _ _ _ _ alike => S.fail ⟨fun _ => rfl, fun _ _ => rfl, fun _ _ => Text.stands_boundary⟩ alike)

theorem prefixOf : Sim part _ (prefixOf? settings) (prefixOf? settings') :=
  S.bind (S.atKind .minus) fun _ => ite_related (S.pure _)
    (S.bind (S.keyword (by decide)) fun _ => ite_related (S.pure _) (S.pure _))

theorem link {operator? operator?' : Parse (Option BinaryOperator)} {operand operand' : Parse Expr}
    {more more' : Expr → Parse Expr} (operators : Sim .links _ operator? operator?')
    (operands : Sim .rule _ operand operand') (rest : ∀ left, Sim .links _ (more left) (more' left))
    (left : Expr) :
    Sim .links _ (Expression.link settings operator? operand more left)
      (Expression.link settings' operator?' operand' more' left) := by
  refine S.bind operators fun operator => ?_
  cases operator with
  | none => exact S.pure left
  | some operator =>
      exact S.bind S.hold fun _ => S.bind S.advance fun _ => S.bind (S.rule operands) fun _ => rest _

theorem candidates {item item' single single' : Parse Expr} (items : Sim .rule _ item item')
    (singles : Sim .rule _ single single') :
    Sim .rule _ (Expression.candidates settings item single)
      (Expression.candidates settings' item' single') :=
  S.bind (S.atKind .openParen) fun _ => ite_related
    (S.recurse 1 (S.bind S.advance fun _ => S.bind (S.sepBy .comma items) fun _ =>
      S.bind (S.expect _ _) fun _ => S.pure _))
    singles

theorem compareLink {membership membership' operand operand' : Parse Expr}
    {more more' : Expr → Parse Expr} (memberships : Sim .rule _ membership membership')
    (operands : Sim .rule _ operand operand') (rest : ∀ left, Sim .links _ (more left) (more' left))
    (left : Expr) :
    Sim .links _ (Expression.compareLink settings membership operand more left)
      (Expression.compareLink settings' membership' operand' more' left) := by
  exact S.bind (S.keyword (by decide)) fun _ => ite_related
    (S.bind S.hold fun _ => S.bind S.advance fun _ => S.bind (S.rule memberships) fun _ => rest _)
    (S.link S.comparison operands rest left)

theorem prefixes {operand operand' more more' : Parse Expr} (operands : Sim .rule _ operand operand')
    (rest : Sim .links _ more more') :
    Sim .links _ (Expression.prefixes settings operand more)
      (Expression.prefixes settings' operand' more') := by
  refine S.bind S.prefixOf fun operator => ?_
  cases operator with
  | none => exact S.rule operands
  | some operator =>
      exact S.bind S.hold fun _ => S.bind S.advance fun _ => S.bind rest fun _ => S.pure _

theorem arguments {item item' : Parse Expr} (items : Sim .rule _ item item') :
    Sim .rule _ (Expression.arguments item) (Expression.arguments item') := by
  refine S.bind (S.expect _ _) fun _ => S.bind (S.atKind _) fun _ => ite_related ?_ ?_
  · exact S.bind S.advance fun _ => S.pure _
  · refine S.bind (S.sepBy .comma items) fun _ => S.bind (S.atKind _) fun _ => ?_
    exact ite_related (S.bind S.advance fun _ => S.pure _) (S.failExpected _)

theorem lambda {body body' : Parse Expr} (bodies : Sim .rule _ body body') (quantifier : Quantifier)
    (parent : Expr) :
    Sim .rule _ (Expression.lambda settings body quantifier parent)
      (Expression.lambda settings' body' quantifier parent) := by
  refine S.bind (S.expect _ _) fun _ => S.bind (S.atKind _) fun _ => ite_related ?_ ?_
  · exact S.bind S.advance fun _ => S.pure _
  · exact S.bind (S.identifier _) fun name => S.bind (S.expect _ _) fun _ =>
      S.bind (S.declaring name bodies) fun _ => S.bind (S.expect _ _) fun _ => S.pure _

theorem segment {inner inner' : Parse Expr} (inners : Sim .rule _ inner inner')
    (parent : Option Expr) :
    Sim .rule _ (Expression.segment settings inner parent)
      (Expression.segment settings' inner' parent) := by
  refine S.bind (S.dottedName false) fun name => S.bind (S.atKind _) fun _ => ite_related ?_ ?_
  · have called : Sim .rule _
        (do
          let arguments ← Parse.recurse settings 1 (Expression.arguments inner)
          pure (Expr.call name arguments parent))
        (do
          let arguments ← Parse.recurse settings' 1 (Expression.arguments inner')
          pure (Expr.call name arguments parent)) :=
      S.bind (S.recurse 1 (S.arguments inners)) fun _ => S.pure _
    cases Quantifier.ofName? name with
    | none => exact called
    | some quantifier =>
        cases parent with
        | none => exact called
        | some source => exact S.recurse 1 (S.lambda inners quantifier source)
  · cases parent with
    | none => exact S.bind (S.inScope name) fun _ => ite_related (S.pure _) (S.pure _)
    | some source => exact S.pure _

theorem segments {inner inner' : Parse Expr} {more more' : Expr → Parse Expr}
    (inners : Sim .rule _ inner inner') (rest : ∀ expr, Sim .links _ (more expr) (more' expr))
    (parent : Option Expr) :
    Sim .links _ (Expression.segments settings inner more parent)
      (Expression.segments settings' inner' more' parent) :=
  S.bind (S.rule (S.segment inners parent)) fun _ => S.bind (S.atKind _) fun _ => ite_related
    (S.bind S.hold fun _ => S.bind S.advance fun _ => rest _)
    (S.pure _)

theorem operand {inner inner' path path' : Parse Expr} (inners : Sim .rule _ inner inner')
    (paths : Sim .rule _ path path') :
    Sim .rule _ (Expression.operand inner path) (Expression.operand inner' path') :=
  S.current fun _ _ _ _ alike => ite_related
    (S.bind S.advance fun _ => S.bind inners fun _ => S.bind (S.expect _ _) fun _ => S.pure _)
    (ite_related (S.bind S.advance fun _ => S.pure _)
      (ite_related (S.bind S.advance fun _ => S.pure _)
        (ite_related paths (S.fail ⟨fun _ => rfl, fun _ _ => rfl, fun _ _ => Text.stands_boundary⟩ alike))))

end Wording

namespace Expression

structure Related [Counter] (settings settings' : Settings) (Sim : Relation) (levels levels' : Nat) : Prop where
  disjunction : Sim .rule _ (disjunction settings levels) (disjunction settings' levels')
  disjunctionTail : ∀ left, Sim .links _ (disjunctionTail settings levels left)
    (disjunctionTail settings' levels' left)
  conjunction : Sim .rule _ (conjunction settings levels) (conjunction settings' levels')
  conjunctionTail : ∀ left, Sim .links _ (conjunctionTail settings levels left)
    (conjunctionTail settings' levels' left)
  comparison : Sim .rule _ (comparison settings levels) (comparison settings' levels')
  comparisonTail : ∀ left, Sim .links _ (comparisonTail settings levels left)
    (comparisonTail settings' levels' left)
  sum : Sim .rule _ (sum settings levels) (sum settings' levels')
  sumTail : ∀ left, Sim .links _ (sumTail settings levels left) (sumTail settings' levels' left)
  product : Sim .rule _ (product settings levels) (product settings' levels')
  productTail : ∀ left, Sim .links _ (productTail settings levels left)
    (productTail settings' levels' left)
  prefixed : Sim .links _ (prefixed settings levels) (prefixed settings' levels')
  primary : Sim .rule _ (primary settings levels) (primary settings' levels')
  path : Sim .rule _ (path settings levels) (path settings' levels')
  pathFrom : ∀ parent, Sim .links _ (pathFrom settings levels parent)
    (pathFrom settings' levels' parent)

variable (S : Wording settings settings' place Sim)

include S

theorem related_zero {levels : Nat} (leaves : Leaves settings Sim 0 levels) :
    Related settings settings' Sim 0 levels where
  disjunction := S.outOf leaves
  disjunctionTail left := by
    cases levels <;> exact S.link (S.keywordOf (by decide) _) (S.outOf leaves) (fun _ => S.rule (S.outOf leaves)) left
  conjunction := S.outOf leaves
  conjunctionTail left := by
    cases levels <;> exact S.link (S.keywordOf (by decide) _) (S.outOf leaves) (fun _ => S.rule (S.outOf leaves)) left
  comparison := S.outOf leaves
  comparisonTail left := by
    rcases levels with _ | _ | levels <;>
      exact S.compareLink (S.outOf leaves) (S.outOf leaves) (fun _ => S.rule (S.outOf leaves)) left
  sum := S.outOf leaves
  sumTail left := by
    cases levels <;> exact S.link S.addition (S.outOf leaves) (fun _ => S.rule (S.outOf leaves)) left
  product := S.outOf leaves
  productTail left := by
    cases levels <;> exact S.link S.multiplication (S.outOf leaves) (fun _ => S.rule (S.outOf leaves)) left
  prefixed := S.rule (S.outOf leaves)
  primary := S.outOf leaves
  path := S.outOf leaves
  pathFrom parent := by
    cases levels <;> exact S.segments (S.outOf leaves) (fun _ => S.rule (S.outOf leaves)) parent

-- One more level on both sides. Only the candidates of a membership test and the operand
-- after prefixes stand two levels below the chain that they belong to.
theorem related_succ {levels levels' : Nat} (below : Related settings settings' Sim levels levels')
    (further : ∀ fewer fewer', levels = fewer + 1 → levels' = fewer' + 1 →
      Related settings settings' Sim fewer fewer') (leaves : Leaves settings Sim levels levels') :
    Related settings settings' Sim (levels + 1) (levels' + 1) where
  disjunction := S.chain (S.bind (S.rule below.conjunction) below.disjunctionTail)
  disjunctionTail left := S.link (S.keywordOf (by decide) _) below.conjunction below.disjunctionTail left
  conjunction := S.chain (S.bind (S.rule below.comparison) below.conjunctionTail)
  conjunctionTail left := S.link (S.keywordOf (by decide) _) below.comparison below.conjunctionTail left
  comparison := S.chain (S.bind (S.rule below.sum) below.comparisonTail)
  comparisonTail left := by
    cases levels with
    | zero =>
        cases levels' <;> exact S.compareLink (S.outOf leaves) below.sum below.comparisonTail left
    | succ fewer =>
        obtain ⟨fewer', rfl, _⟩ := leaves_down 1 leaves
        exact S.compareLink (S.candidates (further _ _ rfl rfl).disjunction below.primary) below.sum
          below.comparisonTail left
  sum := S.chain (S.bind (S.rule below.product) below.sumTail)
  sumTail left := S.link S.addition below.product below.sumTail left
  product := S.chain (S.bind (S.rule (S.chain below.prefixed)) below.productTail)
  productTail left := S.link S.multiplication (S.chain below.prefixed) below.productTail left
  prefixed := by
    cases levels with
    | zero => cases levels' <;> exact S.prefixes (S.outOf leaves) (S.rule (S.outOf leaves))
    | succ fewer =>
        obtain ⟨fewer', rfl, _⟩ := leaves_down 1 leaves
        exact S.prefixes below.primary below.prefixed
  primary := S.recurse 1 (S.operand below.disjunction below.path)
  path := S.chain (below.pathFrom none)
  pathFrom parent := S.segments below.disjunction (fun expr => below.pathFrom (some expr)) parent

theorem related (levels levels' : Nat) (leaves : Leaves settings Sim levels levels') :
    Related settings settings' Sim levels levels' := by
  induction levels using Nat.strongRecOn generalizing levels' with
  | _ levels ih =>
      cases levels with
      | zero => exact related_zero S leaves
      | succ levels =>
          obtain ⟨levels', rfl, fewer⟩ := leaves_down 1 leaves
          refine related_succ S (ih levels (by omega) levels' fewer) ?_ fewer
          rintro _ _ rfl rfl
          obtain ⟨_, same, further⟩ := leaves_down 1 fewer
          obtain rfl := Nat.add_right_cancel same
          exact ih _ (by omega) _ further

theorem whole_related (levels levels' : Nat) (leaves : Leaves settings Sim levels levels') :
    Sim .rule _ (whole settings levels) (whole settings' levels') :=
  S.bind (related S levels levels' leaves).disjunction fun _ => S.bind S.expectEnd fun _ => S.pure _

end Expression

end QueryOptions
