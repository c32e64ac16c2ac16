import QueryOptions.Apply.Grammar
import QueryOptions.Order
import QueryOptions.Proofs.Simulation.Expression
import QueryOptions.Search.Grammar

set_option autoImplicit false

namespace QueryOptions

open Parse

variable [Counter] {settings settings' : Settings} {place : String → Nat → Nat → Prop} {Sim : Relation}

namespace Search

section

variable (S : Levelling settings settings' place Sim) {part : Part}

include S

theorem atOperand_related : Sim part _ atOperand atOperand :=
  S.bind (S.atKind _) fun _ => S.bind (S.atKind _) fun _ => S.bind (S.atKeyword _ _) fun _ => S.pure _

theorem orLink_related {operand operand' : Parse Expr} {more more' : Expr → Parse Expr}
    (operands : Sim .rule _ operand operand') (rest : ∀ left, Sim .links _ (more left) (more' left))
    (left : Expr) :
    Sim .links _ (orLink settings operand more left) (orLink settings' operand' more' left) :=
  S.bind (S.atKeyword true "or") fun _ => ite_related
    (S.bind S.hold fun _ => S.bind S.advance fun _ => S.bind (S.rule operands) fun _ => rest _)
    (S.pure left)

theorem andLink_related {operand operand' : Parse Expr} {more more' : Expr → Parse Expr}
    (operands : Sim .rule _ operand operand') (rest : ∀ left, Sim .links _ (more left) (more' left))
    (left : Expr) :
    Sim .links _ (andLink settings operand more left) (andLink settings' operand' more' left) := by
  have joined : Sim .links _ (join settings operand more left) (join settings' operand' more' left) :=
    S.bind S.hold fun _ => S.bind (S.rule operands) fun _ => rest _
  exact S.bind (S.atKeyword true "and") fun _ => ite_related (S.bind S.advance fun _ => joined)
    (S.bind (atOperand_related S) fun _ => ite_related joined (S.pure left))

theorem prefixes_related {operand operand' more more' : Parse Expr}
    (operands : Sim .rule _ operand operand') (rest : Sim .links _ more more') :
    Sim .links _ (prefixes settings operand more) (prefixes settings' operand' more') :=
  S.bind (S.atKeyword true "not") fun _ => ite_related
    (S.bind S.hold fun _ => S.bind S.advance fun _ => S.bind rest fun _ => S.pure _)
    (S.rule operands)

theorem operand_related {inner inner' : Parse Expr} (inners : Sim .rule _ inner inner') :
    Sim .rule _ (operand inner) (operand inner') :=
  S.current fun _ _ _ _ alike => ite_related
    (S.bind S.advance fun _ => S.bind inners fun _ => S.bind (S.expect _ _) fun _ => S.pure _)
    (ite_related (S.bind S.advance fun _ => S.pure _)
      (S.fail ⟨fun _ => rfl, fun _ _ => rfl, fun _ _ => Text.stands_boundary⟩ alike))

end

structure Related [Counter] (settings settings' : Settings) (Sim : Relation) (levels levels' : Nat) : Prop where
  disjunction : Sim .rule _ (disjunction settings levels) (disjunction settings' levels')
  disjunctionTail : ∀ left, Sim .links _ (disjunctionTail settings levels left)
    (disjunctionTail settings' levels' left)
  conjunction : Sim .rule _ (conjunction settings levels) (conjunction settings' levels')
  conjunctionTail : ∀ left, Sim .links _ (conjunctionTail settings levels left)
    (conjunctionTail settings' levels' left)
  negated : Sim .links _ (negated settings levels) (negated settings' levels')
  primary : Sim .rule _ (primary settings levels) (primary settings' levels')

variable (S : Levelling settings settings' place Sim)

include S

theorem related_zero {levels : Nat} (leaves : Leaves settings Sim 0 levels) :
    Related settings settings' Sim 0 levels where
  disjunction := S.outOf leaves
  disjunctionTail left := by
    cases levels <;> exact orLink_related S (S.outOf leaves) (fun _ => S.rule (S.outOf leaves)) left
  conjunction := S.outOf leaves
  conjunctionTail left := by
    cases levels <;> exact andLink_related S (S.outOf leaves) (fun _ => S.rule (S.outOf leaves)) left
  negated := S.rule (S.outOf leaves)
  primary := S.outOf leaves

theorem related_succ {levels levels' : Nat} (below : Related settings settings' Sim levels levels')
    (leaves : Leaves settings Sim levels levels') :
    Related settings settings' Sim (levels + 1) (levels' + 1) where
  disjunction := S.chain (S.bind (S.rule below.conjunction) below.disjunctionTail)
  disjunctionTail left := orLink_related S below.conjunction below.disjunctionTail left
  conjunction := S.chain (S.bind (S.rule (S.chain below.negated)) below.conjunctionTail)
  conjunctionTail left := andLink_related S (S.chain below.negated) below.conjunctionTail left
  negated := by
    cases levels with
    | zero => cases levels' <;> exact prefixes_related S (S.outOf leaves) (S.rule (S.outOf leaves))
    | succ fewer =>
        obtain ⟨fewer', rfl, _⟩ := leaves_down 1 leaves
        exact prefixes_related S below.primary below.negated
  primary := S.recurse 1 (operand_related S below.disjunction)

theorem related (levels levels' : Nat) (leaves : Leaves settings Sim levels levels') :
    Related settings settings' Sim levels levels' := by
  induction levels generalizing levels' with
  | zero => exact related_zero S leaves
  | succ levels ih =>
      obtain ⟨levels', rfl, fewer⟩ := leaves_down 1 leaves
      exact related_succ S (ih levels' fewer) fewer

theorem whole_related (levels levels' : Nat) (leaves : Leaves settings Sim levels levels') :
    Sim .rule _ (whole settings levels) (whole settings' levels') :=
  S.bind (related S levels levels' leaves).disjunction fun _ => S.bind S.expectEnd fun _ => S.pure _

end Search

section

variable (S : Wording settings settings' place Sim) (levels levels' : Nat)
  (leaves : Leaves settings Sim levels levels')

include S

theorem Order.direction_related :
    Sim .rule _ (Order.direction settings) (Order.direction settings') :=
  S.bind (S.keyword (by decide)) fun _ => ite_related
    (S.bind S.advance fun _ => S.pure _)
    (S.bind (S.keyword (by decide)) fun _ => ite_related
      (S.bind S.advance fun _ => S.pure _) (S.pure _))

theorem Compute.naming_related :
    Sim .rule _ (Compute.naming settings) (Compute.naming settings') :=
  S.bind (S.expectKeyword (by decide)) fun _ => S.identifier _

theorem Apply.method_related (expression : Expr) :
    Sim .rule _ (Apply.method settings expression) (Apply.method settings' expression) :=
  S.bind (S.keyword (by decide)) fun _ => ite_related
    (S.bind S.advance fun _ => S.bind (S.dottedName false) fun _ => S.pure _)
    (ite_related (S.pure _)
      (S.current fun _ _ _ _ alike => S.fail ⟨fun _ => rfl, fun _ _ => rfl, fun _ _ => Text.stands_boundary⟩ alike))

theorem Apply.parenthesized_related {body body' : Parse Transformation}
    (bodies : Sim .rule _ body body') :
    Sim .rule _ (Apply.parenthesized body) (Apply.parenthesized body') :=
  S.bind S.advance fun _ => S.bind (S.expect _ _) fun _ => S.bind bodies fun _ =>
    S.bind (S.expect _ _) fun _ => S.pure _

include leaves

theorem Order.whole_related : Sim .rule _ (Order.whole settings levels) (Order.whole settings' levels') := by
  have item : Sim .rule _ (Order.item settings levels) (Order.item settings' levels') :=
    S.bind (Expression.related S levels levels' leaves).disjunction fun _ =>
      S.bind (Order.direction_related S) fun _ => S.pure _
  exact S.bind (S.sepBy .comma item) fun _ => S.bind S.expectEnd fun _ => S.pure _

theorem Compute.items_related : Sim .rule _ (Compute.items settings levels)
    (Compute.items settings' levels') :=
  S.sepBy .comma <| S.bind (Expression.related S levels levels' leaves).disjunction fun _ =>
    S.bind (Compute.naming_related S) fun _ => S.pure _

theorem Compute.whole_related :
    Sim .rule _ (Compute.whole settings levels) (Compute.whole settings' levels') :=
  S.bind (Compute.items_related S levels levels' leaves) fun _ => S.bind S.expectEnd fun _ => S.pure _

theorem Apply.aggregates_related :
    Sim .rule _ (Apply.aggregates settings levels) (Apply.aggregates settings' levels') := by
  have item : Sim .rule _ (Apply.aggregate settings levels) (Apply.aggregate settings' levels') :=
    S.bind (Expression.related S levels levels' leaves).disjunction fun expression =>
      S.bind (Apply.method_related S expression) fun _ =>
        S.bind (Compute.naming_related S) fun _ => S.pure _
  exact S.bind (S.sepBy .comma item) fun _ => S.pure _

theorem Apply.grouping_related {pipeline pipeline' : Parse (List Transformation)}
    (pipelines : Sim .rule _ pipeline pipeline') :
    Sim .rule _ (Apply.grouping settings levels pipeline) (Apply.grouping settings' levels' pipeline') := by
  have property : Sim .rule _ (Apply.groupingProperty settings levels)
      (Apply.groupingProperty settings' levels') :=
    S.bind (S.atKind _) fun _ =>
      ite_related (Expression.related S levels levels' leaves).path (S.failExpected _)
  exact S.bind (S.expect _ _) fun _ => S.bind (S.sepBy .comma property) fun _ =>
    S.bind (S.expect _ _) fun _ => S.bind (S.atKind _) fun _ => ite_related
      (S.bind S.advance fun _ => S.bind pipelines fun _ => S.pure _) (S.pure _)

theorem Apply.transformationWith_related {pipeline pipeline' : Parse (List Transformation)}
    (pipelines : Sim .rule _ pipeline pipeline') :
    Sim .rule _ (Apply.transformationWith settings levels pipeline)
      (Apply.transformationWith settings' levels' pipeline') := by
  have aggregates := Apply.parenthesized_related S (Apply.aggregates_related S levels levels' leaves)
  have grouping := Apply.parenthesized_related S
    (Apply.grouping_related S levels levels' leaves pipelines)
  have filter : Sim .rule _ (Apply.parenthesized (Apply.filter settings levels))
      (Apply.parenthesized (Apply.filter settings' levels')) :=
    Apply.parenthesized_related S <|
      S.bind (Expression.related S levels levels' leaves).disjunction fun _ => S.pure _
  have compute : Sim .rule _ (Apply.parenthesized (Apply.compute settings levels))
      (Apply.parenthesized (Apply.compute settings' levels')) :=
    Apply.parenthesized_related S <|
      S.bind (Compute.items_related S levels levels' leaves) fun _ => S.pure _
  have failed : Sim .rule Transformation (failExpected "transformation") (failExpected "transformation") :=
    S.failExpected "transformation"
  exact S.current fun _ _ _ _ alike => ite_related
    (S.bind (S.keyword (by decide)) fun _ => ite_related aggregates
      (S.bind (S.keyword (by decide)) fun _ => ite_related grouping
        (S.bind (S.keyword (by decide)) fun _ => ite_related filter
          (S.bind (S.keyword (by decide)) fun _ => ite_related compute
            (S.fail ⟨fun _ => rfl, fun _ _ => rfl, fun _ _ => id⟩ alike)))))
    failed

theorem Apply.transformation_related :
    Sim .rule _ (Apply.transformation settings levels) (Apply.transformation settings' levels') := by
  induction levels generalizing levels' with
  | zero => exact S.outOf leaves
  | succ levels ih =>
      obtain ⟨levels', rfl, fewer⟩ := leaves_down 1 leaves
      exact S.recurse 1 (Apply.transformationWith_related S levels levels' fewer
        (S.sepBy .slash (ih levels' fewer)))

theorem Apply.whole_related :
    Sim .rule _ (Apply.whole settings levels) (Apply.whole settings' levels') :=
  S.bind (S.sepBy .slash (Apply.transformation_related S levels levels' leaves)) fun _ =>
    S.bind S.expectEnd fun _ => S.pure _

end

end QueryOptions
