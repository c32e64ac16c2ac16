import QueryOptions.Proofs.Rendering.Lists

set_option autoImplicit false

namespace QueryOptions.Apply

open Parse Expression

variable {settings : Settings} {scope : List String} {keyword : BinaryOperator → String} {follows : Lexeme → Prop}

theorem parenthesized_restores {body : Nat → Parse Transformation} {closes : Lexeme → Prop} {word : String}
    {text : List Char} {transformation : Transformation} (plain : isPlainWord word)
    (inner : Restores body scope Delimited closes text transformation)
    (closing : ∀ lexeme : Lexeme, lexeme.kind = .closeParen → closes lexeme) :
    ∃ others, Written Anything (word.toList ++ QueryOptions.parenthesized text) (⟨.identifier, word⟩ :: others) ∧
      ∀ levels, Brings (parenthesized (body levels)) scope follows transformation (⟨.identifier, word⟩ :: others) := by
  obtain ⟨own, some, written, brings⟩ := inner
  have whole := written_append (written_plain_word plain) (written_parenthesized written) fun _ _ =>
    parted_mark (by decide) _
  refine ⟨_, whole, fun levels => .of_advance (.of_expect rfl ?_)⟩
  have rest : Brings (do
      expect .closeParen "')'"
      pure transformation) scope follows transformation [⟨.closeParen, ")"⟩] := .of_expect rfl (.of_pure _)
  exact .of_bind (brings levels) rest (by simp) fun first head => closing first (by rw [← Option.some.inj head])

section

variable (fixed : Keywords keyword) (plain : settings.customOperators = []) (exact : settings.ignoreCase = false)

include fixed plain exact

theorem property_restores {property : Expr} (formed : property.GroupingProperty settings scope) :
    Restores (groupingProperty settings) scope Delimited (EndsExpression settings) (property.render keyword) property := by
  obtain ⟨lexemes, scanned, named, derives⟩ := formed
  have bare := @derives_in settings {} plain.symm exact.symm _ _ _ derives
  obtain ⟨own, written, derives', head⟩ := derives_rendered fixed bare scanned
  have again := @derives_in {} settings plain exact _ _ _ derives'
  refine ⟨own, derives_ne_nil again, written_weaken written fun _ => parted_of_delimited, fun levels state moved kept spans fits => ?_⟩
  have word : state.cursor.token.kind = .identifier :=
    named _ (head ▸ Cursor.head_of_spans spans (derives_ne_nil again))
  refine Yields.of_kind (beq_of_eq word) (whole_path_complete (complete (unambiguous_of_plain plain) again) kept spans ?_)
  exact ⟨fits.other.1, fits.other.2.1, fits.other.2.2⟩

theorem grouping_restores {properties : List Expr} {children : List Transformation} (some : properties ≠ [])
    (each : ∀ property ∈ properties, property.GroupingProperty settings scope)
    (others : ∀ child ∈ children,
      Restores (transformation settings) scope Anything (fun _ => True) (child.render keyword) child) :
    Restores (fun levels => grouping settings levels (sepBy .slash (transformation settings levels))) scope Delimited
      (fun lexeme => lexeme.kind = .closeParen)
      (QueryOptions.parenthesized (punctuated ',' (properties.map (·.render keyword))) ++
        pipelineText (children.map (·.render keyword)))
      (.groupBy properties children) := by
  obtain ⟨own, going, written, brings⟩ := restores_commas some
    (fun property listed => property_restores fixed plain exact (each property listed))
    fun _ separates => ends_expression_of_kind separates (by decide)
  have grouped := written_parenthesized written
  have ends : ∀ first : Lexeme, first.kind = .closeParen → EndsExpression settings first ∧ first.kind ≠ .comma :=
    fun first closes => ⟨ends_expression_of_kind closes (by decide), by rw [closes]; decide⟩
  -- Behind the properties the rule looks for a comma.
  have rest {back : List Lexeme} (behind : ∀ levels, Brings (do
        if ← atKind .comma then
          advance
          return Transformation.groupBy properties (← sepBy .slash (transformation settings levels))
        else pure (.groupBy properties [])) scope (fun lexeme => lexeme.kind = .closeParen) (.groupBy properties children) back)
      (levels : Nat) : Brings (grouping settings levels (sepBy .slash (transformation settings levels))) scope
        (fun lexeme => lexeme.kind = .closeParen) (.groupBy properties children)
        (⟨.openParen, "("⟩ :: (own ++ ⟨.closeParen, ")"⟩ :: back)) := by
    refine .of_expect rfl (.of_bind (brings levels) (.of_expect rfl (behind levels)) (by simp) fun first head => ?_)
    exact ends first (by rw [← Option.some.inj head])
  by_cases none : children = []
  · subst none
    refine ⟨_, by simp, ?_, rest fun levels => .of_kind_behind (fun lexeme closes => by rw [closes]; decide) (.of_pure _)⟩
    rw [List.map_nil, pipelineText, List.append_nil]
    exact written_weaken grouped fun _ _ => trivial
  · obtain ⟨back, -, written', brings'⟩ := restores_punctuated none others (show _ ∧ punctuation? '/' = .some .slash ∧ _ by decide)
      (fun _ => trivial) fun _ _ => trivial
    have comma : Written Anything [','] [⟨.comma, ","⟩] := written_mark rfl rfl (by decide)
    have behind := written_append comma written' fun _ _ => trivial
    have whole := written_append grouped behind fun _ _ => trivial
    have reads (levels : Nat) : Brings (do
        if ← atKind .comma then
          advance
          return Transformation.groupBy properties (← sepBy .slash (transformation settings levels))
        else pure (.groupBy properties [])) scope (fun lexeme => lexeme.kind = .closeParen) (.groupBy properties children)
        (⟨.comma, ","⟩ :: back) :=
      .of_kind rfl (.of_advance ((brings' levels).of_bind_pure _ |>.weaken fun _ closes => ⟨trivial, by rw [closes]; decide⟩))
    refine ⟨_, by simp, ?_, rest reads⟩
    rw [pipeline_text (by simpa using none)]
    simp only [List.cons_append, List.append_assoc, List.nil_append] at whole
    exact written_weaken whole fun _ _ => trivial

theorem transformation_restores {transformation : Transformation} (formed : transformation.Formed settings scope) :
    Restores (Apply.transformation settings) scope Anything (fun _ => True) (transformation.render keyword) transformation := by
  have rule {own : List Lexeme} {transformation : Transformation}
      (brings : ∀ levels, Brings (transformationWith settings levels (sepBy .slash (Apply.transformation settings levels)))
        scope (fun _ => True) transformation own) (levels : Nat) :
      Brings (Apply.transformation settings levels) scope (fun _ => True) transformation own := by
    cases levels with
    | zero => exact fun _ _ _ _ _ => Yields.too_deep
    | succ levels => exact .of_recurse (brings levels)
  have other (word other : String) (differ : ∀ ignoreCase, Text.sameWord ignoreCase word other = false) :
      Text.sameWord settings.ignoreCase word other = false := differ _
  have identified {token : Token} {word : String} (same : token.lexeme = ⟨.identifier, word⟩) : token.kind = .identifier :=
    congrArg Lexeme.kind same
  induction formed with
  | @aggregate aggregates some each =>
      have listed : Restores _ scope Delimited (fun lexeme => True ∧ _) _ aggregates := restores_commas some
        (fun aggregate listed => aggregate_restores fixed plain exact (each aggregate listed)) fun _ _ => trivial
      obtain ⟨others, written, brings⟩ := parenthesized_restores (show isPlainWord "aggregate" by decide)
        (restores_map listed Transformation.aggregate) fun _ closes => ⟨trivial, by rw [closes]; decide⟩
      refine ⟨_, by simp, written, rule fun levels => .of_current fun token same => ?_⟩
      rw [if_pos (identified same)]
      exact .of_keyword (keyword_spelled _ _) (brings levels)
  | groupBy some each _ ih =>
      obtain ⟨others, written, brings⟩ := parenthesized_restores (show isPlainWord "groupby" by decide)
        (grouping_restores fixed plain exact some each ih) fun _ closes => closes
      rw [← Transformation.render_each] at written
      refine ⟨_, by simp, written, rule fun levels => .of_current fun token same => ?_⟩
      rw [if_pos (identified same)]
      exact .of_keyword (other "groupby" "aggregate" (by decide)) (.of_keyword (keyword_spelled _ _) (brings levels))
  | filter formed =>
      have condition := expression_restores fixed plain exact formed
      obtain ⟨others, written, brings⟩ := parenthesized_restores (show isPlainWord "filter" by decide)
        (restores_map condition Transformation.filter) fun _ closes => ends_expression_of_kind closes (by decide)
      refine ⟨_, by simp, written, rule fun levels => .of_current fun token same => ?_⟩
      rw [if_pos (identified same)]
      exact .of_keyword (other "filter" "aggregate" (by decide)) (.of_keyword (other "filter" "groupby" (by decide))
        (.of_keyword (keyword_spelled _ _) (brings levels)))
  | @compute items some each =>
      have listed : Restores _ scope Delimited (fun lexeme => True ∧ _) _ items := restores_commas some
        (fun item listed => compute_restores fixed plain exact (each item listed)) fun _ _ => trivial
      obtain ⟨others, written, brings⟩ := parenthesized_restores (show isPlainWord "compute" by decide)
        (restores_map listed Transformation.compute) fun _ closes => ⟨trivial, by rw [closes]; decide⟩
      refine ⟨_, by simp, written, rule fun levels => .of_current fun token same => ?_⟩
      rw [if_pos (identified same)]
      exact .of_keyword (other "compute" "aggregate" (by decide)) (.of_keyword (other "compute" "groupby" (by decide))
        (.of_keyword (other "compute" "filter" (by decide)) (.of_keyword (keyword_spelled _ _) (brings levels))))

end

end QueryOptions.Apply
