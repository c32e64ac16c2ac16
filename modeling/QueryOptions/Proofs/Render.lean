import QueryOptions.Proofs.Derivation.Written

set_option autoImplicit false

namespace QueryOptions

open Expression

def parenthesized (text : List Char) : List Char := '(' :: (text ++ [')'])

def UnaryOperator.text : UnaryOperator → String
  | .negate => "- "
  | .not => "not "

def Quantifier.name : Quantifier → String
  | .any => "any"
  | .all => "all"

namespace Expr

mutual

def render (keyword : BinaryOperator → String) : Expr → List Char
  | .literal _ text | .term text | .rangeVariable text | .parameterAlias text => text.toList
  | .endPath name parent | .innerPath name parent => renderAbove keyword parent ++ name.toList
  | .binary operator left right =>
      parenthesized (render keyword left) ++ ' ' :: ((keyword operator).toList ++ ' ' :: parenthesized (render keyword right))
  | .unary operator operand => operator.text.toList ++ parenthesized (render keyword operand)
  | .membership left right => parenthesized (render keyword left) ++ ' ' :: ("in".toList ++ ' ' :: render keyword right)
  | .collection items => parenthesized (renderItems keyword items)
  | .call name arguments source =>
      renderAbove keyword source ++ (name.toList ++ parenthesized (renderItems keyword arguments))
  | .lambda quantifier parent name body =>
      render keyword parent ++ '/' :: (quantifier.name.toList ++ parenthesized (name.toList ++ ':' :: render keyword body))
  | .nonempty parent => render keyword parent ++ '/' :: (Quantifier.any.name.toList ++ parenthesized [])

def renderAbove (keyword : BinaryOperator → String) : Option Expr → List Char
  | none => []
  | some parent => render keyword parent ++ ['/']

def renderItems (keyword : BinaryOperator → String) : List Expr → List Char
  | [] => []
  | item :: items => render keyword item ++ renderFurther keyword items

def renderFurther (keyword : BinaryOperator → String) : List Expr → List Char
  | [] => []
  | item :: items => ',' :: (render keyword item ++ renderFurther keyword items)

end

theorem render_into_inner (keyword : BinaryOperator → String) (tree : Expr) :
    tree.intoInner.render keyword = tree.render keyword := by
  cases tree <;> rfl

end Expr

def Keywords (keyword : BinaryOperator → String) : Prop :=
  ∀ level, ∀ entry ∈ operatorsAt level, (keyword entry.2, entry.2) ∈ operatorsAt level

namespace Expression

open QueryOptions.Expr

variable {keyword : BinaryOperator → String} {scope : List String} {text : List Char} {tree left right : Expr}
variable {lexemes own front back : List Lexeme} {level : Nat}

structure Stands (scope : List String) (text : List Char) (phrase : Phrase) (own : List Lexeme) : Prop where
  written : Written Delimited text own
  derives : Derives {} scope phrase own

-- How a phrase is written out, given the lexemes it was read from. A phrase that starts
-- with a name or a literal starts with it again; what stood in parentheses may not.
def Rendered (keyword : BinaryOperator → String) (scope : List String) (lexemes : List Lexeme) : Phrase → Prop
  | .chain _ tree => ∃ own, Stands scope (tree.render keyword) (.chain 0 tree) own
  | .primary tree => ∃ own, (Stands scope (tree.render keyword) (.chain 0 tree) own ∧
      ∃ first ∈ lexemes.head?, first.kind = .openParen) ∨
        (Stands scope (tree.render keyword) (.primary tree) own ∧ own.head? = lexemes.head?)
  | .candidates tree => ∃ own, Stands scope (tree.render keyword) (.candidates tree) own
  | .items trees => ∃ own, Stands scope (renderItems keyword trees) (.items trees) own
  | .arguments trees => ∃ own, Written Anything (parenthesized (renderItems keyword trees)) own ∧
      Derives {} scope (.arguments trees) own
  | .path tree => ∃ own, Written Parted (tree.render keyword) own ∧ Derives {} scope (.path tree) own ∧
      own.head? = lexemes.head?
  | .segment parent tree => ∃ text own, tree.render keyword = renderAbove keyword parent ++ text ∧
      Written Parted text own ∧ Derives {} scope (.segment parent tree) own ∧ own.head? = lexemes.head?

theorem operator_listed {operator : BinaryOperator} {word : Lexeme} (spelled : operatorAt {} level word = some operator) :
    ∃ entry ∈ operatorsAt level, entry.2 = operator := by
  have identifier := operator_word spelled
  rw [operator_at_listed (custom_none rfl _), if_pos identifier] at spelled
  obtain ⟨entry, found, same⟩ := Option.map_eq_some_iff.mp spelled
  exact ⟨entry, List.mem_of_find?_eq_some found, same⟩

theorem written_parenthesized (written : Written Delimited text own) :
    Written Anything (parenthesized text) (⟨.openParen, "("⟩ :: (own ++ [⟨.closeParen, ")"⟩])) :=
  written_group written

theorem binary_rendered (fixed : Keywords keyword) {operator : BinaryOperator} {word : Lexeme}
    (spelled : operatorAt {} level word = some operator) (before : Rendered keyword scope front (.chain level left))
    (operand : Rendered keyword scope back (.chain (level + 1) right)) :
    Rendered keyword scope lexemes (.chain level (.binary operator left right)) := by
  obtain ⟨first, left_stands⟩ := before
  obtain ⟨second, right_stands⟩ := operand
  obtain ⟨entry, listed, rfl⟩ := operator_listed spelled
  have chosen := fixed level entry listed
  have few := level_of_listed chosen
  have written := written_append (written_parenthesized left_stands.written)
    (written_operation (keywords_plain level few _ chosen) (written_parenthesized right_stands.written)) fun _ _ => trivial
  have derives := Derives.link (chain_loosen (Nat.le_of_lt few) (Nat.le_refl 5) (group_operand left_stands.derives))
    (keyword_operator rfl rfl chosen) (chain_loosen few (Nat.le_refl 5) (group_operand right_stands.derives))
  exact ⟨_, written_weaken written fun _ _ => trivial, chain_loosen (Nat.zero_le level) (Nat.le_of_lt few) derives⟩

theorem unary_rendered {operator : UnaryOperator} (operand : Rendered keyword scope back (.chain 5 tree)) :
    Rendered keyword scope lexemes (.chain 5 (.unary operator tree)) := by
  obtain ⟨own, stands⟩ := operand
  have written := written_parenthesized stands.written
  have derives {first : Lexeme} (spelled : prefixAt {} first = some operator) :=
    chain_loosen (Nat.zero_le 5) (Nat.le_refl 5) (Derives.prefixed spelled (group_operand stands.derives))
  cases operator with
  | negate =>
      have sign := written_append written_minus written fun _ _ => trivial
      exact ⟨_, written_weaken sign fun _ _ => trivial, derives rfl⟩
  | not =>
      have word := written_append (written_word_blank (show isPlainWord "not" by decide)) written fun _ _ => trivial
      exact ⟨_, written_weaken word fun _ _ => trivial, derives rfl⟩

theorem membership_rendered (before : Rendered keyword scope front (.chain 2 left))
    (candidates : Rendered keyword scope back (.candidates right)) :
    Rendered keyword scope lexemes (.chain 2 (.membership left right)) := by
  obtain ⟨first, left_stands⟩ := before
  obtain ⟨second, right_stands⟩ := candidates
  have written := written_append (written_parenthesized left_stands.written)
    (written_operation (show isPlainWord "in" by decide) right_stands.written) fun _ _ => trivial
  have derives := Derives.membership (chain_loosen (by decide) (Nat.le_refl 5) (group_operand left_stands.derives))
    (show isMembership {} 2 ⟨.identifier, "in"⟩ from rfl) right_stands.derives
  exact ⟨_, written, chain_loosen (Nat.zero_le 2) (by decide) derives⟩

theorem token_stands {lexeme : Lexeme} {phrase : Phrase} (scanned : Scanned lexeme)
    (derives : Derives {} scope phrase [lexeme]) : Stands scope lexeme.text.toList phrase [lexeme] :=
  ⟨written_token scanned (derives_aliased derives lexeme (List.mem_singleton_self _)), derives⟩

theorem group_rendered {opening : Lexeme} (opens : opening.kind = .openParen)
    (inner : Rendered keyword scope front (.chain 0 tree)) : Rendered keyword scope (opening :: back) (.primary tree) := by
  obtain ⟨own, stands⟩ := inner
  exact ⟨own, .inl ⟨stands, opening, rfl, opens⟩⟩

theorem operand_rendered (bare : ∀ first ∈ lexemes.head?, prefixAt {} first = none)
    (primary : Rendered keyword scope lexemes (.primary tree)) : Rendered keyword scope lexemes (.chain 5 tree) := by
  obtain ⟨own, ⟨stands, -⟩ | ⟨stands, head⟩⟩ := primary
  · exact ⟨own, stands⟩
  · have operand := Derives.operand (head ▸ bare) stands.derives
    exact ⟨own, stands.written, chain_loosen (Nat.zero_le 5) (Nat.le_refl 5) operand⟩

theorem single_rendered (bare : ∀ first ∈ lexemes.head?, first.kind ≠ .openParen)
    (primary : Rendered keyword scope lexemes (.primary tree)) : Rendered keyword scope lexemes (.candidates tree) := by
  obtain ⟨own, ⟨-, first, head, opens⟩ | ⟨stands, head⟩⟩ := primary
  · exact absurd opens (bare first head)
  · exact ⟨own, stands.written, .single (head ▸ bare) stands.derives⟩

theorem list_written {trees : List Expr} (items : Rendered keyword scope front (.items trees)) :
    ∃ own, Written Anything (parenthesized (renderItems keyword trees)) own ∧
      Derives {} scope (.arguments trees) own ∧ Derives {} scope (.candidates (.collection trees)) own := by
  obtain ⟨own, stands⟩ := items
  exact ⟨_, written_parenthesized stands.written, .some rfl stands.derives rfl, .list rfl stands.derives rfl⟩

theorem render_further {trees : List Expr} (derives : Derives {} scope (.items trees) lexemes) :
    renderItems keyword (tree :: trees) = tree.render keyword ++ ([','] ++ renderItems keyword trees) := by
  cases derives <;> rfl

theorem further_rendered {trees : List Expr} (item : Rendered keyword scope front (.chain 0 tree))
    (others : Rendered keyword scope back (.items trees)) : Rendered keyword scope lexemes (.items (tree :: trees)) := by
  obtain ⟨first, stands⟩ := item
  obtain ⟨second, stands'⟩ := others
  have comma : Written Anything [','] [⟨.comma, ","⟩] := written_mark rfl rfl (by decide)
  have behind := written_append comma stands'.written fun _ _ => trivial
  have written := written_append stands.written behind fun _ _ => delimited_mark rfl _
  refine ⟨first ++ ⟨.comma, ","⟩ :: second, ?_, .further stands.derives rfl stands'.derives⟩
  rw [render_further stands'.derives]
  exact written

theorem name_fronted {name : String} (spelled : Name lexemes name) (scanned : ∀ lexeme ∈ lexemes, Scanned lexeme) :
    ∃ own, Fronted Parted name.toList own ∧ Name own name ∧ own.head? = lexemes.head? := by
  induction spelled with
  | @single first named =>
      exact ⟨[first], fronted_name (scanned first (List.mem_singleton_self _)) named, .single named, rfl⟩
  | @dotted front name dot last before dots named ih =>
      simp only [List.forall_mem_append, List.forall_mem_cons] at scanned
      obtain ⟨own, fronted, spelled, head⟩ := ih scanned.1
      have point : Fronted Anything ['.'] [⟨.dot, "."⟩] := fronted_mark rfl rfl (by decide)
      have behind := fronted_append point (fronted_name scanned.2.2.1 named) fun _ _ => trivial
      have whole := fronted_append fronted behind fun _ _ => parted_mark (by decide) _
      refine ⟨own ++ [⟨.dot, "."⟩, last], ?_, .dotted spelled rfl named, ?_⟩
      · simpa using whole
      · rw [List.head?_append_of_ne_nil _ (name_ne_nil spelled), head, List.head?_append_of_ne_nil _ (name_ne_nil before)]

theorem name_written {name : String} (spelled : Name lexemes name) (scanned : ∀ lexeme ∈ lexemes, Scanned lexeme) :
    ∃ own, Written Parted name.toList own ∧ Name own name ∧ own.head? = lexemes.head? := by
  obtain ⟨own, fronted, spelled', head⟩ := name_fronted spelled scanned
  exact ⟨own, written_of_fronted fronted, spelled', head⟩

theorem segment_of_name {parent : Option Expr} {name : String} (spelled : Name lexemes name)
    (scanned : ∀ lexeme ∈ lexemes, Scanned lexeme)
    (rendered : tree.render keyword = renderAbove keyword parent ++ name.toList)
    (derives : ∀ own, Name own name → Derives {} scope (.segment parent tree) own) :
    Rendered keyword scope lexemes (.segment parent tree) := by
  obtain ⟨own, written, spelled', head⟩ := name_written spelled scanned
  exact ⟨_, own, rendered, written, derives own spelled', head⟩

theorem segment_of_call {parent : Option Expr} {name : String} (spelled : Name front name)
    (scanned : ∀ lexeme ∈ front, Scanned lexeme) (inside : Written Anything (parenthesized text) own)
    (rendered : tree.render keyword = renderAbove keyword parent ++ (name.toList ++ parenthesized text))
    (derives : ∀ front, Name front name → Derives {} scope (.segment parent tree) (front ++ own)) :
    Rendered keyword scope (front ++ back) (.segment parent tree) := by
  obtain ⟨named, written, spelled', head⟩ := name_written spelled scanned
  have whole := written_append written inside fun tail _ => parted_mark (by decide) _
  refine ⟨_, _, rendered, written_weaken whole fun _ _ => trivial, derives named spelled', ?_⟩
  rw [List.head?_append_of_ne_nil _ (name_ne_nil spelled'), head, List.head?_append_of_ne_nil _ (name_ne_nil spelled)]

theorem quantifier_name {name : String} {quantifier : Quantifier} (quantifies : Quantifier.ofName? name = some quantifier) :
    quantifier.name = name := by
  unfold Quantifier.ofName? at quantifies
  split at quantifies
  · rename_i any
    cases quantifies
    exact any.symm
  · split at quantifies
    · rename_i all
      cases quantifies
      exact all.symm
    · cases quantifies

theorem condition_written {word : Lexeme} {body : Expr} (scanned : Scanned word) (named : word.kind = .identifier)
    (written : Written Delimited (body.render keyword) own) :
    Written Anything (parenthesized (word.text.toList ++ ':' :: body.render keyword))
      (⟨.openParen, "("⟩ :: word :: ⟨.colon, ":"⟩ :: (own ++ [⟨.closeParen, ")"⟩])) := by
  have colon : Written Anything [':'] [⟨.colon, ":"⟩] := written_mark rfl rfl (by decide)
  have word_written := written_name scanned (by simp [Lexeme.isName, Cursor.isName, named])
  have behind := written_append colon written fun _ _ => trivial
  have inside := written_append word_written behind fun _ _ => parted_mark (by decide) _
  exact written_group inside

theorem step_rendered {parent : Expr} {slash : Lexeme} (before : Rendered keyword scope front (.path parent))
    (segment : Rendered keyword scope back (.segment (some parent.intoInner) tree)) (some : front ≠ []) :
    Rendered keyword scope (front ++ slash :: back) (.path tree) := by
  obtain ⟨first, written, derives, head⟩ := before
  obtain ⟨text, second, rendered, written', derives', -⟩ := segment
  have mark : Written Anything ['/'] [⟨.slash, "/"⟩] := written_mark rfl rfl (by decide)
  have behind := written_append mark written' fun _ _ => trivial
  have whole := written_append written behind fun _ _ => parted_mark (by decide) _
  refine ⟨first ++ ⟨.slash, "/"⟩ :: second, ?_, .step derives rfl derives', ?_⟩
  · rw [rendered, renderAbove, render_into_inner, List.append_assoc]
    exact whole
  · rw [List.head?_append_of_ne_nil _ (derives_ne_nil derives), head, List.head?_append_of_ne_nil _ some]

theorem derives_rendered (fixed : Keywords keyword) {phrase : Phrase} (derives : Derives {} scope phrase lexemes)
    (scanned : ∀ lexeme ∈ lexemes, Scanned lexeme) : Rendered keyword scope lexemes phrase := by
  induction derives with
  | operand bare _ ih => exact operand_rendered bare (ih scanned)
  | prefixed _ _ ih => exact unary_rendered (ih (List.forall_mem_cons.mp scanned).2)
  | tighter _ _ ih => exact ih scanned
  | link _ spelled _ before operand =>
      simp only [List.forall_mem_append, List.forall_mem_cons] at scanned
      exact binary_rendered fixed spelled (before scanned.1) (operand scanned.2.2)
  | membership _ _ _ before candidates =>
      simp only [List.forall_mem_append, List.forall_mem_cons] at scanned
      exact membership_rendered (before scanned.1) (candidates scanned.2.2)
  | literal literal =>
      have here := scanned _ (List.mem_singleton_self _)
      exact ⟨_, .inr ⟨token_stands here (.literal literal), rfl⟩⟩
  | parameter =>
      have here := scanned _ (List.mem_singleton_self _)
      exact ⟨_, .inr ⟨token_stands here .parameter, rfl⟩⟩
  | group opens _ _ ih =>
      simp only [List.forall_mem_append, List.forall_mem_cons] at scanned
      exact group_rendered opens (ih scanned.2.1)
  | path named _ ih =>
      obtain ⟨own, written, derives, head⟩ := ih scanned
      exact ⟨own, .inr ⟨⟨written_weaken written fun _ => parted_of_delimited, .path (head ▸ named) derives⟩, head⟩⟩
  | single bare _ ih => exact single_rendered bare (ih scanned)
  | list _ _ _ ih =>
      simp only [List.forall_mem_append, List.forall_mem_cons] at scanned
      obtain ⟨own, written, -, derives⟩ := list_written (ih scanned.2.1)
      exact ⟨own, written_weaken written fun _ _ => trivial, derives⟩
  | last _ ih =>
      obtain ⟨own, stands⟩ := ih scanned
      exact ⟨own, by simpa [renderItems, renderFurther] using stands.written, .last stands.derives⟩
  | further _ _ _ item others =>
      simp only [List.forall_mem_append, List.forall_mem_cons] at scanned
      exact further_rendered (item scanned.1) (others scanned.2.2)
  | none =>
      have empty : Written Delimited [] [] := written_weaken written_nil fun _ _ => trivial
      exact ⟨_, written_parenthesized empty, .none rfl rfl⟩
  | some _ _ _ ih =>
      simp only [List.forall_mem_append, List.forall_mem_cons] at scanned
      obtain ⟨own, written, derives, -⟩ := list_written (ih scanned.2.1)
      exact ⟨own, written, derives⟩
  | declared spelled known => exact segment_of_name spelled scanned rfl fun _ spelled' => .declared spelled' known
  | property spelled free => exact segment_of_name spelled scanned rfl fun _ spelled' => .property spelled' free
  | call spelled plain _ ih =>
      obtain ⟨here, inside⟩ := List.forall_mem_append.mp scanned
      obtain ⟨own, written, derives⟩ := ih inside
      exact segment_of_call spelled here written rfl fun _ spelled' => .call spelled' plain derives
  | @nonempty _ _ name _ opening closing spelled quantifies _ _ =>
      have empty : Written Delimited [] [] := written_weaken written_nil fun _ _ => trivial
      refine segment_of_call spelled (List.forall_mem_append.mp scanned).1 (written_parenthesized empty) ?_
        fun _ spelled' => .nonempty spelled' quantifies rfl rfl
      simp [render, renderAbove, quantifier_name quantifies]
  | lambda spelled quantifies _ named _ fresh _ _ ih =>
      simp only [List.forall_mem_append, List.forall_mem_cons] at scanned
      obtain ⟨own, stands⟩ := ih scanned.2.2.2.2.1
      refine segment_of_call spelled scanned.1 (condition_written scanned.2.2.1 named stands.written) ?_
        fun _ spelled' => .lambda spelled' quantifies rfl named rfl fresh stands.derives rfl
      simp [render, renderAbove, quantifier_name quantifies]
  | root _ ih =>
      obtain ⟨text, own, rendered, written, derives, head⟩ := ih scanned
      exact ⟨own, by rwa [rendered], .root derives, head⟩
  | step before _ _ ih segment =>
      simp only [List.forall_mem_append, List.forall_mem_cons] at scanned
      exact step_rendered (ih scanned.1) (segment scanned.2.2) (derives_ne_nil before)

end Expression

-- The text of a tree that a filter comes to is a filter and comes to this tree.
theorem filter_render {keyword : BinaryOperator → String} (fixed : Keywords keyword) {text : String} {tree : Expr}
    (accepted : Accepted text tree) {limit : Nat}
    (enough : 8 * (Text.byteLength (tree.render keyword) + 1) ≤ limit) :
    parse { maxDepth := limit } .filter (String.ofList (tree.render keyword)) = .ok (.filter tree) := by
  obtain ⟨lexemes, spelled, derives⟩ := accepted_derives accepted
  obtain ⟨own, stands⟩ := derives_rendered fixed derives (spelled_scanned spelled)
  have whole := spelled_written stands.written delimited_nil
  exact parse_of_derives (by rwa [String.toList_ofList]) stands.derives (by rwa [String.toList_ofList])

def BinaryOperator.keyword : BinaryOperator → String
  | .or => "or"
  | .and => "and"
  | .equal => "eq"
  | .notEqual => "ne"
  | .greaterThan => "gt"
  | .greaterThanOrEqual => "ge"
  | .lessThan => "lt"
  | .lessThanOrEqual => "le"
  | .has => "has"
  | .add => "add"
  | .subtract => "sub"
  | .multiply => "mul"
  | .divide => "div"
  | .modulo => "mod"
  | .custom keyword => keyword

theorem keywords_listed : Keywords BinaryOperator.keyword := by
  have listed : ∀ level < 5, ∀ entry ∈ operatorsAt level, (entry.2.keyword, entry.2) ∈ operatorsAt level := by decide
  exact fun level entry member => listed level (level_of_listed member) entry member

namespace Expr

def various : Expr :=
  .binary .or
    (.unary .not (.lambda .any (.innerPath "a.b" none) "x"
      (.membership (.endPath "y" (some (.rangeVariable "x")))
        (.collection [.literal .integerLiteral "1", .literal .singleLiteral "-2.5e3"]))))
    (.binary .and (.binary .equal (.parameterAlias "@p") (.literal .stringLiteral "'it''s'"))
      (.nonempty (.innerPath "d" (some (.call "f" [.endPath "or" none, .unary .negate (.endPath "c" none)] none)))))

end Expr

theorem various_render :
    Keywords BinaryOperator.keyword ∧
      Accepted "not a.b/any(x:x/y in (1,-2.5e3)) or @p eq 'it''s' and f(or, - c)/d/any()" .various ∧
      8 * (Text.byteLength (Expr.various.render BinaryOperator.keyword) + 1) ≤ 1024 ∧
      parse { maxDepth := 1024 } .filter
        "(not (a.b/any(x:(x/y) in (1,-2.5e3)))) or (((@p) eq ('it''s')) and (f(or,- (c))/d/any()))" = .ok (.filter .various) := by
  have accepted : Accepted "not a.b/any(x:x/y in (1,-2.5e3)) or @p eq 'it''s' and f(or, - c)/d/any()" .various :=
    accepted_within (show filterTree? (parse { maxDepth := 256 } .filter
      "not a.b/any(x:x/y in (1,-2.5e3)) or @p eq 'it''s' and f(or, - c)/d/any()") = some .various by decide +kernel)
  have enough : 8 * (Text.byteLength (Expr.various.render BinaryOperator.keyword) + 1) ≤ 1024 := by decide +kernel
  have text : String.ofList (Expr.various.render BinaryOperator.keyword) =
      "(not (a.b/any(x:(x/y) in (1,-2.5e3)))) or (((@p) eq ('it''s')) and (f(or,- (c))/d/any()))" := by decide +kernel
  have parsed := filter_render keywords_listed accepted enough
  rw [text] at parsed
  exact ⟨keywords_listed, accepted, enough, parsed⟩

end QueryOptions
