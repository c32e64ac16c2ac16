import QueryOptions.Equality
import QueryOptions.Proofs.Formed.Parts

set_option autoImplicit false

namespace QueryOptions

namespace Expr

-- How a part stands in its node: a path, a call or a quantifier goes on from a source, a membership
-- test has candidates, and what is computed with, listed, passed or tested is an operand.
inductive Role where
  | source
  | candidates
  | operand
deriving DecidableEq

def parts : Expr → List (Role × Expr)
  | .endPath _ parent | .innerPath _ parent => parent.toList.map (.source, ·)
  | .binary _ left right => [(.operand, left), (.operand, right)]
  | .unary _ operand => [(.operand, operand)]
  | .membership left right => [(.operand, left), (.candidates, right)]
  | .collection items => items.map (.operand, ·)
  | .call _ arguments source => source.toList.map (.source, ·) ++ arguments.map (.operand, ·)
  | .lambda _ parent _ body => [(.source, parent), (.operand, body)]
  | .nonempty parent => [(.source, parent)]
  | .literal _ _ | .term _ | .rangeVariable _ | .parameterAlias _ => []

inductive Stands : Role → Expr → Role → Expr → Prop where
  | root (role : Role) (tree : Expr) : Stands role tree role tree
  | inside {role role' role'' : Role} {tree child node : Expr} (part : (role', child) ∈ tree.parts)
      (stands : Stands role' child role'' node) : Stands role tree role'' node

-- The roles of each kind of node, and what holds of it there.
def Belongs (role : Role) : Expr → Prop
  | .literal kind _ => role ≠ .source ∧ kind.isLiteral
  | .term _ => False
  | .endPath _ _ | .parameterAlias _ => role ≠ .source
  | .innerPath _ _ => role = .source
  | .binary _ _ _ | .unary _ _ | .membership _ _ => role = .operand
  | .collection items => role = .candidates ∧ items ≠ []
  | .call name _ source => source.isSome → name ≠ "any" ∧ name ≠ "all"
  | .rangeVariable _ | .lambda _ _ _ _ | .nonempty _ => True

def quantified? : Expr → Option (Quantifier × Option String × Option Expr)
  | .lambda quantifier _ name body => some (quantifier, some name, some body)
  | .nonempty _ => some (.any, none, none)
  | _ => none

def InSearch : Expr → Prop
  | .term _ | .unary .not _ | .binary .and _ _ | .binary .or _ _ => True
  | _ => False

def Throughout (told : Role → Expr → Prop) (role : Role) (tree : Expr) : Prop :=
  ∀ role' node, Stands role tree role' node → told role' node

section

variable {told : Role → Expr → Prop} {role : Role} {tree : Expr}

theorem throughout_of_parts (holds : told role tree) (each : ∀ part ∈ tree.parts, Throughout told part.1 part.2) :
    Throughout told role tree := by
  intro role' node stands
  cases stands with
  | root => exact holds
  | inside part stands => exact each _ part role' node stands

theorem into_inner_parts (tree : Expr) : tree.intoInner.parts = tree.parts := by
  cases tree <;> rfl

-- A condition is missing only together with its variable, and only from the quantifier `any`.
theorem quantified_parts {quantifier : Quantifier} {name : Option String} {body : Option Expr}
    (quantified : tree.quantified? = some (quantifier, name, body)) :
    (name.isSome ↔ body.isSome) ∧ (name = none → quantifier = .any) := by
  unfold quantified? at quantified
  split at quantified <;> cases quantified <;> simp

end

structure PathShaped (tree : Expr) : Prop where
  ends : ∀ role ≠ .source, Throughout Belongs role tree
  continues : Throughout Belongs .source tree.intoInner

theorem path_shaped {tree : Expr} (ends : ∀ role ≠ .source, tree.Belongs role) (continues : tree.intoInner.Belongs .source)
    (each : ∀ part ∈ tree.parts, Throughout Belongs part.1 part.2) : tree.PathShaped where
  ends role other := throughout_of_parts (ends role other) each
  continues := throughout_of_parts continues (by rwa [into_inner_parts])

end Expr

namespace Expression

open QueryOptions.Expr (Throughout Belongs Role throughout_of_parts path_shaped)

def PhraseShaped (lexemes : List Lexeme) : Phrase → Prop
  | .chain _ tree => Throughout Belongs .operand tree
  | .primary tree =>
      Throughout Belongs .operand tree ∧
        ((∀ first ∈ lexemes.head?, first.kind ≠ .openParen) → Throughout Belongs .candidates tree)
  | .candidates tree => Throughout Belongs .candidates tree
  | .items trees => trees ≠ [] ∧ ∀ tree ∈ trees, Throughout Belongs .operand tree
  | .arguments trees => ∀ tree ∈ trees, Throughout Belongs .operand tree
  | .path tree => tree.PathShaped
  | .segment parent tree => (∀ source ∈ parent, Throughout Belongs .source source) → tree.PathShaped

variable {settings : Settings} {scope : List String} {lexemes : List Lexeme} {phrase : Phrase}

theorem derives_shaped (derives : Derives settings scope phrase lexemes) : PhraseShaped lexemes phrase := by
  have leaf {role : Role} {tree : Expr} (fits : tree.Belongs role) (bare : tree.parts = []) : Throughout Belongs role tree :=
    throughout_of_parts fits (by rw [bare]; exact List.forall_mem_nil _)
  have above {parent : Option Expr} (shaped : ∀ source ∈ parent, Throughout Belongs .source source) :
      ∀ part ∈ parent.toList.map fun source => (Role.source, source), Throughout Belongs part.1 part.2 :=
    List.forall_mem_map.mpr fun source listed => shaped source (Option.mem_toList.mp listed)
  induction derives with
  | operand _ _ ih => exact ih.1
  | prefixed _ _ ih => exact throughout_of_parts rfl (List.forall_mem_singleton.mpr ih)
  | tighter _ _ ih => exact ih
  | link _ _ _ left right | membership _ _ _ left right =>
      exact throughout_of_parts rfl (List.forall_mem_cons.mpr ⟨left, List.forall_mem_singleton.mpr right⟩)
  | literal literal => exact ⟨leaf ⟨by decide, literal⟩ rfl, fun _ => leaf ⟨by decide, literal⟩ rfl⟩
  | parameter =>
      have apart (role : Role) (other : role ≠ .source) {text : String} : (Expr.parameterAlias text).Belongs role := other
      exact ⟨leaf (apart .operand (by decide)) rfl, fun _ => leaf (apart .candidates (by decide)) rfl⟩
  | group opens _ _ ih => exact ⟨ih, fun bare => absurd opens (bare _ rfl)⟩
  | path _ _ ih => exact ⟨ih.ends .operand (by decide), fun _ => ih.ends .candidates (by decide)⟩
  | single bare _ ih => exact ih.2 bare
  | list _ _ _ ih => exact throughout_of_parts ⟨rfl, ih.1⟩ (List.forall_mem_map.mpr ih.2)
  | last _ ih => exact ⟨List.cons_ne_nil _ _, List.forall_mem_singleton.mpr ih⟩
  | further _ _ _ item others => exact ⟨List.cons_ne_nil _ _, List.forall_mem_cons.mpr ⟨item, others.2⟩⟩
  | none => exact List.forall_mem_nil _
  | some _ _ _ ih => exact ih.2
  | declared => exact fun _ => path_shaped (fun _ _ => trivial) trivial (List.forall_mem_nil _)
  | property => exact fun shaped => path_shaped (fun _ other => other) rfl (above shaped)
  | @call _ parent name trees _ _ _ plain _ ih =>
      intro shaped
      have fits (role : Role) : (Expr.call name trees parent).Belongs role := by
        intro given
        rcases plain with none | plain
        · rw [none] at given
          cases given
        · exact ⟨fun same => absurd plain (same ▸ by decide), fun same => absurd plain (same ▸ by decide)⟩
      exact path_shaped (fun role _ => fits role) (fits .source)
        (List.forall_mem_append.mpr ⟨above shaped, List.forall_mem_map.mpr ih⟩)
  | nonempty =>
      exact fun shaped => path_shaped (fun _ _ => trivial) trivial (List.forall_mem_singleton.mpr (shaped _ rfl))
  | lambda _ _ _ _ _ _ _ _ ih =>
      intro shaped
      exact path_shaped (fun _ _ => trivial) trivial
        (List.forall_mem_cons.mpr ⟨shaped _ rfl, List.forall_mem_singleton.mpr ih⟩)
  | root _ ih => exact ih fun source none => by cases none
  | step _ _ _ before ih =>
      refine ih fun source same => ?_
      cases same
      exact before.continues

end Expression

theorem Expr.derived_shaped {settings : Settings} {scope : List String} {tree : Expr}
    (derived : tree.Derived settings scope) : tree.Throughout Belongs .operand := by
  rcases derived with ⟨_, -, derives⟩ | ⟨_, -, -, derives⟩
  · exact Expression.derives_shaped derives
  · exact (Expression.derives_shaped derives).ends .operand (by decide)

theorem Search.tree_shaped (tree : Search.Tree) : tree.expr.Throughout (fun _ node => node.InSearch) .operand := by
  induction tree with
  | term text => exact Expr.throughout_of_parts trivial (List.forall_mem_nil _)
  | not operand ih => exact Expr.throughout_of_parts trivial (List.forall_mem_singleton.mpr ih)
  | and left right ihLeft ihRight | or left right ihLeft ihRight =>
      exact Expr.throughout_of_parts trivial (List.forall_mem_cons.mpr ⟨ihLeft, List.forall_mem_singleton.mpr ihRight⟩)

theorem Aggregate.virtual_counts {settings : Settings} {scope : List String} {aggregate : Aggregate}
    (formed : aggregate.Formed settings scope) (counts : aggregate.method = .virtualCount) :
    aggregate.expression = .endPath "$count" none := by
  have method := formed.method
  rw [counts] at method
  generalize same : AggregationMethod.virtualCount = method' at method
  cases method with
  | named =>
      unfold AggregationMethod.ofName at same
      repeat' split at same
      all_goals cases same
  | virtualCount virtual =>
      unfold Apply.isVirtualCount at virtual
      split at virtual
      · rename_i named
        rw [named, eq_of_beq virtual]
      · cases virtual

structure ParsedOption.Shaped (parsed : ParsedOption) : Prop where
  nodes : ∀ tree ∈ parsed.expressions, ∀ role node, Expr.Stands .operand tree role node → node.Belongs role
  quantifiers : ∀ tree ∈ parsed.expressions, ∀ role node, Expr.Stands .operand tree role node →
    ∀ quantifier name body, node.quantified? = some (quantifier, name, body) →
      (name.isSome ↔ body.isSome) ∧ (name = none → quantifier = .any)
  searches : ∀ tree ∈ parsed.searches, ∀ role node, Expr.Stands .operand tree role node → node.InSearch
  aggregates : ∀ aggregate ∈ parsed.aggregates,
    aggregate.method = .virtualCount → aggregate.expression = .endPath "$count" none

-- Whatever is accepted has this shape, in its lists and pipelines to any depth.
theorem parse_shaped {settings : Settings} {option : QueryOption} {text : String} {parsed : ParsedOption}
    (accepted : parse settings option text = .ok parsed) : parsed.Shaped where
  nodes tree listed := Expr.derived_shaped (parsed.expressions_derived (parse_formed accepted) tree listed)
  quantifiers _ _ _ _ _ _ _ _ := Expr.quantified_parts
  searches tree listed := by
    obtain ⟨search, rfl⟩ := parsed.searches_formed (parse_formed accepted) tree listed
    exact Search.tree_shaped search
  aggregates aggregate listed := Aggregate.virtual_counts (parsed.aggregates_formed (parse_formed accepted) aggregate listed)

def ParsedOption.grouped : ParsedOption :=
  .apply [.groupBy [.endPath "b" (some (.innerPath "a" none))]
    [.aggregate [⟨.endPath "$count" none, .virtualCount, "n"⟩, ⟨.call "f" [.endPath "x" none] none, .sum, "t"⟩],
      .filter (.binary .or
        (.lambda .any (.innerPath "a" none) "y"
          (.membership (.rangeVariable "y") (.collection [.literal .integerLiteral "1", .endPath "c" none])))
        (.nonempty (.innerPath "b" none)))]]

theorem grouped_shaped :
    parse {} .apply "groupby((a/b),aggregate($count as n,f(x) with sum as t)/filter(a/any(y:y in (1,c)) or b/any()))" =
        .ok .grouped ∧
      ParsedOption.grouped.Shaped := by
  have accepted : parse {} .apply
      "groupby((a/b),aggregate($count as n,f(x) with sum as t)/filter(a/any(y:y in (1,c)) or b/any()))" =
        .ok .grouped := by decide +kernel
  exact ⟨accepted, parse_shaped accepted⟩

end QueryOptions
