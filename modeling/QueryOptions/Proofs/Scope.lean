import QueryOptions.Proofs.Derivation.Spelling

set_option autoImplicit false

namespace QueryOptions

namespace Expr

-- The parts of a tree, each with the variables declared for it. A lambda declares its
-- variable in its condition and not in its collection.
def children (scope : List String) : Expr → List (List String × Expr)
  | .endPath _ parent | .innerPath _ parent => parent.toList.map (scope, ·)
  | .binary _ left right | .membership left right => [(scope, left), (scope, right)]
  | .unary _ operand => [(scope, operand)]
  | .collection items => items.map (scope, ·)
  | .call _ arguments source => (arguments ++ source.toList).map (scope, ·)
  | .lambda _ parent name body => [(scope, parent), (name :: scope, body)]
  | .nonempty parent => [(scope, parent)]
  | .literal _ _ | .term _ | .rangeVariable _ | .parameterAlias _ => []

-- A node of a tree, with the variables that are declared where it stands.
inductive Occurs : List String → Expr → List String → Expr → Prop where
  | root (scope : List String) (tree : Expr) : Occurs scope tree scope tree
  | inside {scope scope' scope'' : List String} {tree child node : Expr} (part : (scope', child) ∈ tree.children scope)
      (occurs : Occurs scope' child scope'' node) : Occurs scope tree scope'' node

-- Among these variables the node has the right kind.
def Resolved (scope : List String) : Expr → Prop
  | .rangeVariable name => name ∈ scope
  | .endPath name none | .innerPath name none => name ∉ scope
  | .lambda _ _ name _ => name ∉ scope
  | _ => True

def Scoped (scope : List String) (tree : Expr) : Prop :=
  ∀ scope' node, Occurs scope tree scope' node → node.Resolved scope'

theorem scoped_of_parts {scope : List String} {tree : Expr} (resolved : tree.Resolved scope)
    (parts : ∀ part ∈ tree.children scope, part.2.Scoped part.1) : tree.Scoped scope := by
  intro scope' node occurs
  cases occurs with
  | root => exact resolved
  | inside part occurs => exact parts _ part scope' node occurs

theorem scoped_parts {scope : List String} {tree : Expr} (whole : tree.Scoped scope) :
    ∀ part ∈ tree.children scope, part.2.Scoped part.1 :=
  fun _ member scope' node occurs => whole scope' node (.inside member occurs)

theorem into_inner_scoped {scope : List String} {tree : Expr} (whole : tree.Scoped scope) :
    tree.intoInner.Scoped scope := by
  cases tree with
  | endPath name parent =>
      have parts := scoped_parts whole
      refine scoped_of_parts ?_ parts
      have resolved := whole _ _ (.root _ _)
      cases parent with
      | none => exact resolved
      | some parent => trivial
  | _ => exact whole

end Expr

namespace Expression

def Phrase.Scoped (scope : List String) : Phrase → Prop
  | .chain _ tree | .primary tree | .candidates tree | .path tree => tree.Scoped scope
  | .items trees | .arguments trees => ∀ tree ∈ trees, tree.Scoped scope
  | .segment parent tree => (∀ source ∈ parent, source.Scoped scope) → tree.Scoped scope

theorem derives_scoped {settings : Settings} {scope : List String} {phrase : Phrase} {lexemes : List Lexeme}
    (derives : Derives settings scope phrase lexemes) : phrase.Scoped scope := by
  induction derives with
  | operand _ _ ih | tighter _ _ ih | path _ _ ih | single _ _ ih | group _ _ _ ih | some _ _ _ ih => exact ih
  | prefixed _ _ ih => exact Expr.scoped_of_parts trivial (by simpa [Expr.children] using show Expr.Scoped _ _ from ih)
  | link _ _ _ left right | membership _ _ _ left right =>
      have operands : Expr.Scoped _ _ ∧ Expr.Scoped _ _ := ⟨left, right⟩
      exact Expr.scoped_of_parts trivial (by simpa [Expr.children] using operands)
  | literal | parameter => exact Expr.scoped_of_parts trivial (by simp [Expr.children])
  | list _ _ _ ih =>
      refine Expr.scoped_of_parts trivial fun part member => ?_
      obtain ⟨tree, listed, rfl⟩ := List.mem_map.mp member
      exact ih tree listed
  | last _ ih => exact List.forall_mem_singleton.mpr ih
  | further _ _ _ ih others => exact List.forall_mem_cons.mpr ⟨ih, others⟩
  | none => exact List.forall_mem_nil _
  | declared _ known => exact fun _ => Expr.scoped_of_parts known (by simp [Expr.children])
  | @property scope parent name _ _ free =>
      intro above
      cases parent with
      | none => exact Expr.scoped_of_parts (free rfl) (by simp [Expr.children])
      | some source => exact Expr.scoped_of_parts trivial (by simpa [Expr.children] using above)
  | @call scope parent _ trees _ _ _ _ _ ih =>
      intro above
      refine Expr.scoped_of_parts trivial fun part member => ?_
      obtain ⟨tree, listed, rfl⟩ := List.mem_map.mp member
      rcases List.mem_append.mp listed with argument | source
      · exact ih tree argument
      · exact above tree (Option.mem_toList.mp source)
  | nonempty => exact fun above => Expr.scoped_of_parts trivial (by simpa [Expr.children] using above)
  | lambda _ _ _ _ _ fresh _ _ ih =>
      intro above
      have source := above _ rfl
      have parts : Expr.Scoped _ _ ∧ Expr.Scoped _ _ := ⟨source, ih⟩
      exact Expr.scoped_of_parts fresh (by simpa [Expr.children] using parts)
  | root _ ih => exact ih fun source none => by cases none
  | step _ _ _ before ih =>
      refine ih fun source same => ?_
      cases same
      exact Expr.into_inner_scoped before

end Expression

namespace Context

-- Whatever variables a context declares, in the tree of an accepted filter every range
-- variable is declared where it stands, no first segment of a path is, and no lambda
-- declares what is declared around it.
theorem filter_scoped {context : Context} {text : String} {tree : Expr}
    (parsed : (run (parse .filter text) context).1 = .ok (.filter tree)) :
    ∀ scope node, tree.Occurs context.scope scope node → node.Resolved scope := by
  obtain ⟨lexemes, -, derives⟩ := filter_derives parsed
  exact Expression.derives_scoped derives

def nestedLambdas : Expr :=
  .lambda .any (.innerPath "a" none) "x"
    (.lambda .all (.innerPath "x" (some (.rangeVariable "x"))) "y"
      (.binary .equal (.rangeVariable "p") (.endPath "x" (some (.rangeVariable "y")))))

theorem nested_lambdas_scoped :
    (run (parse .filter "a/any(x:x/x/all(y:p eq y/x)) or x") ⟨{}, 0, ["p", "$it"]⟩).1 =
        .ok (.filter (.binary .or nestedLambdas (.endPath "x" none))) ∧
      ∀ scope node, Expr.Occurs ["p", "$it"] (.binary .or nestedLambdas (.endPath "x" none)) scope node →
        node.Resolved scope := by
  have parsed := filter_tree (show filterTree? (run (parse .filter "a/any(x:x/x/all(y:p eq y/x)) or x")
      ⟨{}, 0, ["p", "$it"]⟩).1 = some (.binary .or nestedLambdas (.endPath "x" none)) by decide +kernel)
  exact ⟨parsed, filter_scoped parsed⟩

end Context

end QueryOptions
