import Mathlib.Tactic.Choose
import QueryOptions.Proofs.Derivation.Written

set_option autoImplicit false

namespace QueryOptions

def Expr.isOperation : Expr → Bool
  | .binary _ _ _ | .unary _ _ | .membership _ _ => true
  | _ => false

inductive IsOperand : String → Prop where
  | plain {text : String} {tree : Expr} (accepted : Accepted text tree) (simple : tree.isOperation = false) :
      IsOperand text
  | group {text : String} {tree : Expr} (accepted : Accepted text tree) : IsOperand ("(" ++ text ++ ")")
  | not {text : String} (operand : IsOperand text) : IsOperand ("not " ++ text)
  | minus {text : String} (operand : IsOperand text) : IsOperand ("- " ++ text)

structure Operand where
  text : String
  tree : Expr
  form : IsOperand text
  accepted : Accepted text tree

structure Link where
  level : Nat
  word : String
  operator : BinaryOperator
  keyword : (word, operator) ∈ Expression.operatorsAt level
  operand : Operand

namespace Link

def line : List Link → String
  | [] => ""
  | link :: links => " " ++ link.word ++ " " ++ link.operand.text ++ line links

-- The links before and behind the rightmost one that binds loosest.
def cut? : List Link → Option (List Link × Link × List Link)
  | [] => none
  | link :: links =>
      match cut? links with
      | none => some ([], link, [])
      | some (before, lowest, after) =>
          if lowest.level ≤ link.level then some (link :: before, lowest, after) else some ([], link, links)

variable {links before after : List Link} {link lowest : Link}

theorem cut_none (none : cut? links = none) : links = [] := by
  cases links with
  | nil => rfl
  | cons link links =>
      unfold cut? at none
      split at none
      · cases none
      · split at none <;> cases none

theorem cut_some (found : cut? links = some (before, lowest, after)) :
    links = before ++ lowest :: after ∧ (∀ link ∈ before, lowest.level ≤ link.level) ∧
      ∀ link ∈ after, lowest.level < link.level := by
  induction links generalizing before lowest after with
  | nil => cases found
  | cons link links ih =>
      unfold cut? at found
      split at found
      · rename_i none
        cases found
        rw [cut_none none]
        exact ⟨rfl, List.forall_mem_nil _, List.forall_mem_nil _⟩
      · rename_i before' lowest' after' found'
        obtain ⟨rfl, loose, tight⟩ := ih found'
        split at found
        · rename_i le
          cases found
          exact ⟨rfl, List.forall_mem_cons.mpr ⟨le, loose⟩, tight⟩
        · rename_i more
          cases found
          refine ⟨rfl, List.forall_mem_nil _, List.forall_mem_append.mpr ⟨fun other member => ?_, ?_⟩⟩
          · exact Nat.lt_of_lt_of_le (Nat.not_le.mp more) (loose other member)
          · refine List.forall_mem_cons.mpr ⟨Nat.not_le.mp more, fun other member => ?_⟩
            exact Nat.lt_trans (Nat.not_le.mp more) (tight other member)

theorem cut_length (found : cut? links = some (before, lowest, after)) :
    before.length < links.length ∧ after.length < links.length := by
  obtain ⟨rfl, -, -⟩ := cut_some found
  simp only [List.length_append, List.length_cons]
  omega

def tree (first : Operand) (links : List Link) : Expr :=
  match _found : cut? links with
  | none => first.tree
  | some (before, lowest, after) => .binary lowest.operator (tree first before) (tree lowest.operand after)
termination_by links.length
decreasing_by
  · exact (cut_length _found).1
  · exact (cut_length _found).2

theorem tree_alone (first : Operand) : tree first [] = first.tree := by
  rw [tree]
  rfl

theorem tree_cut (first : Operand) (found : cut? links = some (before, lowest, after)) :
    tree first links = .binary lowest.operator (tree first before) (tree lowest.operand after) := by
  rw [tree]
  split
  · rename_i none
    rw [none] at found
    cases found
  · rename_i same
    cases same.symm.trans found
    rfl

end Link

namespace Expression

variable {settings : Settings} {scope : List String} {lexemes : List Lexeme}

theorem chain_operand {phrase : Phrase} (derives : Derives settings scope phrase lexemes) :
    ∀ level tree, phrase = .chain level tree → tree.isOperation = false →
      Derives settings scope (.chain 5 tree) lexemes := by
  induction derives with
  | operand bare primary =>
      rintro _ _ ⟨⟩ -
      exact .operand bare primary
  | tighter _ _ ih =>
      rintro _ _ ⟨⟩ simple
      exact ih _ _ rfl simple
  | prefixed | link | membership => rintro _ _ ⟨⟩ ⟨⟩
  | _ => rintro _ _ ⟨⟩

end Expression

open Expression

theorem operand_derives {text : String} (operand : IsOperand text) :
    ∃ tree lexemes, Spelled .expression text.toList lexemes ∧ Derives {} Context.standing (.chain 5 tree) lexemes := by
  induction operand with
  | @plain text tree accepted simple =>
      obtain ⟨lexemes, spelled, derives⟩ := accepted_derives accepted
      exact ⟨tree, lexemes, spelled, chain_operand derives 0 tree rfl simple⟩
  | @group text tree accepted =>
      obtain ⟨lexemes, spelled, derives⟩ := accepted_derives accepted
      have written := written_group (written_spelled spelled (derives_aliased derives))
      refine ⟨tree, _, ?_, group_operand derives⟩
      have whole : ("(" ++ text ++ ")").toList = '(' :: (text.toList ++ [')']) := by simp
      rw [whole]
      exact spelled_written written trivial
  | @not text _ ih =>
      obtain ⟨tree, lexemes, spelled, derives⟩ := ih
      refine ⟨.unary .not tree, ⟨.identifier, "not"⟩ :: lexemes, ?_, .prefixed rfl derives⟩
      have whole : ("not " ++ text).toList = "not".toList ++ [' '] ++ text.toList := by simp
      rw [whole]
      exact written_word_blank (show isPlainWord "not" by decide) _ _ trivial spelled
  | @minus text _ ih =>
      obtain ⟨tree, lexemes, spelled, derives⟩ := ih
      refine ⟨.unary .negate tree, ⟨.minus, "-"⟩ :: lexemes, ?_, .prefixed rfl derives⟩
      have whole : ("- " ++ text).toList = ['-', ' '] ++ text.toList := by simp
      rw [whole]
      exact written_minus _ _ trivial spelled

namespace Operand

theorem derives (operand : Operand) :
    ∃ lexemes, Spelled .expression operand.text.toList lexemes ∧
      Derives {} Context.standing (.chain 5 operand.tree) lexemes := by
  obtain ⟨tree, lexemes, spelled, derives⟩ := operand_derives operand.form
  have same := accepted_unique operand.accepted spelled (chain_loosen (Nat.zero_le 5) (Nat.le_refl 5) derives)
  exact ⟨lexemes, spelled, same ▸ derives⟩

end Operand

namespace Link

variable {own : Operand → List Lexeme} {level : Nat}

def lexemes (own : Operand → List Lexeme) (links : List Link) : List Lexeme :=
  links.flatMap fun link => ⟨.identifier, link.word⟩ :: own link.operand

theorem line_delimited (links : List Link) {tail : List Char} (delimited : Delimited tail) :
    Delimited ((line links).toList ++ tail) := by
  cases links with
  | nil => simpa [line] using delimited
  | cons link links =>
      have blank : (line (link :: links)).toList = ' ' :: (link.word ++ " " ++ link.operand.text ++ line links).toList := by
        simp [line]
      rw [blank]
      exact delimited_mark (by decide) _

theorem line_written (spelled : ∀ operand : Operand, Written Delimited operand.text.toList (own operand))
    (links : List Link) :
    Written Delimited (line links).toList (lexemes own links) := by
  induction links with
  | nil => exact written_weaken written_nil fun _ _ => trivial
  | cons link links ih =>
      have plain := keywords_plain link.level (level_of_listed link.keyword) _ link.keyword
      have operand := written_append (spelled link.operand) ih fun _ => line_delimited links
      have whole : (line (link :: links)).toList =
          ' ' :: (link.word.toList ++ ' ' :: (link.operand.text.toList ++ (line links).toList)) := by
        simp [line]
      rw [whole]
      exact written_operation plain operand

theorem tree_derives (derives : ∀ operand : Operand, Derives {} Context.standing (.chain 5 operand.tree) (own operand))
    (first : Operand) (links : List Link) (most : level ≤ 5) (tight : ∀ link ∈ links, level ≤ link.level) :
    Derives {} Context.standing (.chain level (tree first links)) (own first ++ lexemes own links) := by
  fun_induction tree first links generalizing level with
  | case1 first links none =>
      rw [cut_none none, show lexemes own [] = [] from rfl, List.append_nil]
      exact chain_loosen most (Nat.le_refl 5) (derives first)
  | case2 first links before lowest after found left right =>
      obtain ⟨rfl, loose, tighter⟩ := cut_some found
      have few := level_of_listed lowest.keyword
      have before_chain := left (Nat.le_of_lt few) loose
      have after_chain := right few tighter
      have whole := Derives.link before_chain (keyword_operator rfl rfl lowest.keyword) after_chain
      have parts : own first ++ lexemes own (before ++ lowest :: after) = (own first ++ lexemes own before) ++
          ⟨.identifier, lowest.word⟩ :: (own lowest.operand ++ lexemes own after) := by
        simp [lexemes]
      rw [parts]
      exact chain_loosen (tight lowest (by simp)) (Nat.le_of_lt few) whole

end Link

-- Operands and operators in a line make the tree that splitting at the rightmost loosest
-- operator gives.
theorem filter_line (first : Operand) (links : List Link) {limit : Nat}
    (enough : 8 * (Text.byteLength (first.text ++ Link.line links).toList + 1) ≤ limit) :
    parse { maxDepth := limit } .filter (first.text ++ Link.line links) = .ok (.filter (Link.tree first links)) := by
  choose own spelled derives using Operand.derives
  have written (operand : Operand) : Written Delimited operand.text.toList (own operand) :=
    written_spelled (spelled operand) (derives_aliased (derives operand))
  have whole : Written Delimited (first.text ++ Link.line links).toList (own first ++ Link.lexemes own links) := by
    rw [String.toList_append]
    exact written_append (written first) (Link.line_written written links) fun _ => Link.line_delimited links
  exact parse_of_derives (spelled_written whole delimited_nil)
    (Link.tree_derives derives first links (Nat.zero_le 5) fun _ _ => Nat.zero_le _) enough

namespace Operand

def ofPlain (text : String) (tree : Expr) (accepted : Accepted text tree) (simple : tree.isOperation = false) : Operand where
  text := text
  tree := tree
  form := .plain accepted simple
  accepted := accepted

def name : Operand :=
  ofPlain "eq" (.endPath "eq" none) (accepted_within (show filterTree? (parse { maxDepth := 64 } .filter "eq") =
    some (.endPath "eq" none) by decide +kernel)) rfl

def number : Operand :=
  ofPlain "2" (.literal .integerLiteral "2") (accepted_within (show filterTree? (parse { maxDepth := 64 } .filter "2") =
    some (.literal .integerLiteral "2") by decide +kernel)) rfl

def conjunction : Expr := .binary .and (.endPath "a" none) (.endPath "b" none)

def negated : Operand where
  text := "- (a and b)"
  tree := .unary .negate conjunction
  form := .minus (.group (accepted_within (show filterTree? (parse { maxDepth := 64 } .filter "a and b") =
    some conjunction by decide +kernel)))
  accepted := accepted_within (show filterTree? (parse { maxDepth := 64 } .filter "- (a and b)") =
    some (.unary .negate conjunction) by decide +kernel)

end Operand

namespace Link

def equality : Link := ⟨2, "eq", .equal, by decide, .name⟩

def alternative : Link := ⟨0, "or", .or, by decide, .negated⟩

def sum : Link := ⟨3, "add", .add, by decide, .number⟩

def product : Link := ⟨4, "mul", .multiply, by decide, .number⟩

def difference : Link := ⟨3, "sub", .subtract, by decide, .number⟩

def mixed : List Link := [equality, alternative, sum, product, difference]

def mixedTree : Expr :=
  .binary .or (.binary .equal (.endPath "eq" none) (.endPath "eq" none))
    (.binary .subtract
      (.binary .add (.unary .negate Operand.conjunction)
        (.binary .multiply (.literal .integerLiteral "2") (.literal .integerLiteral "2")))
      (.literal .integerLiteral "2"))

theorem mixed_tree : tree .name mixed = mixedTree := by
  have whole : cut? mixed = some ([equality], alternative, [sum, product, difference]) := rfl
  have equalities : cut? [equality] = some ([], equality, []) := rfl
  have sums : cut? [sum, product, difference] = some ([sum, product], difference, []) := rfl
  have front : cut? [sum, product] = some ([], sum, [product]) := rfl
  have products : cut? [product] = some ([], product, []) := rfl
  rw [tree_cut _ whole, tree_cut _ equalities, tree_cut _ sums, tree_cut _ front, tree_cut _ products]
  simp only [tree_alone]
  rfl

theorem mixed_line :
    8 * (Text.byteLength (Operand.name.text ++ line mixed).toList + 1) ≤ 512 ∧
      parse { maxDepth := 512 } .filter "eq eq eq or - (a and b) add 2 mul 2 sub 2" = .ok (.filter mixedTree) := by
  have enough : 8 * (Text.byteLength (Operand.name.text ++ line mixed).toList + 1) ≤ 512 := by decide +kernel
  have text : Operand.name.text ++ line mixed = "eq eq eq or - (a and b) add 2 mul 2 sub 2" := by decide +kernel
  have parsed := filter_line .name mixed enough
  rw [text, mixed_tree] at parsed
  exact ⟨enough, parsed⟩

end Link

end QueryOptions
