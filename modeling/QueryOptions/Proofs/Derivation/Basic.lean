import Mathlib.Data.List.Basic
import QueryOptions.Expr.Grammar

/-!
Derivations of expressions: which lexemes make up which tree. They know nothing of cursors, levels and
looks ahead, and in them a chain is built from the left, one link after the other.
-/

set_option autoImplicit false

namespace QueryOptions

structure Lexeme where
  kind : TokenKind
  text : String
deriving DecidableEq

def Token.lexeme (token : Token) : Lexeme := ⟨token.kind, token.text⟩

namespace Lexeme

def isKeyword (settings : Settings) (keyword : String) (lexeme : Lexeme) : Bool :=
  lexeme.kind == .identifier && settings.matchesKeyword lexeme.text keyword

def isName (lexeme : Lexeme) : Bool := Cursor.isName ⟨lexeme.kind, lexeme.text, 0⟩

end Lexeme

namespace Expression

-- The levels of binding, from the loosest: disjunctions, conjunctions, comparisons, sums,
-- products and, fifth, the prefixes of an operand.
def operatorAt (settings : Settings) (level : Nat) (lexeme : Lexeme) : Option BinaryOperator :=
  match level with
  | 0 => if lexeme.isKeyword settings "or" then some .or else none
  | 1 => if lexeme.isKeyword settings "and" then some .and else none
  | 2 =>
      if lexeme.kind = .identifier then
        (BinaryOperator.ofKeyword? BinaryOperator.comparisons settings.ignoreCase lexeme.text).or
          (BinaryOperator.ofCustom? settings lexeme.text)
      else none
  | 3 =>
      if lexeme.kind = .identifier then
        BinaryOperator.ofKeyword? BinaryOperator.additions settings.ignoreCase lexeme.text
      else none
  | 4 =>
      if lexeme.kind = .identifier then
        BinaryOperator.ofKeyword? BinaryOperator.multiplications settings.ignoreCase lexeme.text
      else none
  | _ => none

def isMembership (settings : Settings) (level : Nat) (lexeme : Lexeme) : Bool :=
  level == 2 && lexeme.isKeyword settings "in"

def prefixAt (settings : Settings) (lexeme : Lexeme) : Option UnaryOperator :=
  if lexeme.kind == .minus then some .negate
  else if lexeme.isKeyword settings "not" then some .not
  else none

section Words

variable {settings : Settings} {level : Nat}

theorem keyword_word {keyword : String} {lexeme : Lexeme} (spelled : lexeme.isKeyword settings keyword) :
    lexeme.kind = .identifier := eq_of_beq (Bool.and_eq_true_iff.mp spelled).1

theorem operator_at_other {lexeme : Lexeme} (other : lexeme.kind ≠ .identifier) :
    operatorAt settings level lexeme = none := by
  unfold operatorAt
  split <;> simp [Lexeme.isKeyword, other]

theorem operator_word {lexeme : Lexeme} {operator : BinaryOperator}
    (spelled : operatorAt settings level lexeme = some operator) : lexeme.kind = .identifier := by
  by_cases word : lexeme.kind = .identifier
  · exact word
  · rw [operator_at_other word] at spelled
    cases spelled

theorem membership_word {lexeme : Lexeme} (spelled : isMembership settings level lexeme) :
    lexeme.kind = .identifier := keyword_word (Bool.and_eq_true_iff.mp spelled).2

theorem membership_level {lexeme : Lexeme} (spelled : isMembership settings level lexeme) : level = 2 :=
  eq_of_beq (Bool.and_eq_true_iff.mp spelled).1

end Words

inductive Name : List Lexeme → String → Prop where
  | single {first : Lexeme} (named : first.isName) : Name [first] first.text
  | dotted {front : List Lexeme} {name : String} {dot last : Lexeme} (before : Name front name)
      (dots : dot.kind = .dot) (named : last.isName) : Name (front ++ [dot, last]) (name ++ "." ++ last.text)

inductive Starred (acceptStar : Bool) : List Lexeme → String → Prop where
  | name {lexemes : List Lexeme} {name : String} (spelled : Name lexemes name) : Starred acceptStar lexemes name
  | star {star : Lexeme} (stars : star.kind = .star) (accepted : acceptStar) : Starred acceptStar [star] "*"
  | wildcard {front : List Lexeme} {name : String} {dot star : Lexeme} (before : Name front name)
      (dots : dot.kind = .dot) (stars : star.kind = .star) (accepted : acceptStar) :
      Starred acceptStar (front ++ [dot, star]) (name ++ ".*")

theorem name_of_starred {lexemes : List Lexeme} {name : String} (starred : Starred false lexemes name) :
    Name lexemes name := by
  cases starred with
  | name spelled => exact spelled
  | star _ accepted | wildcard _ _ _ accepted => cases accepted

-- What a rule of the grammar reads.
inductive Phrase where
  | chain (level : Nat) (tree : Expr)
  | primary (tree : Expr)
  | candidates (tree : Expr)
  | items (trees : List Expr)
  | arguments (trees : List Expr)
  | path (tree : Expr)
  | segment (parent : Option Expr) (tree : Expr)

-- The lexemes of a phrase where these variables are in scope.
inductive Derives (settings : Settings) : List String → Phrase → List Lexeme → Prop where
  | operand {scope : List String} {tree : Expr} {lexemes : List Lexeme}
      (bare : ∀ first ∈ lexemes.head?, prefixAt settings first = none)
      (primary : Derives settings scope (.primary tree) lexemes) :
      Derives settings scope (.chain 5 tree) lexemes
  | prefixed {scope : List String} {tree : Expr} {lexemes : List Lexeme} {first : Lexeme} {operator : UnaryOperator}
      (spelled : prefixAt settings first = some operator) (others : Derives settings scope (.chain 5 tree) lexemes) :
      Derives settings scope (.chain 5 (.unary operator tree)) (first :: lexemes)
  | tighter {scope : List String} {level : Nat} {tree : Expr} {lexemes : List Lexeme} (loose : level < 5)
      (alone : Derives settings scope (.chain (level + 1) tree) lexemes) :
      Derives settings scope (.chain level tree) lexemes
  | link {scope : List String} {level : Nat} {left right : Expr} {front back : List Lexeme} {word : Lexeme}
      {operator : BinaryOperator} (before : Derives settings scope (.chain level left) front)
      (spelled : operatorAt settings level word = some operator)
      (operand : Derives settings scope (.chain (level + 1) right) back) :
      Derives settings scope (.chain level (.binary operator left right)) (front ++ word :: back)
  | membership {scope : List String} {left right : Expr} {front back : List Lexeme} {word : Lexeme}
      (before : Derives settings scope (.chain 2 left) front) (spelled : isMembership settings 2 word)
      (candidates : Derives settings scope (.candidates right) back) :
      Derives settings scope (.chain 2 (.membership left right)) (front ++ word :: back)
  | literal {scope : List String} {kind : TokenKind} {text : String} (literal : kind.isLiteral) :
      Derives settings scope (.primary (.literal kind text)) [⟨kind, text⟩]
  | parameter {scope : List String} {text : String} :
      Derives settings scope (.primary (.parameterAlias text)) [⟨.annotationIdentifier, text⟩]
  | group {scope : List String} {tree : Expr} {lexemes : List Lexeme} {opening closing : Lexeme}
      (opens : opening.kind = .openParen) (inner : Derives settings scope (.chain 0 tree) lexemes)
      (closes : closing.kind = .closeParen) :
      Derives settings scope (.primary tree) (opening :: (lexemes ++ [closing]))
  | path {scope : List String} {tree : Expr} {lexemes : List Lexeme}
      (named : ∀ first ∈ lexemes.head?, first.kind = .identifier)
      (path : Derives settings scope (.path tree) lexemes) : Derives settings scope (.primary tree) lexemes
  | single {scope : List String} {tree : Expr} {lexemes : List Lexeme}
      (bare : ∀ first ∈ lexemes.head?, first.kind ≠ .openParen)
      (primary : Derives settings scope (.primary tree) lexemes) :
      Derives settings scope (.candidates tree) lexemes
  | list {scope : List String} {trees : List Expr} {lexemes : List Lexeme} {opening closing : Lexeme}
      (opens : opening.kind = .openParen) (items : Derives settings scope (.items trees) lexemes)
      (closes : closing.kind = .closeParen) :
      Derives settings scope (.candidates (.collection trees)) (opening :: (lexemes ++ [closing]))
  | last {scope : List String} {tree : Expr} {lexemes : List Lexeme}
      (item : Derives settings scope (.chain 0 tree) lexemes) : Derives settings scope (.items [tree]) lexemes
  | further {scope : List String} {tree : Expr} {trees : List Expr} {front back : List Lexeme} {comma : Lexeme}
      (item : Derives settings scope (.chain 0 tree) front) (separates : comma.kind = .comma)
      (others : Derives settings scope (.items trees) back) :
      Derives settings scope (.items (tree :: trees)) (front ++ comma :: back)
  | none {scope : List String} {opening closing : Lexeme} (opens : opening.kind = .openParen)
      (closes : closing.kind = .closeParen) : Derives settings scope (.arguments []) [opening, closing]
  | some {scope : List String} {trees : List Expr} {lexemes : List Lexeme} {opening closing : Lexeme}
      (opens : opening.kind = .openParen) (items : Derives settings scope (.items trees) lexemes)
      (closes : closing.kind = .closeParen) :
      Derives settings scope (.arguments trees) (opening :: (lexemes ++ [closing]))
  | declared {scope : List String} {name : String} {lexemes : List Lexeme} (spelled : Name lexemes name)
      (known : name ∈ scope) : Derives settings scope (.segment none (.rangeVariable name)) lexemes
  | property {scope : List String} {parent : Option Expr} {name : String} {lexemes : List Lexeme}
      (spelled : Name lexemes name) (free : parent = none → name ∉ scope) :
      Derives settings scope (.segment parent (.endPath name parent)) lexemes
  | call {scope : List String} {parent : Option Expr} {name : String} {trees : List Expr} {front back : List Lexeme}
      (spelled : Name front name) (plain : parent = none ∨ Quantifier.ofName? name = none)
      (arguments : Derives settings scope (.arguments trees) back) :
      Derives settings scope (.segment parent (.call name trees parent)) (front ++ back)
  | nonempty {scope : List String} {parent : Expr} {name : String} {front : List Lexeme} {opening closing : Lexeme}
      (spelled : Name front name) (quantifies : Quantifier.ofName? name = some .any) (opens : opening.kind = .openParen)
      (closes : closing.kind = .closeParen) :
      Derives settings scope (.segment (some parent) (.nonempty parent)) (front ++ [opening, closing])
  | lambda {scope : List String} {parent body : Expr} {name : String} {quantifier : Quantifier}
      {front lexemes : List Lexeme} {opening word colon closing : Lexeme} (spelled : Name front name)
      (quantifies : Quantifier.ofName? name = some quantifier) (opens : opening.kind = .openParen)
      (named : word.kind = .identifier) (colons : colon.kind = .colon) (fresh : word.text ∉ scope)
      (condition : Derives settings (word.text :: scope) (.chain 0 body) lexemes)
      (closes : closing.kind = .closeParen) :
      Derives settings scope (.segment (some parent) (.lambda quantifier parent word.text body))
        (front ++ opening :: word :: colon :: (lexemes ++ [closing]))
  | root {scope : List String} {tree : Expr} {lexemes : List Lexeme}
      (segment : Derives settings scope (.segment none tree) lexemes) : Derives settings scope (.path tree) lexemes
  | step {scope : List String} {parent tree : Expr} {front back : List Lexeme} {slash : Lexeme}
      (before : Derives settings scope (.path parent) front) (slashes : slash.kind = .slash)
      (segment : Derives settings scope (.segment (some parent.intoInner) tree) back) :
      Derives settings scope (.path tree) (front ++ slash :: back)

theorem name_ne_nil {lexemes : List Lexeme} {name : String} (spelled : Name lexemes name) : lexemes ≠ [] := by
  cases spelled <;> simp

theorem derives_ne_nil {settings : Settings} {scope : List String} {phrase : Phrase} {lexemes : List Lexeme}
    (derives : Derives settings scope phrase lexemes) : lexemes ≠ [] := by
  induction derives with
  | operand _ _ ih | tighter _ _ ih | path _ _ ih | single _ _ ih | last _ ih | root _ ih => exact ih
  | declared spelled | property spelled => exact name_ne_nil spelled
  | call spelled => simp [name_ne_nil spelled]
  | _ => simp

theorem name_head {lexemes : List Lexeme} {name : String} (spelled : Name lexemes name) :
    ∀ first ∈ lexemes.head?, first.isName := by
  induction spelled with
  | single named =>
      intro first head
      rwa [← Option.some.inj head]
  | dotted before _ _ ih =>
      rwa [List.head?_append_of_ne_nil _ (name_ne_nil before)]

-- A phrase opens with something of its own, never with the end of another one. Only the
-- arguments of a call open with a parenthesis that can be closed at once.
theorem derives_head {settings : Settings} {scope : List String} {phrase : Phrase} {lexemes : List Lexeme}
    (derives : Derives settings scope phrase lexemes) : ∀ first ∈ lexemes.head?, first.kind ≠ .closeParen := by
  have name {front back : List Lexeme} {name : String} (spelled : Name front name) :
      ∀ first ∈ (front ++ back).head?, first.kind ≠ .closeParen := by
    intro first head closes
    rw [List.head?_append_of_ne_nil _ (name_ne_nil spelled)] at head
    have named := name_head spelled first head
    simp [Lexeme.isName, Cursor.isName, closes] at named
  have opened {opening : Lexeme} {back : List Lexeme} (opens : opening.kind = .openParen) :
      ∀ first ∈ (opening :: back).head?, first.kind ≠ .closeParen := by
    intro first head
    rw [← Option.some.inj head, opens]
    decide
  induction derives with
  | operand _ _ ih | tighter _ _ ih | path _ _ ih | single _ _ ih | last _ ih | root _ ih => exact ih
  | link before _ _ ih | membership before _ _ ih | further before _ _ ih | step before _ _ ih =>
      rwa [List.head?_append_of_ne_nil _ (derives_ne_nil before)]
  | prefixed spelled =>
      intro first head closes
      obtain rfl := Option.some.inj head
      simp [prefixAt, Lexeme.isKeyword, closes] at spelled
  | literal literal =>
      intro first head closes
      obtain rfl := Option.some.inj head
      obtain rfl : _ = TokenKind.closeParen := closes
      cases literal
  | parameter =>
      intro first head closes
      obtain rfl := Option.some.inj head
      cases closes
  | group opens | list opens | none opens | some opens => exact opened opens
  | declared spelled | property spelled =>
      have plain := @name _ [] _ spelled
      rwa [List.append_nil] at plain
  | call spelled | nonempty spelled | lambda spelled => exact name spelled

theorem name_aliased {lexemes : List Lexeme} {name : String} (spelled : Name lexemes name) :
    ∀ lexeme ∈ lexemes, lexeme.kind ≠ .atSign := by
  have word {lexeme : Lexeme} (named : lexeme.isName) : lexeme.kind ≠ .atSign := by
    intro sign
    simp [Lexeme.isName, Cursor.isName, sign] at named
  induction spelled with
  | single named => exact List.forall_mem_singleton.mpr (word named)
  | dotted _ dots named ih =>
      simp only [List.forall_mem_append, List.forall_mem_cons]
      exact ⟨ih, by rw [dots]; decide, word named, List.forall_mem_nil _⟩

theorem derives_aliased {settings : Settings} {scope : List String} {phrase : Phrase} {lexemes : List Lexeme}
    (derives : Derives settings scope phrase lexemes) : ∀ lexeme ∈ lexemes, lexeme.kind ≠ .atSign := by
  induction derives with
  | operand _ _ ih | tighter _ _ ih | path _ _ ih | single _ _ ih | last _ ih | root _ ih => exact ih
  | prefixed spelled _ ih =>
      refine List.forall_mem_cons.mpr ⟨fun sign => ?_, ih⟩
      simp [prefixAt, Lexeme.isKeyword, sign] at spelled
  | link _ spelled _ front back =>
      simp only [List.forall_mem_append, List.forall_mem_cons]
      exact ⟨front, by rw [operator_word spelled]; decide, back⟩
  | membership _ spelled _ front back =>
      simp only [List.forall_mem_append, List.forall_mem_cons]
      exact ⟨front, by rw [membership_word spelled]; decide, back⟩
  | literal literal =>
      refine List.forall_mem_singleton.mpr fun sign => ?_
      obtain rfl : _ = TokenKind.atSign := sign
      cases literal
  | parameter =>
      refine List.forall_mem_singleton.mpr fun sign => ?_
      cases sign
  | group opens _ closes ih | list opens _ closes ih | some opens _ closes ih =>
      simp only [List.forall_mem_cons, List.forall_mem_append]
      exact ⟨by rw [opens]; decide, ih, by rw [closes]; decide, List.forall_mem_nil _⟩
  | further _ separates _ front back =>
      simp only [List.forall_mem_cons, List.forall_mem_append]
      exact ⟨front, by rw [separates]; decide, back⟩
  | none opens closes =>
      simp only [List.forall_mem_cons]
      exact ⟨by rw [opens]; decide, by rw [closes]; decide, List.forall_mem_nil _⟩
  | declared spelled | property spelled => exact name_aliased spelled
  | call spelled _ _ ih => exact List.forall_mem_append.mpr ⟨name_aliased spelled, ih⟩
  | nonempty spelled _ opens closes =>
      simp only [List.forall_mem_append, List.forall_mem_cons]
      exact ⟨name_aliased spelled, by rw [opens]; decide, by rw [closes]; decide, List.forall_mem_nil _⟩
  | lambda spelled _ opens named colons _ _ closes ih =>
      simp only [List.forall_mem_append, List.forall_mem_cons]
      exact ⟨name_aliased spelled, by rw [opens]; decide, by rw [named]; decide, by rw [colons]; decide, ih,
        by rw [closes]; decide, List.forall_mem_nil _⟩
  | step _ slashes _ front back =>
      simp only [List.forall_mem_append, List.forall_mem_cons]
      exact ⟨front, by rw [slashes]; decide, back⟩

section Chains

variable {settings : Settings} {scope : List String} {tree : Expr} {lexemes : List Lexeme} {level level' : Nat}

theorem chain_loosen (le : level ≤ level') (most : level' ≤ 5)
    (derives : Derives settings scope (.chain level' tree) lexemes) :
    Derives settings scope (.chain level tree) lexemes := by
  induction le with
  | refl => exact derives
  | step le ih => exact ih (by omega) (.tighter (by omega) derives)

theorem group_operand (inner : Derives settings scope (.chain 0 tree) lexemes) :
    Derives settings scope (.chain 5 tree) (⟨.openParen, "("⟩ :: (lexemes ++ [⟨.closeParen, ")"⟩])) :=
  .operand (fun first head => by rw [← Option.some.inj head]; rfl) (.group rfl inner rfl)

end Chains

end Expression

end QueryOptions
