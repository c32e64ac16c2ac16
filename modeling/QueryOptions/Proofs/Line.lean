import QueryOptions.Proofs.Context
import QueryOptions.Proofs.Derivation.Spans
import QueryOptions.Proofs.Running
import QueryOptions.Proofs.Token.Words

set_option autoImplicit false

namespace QueryOptions

open Parse

def AtWords (words : List Word) (scope : List String) (cursor : Cursor) : Prop :=
  scope = Context.standing ∧ cursor.At words

abbrev Gives (settings : Settings) (part : Part) (levels : Nat) {α : Type} (p : Parse α) (words : List Word)
    (value : α) (others : List Word) : Prop :=
  Gets settings part levels p (AtWords words) value (AtWords others)

variable {settings : Settings} {part : Part} {levels : Nat} {words words' others : List Word} {α β : Type}

theorem at_words_advance {word : Word} {words : List Word} (scope : List String) (cursor : Cursor)
    (here : AtWords (word :: words) scope cursor) :
    ∃ moved, Cursor.advance cursor = .ok () moved ∧ AtWords words scope moved := by
  obtain ⟨standing, here⟩ := here
  obtain ⟨moved, advanced, there⟩ := Cursor.advance_at here
  exact ⟨moved, advanced, standing, there⟩

theorem gives_advance {word : Word} {f : Unit → Parse β} {value : β}
    (next : Gives settings part levels (f ()) words value others) :
    Gives settings part levels (advance >>= f) (word :: words) value others :=
  gets_advance at_words_advance next

theorem gives_current {f : Token → Parse β} {value : β}
    (next : ∀ position, Gives settings part levels (f (Word.first words position)) words value others) :
    Gives settings part levels (current >>= f) words value others := by
  refine gets_current fun scope cursor here => ?_
  obtain ⟨position, token⟩ := here.2.token
  rw [token]
  exact next position

abbrev Sees {α : Type} (look : Parse α) (words : List Word) (seen : α) : Prop := Finds look (AtWords words) seen

theorem sees_of_token {look : Parse α} {f : Token → α} {seen : α}
    (same : ∀ state, look state = .ok (f state.cursor.token) state)
    (sees : ∀ position, f (Word.first words position) = seen) : Sees look words seen := by
  refine finds_of_token same fun scope cursor here => ?_
  obtain ⟨position, token⟩ := here.2.token
  rw [token, sees]

theorem kind_sees {kind : TokenKind} {found : Bool}
    (sees : ∀ position, ((Word.first words position).kind == kind) = found) : Sees (atKind kind) words found :=
  sees_of_token (f := fun token => token.kind == kind) (fun _ => rfl) sees

namespace Expression

variable {operator? : Parse (Option BinaryOperator)} {operand : Parse Expr} {more : Expr → Parse Expr}
variable {left right value : Expr} {operator : BinaryOperator} {word : Word}

theorem link_skips (skips : Sees operator? words none) :
    Gives settings part levels (link settings operator? operand more left) words left words :=
  gets_look skips (gets_pure left)

theorem link_takes (finds : Sees operator? (word :: words) (some operator))
    (operands : Gives settings .rule levels operand words right words')
    (rest : Gives settings .links levels (more (.binary operator left right)) words' value others) :
    Gives settings .links (levels + 1) (link settings operator? operand more left) (word :: words) value others := by
  have linked : Gives settings .links (levels + 1) (do
      hold settings
      advance
      let right ← operand
      more (.binary operator left right)) (word :: words) value others :=
    gets_hold (gives_advance (gets_bind operands rest))
  exact gets_look finds linked

def limited (limit : Nat) : Settings := { maxDepth := limit }

def seeKeyword (keyword : String) (operator : BinaryOperator) (token : Token) : Option BinaryOperator :=
  if token.isKeyword false keyword then some operator else none

def seeOperator (table : List (String × BinaryOperator)) (token : Token) : Option BinaryOperator :=
  if token.kind = .identifier then BinaryOperator.ofKeyword? table false token.text else none

variable {limit : Nat} {seen : Option BinaryOperator}

theorem keyword_sees {keyword : String}
    (sees : ∀ position, seeKeyword keyword operator (Word.first words position) = seen) :
    Sees (keywordOf? (limited limit) keyword operator) words seen :=
  sees_of_token (fun _ => rfl) sees

theorem operator_sees {table : List (String × BinaryOperator)}
    (sees : ∀ position, seeOperator table (Word.first words position) = seen) :
    Sees (operatorOf? table (limited limit)) words seen := by
  refine sees_of_token (fun state => ?_) sees
  unfold seeOperator
  change (if state.cursor.token.kind = .identifier then _ else _ : Parse _) state = _
  split <;> rfl

theorem comparison_sees
    (sees : ∀ position, seeOperator BinaryOperator.comparisons (Word.first words position) = seen) :
    Sees (comparisonOf? (limited limit)) words seen := by
  refine sees_of_token (fun state => ?_) sees
  unfold seeOperator
  change (if state.cursor.token.kind = .identifier then _ else _ : Parse _) state = _
  split
  · change EStateM.Result.ok (Option.or _ none) state = _
    rw [Option.or_none]
    rfl
  · rfl

theorem in_sees {isIn : Bool} (sees : ∀ position, (Word.first words position).isKeyword false "in" = isIn) :
    Sees (atKeyword (limited limit).ignoreCase "in") words isIn :=
  sees_of_token (fun _ => rfl) sees

def seePrefix (token : Token) : Option UnaryOperator :=
  if token.kind == .minus then some .negate else if token.isKeyword false "not" then some .not else none

theorem prefix_sees {operator : Option UnaryOperator}
    (sees : ∀ position, seePrefix (Word.first words position) = operator) :
    Sees (prefixOf? (limited limit)) words operator := by
  refine sees_of_token (fun state => ?_) sees
  unfold seePrefix
  change (if state.cursor.token.kind == .minus then _ else (atKeyword false "not" >>= _) : Parse _) state = _
  split
  · rfl
  · change (if state.cursor.token.isKeyword false "not" then _ else _ : Parse _) state = _
    split <;> rfl

structure Loose (words : List Word) : Prop where
  noFactor : ∀ position, seeOperator BinaryOperator.multiplications (Word.first words position) = none
  noTerm : ∀ position, seeOperator BinaryOperator.additions (Word.first words position) = none
  noMembership : ∀ position, (Word.first words position).isKeyword false "in" = false
  noComparison : ∀ position, seeOperator BinaryOperator.comparisons (Word.first words position) = none

theorem loose_nil : Loose [] := ⟨fun _ => rfl, fun _ => rfl, fun _ => rfl, fun _ => rfl⟩

def multiplication : Word := .ofLetters 'm' ['u', 'l'] (fun _ => rfl) rfl (by decide)
def addition : Word := .ofLetters 'a' ['d', 'd'] (fun _ => rfl) rfl (by decide)
def equality : Word := .ofLetters 'e' ['q'] (fun _ => rfl) rfl (by decide)
def membership : Word := .ofLetters 'i' ['n'] (fun _ => rfl) rfl (by decide)
def both : Word := .ofLetters 'a' ['n', 'd'] (fun _ => rfl) rfl (by decide)
def either : Word := .ofLetters 'o' ['r'] (fun _ => rfl) rfl (by decide)

theorem loose_both (rest : List Word) : Loose (both :: rest) :=
  ⟨fun _ => rfl, fun _ => rfl, fun _ => rfl, fun _ => rfl⟩

theorem comparison_tail_skips (loose : Loose words) (left : Expr) :
    Gives (limited limit) .links levels (comparisonTail (limited limit) levels left) words left words := by
  have skips {membership operand : Parse Expr} {more : Expr → Parse Expr} :
      Gives (limited limit) .links levels (compareLink (limited limit) membership operand more left) words left words :=
    gets_look (in_sees loose.noMembership) (link_skips (comparison_sees loose.noComparison))
  cases levels with
  | zero => exact skips
  | succ levels =>
      cases levels with
      | zero => exact skips
      | succ levels => exact skips

section

variable (bare : ∀ position, seePrefix (Word.first words position) = none)
variable (reads : Gives (limited limit) .rule (levels + 1) (primary (limited limit) (levels + 1)) words value others)

include bare reads

theorem unary_of_operand :
    Gives (limited limit) .rule (levels + 2) (chain (limited limit) (prefixed (limited limit) (levels + 2))) words value
      others :=
  gets_chain (gets_look (prefix_sees bare) (gets_of_rule reads))

theorem product_of_operand
    (noFactor : ∀ position, seeOperator BinaryOperator.multiplications (Word.first others position) = none) :
    Gives (limited limit) .rule (levels + 3) (product (limited limit) (levels + 3)) words value others :=
  gets_chain_of (unary_of_operand bare reads) (link_skips (operator_sees noFactor))

theorem sum_of_operand
    (noFactor : ∀ position, seeOperator BinaryOperator.multiplications (Word.first others position) = none)
    (noTerm : ∀ position, seeOperator BinaryOperator.additions (Word.first others position) = none) :
    Gives (limited limit) .rule (levels + 4) (sum (limited limit) (levels + 4)) words value others :=
  gets_chain_of (product_of_operand bare reads noFactor) (link_skips (operator_sees noTerm))

theorem comparison_of_operand (loose : Loose others) :
    Gives (limited limit) .rule (levels + 5) (comparison (limited limit) (levels + 5)) words value others :=
  gets_chain_of (sum_of_operand bare reads loose.noFactor loose.noTerm) (comparison_tail_skips loose value)

end

theorem literal_gives {word : Word} (literal : word.kind.isLiteral) (rest : List Word) :
    Gives settings .rule (levels + 1) (primary settings (levels + 1)) (word :: rest)
      (.literal word.kind (String.ofList word.text)) rest := by
  have other : word.kind ≠ .openParen := by
    intro same
    rw [same] at literal
    cases literal
  refine gets_recurse (gives_current fun position => ?_)
  rw [if_neg (show (Word.first (word :: rest) position).kind ≠ .openParen from other),
    if_pos (show (Word.first (word :: rest) position).kind.isLiteral from literal)]
  exact gives_advance (gets_pure _)

theorem dotted_gives {word : Word} (identifier : word.kind = .identifier)
    (ends : ∀ position, (Word.first words position).kind ≠ .dot) :
    Gives settings .rule levels (dottedName false) (word :: words) (String.ofList word.text) words := by
  intro state here _
  obtain ⟨moved, advanced, standing, there⟩ := at_words_advance state.scope state.cursor here
  obtain ⟨position, token⟩ := here.2.token
  obtain ⟨place, next⟩ := there.token
  have named : (Token.lexeme state.cursor.token).isName := by
    rw [token, show Word.first (word :: words) position = ⟨word.kind, String.ofList word.text, position⟩ from rfl,
      identifier]
    rfl
  have single : state.cursor.Spans [state.cursor.token.lexeme] moved :=
    Cursor.spans_single (Cursor.name_going named) advanced
  have read : Cursor.dottedName false state.cursor = .ok state.cursor.token.lexeme.text moved :=
    Cursor.dotted_name_complete (.single named) single (by rw [next]; exact ends place)
  refine ⟨{ state with cursor := moved }, ?_, ⟨standing, there⟩, kept_cursor moved (kept_same _ _)⟩
  unfold Parse.dottedName move
  rw [read, token]
  rfl

theorem scope_sees (name : String) : Sees (inScope name) words (Context.standing.contains name) :=
  fun _ here => here.1 ▸ rfl

theorem name_gives {word : Word} {rest : List Word} (identifier : word.kind = .identifier)
    (free : Context.standing.contains (String.ofList word.text) = false)
    (ends : ∀ position, (Word.first rest position).kind ≠ .dot ∧
      ((Word.first rest position).kind == .openParen) = false ∧
      ((Word.first rest position).kind == .slash) = false) :
    Gives settings .rule (levels + 2) (primary settings (levels + 2)) (word :: rest)
      (.endPath (String.ofList word.text) none) rest := by
  have unbound : Sees (inScope (String.ofList word.text)) rest false := free ▸ scope_sees _
  have alone (inner : Parse Expr) : Gives settings .rule levels (segment settings inner none) (word :: rest)
      (.endPath (String.ofList word.text) none) rest :=
    gets_bind (dotted_gives identifier fun position => (ends position).1)
      (gets_look (kind_sees fun position => (ends position).2.1) (gets_look unbound (gets_pure _)))
  have single (inner : Parse Expr) (more : Expr → Parse Expr) :
      Gives settings .links levels (segments settings inner more none) (word :: rest)
        (.endPath (String.ofList word.text) none) rest :=
    gets_bind (alone inner) (gets_look (kind_sees fun position => (ends position).2.2) (gets_pure _))
  have path : Gives settings .rule (levels + 1) (path settings (levels + 1)) (word :: rest)
      (.endPath (String.ofList word.text) none) rest := by
    cases levels <;> exact gets_chain (single _ _)
  refine gets_recurse (gives_current fun position => ?_)
  have kind : (Word.first (word :: rest) position).kind = .identifier := identifier
  rw [kind]
  exact path

theorem whole_gives {tree : Expr} (gives : Gives settings .rule levels (disjunction settings levels) words tree []) :
    Gives settings .rule levels (whole settings levels) words tree [] :=
  gets_bind gives (gets_bind (gives_current fun _ => gets_pure ()) (gets_pure tree))

theorem filter_of_words {text : String} {tree : Expr}
    (written : text.toList.dropWhile Text.isBlank = (Word.line words).dropWhile Text.isBlank)
    (gives : Gives settings .rule settings.maxDepth (disjunction settings settings.maxDepth) words tree []) :
    parse settings .filter text = .ok (.filter tree) := by
  have starts : ∃ moved, Cursor.advance (.start text .expression 0 false) = .ok () moved ∧ moved.At words :=
    Cursor.advance_words rfl rfl written
  obtain ⟨moved, advanced, there⟩ := starts
  obtain ⟨after, ran, -, -⟩ := whole_gives gives { QueryOption.filter.start text with cursor := moved } ⟨rfl, there⟩
    (Nat.le_of_eq (Nat.zero_add _))
  exact parse_of_ok ((bind_done (advance_done advanced)).trans (bind_done ran))

end Expression

end QueryOptions
