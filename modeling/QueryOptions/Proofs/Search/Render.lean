import QueryOptions.Proofs.Derivation.Spelling
import QueryOptions.Proofs.Running
import QueryOptions.Proofs.Token.Phrase

set_option autoImplicit false

namespace QueryOptions

open Parse

namespace Cursor

def Ahead (lexemes : List Lexeme) (cursor : Cursor) : Prop :=
  ∃ last, cursor.Spans lexemes last ∧ last.token.kind = .finish

variable {cursor : Cursor} {lexeme : Lexeme} {lexemes : List Lexeme}

theorem ahead_token (ahead : Ahead (lexeme :: lexemes) cursor) : cursor.token.lexeme = lexeme := by
  obtain ⟨last, spans, -⟩ := ahead
  exact (spans_cons spans).1

theorem ahead_finish (ahead : Ahead [] cursor) : cursor.token.kind = .finish := by
  obtain ⟨last, spans, finish⟩ := ahead
  rwa [spans_nil spans] at finish

theorem ahead_advance (ahead : Ahead (lexeme :: lexemes) cursor) :
    ∃ moved, advance cursor = .ok () moved ∧ moved.Ahead lexemes := by
  obtain ⟨last, spans, finish⟩ := ahead
  obtain ⟨-, moved, advanced, others⟩ := spans_cons spans
  exact ⟨moved, advanced, last, others, finish⟩

theorem ahead_of_spelled {dialect : Dialect} (plain : cursor.Plain dialect)
    (spelled : Spelled dialect cursor.rest lexemes) :
    ∃ moved, advance cursor = .ok () moved ∧ moved.Ahead lexemes := by
  obtain ⟨first, last, advanced, spans, finish⟩ := spans_of_spelled spelled plain rfl
  exact ⟨first, advanced, last, spans, finish⟩

end Cursor

namespace Search

inductive Tree where
  | term (text : String)
  | not (operand : Tree)
  | and (left right : Tree)
  | or (left right : Tree)

def escape : List Char → List Char
  | [] => []
  | c :: rest => if c = '"' ∨ c = '\\' then '\\' :: c :: escape rest else c :: escape rest

namespace Tree

def expr : Tree → Expr
  | term text => .term text
  | not operand => .unary .not operand.expr
  | and left right => .binary .and left.expr right.expr
  | or left right => .binary .or left.expr right.expr

def render : Tree → String
  | term text => "\"" ++ String.ofList (escape text.toList) ++ "\""
  | not operand => "NOT (" ++ operand.render ++ ")"
  | and left right => "(" ++ left.render ++ ") AND (" ++ right.render ++ ")"
  | or left right => "(" ++ left.render ++ ") OR (" ++ right.render ++ ")"

def levels : Tree → Nat
  | term _ => 4
  | not operand => operand.levels + 5
  | and left right | or left right => max (left.levels + 4) (right.levels + 5)

end Tree

def phrase (text : List Char) : List Char := '"' :: (escape text ++ ['"'])

def opening : Lexeme := ⟨.openParen, "("⟩
def closing : Lexeme := ⟨.closeParen, ")"⟩
def notWord : Lexeme := ⟨.identifier, "NOT"⟩
def andWord : Lexeme := ⟨.identifier, "AND"⟩
def orWord : Lexeme := ⟨.identifier, "OR"⟩

def grouped (lexemes : List Lexeme) : List Lexeme := opening :: (lexemes ++ [closing])

def Tree.lexemes : Tree → List Lexeme
  | term text => [⟨.stringLiteral, String.ofList (phrase text.toList)⟩]
  | not operand => notWord :: grouped operand.lexemes
  | and left right => grouped left.lexemes ++ andWord :: grouped right.lexemes
  | or left right => grouped left.lexemes ++ orWord :: grouped right.lexemes

section

variable {text : List Char} {kind : TokenKind} {taken rest tail : List Char} {others : List Lexeme}

theorem escape_phrased (text rest : List Char) : Phrased (escape text ++ '"' :: rest) (escape text ++ ['"']) rest := by
  induction text with
  | nil => exact .close rest
  | cons c text ih =>
      unfold escape
      by_cases special : c = '"' ∨ c = '\\'
      · rw [if_pos special]
        exact .escape special ih
      · rw [if_neg special]
        exact .plain (fun same => special (.inl same)) (fun same => special (.inr same)) ih

theorem unescape_plain {c : Char} (plain : c ≠ '\\') (rest : List Char) :
    unquote.unescape (c :: rest) = c :: unquote.unescape rest := by
  rw [unquote.unescape.eq_def]
  split
  · rename_i none
    cases none
  · rename_i same
    cases same
    exact absurd rfl plain
  · rename_i same
    cases same
    exact if_neg plain

theorem unescape_escape (text : List Char) : unquote.unescape (escape text) = text := by
  induction text with
  | nil => rfl
  | cons c text ih =>
      unfold escape
      by_cases special : c = '"' ∨ c = '\\'
      · rw [if_pos special, unquote.unescape, ih]
      · rw [if_neg special, unescape_plain (fun same => special (.inr same)), ih]

theorem unquote_phrase (text : List Char) : unquote (String.ofList (phrase text)) = String.ofList text := by
  have closed : (escape text ++ ['"']).getLast? = some '"' := List.getLast?_concat
  unfold unquote phrase
  rw [String.toList_ofList]
  refine (if_pos closed).trans ?_
  rw [List.dropLast_concat, unescape_escape]

theorem spelled_taken (reads : Taken text kind taken rest) (visible : text.dropWhile Text.isBlank = text)
    (going : kind ≠ .finish) (spelled : Spelled .search rest others) :
    Spelled .search text (⟨kind, String.ofList taken⟩ :: others) :=
  .lexeme (by rw [visible]; exact scan_of_taken reads) going spelled

theorem spelled_past_blanks {between : List Char} (blank : ∀ c ∈ between, Text.isBlank c)
    (spelled : Spelled .search tail others) : Spelled .search (between ++ tail) others := by
  have past : (between ++ tail).dropWhile Text.isBlank = tail.dropWhile Text.isBlank := List.dropWhile_append_of_pos blank
  cases spelled with
  | blank nothing => exact .blank (past.trans nothing)
  | lexeme scans going others => exact .lexeme (by rwa [past]) going others

theorem spelled_blank (spelled : Spelled .search tail others) : Spelled .search (' ' :: tail) others :=
  spelled_past_blanks (List.forall_mem_singleton.mpr rfl) spelled

theorem spelled_opening (spelled : Spelled .search tail others) : Spelled .search ('(' :: tail) (opening :: others) :=
  spelled_taken (.opening tail) rfl (by decide) spelled

theorem spelled_closing (spelled : Spelled .search tail others) : Spelled .search (')' :: tail) (closing :: others) :=
  spelled_taken (.closing tail) rfl (by decide) spelled

theorem word_char {c : Char} (letter : isWordChar c) : Text.isBlank c = false ∧ c ≠ '(' ∧ c ≠ ')' ∧ c ≠ '"' := by
  simpa only [isWordChar, Bool.not_eq_true', Bool.or_eq_false_iff, beq_eq_false_iff_ne, and_assoc] using letter

theorem spelled_word (c : Char) (word : List Char) {lexeme : Lexeme} (letters : (c :: word).all isWordChar)
    (makes : ⟨termKind (c :: word), String.ofList (c :: word)⟩ = lexeme) (spelled : Spelled .search tail others) :
    Spelled .search (c :: (word ++ ' ' :: tail)) (lexeme :: others) := by
  obtain ⟨first, inner⟩ := List.forall_mem_cons.mp (List.all_eq_true.mp letters)
  obtain ⟨visible, left, right, quote⟩ := word_char first
  rw [← makes]
  have stops : ∀ d ∈ (' ' :: tail).head?, isWordChar d = false := by
    rintro _ ⟨⟩
    decide
  have reads := Taken.word (word ++ ' ' :: tail) left right quote
  rw [Expression.take_while_before inner stops, Expression.drop_while_before inner stops] at reads
  exact spelled_taken reads (List.dropWhile_cons_of_neg (by rw [visible]; decide))
    (by unfold termKind; split <;> decide) (spelled_blank spelled)

theorem spelled_not (spelled : Spelled .search tail others) :
    Spelled .search ('N' :: 'O' :: 'T' :: ' ' :: tail) (notWord :: others) :=
  spelled_word 'N' ['O', 'T'] (by decide) (by decide) spelled

theorem spelled_and (spelled : Spelled .search tail others) :
    Spelled .search (' ' :: 'A' :: 'N' :: 'D' :: ' ' :: tail) (andWord :: others) :=
  spelled_blank (spelled_word 'A' ['N', 'D'] (by decide) (by decide) spelled)

theorem spelled_or (spelled : Spelled .search tail others) :
    Spelled .search (' ' :: 'O' :: 'R' :: ' ' :: tail) (orWord :: others) :=
  spelled_blank (spelled_word 'O' ['R'] (by decide) (by decide) spelled)

theorem spelled_phrase (text : List Char) (spelled : Spelled .search tail others) :
    Spelled .search (phrase text ++ tail) (⟨.stringLiteral, String.ofList (phrase text)⟩ :: others) := by
  have reads : Taken (phrase text ++ tail) .stringLiteral (phrase text) tail := by
    rw [phrase, List.cons_append, List.append_assoc]
    exact .phrase (escape_phrased text tail)
  exact spelled_taken reads rfl (by decide) spelled

theorem spelled_grouped {front : List Lexeme}
    (inner : ∀ {tail others}, Spelled .search tail others → Spelled .search (text ++ tail) (front ++ others))
    (spelled : Spelled .search tail others) :
    Spelled .search ('(' :: (text ++ ')' :: tail)) (grouped front ++ others) := by
  rw [grouped, List.cons_append, List.append_assoc]
  exact spelled_opening (inner (spelled_closing spelled))

theorem spelled_render (tree : Tree) {tail : List Char} {others : List Lexeme} (spelled : Spelled .search tail others) :
    Spelled .search (tree.render.toList ++ tail) (tree.lexemes ++ others) := by
  induction tree generalizing tail others with
  | term text =>
      have whole : (Tree.term text).render.toList = phrase text.toList := by
        simp only [Tree.render, String.toList_append, String.toList_ofList]
        rfl
      rw [whole]
      exact spelled_phrase text.toList spelled
  | not operand ih =>
      have whole : (Tree.not operand).render.toList ++ tail =
          'N' :: 'O' :: 'T' :: ' ' :: '(' :: (operand.render.toList ++ ')' :: tail) := by
        simp only [Tree.render, String.toList_append, List.append_assoc]
        rfl
      rw [whole]
      exact spelled_not (spelled_grouped ih spelled)
  | and left right ihLeft ihRight =>
      have whole : (Tree.and left right).render.toList ++ tail = '(' :: (left.render.toList ++ ')' ::
          (' ' :: 'A' :: 'N' :: 'D' :: ' ' :: '(' :: (right.render.toList ++ ')' :: tail))) := by
        simp only [Tree.render, String.toList_append, List.append_assoc]
        rfl
      rw [whole, Tree.lexemes, List.append_assoc]
      exact spelled_grouped ihLeft (spelled_and (spelled_grouped ihRight spelled))
  | or left right ihLeft ihRight =>
      have whole : (Tree.or left right).render.toList ++ tail = '(' :: (left.render.toList ++ ')' ::
          (' ' :: 'O' :: 'R' :: ' ' :: '(' :: (right.render.toList ++ ')' :: tail))) := by
        simp only [Tree.render, String.toList_append, List.append_assoc]
        rfl
      rw [whole, Tree.lexemes, List.append_assoc]
      exact spelled_grouped ihLeft (spelled_or (spelled_grouped ihRight spelled))

end

def Ready (lexemes : List Lexeme) (_ : List String) (cursor : Cursor) : Prop := cursor.Ahead lexemes

def keywordAhead (keyword : String) : List Lexeme → Bool
  | [] => false
  | lexeme :: _ => lexeme.kind == .identifier && Text.sameWord true lexeme.text keyword

def operandAhead : List Lexeme → Bool
  | [] => false
  | lexeme :: others =>
      lexeme.kind == .stringLiteral || lexeme.kind == .openParen || keywordAhead "not" (lexeme :: others)

section

variable {settings : Settings} {part : Part} {levels : Nat} {keyword : String} {ahead others further : List Lexeme}
variable {left right value : Expr}

theorem keyword_ahead (keyword : String) (ahead : List Lexeme) :
    Finds (atKeyword true keyword) (Ready ahead) (keywordAhead keyword ahead) := by
  refine finds_of_token (f := fun token => token.isKeyword true keyword) (fun _ => rfl) fun _ cursor here => ?_
  cases ahead with
  | nil => simp [Token.isKeyword, Cursor.ahead_finish here, keywordAhead]
  | cons lexeme others =>
      rw [← Cursor.ahead_token here]
      rfl

theorem operand_ahead (ahead : List Lexeme) : Finds atOperand (Ready ahead) (operandAhead ahead) := by
  refine finds_of_token (f := fun token =>
    token.kind == .stringLiteral || token.kind == .openParen || token.isKeyword true "not") (fun _ => rfl)
    fun _ cursor here => ?_
  cases ahead with
  | nil => simp [Token.isKeyword, Cursor.ahead_finish here, operandAhead]
  | cons lexeme others =>
      rw [← Cursor.ahead_token here]
      rfl

theorem conjunction_tail_ends (levels : Nat) (noAnd : keywordAhead "and" ahead = false)
    (noOperand : operandAhead ahead = false) (left : Expr) :
    Gets settings .links levels (conjunctionTail settings levels left) (Ready ahead) left (Ready ahead) := by
  have unjoined := keyword_ahead "and" ahead
  have unfollowed := operand_ahead ahead
  rw [noAnd] at unjoined
  rw [noOperand] at unfollowed
  cases levels <;> exact gets_look unjoined (gets_look unfollowed (gets_pure left))

theorem disjunction_tail_ends (levels : Nat) (noOr : keywordAhead "or" ahead = false) (left : Expr) :
    Gets settings .links levels (disjunctionTail settings levels left) (Ready ahead) left (Ready ahead) := by
  have unjoined := keyword_ahead "or" ahead
  rw [noOr] at unjoined
  cases levels <;> exact gets_look unjoined (gets_pure left)

theorem term_gets (text : List Char) (others : List Lexeme) :
    Gets settings .rule (levels + 1) (primary settings (levels + 1))
      (Ready (⟨.stringLiteral, String.ofList (phrase text)⟩ :: others)) (.term (String.ofList text))
      (Ready others) := by
  refine gets_recurse (gets_current fun _ cursor here => ?_)
  obtain ⟨kind, spelling⟩ : cursor.token.kind = .stringLiteral ∧ cursor.token.text = String.ofList (phrase text) :=
    Lexeme.mk.inj (Cursor.ahead_token here)
  rw [kind, spelling, unquote_phrase]
  exact gets_advance (fun _ _ => Cursor.ahead_advance) (gets_pure _)

theorem expect_gets (kind : TokenKind) (description : String) {lexeme : Lexeme} (found : lexeme.kind = kind) :
    Gets settings .rule levels (expect kind description) (Ready (lexeme :: others)) () (Ready others) :=
  gets_expect (fun _ _ here => (congrArg Lexeme.kind (Cursor.ahead_token here)).trans found) fun _ _ => Cursor.ahead_advance

theorem group_gets
    (inner : Gets settings .rule levels (disjunction settings levels) (Ready (ahead ++ closing :: others)) value
      (Ready (closing :: others))) :
    Gets settings .rule (levels + 1) (primary settings (levels + 1)) (Ready (grouped ahead ++ others)) value
      (Ready others) := by
  rw [grouped, List.cons_append, List.append_assoc]
  refine gets_recurse (gets_current fun _ cursor here => ?_)
  have kind : cursor.token.kind = .openParen := congrArg Lexeme.kind (Cursor.ahead_token here)
  rw [if_pos kind]
  exact gets_advance (fun _ _ => Cursor.ahead_advance)
    (gets_bind inner (gets_bind (expect_gets .closeParen "')'" rfl) (gets_pure value)))

theorem single_gets (bare : keywordAhead "not" ahead = false)
    (operand : Gets settings .rule (levels + 1) (primary settings (levels + 1)) (Ready ahead) value (Ready others)) :
    Gets settings .links (levels + 1) (negated settings (levels + 2)) (Ready ahead) value (Ready others) := by
  have unmarked := keyword_ahead "not" ahead
  rw [bare] at unmarked
  exact gets_look unmarked (gets_of_rule operand)

theorem not_gets (bare : keywordAhead "not" ahead = false)
    (operand : Gets settings .rule (levels + 1) (primary settings (levels + 1)) (Ready ahead) value (Ready others)) :
    Gets settings .links (levels + 2) (negated settings (levels + 3)) (Ready (notWord :: ahead)) (.unary .not value)
      (Ready others) := by
  have linked : Gets settings .links (levels + 2) (do
      hold settings
      advance
      return Expr.unary .not (← negated settings (levels + 2))) (Ready (notWord :: ahead)) (.unary .not value)
      (Ready others) :=
    gets_hold (gets_advance (fun _ _ => Cursor.ahead_advance) (gets_map (single_gets bare operand)))
  exact gets_look (keyword_ahead "not" (notWord :: ahead)) linked

structure Loose (ahead : List Lexeme) : Prop where
  noAnd : keywordAhead "and" ahead = false
  noOperand : operandAhead ahead = false

structure Closed (ahead : List Lexeme) : Prop extends Loose ahead where
  noOr : keywordAhead "or" ahead = false

theorem conjunction_of_operand (loose : Loose others)
    (operand : Gets settings .links levels (negated settings (levels + 1)) (Ready ahead) value (Ready others)) :
    Gets settings .rule (levels + 2) (conjunction settings (levels + 2)) (Ready ahead) value (Ready others) :=
  gets_chain_of (gets_chain operand) (conjunction_tail_ends _ loose.noAnd loose.noOperand value)

theorem disjunction_of_operand (closed : Closed others)
    (operand : Gets settings .links levels (negated settings (levels + 1)) (Ready ahead) value (Ready others)) :
    Gets settings .rule (levels + 3) (disjunction settings (levels + 3)) (Ready ahead) value (Ready others) :=
  gets_chain_of (conjunction_of_operand closed.toLoose operand) (disjunction_tail_ends _ closed.noOr value)

theorem and_gets (closed : Closed others)
    (first : Gets settings .links (levels + 1) (negated settings (levels + 2)) (Ready ahead) left
      (Ready (andWord :: further)))
    (second : Gets settings .links levels (negated settings (levels + 1)) (Ready further) right (Ready others)) :
    Gets settings .rule (levels + 4) (disjunction settings (levels + 4)) (Ready ahead) (.binary .and left right)
      (Ready others) := by
  have linked : Gets settings .links (levels + 2) (do
      advance
      join settings (chain settings (negated settings (levels + 1))) (conjunctionTail settings (levels + 1)) left)
      (Ready (andWord :: further)) (.binary .and left right) (Ready others) :=
    gets_advance (fun _ _ => Cursor.ahead_advance) (gets_hold
      (gets_bind (gets_chain second) (conjunction_tail_ends _ closed.noAnd closed.noOperand _)))
  exact gets_chain_of (gets_chain_of (gets_chain first) (gets_look (keyword_ahead "and" (andWord :: further)) linked))
    (disjunction_tail_ends _ closed.noOr _)

theorem or_gets (closed : Closed others)
    (first : Gets settings .links (levels + 1) (negated settings (levels + 2)) (Ready ahead) left
      (Ready (orWord :: further)))
    (second : Gets settings .links levels (negated settings (levels + 1)) (Ready further) right (Ready others)) :
    Gets settings .rule (levels + 4) (disjunction settings (levels + 4)) (Ready ahead) (.binary .or left right)
      (Ready others) := by
  have linked : Gets settings .links (levels + 3) (do
      hold settings
      advance
      let right ← conjunction settings (levels + 2)
      disjunctionTail settings (levels + 2) (.binary .or left right)) (Ready (orWord :: further))
      (.binary .or left right) (Ready others) :=
    gets_hold (gets_advance (fun _ _ => Cursor.ahead_advance)
      (gets_bind (conjunction_of_operand closed.toLoose second) (disjunction_tail_ends _ closed.noOr _)))
  exact gets_chain_of (conjunction_of_operand ⟨rfl, rfl⟩ first)
    (gets_look (keyword_ahead "or" (orWord :: further)) linked)

theorem tree_gets (tree : Tree) {levels : Nat} {others : List Lexeme} (enough : tree.levels ≤ levels)
    (closed : Closed others) :
    Gets settings .rule levels (disjunction settings levels) (Ready (tree.lexemes ++ others)) tree.expr
      (Ready others) := by
  have operand {tree : Tree} {levels : Nat} (others : List Lexeme)
      (gets : ∀ {others}, Closed others → Gets settings .rule levels (disjunction settings levels)
        (Ready (tree.lexemes ++ others)) tree.expr (Ready others)) :
      Gets settings .rule (levels + 1) (primary settings (levels + 1)) (Ready (grouped tree.lexemes ++ others))
        tree.expr (Ready others) :=
    group_gets (gets ⟨⟨rfl, rfl⟩, rfl⟩)
  induction tree generalizing levels others with
  | term text =>
      obtain ⟨levels, rfl⟩ : ∃ fewer, levels = fewer + 4 := ⟨levels - 4, by simp only [Tree.levels] at enough; omega⟩
      have term : Gets settings .rule (levels + 1) (primary settings (levels + 1))
          (Ready ((Tree.term text).lexemes ++ others)) (.term (String.ofList text.toList)) (Ready others) :=
        term_gets text.toList others
      rw [String.ofList_toList] at term
      exact disjunction_of_operand closed (single_gets rfl term)
  | not inner ih =>
      obtain ⟨levels, rfl⟩ : ∃ fewer, levels = fewer + 5 := ⟨levels - 5, by simp only [Tree.levels] at enough; omega⟩
      have fits : inner.levels ≤ levels := by simp only [Tree.levels] at enough; omega
      exact disjunction_of_operand closed (not_gets rfl (operand others (ih fits)))
  | and left right ihLeft ihRight =>
      obtain ⟨levels, rfl⟩ : ∃ fewer, levels = fewer + 5 := ⟨levels - 5, by simp only [Tree.levels] at enough; omega⟩
      have fits : left.levels ≤ levels + 1 ∧ right.levels ≤ levels := by simp only [Tree.levels] at enough; omega
      rw [Tree.lexemes, List.append_assoc]
      exact and_gets closed (single_gets rfl (operand _ (ihLeft fits.1))) (single_gets rfl (operand _ (ihRight fits.2)))
  | or left right ihLeft ihRight =>
      obtain ⟨levels, rfl⟩ : ∃ fewer, levels = fewer + 5 := ⟨levels - 5, by simp only [Tree.levels] at enough; omega⟩
      have fits : left.levels ≤ levels + 1 ∧ right.levels ≤ levels := by simp only [Tree.levels] at enough; omega
      rw [Tree.lexemes, List.append_assoc]
      exact or_gets closed (single_gets rfl (operand _ (ihLeft fits.1))) (single_gets rfl (operand _ (ihRight fits.2)))

theorem whole_gets (gets : Gets settings .rule levels (disjunction settings levels) (Ready ahead) value (Ready [])) :
    Gets settings .rule levels (whole settings levels) (Ready ahead) value (Ready []) := by
  have ended : Gets settings .rule levels expectEnd (Ready []) () (Ready []) :=
    gets_current fun _ cursor here => by
      rw [if_pos (Cursor.ahead_finish here)]
      exact gets_pure ()
  exact gets_bind gets (gets_bind ended (gets_pure value))

end

theorem levels_fit (tree : Tree) : tree.levels ≤ tree.render.toList.length + 2 := by
  induction tree with
  | term text =>
      simp only [Tree.levels, Tree.render, String.toList_append, List.length_append]
      have quote : "\"".toList.length = 1 := rfl
      omega
  | not operand ih =>
      simp only [Tree.levels, Tree.render, String.toList_append, List.length_append]
      have front : "NOT (".toList.length = 5 := rfl
      have back : ")".toList.length = 1 := rfl
      omega
  | and left right ihLeft ihRight =>
      simp only [Tree.levels, Tree.render, String.toList_append, List.length_append]
      have front : "(".toList.length = 1 := rfl
      have middle : ") AND (".toList.length = 7 := rfl
      have back : ")".toList.length = 1 := rfl
      omega
  | or left right ihLeft ihRight =>
      simp only [Tree.levels, Tree.render, String.toList_append, List.length_append]
      have front : "(".toList.length = 1 := rfl
      have middle : ") OR (".toList.length = 6 := rfl
      have back : ")".toList.length = 1 := rfl
      omega

end Search

theorem search_of_gets {settings : Settings} {text : String} {lexemes : List Lexeme} {tree : Expr}
    (spelled : Spelled .search text.toList lexemes)
    (gets : Gets settings .rule settings.maxDepth (Search.whole settings settings.maxDepth) (Search.Ready lexemes) tree
      (Search.Ready [])) : parse settings .search text = .ok (.search tree) := by
  have plain : (Cursor.start text .search 0 false).Plain .search := ⟨rfl, rfl⟩
  obtain ⟨moved, advanced, there⟩ := Cursor.ahead_of_spelled plain spelled
  obtain ⟨after, ran, -, -⟩ := gets { QueryOption.search.start text with cursor := moved } there
    (Nat.le_of_eq (Nat.zero_add _))
  exact parse_of_ok ((bind_done (advance_done advanced)).trans (bind_done ran))

-- A search written out comes back as it was. Reading it takes at most two levels more than it has
-- bytes, and a text in memory has at most half as many bytes as the greatest limit is.
theorem search_render (tree : Search.Tree) (settings : Settings)
    (room : Text.byteLength tree.render.toList + 2 ≤ settings.maxDepth) :
    parse settings .search tree.render = .ok (.search tree.expr) := by
  have nothing : Spelled .search [] [] := .blank rfl
  have spelled := Search.spelled_render tree nothing
  rw [List.append_nil, List.append_nil] at spelled
  have enough : tree.levels ≤ settings.maxDepth := by
    have long := Search.levels_fit tree
    have bytes := Text.length_le_byteLength tree.render.toList
    omega
  have gets : Gets settings .rule settings.maxDepth (Search.whole settings settings.maxDepth)
      (Search.Ready (tree.lexemes ++ [])) tree.expr (Search.Ready []) :=
    Search.whole_gets (Search.tree_gets tree enough ⟨⟨rfl, rfl⟩, rfl⟩)
  rw [List.append_nil] at gets
  exact search_of_gets spelled gets

def Search.Tree.quoted : Search.Tree := .or (.and (.term "OR") (.not (.term ""))) (.term "a\"b\\ c")

theorem quoted_render :
    Text.byteLength Search.Tree.quoted.render.toList + 2 ≤ maxCount ∧
      parse { maxDepth := maxCount } .search "((\"OR\") AND (NOT (\"\"))) OR (\"a\\\"b\\\\ c\")" =
        .ok (.search Search.Tree.quoted.expr) := by
  have room : Text.byteLength Search.Tree.quoted.render.toList + 2 ≤ maxCount := by decide +kernel
  have written : Search.Tree.quoted.render = "((\"OR\") AND (NOT (\"\"))) OR (\"a\\\"b\\\\ c\")" := by
    decide +kernel
  exact ⟨room, written ▸ search_render .quoted { maxDepth := maxCount } room⟩

end QueryOptions
