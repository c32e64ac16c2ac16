import Mathlib.Data.List.Find
import QueryOptions.Proofs.Operators.Expression
import QueryOptions.Proofs.SameTokens

set_option autoImplicit false

namespace QueryOptions

open Parse

def Settings.withCase (settings : Settings) (ignoreCase : Bool) : Settings := { settings with ignoreCase := ignoreCase }

def keywords : List String :=
  testedWords ++ (BinaryOperator.comparisons ++ BinaryOperator.additions ++ BinaryOperator.multiplications).map Prod.fst

-- A word that is a keyword when case is ignored is that keyword letter by letter.
def Lexeme.Exact (lexeme : Lexeme) : Prop :=
  lexeme.kind = .identifier → ∀ word ∈ keywords, Text.sameFolded lexeme.text word → lexeme.text = word

def ParseState.Exact (state : ParseState) : Prop :=
  ∃ lexemes, state.cursor.Remaining lexemes ∧ ∀ lexeme ∈ lexemes, lexeme.Exact

section Tests

variable {token : Token} {word : String}

theorem same_word_exact (exact : token.lexeme.Exact) (listed : word ∈ keywords) (isWord : token.kind = .identifier)
    (ignoreCase : Bool) : Text.sameWord ignoreCase token.text word = (token.text == word) := by
  unfold Text.sameWord
  cases folded : Text.sameFolded token.text word with
  | false => rw [Bool.and_false, Bool.or_false]
  | true =>
      have same : token.text = word := exact isWord word listed folded
      rw [same, beq_self_eq_true, Bool.true_or]

theorem keyword_exact (exact : token.lexeme.Exact) (listed : word ∈ keywords) (ignoreCase ignoreCase' : Bool) :
    token.isKeyword ignoreCase' word = token.isKeyword ignoreCase word := by
  unfold Token.isKeyword
  by_cases isWord : token.kind = .identifier
  · rw [same_word_exact exact listed isWord, same_word_exact exact listed isWord]
  · rw [beq_eq_false_iff_ne.mpr isWord, Bool.false_and, Bool.false_and]

theorem of_keyword_exact {table : List (String × BinaryOperator)} (exact : token.lexeme.Exact)
    (listed : ∀ entry ∈ table, entry.1 ∈ keywords) (isWord : token.kind = .identifier) (ignoreCase ignoreCase' : Bool) :
    BinaryOperator.ofKeyword? table ignoreCase' token.text = BinaryOperator.ofKeyword? table ignoreCase token.text := by
  refine congrArg (Option.map Prod.snd) (List.find?_congr fun entry member => ?_)
  rw [Expression.same_word_comm, same_word_exact exact (listed entry member) isWord, Expression.same_word_comm,
    same_word_exact exact (listed entry member) isWord]

end Tests

theorem exact_token {state : ParseState} (exact : state.Exact) : state.cursor.token.lexeme.Exact := by
  obtain ⟨lexemes, remaining, all⟩ := exact
  rw [Cursor.remaining_token remaining]
  cases lexemes with
  | nil => exact fun isWord => by cases isWord
  | cons lexeme lexemes => exact all lexeme List.mem_cons_self

theorem exact_of_cursor {state other : ParseState} (exact : state.Exact) (same : other.cursor = state.cursor) :
    other.Exact := by
  unfold ParseState.Exact
  rwa [same]

-- Two parses that do the same wherever what remains is exact, and leave such a rest.
def Unvarying : Relation := fun _ α p q =>
  ∀ state : ParseState, state.Exact → q state = p state ∧ ∀ (value : α) after, p state = .ok value after → after.Exact

namespace Unvarying

variable {part : Part} {α β : Type} {p q : Parse α} {settings settings' : Settings}

theorem of_move {step : Cursor.Step α}
    (agree : ∀ lexemes, Agreeing Cursor.Twins lexemes step step) : Unvarying part α (move step) (move step) := by
  intro state exact
  refine ⟨rfl, fun value after done => ?_⟩
  obtain ⟨lexemes, remaining, all⟩ := exact
  have agree := agree lexemes state.cursor state.cursor ⟨remaining, remaining⟩
  unfold move at done
  cases result : step state.cursor with
  | ok first moved =>
      rw [result] at agree done
      cases done
      cases agree with
      | ok _ both =>
          obtain ⟨further, suffix, twins⟩ := both
          exact ⟨further, twins.here, fun lexeme member => all lexeme (suffix.subset member)⟩
  | error error moved =>
      rw [result] at done
      cases done

theorem of_bind {f g : α → Parse β} (first : Unvarying part α p q) (second : ∀ value, Unvarying part β (f value) (g value)) :
    Unvarying part β (p >>= f) (q >>= g) := by
  intro state exact
  obtain ⟨same, kept⟩ := first state exact
  change EStateM.bind q g state = EStateM.bind p f state ∧ ∀ value after, EStateM.bind p f state = .ok value after → _
  unfold EStateM.bind
  rw [same]
  cases result : p state with
  | ok value between => exact second value between (kept value between result)
  | error error after => exact ⟨rfl, fun _ _ done => by cases done⟩

theorem sequencing : Sequencing (fun _ place place' => place = place') Unvarying where
  pure value state exact := ⟨rfl, fun _ _ done => by cases done; exact exact⟩
  bind := of_bind
  current steps state exact := steps _ _ _ _ rfl state exact
  fail _ same _ _ := ⟨by rw [same], fun _ _ done => by cases done⟩
  advance := of_move SameTokens.advance_agrees

theorem of_still {p : Parse α} (still : ∀ state value after, p state = .ok value after → after.cursor = state.cursor) :
    Unvarying part α p p :=
  fun state exact => ⟨rfl, fun value after done => exact_of_cursor exact (still state value after done)⟩

theorem of_enter (settings : Settings) (levels : Nat) : Unvarying part Unit (enter settings levels) (enter settings levels) :=
  of_still fun _ _ _ done => by rw [enter_ok done]

theorem of_closing (count : ParseState → Nat) (body : Unvarying part α p q) :
    Unvarying part α (closing settings count p) (closing settings count q) := by
  intro state exact
  obtain ⟨same, kept⟩ := body state exact
  refine ⟨by unfold closing; rw [same], fun value after done => ?_⟩
  obtain ⟨before, finished, cursor⟩ := closing_done done
  exact exact_of_cursor (kept value before finished) cursor

theorem of_counting_links (body : Unvarying part α p q) : Unvarying part α (countingLinks p) (countingLinks q) := by
  intro state exact
  obtain ⟨same, kept⟩ := body { state with links := 0 } (exact_of_cursor exact rfl)
  rw [counting_links_by_map, counting_links_by_map, same]
  refine ⟨rfl, fun value after done => ?_⟩
  obtain ⟨before, finished, rfl⟩ := map_state_ok done
  exact exact_of_cursor (kept value before finished) rfl

theorem of_declaring (settings : Settings) (name : String) (body : Unvarying .rule α p q) :
    Unvarying .rule α (declaring settings name p) (declaring settings name q) := by
  rw [declaring_by_map, declaring_by_map]
  refine of_bind (of_still fun state value after done => ?_) fun _ state exact => ?_
  · unfold shared Context.declare Context.isVariable at done
    by_cases declared : state.scope.contains name
    · rw [if_pos declared] at done
      cases done
    · rw [if_neg declared] at done
      cases done
      rfl
  · obtain ⟨same, kept⟩ := body state exact
    rw [same]
    refine ⟨rfl, fun value after done => ?_⟩
    obtain ⟨before, finished, rfl⟩ := map_state_ok done
    exact exact_of_cursor (kept value before finished) rfl

theorem of_sep_by (separator : TokenKind) (item : Unvarying .rule α p q) :
    Unvarying .rule (List α) (sepBy separator p) (sepBy separator q) := by
  refine of_bind item fun first state exact => ?_
  exact of_bind (sequencing.separated separator item (state.cursor.rest.length + 1)) (fun _ => sequencing.pure _) state exact

theorem levelling (limit : settings'.maxDepth = settings.maxDepth) :
    Levelling settings settings' (fun _ place place' => place = place') Unvarying := by
  have L := levelling_of_limit limit
  exact {
    toSequencing := sequencing
    rule := id
    dottedName := fun acceptStar => of_move fun _ => Cursor.dotted_name_agree acceptStar
    inScope := fun name => of_still fun _ _ _ done => by cases done; rfl
    declaring := fun name _ _ body => L.declaring name (rfl : _ = _) ▸ of_declaring settings name body
    tooDeep := L.tooDeep ▸ fun _ _ => ⟨rfl, fun _ _ done => by cases done⟩
    recurse := fun levels _ _ body => L.recurse levels rfl ▸ of_bind (of_enter settings levels) fun _ => of_closing _ body
    chain := fun body => L.chain rfl ▸ of_bind (of_enter settings 1) fun _ => of_counting_links (of_closing _ body)
    hold := L.hold ▸ of_bind (of_enter settings 1) fun _ => of_still fun _ _ _ done => by cases done; rfl
    sepBy := fun separator _ _ item => of_sep_by separator item }

theorem of_current {f g : Token → Parse α} (steps : ∀ token : Token, token.lexeme.Exact → Unvarying part α (f token) (g token)) :
    Unvarying part α (current >>= f) (current >>= g) :=
  fun state exact => steps state.cursor.token (exact_token exact) state exact

theorem of_operator {table : List (String × BinaryOperator)} (listed : ∀ entry ∈ table, entry.1 ∈ keywords) :
    Unvarying part _ (Expression.operatorOf? table settings) (Expression.operatorOf? table settings') := by
  refine of_current fun token exact => ?_
  by_cases isWord : token.kind = .identifier
  · rw [if_pos isWord, if_pos isWord, of_keyword_exact exact listed isWord settings.ignoreCase settings'.ignoreCase]
    exact sequencing.pure _
  · rw [if_neg isWord, if_neg isWord]
    exact sequencing.pure _

theorem wording (bare : settings.customOperators = []) (ignoreCase ignoreCase' : Bool) :
    Wording (settings.withCase ignoreCase) (settings.withCase ignoreCase') (fun _ place place' => place = place') Unvarying where
  toLevelling := levelling rfl
  keyword {_ word} tested := of_current fun token exact => by
    have listed : word ∈ keywords := List.mem_append_left _ tested
    change Unvarying _ _ (pure (token.isKeyword ignoreCase word)) (pure (token.isKeyword ignoreCase' word))
    rw [keyword_exact exact listed ignoreCase ignoreCase']
    exact sequencing.pure _
  addition := of_operator (by decide)
  multiplication := of_operator (by decide)
  comparison := of_current fun token exact => by
    have listed : ∀ entry ∈ BinaryOperator.comparisons, entry.1 ∈ keywords := by decide
    by_cases isWord : token.kind = .identifier
    · have bare (flag : Bool) : BinaryOperator.ofCustom? (settings.withCase flag) token.text = none := by
        have empty : (settings.withCase flag).customOperators = [] := bare
        exact Expression.custom_none empty token.text
      rw [if_pos isWord, if_pos isWord, bare, bare]
      change Unvarying _ _ (pure ((BinaryOperator.ofKeyword? _ ignoreCase token.text).or none))
        (pure ((BinaryOperator.ofKeyword? _ ignoreCase' token.text).or none))
      rw [of_keyword_exact exact listed isWord ignoreCase ignoreCase']
      exact sequencing.pure _
    · rw [if_neg isWord, if_neg isWord]
      exact sequencing.pure _

theorem grammar_unvarying (bare : settings.customOperators = []) {option : QueryOption}
    (covered : option ∈ [QueryOption.filter, .orderBy, .compute, .apply]) (ignoreCase ignoreCase' : Bool) (levels : Nat) :
    Unvarying .rule _ (option.grammar (settings.withCase ignoreCase) levels)
      (option.grammar (settings.withCase ignoreCase') levels) := by
  have S := wording bare ignoreCase ignoreCase'
  cases option with
  | filter => exact of_bind (Expression.whole_related S levels levels (.inl rfl)) fun _ => S.pure _
  | orderBy => exact of_bind (Order.whole_related S levels levels (.inl rfl)) fun _ => S.pure _
  | compute => exact of_bind (Compute.whole_related S levels levels (.inl rfl)) fun _ => S.pure _
  | apply => exact of_bind (Apply.whole_related S levels levels (.inl rfl)) fun _ => S.pure _
  | search => exact absurd covered (by decide)
  | select => exact absurd covered (by decide)
  | expand => exact absurd covered (by decide)

end Unvarying

-- Whether case is ignored makes a difference only for keywords in other letters. A text whose
-- words are keywords letter by letter, or in no case of letters, is accepted as the same or
-- refused with the same error either way, whatever the words stand for.
theorem case_varies_keywords_only {settings : Settings} (bare : settings.customOperators = []) {option : QueryOption}
    (covered : option ∈ [QueryOption.filter, .orderBy, .compute, .apply]) {text : String} {tokens : List Token}
    (read : tokenize text .expression 0 = .ok tokens)
    (exact : ∀ token ∈ tokens, token.kind = .identifier → ∀ word ∈ keywords,
      Text.sameFolded token.text word → token.text = word) :
    parse { settings with ignoreCase := true } option text = parse { settings with ignoreCase := false } option text := by
  have dialect : option.dialect = .expression := by
    cases option with
    | search => exact absurd covered (by decide)
    | _ => rfl
  rw [← dialect] at read
  obtain ⟨moved, advanced, remaining⟩ := Cursor.remaining_of_stream read
  have began : advance (option.start text) = .ok () { option.start text with cursor := moved } := advance_done advanced
  have here : ({ option.start text with cursor := moved } : ParseState).Exact :=
    ⟨_, remaining, List.forall_mem_map.mpr exact⟩
  have same := (Unvarying.grammar_unvarying bare covered false true settings.maxDepth _ here).1
  change parse (settings.withCase true) option text = parse (settings.withCase false) option text
  rw [parse_by_steps, parse_by_steps]
  unfold QueryOption.parser
  rw [bind_done began, bind_done began]
  rw [show (settings.withCase true).maxDepth = settings.maxDepth from rfl, same]
  rfl

-- Keywords that stand for names, and a name that would be a keyword in front of a condition
-- on a collection only.
theorem keywords_as_names :
    tokenize "in in (Any,has) as as" .expression 0 =
        .ok [⟨.identifier, "in", 0⟩, ⟨.identifier, "in", 3⟩, ⟨.openParen, "(", 6⟩, ⟨.identifier, "Any", 7⟩,
          ⟨.comma, ",", 10⟩, ⟨.identifier, "has", 11⟩, ⟨.closeParen, ")", 14⟩, ⟨.identifier, "as", 16⟩,
          ⟨.identifier, "as", 19⟩] ∧
      parse { ignoreCase := false } .compute "in in (Any,has) as as" =
        .ok (.compute [⟨.membership (.endPath "in" none) (.collection [.endPath "Any" none, .endPath "has" none]), "as"⟩]) ∧
      parse { ignoreCase := true } .compute "in in (Any,has) as as" =
        parse { ignoreCase := false } .compute "in in (Any,has) as as" := by
  have read : tokenize "in in (Any,has) as as" .expression 0 =
      .ok [⟨.identifier, "in", 0⟩, ⟨.identifier, "in", 3⟩, ⟨.openParen, "(", 6⟩, ⟨.identifier, "Any", 7⟩,
        ⟨.comma, ",", 10⟩, ⟨.identifier, "has", 11⟩, ⟨.closeParen, ")", 14⟩, ⟨.identifier, "as", 16⟩,
        ⟨.identifier, "as", 19⟩] := by decide +kernel
  have bare : ({} : Settings).customOperators = [] := rfl
  have covered : QueryOption.compute ∈ [QueryOption.filter, .orderBy, .compute, .apply] := by decide
  exact ⟨read, by decide +kernel, case_varies_keywords_only bare covered read (by decide +kernel)⟩

end QueryOptions
