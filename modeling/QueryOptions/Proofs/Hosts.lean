import QueryOptions.Equality
import QueryOptions.Proofs.Replay.Lists
import QueryOptions.Proofs.Replay.Options
import QueryOptions.Proofs.Rendering.Text
import QueryOptions.Proofs.Running

set_option autoImplicit false

namespace QueryOptions

open Parse Expression

-- The standing variables are in scope, and the cursor stands on the first token of a text.
def At (text : List Char) (scope : List String) (cursor : Cursor) : Prop :=
  scope = Context.standing ∧ cursor.Begins text

structure EndsText (settings : Settings) (tail : List Char) : Prop where
  delimited : Delimited tail
  scannable : Scannable tail
  ends : ∀ moved : Cursor, moved.Begins tail → EndsExpression settings moved.token.lexeme

variable {settings : Settings} {limit levels : Nat} {text tail : List Char} {tree : Expr} {cursor : Cursor}
variable {state after : ParseState}

theorem expression_rereads (done : disjunction settings levels (.fresh cursor) = .ok tree after) (on : cursor.Begins text)
    (finish : after.cursor.token.kind = .finish) :
    Rereads (EndsText settings) (.fresh cursor) (disjunction settings levels) text tree := by
  obtain ⟨_, _, lexemes, -, -, some, reused⟩ := replays_disjunction settings levels _ tree after trivial done
  have again := reused.same
  have kept := neutral_after neutral_disjunction done
  obtain ⟨gap, scans, there⟩ := Cursor.scans_of_spans on again.spans
  have blank : ∀ c ∈ gap, Text.isBlank c := List.dropWhile_eq_nil_iff.mp (Cursor.begins_finish there finish)
  have none : Delimited ([] : List Char) := fun _ => nofun
  have delimited : Delimited gap := List.append_nil gap ▸ delimited_gap blank none
  obtain ⟨front, rfl, fronted⟩ := fronted_of_scans scans again.named delimited
  rw [kept] at again
  have stops : EndsExpression settings after.cursor.token.lexeme := ends_expression_of_kind finish (by decide)
  exact rereads_of_again again (some rfl) fronted blank fun tail ends =>
    ⟨delimited_gap blank ends.delimited, ends.scannable, fun moved on => .inr ⟨stops, ends.ends moved on⟩⟩

theorem Cursor.shift_zero (cursor : Cursor) : cursor.shift 0 = cursor := by
  simp [shift, Token.shift]

theorem chain_links {body : Parse Expr} (done : chain settings body state = .ok tree after) (links : Nat) :
    chain settings body { state with links := links } = .ok tree { after with links := links } := by
  obtain ⟨_, between, entered, counted⟩ := bind_ok done
  obtain ⟨fits, rfl⟩ := enter_fits entered
  have opened : enter settings 1 { state with links := links } =
      .ok () { state with depth := state.depth + 1, links := links } := enter_done fits
  refine (bind_done opened).trans ?_
  rw [counting_links_by_map] at counted ⊢
  obtain ⟨inner, finished, rfl⟩ := map_state_ok counted
  exact congrArg (mapState _) finished

theorem disjunction_links (done : disjunction settings levels state = .ok tree after) (links : Nat) :
    disjunction settings levels { state with links := links } = .ok tree { after with links := links } := by
  change rule settings 0 levels _ = _ at done
  change rule settings 0 levels _ = _
  rw [rule_loose (by decide)] at done ⊢
  cases levels with
  | zero => cases done
  | succ fewer => exact chain_links done links

theorem expression_gets {ends : List Char → Prop} (reads : Rereads ends (.fresh cursor) (disjunction settings levels) text tree)
    (fits : ends tail) (limit : Nat) :
    Gets (settings.withDepth limit) .rule settings.maxDepth (disjunction (settings.withDepth limit) levels)
      (At (text ++ tail)) tree (At tail) := by
  intro state ⟨scope, on⟩ enough
  obtain ⟨-, moved, ran, there⟩ := reads.read tail state.cursor fits on
  have room : settings.maxDepth + state.depth ≤ limit := by rwa [Nat.add_comm]
  have S := @Extension.simulation 0 state.depth settings limit room
  have extended := (Expression.related S.toSimulation.wording levels levels (.inl rfl)).disjunction (.fresh state.cursor)
  rw [show disjunction settings levels (.fresh state.cursor) = _ from ran] at extended
  have deeper := disjunction_links (show disjunction _ levels _ = _ from extended) state.links
  simp only [ParseState.shift, Cursor.shift_zero, ParseState.fresh, Nat.zero_add, ← scope] at deeper
  exact ⟨_, deeper, ⟨scope, there⟩, rfl, rfl, fun _ => rfl⟩

structure Starts (text : List Char) (lexeme : Lexeme) (tail : List Char) : Prop where
  scans : Scans text [lexeme] tail
  next : Scannable tail

namespace Starts

variable {lexeme : Lexeme} {word : String} {scope : List String}

theorem scannable (starts : Starts text lexeme tail) : Scannable text := scannable_of_scans starts.scans starts.next

theorem spans (starts : Starts text lexeme tail) (on : cursor.Begins text) :
    ∃ moved, cursor.Spans [lexeme] moved ∧ moved.Begins tail := Cursor.begins_spans on starts.scans starts.next

theorem sees (starts : Starts text lexeme tail) (holds : At text scope cursor) : cursor.token.lexeme = lexeme := by
  obtain ⟨moved, spans, -⟩ := starts.spans holds.2
  exact (Cursor.spans_cons spans).1

theorem moves (starts : Starts text lexeme tail) (holds : At text scope cursor) :
    ∃ moved, Cursor.advance cursor = .ok () moved ∧ At tail scope moved := by
  obtain ⟨moved, spans, there⟩ := starts.spans holds.2
  obtain ⟨-, between, advanced, last⟩ := Cursor.spans_cons spans
  obtain rfl := Cursor.spans_nil last
  exact ⟨moved, advanced, holds.1, there⟩

theorem behind_blank (starts : Starts text lexeme tail) : Starts (' ' :: text) lexeme tail :=
  ⟨scans_gap (List.forall_mem_singleton.mpr rfl) starts.scans (List.cons_ne_nil _ _), starts.next⟩

theorem mark {c : Char} {kind : TokenKind} (visible : Text.isBlank c = false) (found : punctuation? c = some kind)
    (going : kind ≠ .finish) (next : Scannable tail) : Starts (c :: tail) ⟨kind, String.ofList [c]⟩ tail :=
  ⟨fronted_mark visible found going tail trivial, next⟩

theorem plain_word (plain : isPlainWord word) (parted : Parted tail) (next : Scannable tail) :
    Starts (word.toList ++ tail) ⟨.identifier, word⟩ tail := ⟨fronted_plain_word plain tail parted, next⟩

theorem clause {lexeme' : Lexeme} (plain : isPlainWord word) (starts : Starts text lexeme' tail) :
    Starts (clause word text) ⟨.identifier, word⟩ (' ' :: text) :=
  (plain_word plain (parted_mark (by decide) _) starts.behind_blank.scannable).behind_blank

theorem name (scanned : Scanned ⟨.identifier, word⟩) (parted : Parted tail) (next : Scannable tail) :
    Starts (word.toList ++ tail) ⟨.identifier, word⟩ tail := ⟨fronted_name scanned rfl tail parted, next⟩

end Starts

section

variable {part : Part} {count : Nat} {lexeme : Lexeme} {word keyword : String}

theorem finds_keyword {seen : Bool} (starts : Starts text lexeme tail) (found : lexeme.isKeyword settings keyword = seen) :
    Finds (atKeyword settings.ignoreCase keyword) (At text) seen :=
  finds_of_token (f := fun token => token.lexeme.isKeyword settings keyword) (fun _ => rfl) fun _ _ holds => by
    rw [starts.sees holds, found]

theorem finds_no_keyword (keyword : String) : Finds (atKeyword settings.ignoreCase keyword) (At []) false := by
  refine finds_of_token (f := fun token => token.lexeme.isKeyword settings keyword) (fun _ => rfl) fun _ _ holds => ?_
  refine Bool.eq_false_iff.mpr fun found => ?_
  cases (keyword_word found).symm.trans (Cursor.begins_nil holds.2)

theorem gets_keyword (starts : Starts text ⟨.identifier, keyword⟩ tail) :
    Gets settings part count (expectKeyword settings.ignoreCase keyword) (At text) () (At tail) :=
  gets_look (finds_keyword starts (keyword_spelled settings.ignoreCase keyword)) (gets_step fun _ _ => starts.moves)

theorem gets_identifier (starts : Starts text ⟨.identifier, word⟩ tail) (description : String) :
    Gets settings part count (identifier description) (At text) word (At tail) := by
  refine gets_current fun _ cursor holds => ?_
  obtain ⟨kind, spelling⟩ := Lexeme.mk.inj (starts.sees holds)
  rw [if_pos kind, spelling]
  exact gets_advance (fun _ _ => starts.moves) (gets_pure word)

theorem gets_dotted_name (starts : Starts text lexeme tail) (named : lexeme.isName)
    (stops : ∀ moved : Cursor, moved.Begins tail → moved.token.kind ≠ .dot) :
    Gets settings part count (dottedName false) (At text) lexeme.text (At tail) := by
  intro state holds _
  obtain ⟨moved, spans, there⟩ := starts.spans holds.2
  refine ⟨{ state with cursor := moved }, ?_, ⟨holds.1, there⟩, kept_cursor moved (kept_same _ _)⟩
  unfold dottedName move
  rw [Cursor.dotted_name_complete (.single named) spans (stops moved there)]

theorem gets_mark {kind : TokenKind} (starts : Starts text lexeme tail) (found : lexeme.kind = kind) (description : String) :
    Gets settings part count (expect kind description) (At text) () (At tail) :=
  gets_expect (fun _ _ holds => (congrArg Lexeme.kind (starts.sees holds)).trans found) fun _ _ => starts.moves

theorem gets_end : Gets settings part count expectEnd (At []) () (At []) :=
  gets_current fun _ cursor holds => by
    rw [if_pos (Cursor.begins_nil holds.2)]
    exact gets_pure ()

theorem gets_single {α : Type} {p : Parse α} {separator : TokenKind} {value : α} {here there : List String → Cursor → Prop}
    (gets : Gets settings .rule count p here value there)
    (stops : ∀ scope cursor, there scope cursor → cursor.token.kind ≠ separator) :
    Gets settings .rule count (sepBy separator p) here [value] there := by
  refine gets_bind gets fun state holds _ => ⟨state, ?_, holds, kept_same _ _⟩
  exact (bind_done rfl).trans (bind_done (separated_stops _ (stops _ _ holds)))

end

theorem parted_nil : Parted [] := parted_of_delimited fun _ => nofun

theorem ends_at_finish : EndsText settings [] :=
  ⟨fun _ => nofun, scannable_nil, fun _ on => ends_expression_of_kind (Cursor.begins_nil on) (by decide)⟩

theorem ends_at_parenthesis (tail : List Char) : EndsText settings (')' :: tail) where
  delimited := delimited_mark rfl tail
  scannable := ⟨_, _, _, scan_mark rfl rfl tail⟩
  ends _ on := ends_expression_of_kind (Cursor.begins_mark on rfl rfl).2.2 (by decide)

def hostWords : List String := ["asc", "desc", "as", "with"]

theorem ends_at_word {word : String} (bare : ∀ operator ∈ settings.customOperators, settings.matchesKeyword word operator = false)
    (listed : word ∈ hostWords) (starts : Starts (' ' :: text) ⟨.identifier, word⟩ tail) :
    EndsText settings (' ' :: text) := by
  have separate : ∀ word ∈ hostWords, (∀ level < 5, apart (keywordsAt level) [word]) ∧ Text.fold word ≠ Text.fold "in" := by
    decide
  obtain ⟨loose, other⟩ := separate word listed
  have unknown : BinaryOperator.ofCustom? settings word = none := by
    rw [BinaryOperator.ofCustom?, List.find?_eq_none.mpr fun operator member => by rw [bare operator member]; decide]
    rfl
  refine ⟨delimited_mark (by decide) text, starts.scannable, fun moved on => ?_⟩
  obtain ⟨_, spans, -⟩ := starts.spans on
  rw [(Cursor.spans_cons spans).1]
  exact ends_expression_of_word unknown loose other

namespace Order

variable {part : Part} {count : Nat}

theorem direction_none : Gets settings part count (direction settings) (At []) .ascending (At []) :=
  gets_look (finds_no_keyword "asc") (gets_look (finds_no_keyword "desc") (gets_pure _))

theorem direction_starts (direction : Direction) :
    Starts (' ' :: direction.word.toList) ⟨.identifier, direction.word⟩ [] := by
  have plain : isPlainWord direction.word := by cases direction <;> decide
  have starts := (Starts.plain_word plain parted_nil scannable_nil).behind_blank
  rwa [List.append_nil] at starts

theorem direction_gets (direction : Direction) :
    Gets settings part count (Order.direction settings) (At (' ' :: direction.word.toList)) direction (At []) := by
  have starts := direction_starts direction
  cases direction with
  | ascending =>
      refine gets_look (finds_keyword starts (keyword_spelled settings.ignoreCase "asc")) ?_
      exact gets_advance (fun _ _ => starts.moves) (gets_pure _)
  | descending =>
      have other : Text.sameWord settings.ignoreCase "desc" "asc" = false := by cases settings.ignoreCase <;> decide
      refine gets_look (finds_keyword starts other) ?_
      refine gets_look (finds_keyword starts (keyword_spelled settings.ignoreCase "desc")) ?_
      exact gets_advance (fun _ _ => starts.moves) (gets_pure _)

end Order

section

variable {part : Part} {count : Nat} {name word : String} {lexeme : Lexeme}

theorem Compute.naming_gets (named : Starts (name.toList ++ tail) ⟨.identifier, name⟩ tail) :
    Gets settings part count (naming settings) (At (clause "as" (name.toList ++ tail))) name (At tail) :=
  gets_bind (gets_keyword (.clause (by decide) named)) (gets_identifier named.behind_blank "alias")

theorem Apply.method_gets {expression : Expr} (plain : isPlainWord word) (starts : Starts (' ' :: text) lexeme tail)
    (stops : lexeme.kind ≠ .dot) :
    Gets settings part count (method settings expression) (At (clause "with" (word.toList ++ ' ' :: text)))
      (.ofName word) (At (' ' :: text)) := by
  have worded : Starts (word.toList ++ ' ' :: text) ⟨.identifier, word⟩ (' ' :: text) :=
    .plain_word plain (parted_mark (by decide) _) starts.scannable
  have keyword : Starts _ ⟨.identifier, "with"⟩ _ := .clause (by decide) worded
  refine gets_look (finds_keyword keyword (keyword_spelled settings.ignoreCase "with")) ?_
  refine gets_advance (fun _ _ => keyword.moves) (gets_map (gets_dotted_name worded.behind_blank rfl fun moved on => ?_))
  obtain ⟨_, spans, -⟩ := starts.spans on
  have lexeme : moved.token.lexeme = _ := (Cursor.spans_cons spans).1
  exact fun dot => stops ((congrArg Lexeme.kind lexeme).symm.trans dot)

end

-- Custom operators that are spelled as none of the words behind expressions.
def Settings.Reserves (settings : Settings) : Prop :=
  ∀ operator ∈ settings.customOperators, ∀ word ∈ hostWords, settings.matchesKeyword word operator = false

theorem ends_at_clause {word : String} {lexeme : Lexeme} (reserves : settings.Reserves)
    (listed : word ∈ hostWords) (starts : Starts text lexeme tail) : EndsText settings (clause word text) := by
  have plain : ∀ word ∈ hostWords, isPlainWord word := by decide
  exact ends_at_word (fun operator member => reserves operator member word listed) listed (.clause (plain word listed) starts)

section

variable (limit : Nat) (reads : Rereads (EndsText settings) (.fresh cursor) (disjunction settings levels) text tree)
variable {name : String}

include reads

theorem Order.item_gets {tail' : List Char} {direction : Direction} (ends : EndsText settings tail)
    (directed : Gets (settings.withDepth limit) .rule settings.maxDepth (Order.direction (settings.withDepth limit)) (At tail)
      direction (At tail')) :
    Gets (settings.withDepth limit) .rule settings.maxDepth (item (settings.withDepth limit) levels) (At (text ++ tail))
      ⟨tree, direction⟩ (At tail') :=
  gets_bind (expression_gets reads ends limit) (gets_map directed)

theorem Compute.item_gets (reserves : settings.Reserves) (named : Starts (name.toList ++ tail) ⟨.identifier, name⟩ tail) :
    Gets (settings.withDepth limit) .rule settings.maxDepth (item (settings.withDepth limit) levels)
      (At (text ++ clause "as" (name.toList ++ tail))) ⟨tree, name⟩ (At tail) :=
  gets_bind (expression_gets reads (ends_at_clause reserves (by decide) named) limit) (gets_map (naming_gets named))

theorem Apply.aggregate_gets {method : String} (plain : isPlainWord method) (reserves : settings.Reserves)
    (named : Starts (name.toList ++ tail) ⟨.identifier, name⟩ tail) :
    Gets (settings.withDepth limit) .rule settings.maxDepth (aggregate (settings.withDepth limit) levels)
      (At (text ++ clause "with" (method.toList ++ clause "as" (name.toList ++ tail)))) ⟨tree, .ofName method, name⟩
      (At tail) := by
  have naming : Starts (clause "as" (name.toList ++ tail)) ⟨.identifier, "as"⟩ _ := .clause (by decide) named
  have worded : Starts (method.toList ++ clause "as" (name.toList ++ tail)) ⟨.identifier, method⟩ _ :=
    .plain_word plain (parted_mark (by decide) _) naming.scannable
  refine gets_bind (expression_gets reads (ends_at_clause reserves (by decide) worded) limit) ?_
  exact gets_bind (method_gets plain naming (by decide)) (gets_map (Compute.naming_gets named))

end

theorem other_word {word keyword : String} (differ : Text.fold word ≠ Text.fold keyword) :
    ¬ Lexeme.isKeyword settings keyword ⟨.identifier, word⟩ := fun same => differ (same_word_fold same)

namespace Apply

section

variable {pipeline : Parse (List Transformation)}

theorem body_aggregate : bodyAt settings levels pipeline ⟨.identifier, "aggregate"⟩ = some (aggregates settings levels) :=
  if_pos (keyword_spelled settings.ignoreCase "aggregate")

theorem body_filter : bodyAt settings levels pipeline ⟨.identifier, "filter"⟩ = some (filter settings levels) := by
  rw [bodyAt, if_neg (other_word (by decide)), if_neg (other_word (by decide))]
  exact if_pos (keyword_spelled settings.ignoreCase "filter")

theorem body_compute : bodyAt settings levels pipeline ⟨.identifier, "compute"⟩ = some (compute settings levels) := by
  rw [bodyAt, if_neg (other_word (by decide)), if_neg (other_word (by decide)), if_neg (other_word (by decide))]
  exact if_pos (keyword_spelled settings.ignoreCase "compute")

end

variable {count : Nat} {body : Parse Transformation} {word : String} {value : Transformation}

theorem parenthesized_gets (plain : isPlainWord word) (next : Scannable text)
    (inner : Gets settings .rule count body (At text) value (At [')'])) :
    Gets settings .rule count (parenthesized body) (At (word.toList ++ '(' :: text)) value (At []) := by
  have opens : Starts ('(' :: text) ⟨.openParen, _⟩ text := .mark rfl rfl (by decide) next
  have closes : Starts [')'] ⟨.closeParen, _⟩ [] := .mark rfl rfl (by decide) scannable_nil
  have worded : Starts (word.toList ++ '(' :: text) ⟨.identifier, word⟩ ('(' :: text) :=
    .plain_word plain (parted_mark (by decide) _) opens.scannable
  refine gets_advance (fun _ _ => worded.moves) (gets_bind (gets_mark opens rfl _) (gets_bind inner ?_))
  exact gets_bind (gets_mark closes rfl _) (gets_pure value)

theorem transformation_gets (plain : isPlainWord word) (next : Scannable text)
    (names : bodyAt settings levels (sepBy .slash (transformation settings levels)) ⟨.identifier, word⟩ = some body)
    (inner : Gets settings .rule count body (At text) value (At [')'])) :
    Gets settings .rule (count + 1) (transformation settings (levels + 1)) (At (word.toList ++ '(' :: text)) value (At []) := by
  refine gets_recurse fun state holds enough => ?_
  have worded : Starts (word.toList ++ '(' :: text) ⟨.identifier, word⟩ ('(' :: text) :=
    .plain_word plain (parted_mark (by decide) _) ⟨_, _, _, scan_mark rfl rfl text⟩
  rw [transformation_at, worded.sees holds, names]
  exact parenthesized_gets plain next inner state holds enough

end Apply

theorem parse_of_item {α : Type} {option : QueryOption} {make : List α → ParsedOption} {separator : TokenKind} {p : Parse α}
    {value : α} {written : String} (plain : option.dialect = .expression)
    (grammar : option.grammar settings settings.maxDepth = (do return make (← entire separator p)))
    (separates : separator ≠ .finish) (next : Scannable written.toList)
    (gets : Gets settings .rule settings.maxDepth p (At written.toList) value (At [])) :
    parse settings option written = .ok (make [value]) := by
  have stops : ∀ scope cursor, At [] scope cursor → cursor.token.kind ≠ separator := fun _ _ holds same =>
    separates (same.symm.trans (Cursor.begins_nil holds.2))
  have whole : Gets settings .rule settings.maxDepth (entire separator p) (At written.toList) [value] (At []) :=
    gets_bind (gets_single gets stops) (gets_bind gets_end (gets_pure _))
  refine parse_of_entire plain grammar next fun cursor on => ?_
  obtain ⟨after, ran, -, kept⟩ := whole (.fresh cursor) ⟨rfl, on⟩ (Nat.zero_add _).le
  rw [kept_moves kept] at ran
  exact ⟨after.cursor, ran⟩

theorem disjunction_of_filter {written : String} {parsed : ParsedOption} (accepted : parse settings .filter written = .ok parsed) :
    ∃ cursor tree after, cursor.Begins written.toList ∧
      disjunction settings settings.maxDepth (.fresh cursor) = .ok tree after ∧ after.cursor.token.kind = .finish ∧
      parsed = .filter tree := by
  obtain ⟨cursor, _, on, done⟩ := grammar_of_parse rfl accepted
  obtain ⟨_, _, done, ⟨⟩⟩ := bind_ok done
  obtain ⟨_, _, ran, done⟩ := bind_ok done
  obtain ⟨_, _, ended, ⟨⟩⟩ := bind_ok done
  obtain ⟨rfl, finish⟩ := expect_end_ok ended
  exact ⟨cursor, _, _, on, ran, finish, rfl⟩

theorem filter_rereads {written : String} (accepted : parse settings .filter written = .ok (.filter tree)) :
    ∃ cursor, Rereads (EndsText settings) (.fresh cursor) (disjunction settings settings.maxDepth) written.toList tree := by
  obtain ⟨cursor, _, _, on, ran, finish, ⟨⟩⟩ := disjunction_of_filter accepted
  exact ⟨cursor, expression_rereads ran on finish⟩

theorem scanned_of_tokenize {name : String} {kind : TokenKind}
    (named : tokenize name .expression 0 = .ok [⟨kind, name, 0⟩]) : Scanned ⟨kind, name⟩ :=
  spelled_scanned (Cursor.spelled_of_tokens ⟨rfl, rfl⟩ (Nat.lt_succ_self _) named) _ List.mem_cons_self

theorem order_hosted {written : String} {direction : Direction}
    (reads : Rereads (EndsText settings) (.fresh cursor) (disjunction settings settings.maxDepth) text tree)
    (ends : EndsText settings tail) (same : written.toList = text ++ tail)
    (directed : Gets settings .rule settings.maxDepth (Order.direction settings) (At tail) direction (At [])) :
    parse settings .orderBy written = .ok (.orderBy [⟨tree, direction⟩]) := by
  refine parse_of_item rfl rfl (by decide) ?_ ?_
  · rw [same]
    exact reads.scannable tail ends
  · rw [same]
    exact Order.item_gets settings.maxDepth reads ends directed

theorem compute_hosted {written name : String} (reserves : settings.Reserves) (scanned : Scanned ⟨.identifier, name⟩)
    (reads : Rereads (EndsText settings) (.fresh cursor) (disjunction settings settings.maxDepth) text tree)
    (same : written.toList = text ++ clause "as" (name.toList ++ [])) :
    parse settings .compute written = .ok (.compute [⟨tree, name⟩]) := by
  have named := Starts.name scanned parted_nil scannable_nil
  refine parse_of_item rfl rfl (by decide) ?_ ?_
  · rw [same]
    exact reads.scannable _ (ends_at_clause reserves (by decide) named)
  · rw [same]
    exact Compute.item_gets settings.maxDepth reads reserves named

theorem transformation_hosted {written word : String} {body : Parse Transformation} {value : Transformation}
    (plain : isPlainWord word) (next : Scannable text) (same : written.toList = word.toList ++ '(' :: text)
    (names : Apply.bodyAt (settings.withDepth (settings.maxDepth + 1)) settings.maxDepth
      (sepBy .slash (Apply.transformation (settings.withDepth (settings.maxDepth + 1)) settings.maxDepth)) ⟨.identifier, word⟩ =
        some body)
    (inner : Gets (settings.withDepth (settings.maxDepth + 1)) .rule settings.maxDepth body (At text) value (At [')'])) :
    parse (settings.withDepth (settings.maxDepth + 1)) .apply written = .ok (.apply [value]) := by
  refine parse_of_item rfl rfl (by decide) ?_ ?_
  · rw [same]
    exact (Starts.plain_word plain (parted_mark (by decide) _) ⟨_, _, _, scan_mark rfl rfl text⟩).scannable
  · rw [same]
    exact Apply.transformation_gets plain next names inner

theorem comma_stops (scope : List String) (cursor : Cursor) (holds : At [')'] scope cursor) : cursor.token.kind ≠ .comma := by
  rw [(Cursor.begins_mark holds.2 rfl rfl).2.2]
  decide

-- Whatever a filter reads is read the same where an expression stands in another option; in the parentheses of
-- a transformation it takes one level more.
theorem filter_hosted (settings : Settings) {written name : String} {tree : Expr} (reserves : settings.Reserves)
    (accepted : parse settings .filter written = .ok (.filter tree))
    (named : tokenize name .expression 0 = .ok [⟨.identifier, name, 0⟩]) :
    parse settings .orderBy written = .ok (.orderBy [⟨tree, .ascending⟩]) ∧
      parse settings .orderBy (written ++ " asc") = .ok (.orderBy [⟨tree, .ascending⟩]) ∧
      parse settings .orderBy (written ++ " desc") = .ok (.orderBy [⟨tree, .descending⟩]) ∧
      parse settings .compute (written ++ " as " ++ name) = .ok (.compute [⟨tree, name⟩]) ∧
      parse (settings.withDepth (settings.maxDepth + 1)) .apply ("filter(" ++ written ++ ")") = .ok (.apply [.filter tree]) ∧
      parse (settings.withDepth (settings.maxDepth + 1)) .apply ("compute(" ++ written ++ " as " ++ name ++ ")") =
        .ok (.apply [.compute [⟨tree, name⟩]]) ∧
      parse (settings.withDepth (settings.maxDepth + 1)) .apply ("aggregate(" ++ written ++ " with sum as " ++ name ++ ")") =
        .ok (.apply [.aggregate [⟨tree, .sum, name⟩]]) := by
  obtain ⟨cursor, reads⟩ := filter_rereads accepted
  have scanned := scanned_of_tokenize named
  have closing : EndsText settings [')'] := ends_at_parenthesis []
  have aliased : Starts (name.toList ++ [')']) ⟨.identifier, name⟩ [')'] :=
    .name scanned (parted_mark (by decide) []) closing.scannable
  have keyed (direction : Direction) : EndsText settings (' ' :: direction.word.toList) := by
    have listed : direction.word ∈ hostWords := by cases direction <;> decide
    exact ends_at_word (fun operator member => reserves operator member _ listed) listed (Order.direction_starts direction)
  have filtered := gets_map (f := Transformation.filter) (expression_gets reads closing (settings.maxDepth + 1))
  have computed := gets_map (f := Transformation.compute)
    (gets_single (Compute.item_gets (settings.maxDepth + 1) reads reserves aliased) comma_stops)
  have aggregated := gets_map (f := Transformation.aggregate)
    (gets_single (Apply.aggregate_gets (settings.maxDepth + 1) reads (show isPlainWord "sum" by decide) reserves aliased)
      comma_stops)
  -- The texts behind the expression there, up to which it goes on.
  have named := ends_at_clause reserves (show "as" ∈ hostWords by decide) aliased
  have summed := ends_at_clause reserves (show "with" ∈ hostWords by decide)
    (Starts.plain_word (show isPlainWord "sum" by decide) (parted_mark (by decide) _) named.scannable)
  refine ⟨order_hosted reads ends_at_finish (List.append_nil _).symm Order.direction_none,
    order_hosted reads (keyed .ascending) String.toList_append (Order.direction_gets .ascending),
    order_hosted reads (keyed .descending) String.toList_append (Order.direction_gets .descending),
    compute_hosted reserves scanned reads (by simp [clause]), ?_, ?_, ?_⟩
  · exact transformation_hosted (by decide) (reads.scannable _ closing) (by simp) Apply.body_filter filtered
  · exact transformation_hosted (by decide) (reads.scannable _ named) (by simp [clause]) Apply.body_compute computed
  · exact transformation_hosted (by decide) (reads.scannable _ summed) (by simp [clause]) Apply.body_aggregate aggregated

theorem filter_hosted_with_operator :
    let settings : Settings := { maxDepth := 9, ignoreCase := true, customOperators := ["like"] }
    let tree : Expr := .binary (.custom "like") (.endPath "a" none) (.endPath "b" none)
    settings.Reserves ∧ parse settings .filter "a Like b" = .ok (.filter tree) ∧
      tokenize "total" .expression 0 = .ok [⟨.identifier, "total", 0⟩] ∧
      parse settings .orderBy "a Like b desc" = .ok (.orderBy [⟨tree, .descending⟩]) ∧
      parse settings .apply "filter(a Like b)" = .error (.depthExceeded 9) ∧
      parse (settings.withDepth 10) .apply "filter(a Like b)" = .ok (.apply [.filter tree]) ∧
      parse (settings.withDepth 10) .apply "aggregate(a Like b with sum as total)" =
        .ok (.apply [.aggregate [⟨tree, .sum, "total"⟩]]) := by
  intro settings tree
  have reserves : settings.Reserves := by
    unfold Settings.Reserves
    decide
  have accepted : parse settings .filter "a Like b" = .ok (.filter tree) := by decide +kernel
  have named : tokenize "total" .expression 0 = .ok [⟨.identifier, "total", 0⟩] := by decide +kernel
  obtain ⟨-, -, descending, -, filtered, -, aggregated⟩ := filter_hosted settings reserves accepted named
  exact ⟨reserves, accepted, named, descending, by decide +kernel, filtered, aggregated⟩

end QueryOptions
