import QueryOptions.Proofs.Levels.Operand
import QueryOptions.Proofs.Recession
import QueryOptions.Proofs.Search.Thinned
import QueryOptions.Proofs.Threshold

set_option autoImplicit false

namespace QueryOptions

open Parse

-- The levels that a pair of parentheses takes around all there is of an option.
def QueryOption.groupLevels? : QueryOption → Option Nat
  | .filter => some 7
  | .search => some 4
  | _ => none

def enclosed (text : String) : String := "(" ++ text ++ ")"

def enclosedTimes (text : String) : Nat → String
  | 0 => text
  | count + 1 => enclosed (enclosedTimes text count)

theorem enclosed_list (text : String) : (enclosed text).toList = '(' :: (text.toList ++ [')']) := by
  simp only [enclosed, String.toList_append]
  rfl

theorem accepted_or_exceeded {settings : Settings} {option : QueryOption} {text : String} {parsed : ParsedOption}
    (accepted : parse settings option text = .ok parsed) (limit : Nat) :
    parse (settings.withDepth limit) option text = .ok parsed ∨
      parse (settings.withDepth limit) option text = .error (.depthExceeded limit) := by
  obtain ⟨threshold, outcome, -, -, at_limit⟩ := parse_threshold settings option text
  have own : parse settings option text = outcome := by
    by_cases within : threshold ≤ settings.maxDepth
    · exact (at_limit settings.maxDepth).1 within
    · have exceeded := (at_limit settings.maxDepth).2 (Nat.lt_of_not_le within)
      cases accepted.symm.trans exceeded
  by_cases within : threshold ≤ limit
  · exact .inl (((at_limit limit).1 within).trans (own.symm.trans accepted))
  · exact .inr ((at_limit limit).2 (Nat.lt_of_not_le within))

section

open Expression

variable {settings : Settings} {levels limit : Nat} {tree : Expr} {text : String} {name : String}
variable {state after : ParseState} {cursor moved : Cursor}

-- The chains of an expression leave seven levels less for what is inside its first operand.
theorem operand_of_disjunction (done : disjunction settings levels state = .ok tree after)
    (bare : prefixAt settings state.cursor.token.lexeme = none) :
    ∃ fewer first before, levels = fewer + 7 ∧
      operand (disjunction settings fewer) (path settings fewer) ⟨state.cursor, state.scope, state.depth + 7, 0⟩ =
        .ok first before := by
  replace done : rule settings 0 levels state = .ok tree after := done
  obtain ⟨fewer, first, last, rfl, ran⟩ := prefixed_of_rule done (show 0 + 5 = 5 from rfl)
  obtain _ | fewer := fewer
  · cases ran
  rw [prefixed_at, show prefixAt settings _ = none from bare] at ran
  obtain _ | fewer := fewer
  · cases ran
  obtain ⟨before, ran, -⟩ := recurse_ok (show recurse settings 1 _ _ = _ from ran)
  exact ⟨fewer, first, before, rfl, ran⟩

theorem group_of_disjunction (done : disjunction settings levels state = .ok tree after)
    (opens : state.cursor.token.kind = .openParen) :
    ∃ fewer moved inner between, levels = fewer + 7 ∧ Cursor.advance state.cursor = .ok () moved ∧
      disjunction settings fewer ⟨moved, state.scope, state.depth + 7, 0⟩ = .ok inner between ∧
      between.cursor.token.kind = .closeParen := by
  obtain ⟨fewer, _, _, rfl, ran⟩ := operand_of_disjunction done (by simp [prefixAt, Lexeme.isKeyword, Token.lexeme, opens])
  replace ran := (congrFun (if_pos opens) _).symm.trans ran
  obtain ⟨_, ready, advanced, ran⟩ := bind_ok ran
  obtain ⟨moved, stepped, rfl⟩ := advance_ok advanced
  obtain ⟨inner, between, ran, closed⟩ := bind_ok ran
  obtain ⟨_, _, closes, -⟩ := bind_ok closed
  exact ⟨fewer, moved, inner, between, rfl, stepped, ran, (expect_ok closes).1⟩

theorem operand_path {inner route : Parse Expr} (word : state.cursor.token.kind = .identifier) :
    operand inner route state = route state := by
  change (if state.cursor.token.kind = .openParen then _ else _ : Parse Expr) state = _
  rw [if_neg (by rw [word]; decide), if_neg (by rw [word]; decide), if_neg (by rw [word]; decide), if_pos word]

theorem begins_enclosed {tail : List Char} (on : cursor.Begins ('(' :: tail)) (advanced : Cursor.advance cursor = .ok () moved) :
    cursor.token.kind = .openParen ∧ moved.Begins tail := by
  obtain ⟨plain, rest, opens⟩ := Cursor.begins_mark on rfl rfl
  exact ⟨opens, cursor, plain, rest, advanced⟩

theorem filter_enclosed (accepted : parse settings .filter text = .ok (.filter tree)) :
    parse (settings.withDepth (settings.maxDepth + 7)) .filter (enclosed text) = .ok (.filter tree) := by
  obtain ⟨cursor, reads⟩ := filter_rereads accepted
  have ends : EndsText settings [')'] := ends_at_parenthesis []
  have next := reads.scannable [')'] ends
  have opens : Starts ('(' :: (text.toList ++ [')'])) ⟨.openParen, _⟩ _ := .mark rfl rfl (by decide) next
  have group := gets_group next scannable_nil (expression_gets reads ends (settings.maxDepth + 7))
  refine filter_of_gets (by rw [enclosed_list]; exact opens.scannable) ?_
  rw [enclosed_list]
  refine gets_whole group (fun scope cursor holds => ?_) fun scope cursor holds => stops_at_end holds.2
  rw [opens.sees holds]
  simp [prefixAt, Lexeme.isKeyword]

theorem disjunction_within (done : disjunction settings settings.maxDepth (.fresh cursor) = .ok tree (.fresh moved))
    (le : settings.maxDepth ≤ limit) :
    disjunction (settings.withDepth limit) limit (.fresh cursor) = .ok tree (.fresh moved) := by
  have S := @Extension.simulation 0 0 settings limit le
  have extended := (Expression.related S.toSimulation.wording settings.maxDepth limit (Extension.leaves le)).disjunction
    (.fresh cursor)
  rw [done] at extended
  replace extended : disjunction (settings.withDepth limit) limit _ = .ok tree _ := extended
  simpa only [ParseState.shift, Cursor.shift_zero, ParseState.fresh, Nat.zero_add] using extended

theorem expression_consumes : Consumes ')' .closeParen state (disjunction settings levels) := by
  have ends (lexeme : Lexeme) (kind : lexeme.kind = .closeParen ∨ lexeme.kind = .finish) : EndsExpression settings lexeme :=
    kind.elim (ends_expression_of_kind · (by decide)) (ends_expression_of_kind · (by decide))
  exact consumes_of_replays ⟨rfl, rfl, rfl⟩ (by decide) (replays_disjunction settings levels) neutral_disjunction
    fun x y kind kind' => .inr ⟨ends x kind, ends y kind'⟩

-- What is between the parentheses is read with seven levels less open, and so it is where nothing is around it.
theorem filter_bare (accepted : parse settings .filter text = .ok (.filter tree)) (real : limit + 7 < maxCount)
    {parsed : ParsedOption} (read : parse (settings.withDepth (limit + 7)) .filter (enclosed text) = .ok parsed) :
    parse (settings.withDepth limit) .filter text = .ok (.filter tree) := by
  obtain ⟨cursor, _, _, on, ran, -⟩ := disjunction_of_filter read
  rw [enclosed_list] at on
  obtain ⟨fewer, moved, inner, between, same, advanced, ran, closes⟩ :=
    group_of_disjunction ran (Cursor.begins_mark on rfl rfl).2.2
  obtain rfl : limit = fewer := Nat.add_right_cancel same
  obtain ⟨-, inside⟩ := begins_enclosed on advanced
  -- The same expression from the front on, with the levels there are without the parentheses.
  have S := @Recession.simulation 0 7 limit (settings.withDepth (limit + 7)) ⟨Nat.le_refl _, .inr real⟩
  have recedes := (Expression.related S.toSimulation.wording limit limit (.inl rfl)).disjunction
  obtain ⟨nearer, front, rfl, -⟩ := recedes (.fresh moved) inner between (by
    simpa only [ParseState.shift, Cursor.shift_zero, ParseState.fresh] using ran)
  replace front : disjunction (settings.withDepth limit) limit (.fresh moved) = .ok inner nearer := front
  obtain ⟨place, rfl⟩ : ∃ place, nearer = .fresh place := ⟨_, neutral_after neutral_disjunction front⟩
  -- It is the one that was accepted, as a limit high enough for both shows.
  obtain ⟨_, reads⟩ := filter_rereads accepted
  obtain ⟨-, last, known, there⟩ := reads.read [')'] moved (ends_at_parenthesis []) inside
  have low := @disjunction_within (settings.withDepth limit) (max limit settings.maxDepth) _ _ _ front (le_max_left _ _)
  have high := disjunction_within known (le_max_right limit settings.maxDepth)
  obtain ⟨rfl, ended⟩ := EStateM.Result.ok.inj (low.symm.trans high)
  replace ended : place = last := congrArg ParseState.cursor ended
  replace closes : place.token.kind = .closeParen := closes
  have consumes := @expression_consumes (settings.withDepth limit) limit (.fresh moved)
  obtain ⟨text', tail, consumed⟩ := consumes moved _ inner (.fresh place) inside front (.inl closes)
  have behind : place.Begins tail := consumed.behind
  have alone : tail = [')'] := by
    rcases consumed.ends with rfl | ⟨rest, rfl⟩
    · cases closes.symm.trans (Cursor.begins_nil behind)
    · have rest := (Cursor.begins_mark behind rfl rfl).2.1
      rw [ended, (Cursor.begins_mark there rfl rfl).2.1] at rest
      rw [rest]
  subst alone
  obtain rfl := List.append_cancel_right consumed.split
  have next := consumed.reads.scannable [] (.inl rfl)
  have gets := expression_gets consumed.reads (.inl rfl : EndsEntry ')' []) limit
  rw [List.append_nil] at next gets
  exact filter_of_gets next gets

-- A name takes eight levels, and every pair of parentheses around it takes seven more.
theorem name_needs (names : settings.Names name) {count : Nat} {tail : List Char} (parted : Parted tail) (next : Scannable tail)
    (on : state.cursor.Begins ((enclosedTimes name count).toList ++ tail))
    (done : disjunction settings levels state = .ok tree after) : 7 * count + 8 ≤ levels := by
  induction count generalizing levels state tree after tail with
  | zero =>
      obtain ⟨_, spans, -⟩ := (names.starts parted next).spans on
      have lexeme : state.cursor.token.lexeme = ⟨.identifier, name⟩ := (Cursor.spans_cons spans).1
      obtain ⟨fewer, _, _, rfl, ran⟩ := operand_of_disjunction done (by rw [lexeme, names.bare])
      replace ran := (operand_path (by exact congrArg Lexeme.kind lexeme)).symm.trans ran
      obtain _ | fewer := fewer
      · cases ran
      · omega
  | succ count ih =>
      have split : (enclosedTimes name (count + 1)).toList ++ tail =
          '(' :: ((enclosedTimes name count).toList ++ ')' :: tail) := by
        rw [enclosedTimes, enclosed_list, List.cons_append, List.append_assoc]
        rfl
      rw [split] at on
      obtain ⟨fewer, moved, inner, between, rfl, advanced, ran, -⟩ :=
        group_of_disjunction done (Cursor.begins_mark on rfl rfl).2.2
      have inside := ih (parted_mark (by decide) tail) ⟨_, _, _, scan_mark rfl rfl tail⟩ (begins_enclosed on advanced).2 ran
      omega

theorem name_enclosed (names : settings.Names name) (count : Nat) :
    parse (settings.withDepth (7 * count + 8)) .filter (enclosedTimes name count) = .ok (.filter (.ofName name)) := by
  induction count with
  | zero =>
      have named := names.starts parted_nil scannable_nil
      have single := @gets_name (settings.withDepth 8) 0 [] name named
        (bounds_of_kind (fun _ => Cursor.begins_nil) (by decide))
      have whole := gets_whole single (fun scope cursor holds => by rw [named.sees holds]; exact names.bare)
        fun scope cursor holds => stops_at_end holds.2
      have scannable := named.scannable
      rw [List.append_nil] at whole scannable
      exact filter_of_gets scannable whole
  | succ count ih =>
      have next := filter_enclosed ih
      rwa [show (settings.withDepth (7 * count + 8)).maxDepth + 7 = 7 * (count + 1) + 8 by
        change 7 * count + 8 + 7 = _
        omega] at next

theorem name_price (names : settings.Names name) (count limit : Nat) :
    parse (settings.withDepth limit) .filter (enclosedTimes name count) =
      if 7 * count + 8 ≤ limit then .ok (.filter (.ofName name)) else .error (.depthExceeded limit) := by
  have least := name_enclosed names count
  by_cases enough : 7 * count + 8 ≤ limit
  · rw [if_pos enough, ← least]
    have higher := @parse_with_depth (settings.withDepth (7 * count + 8)) .filter (enclosedTimes name count) limit enough
    exact higher.resolve_left (by rw [least]; nofun)
  · rw [if_neg enough]
    refine (accepted_or_exceeded least limit).resolve_left fun read => enough ?_
    obtain ⟨cursor, _, _, on, ran, -⟩ := disjunction_of_filter read
    have alone : (ParseState.fresh cursor).cursor.Begins ((enclosedTimes name count).toList ++ []) := by
      rwa [List.append_nil]
    exact name_needs (by exact ⟨names.single, names.operand⟩) parted_nil scannable_nil alone ran

end

namespace Cursor

variable {cursor moved : Cursor} {lexemes others own : List Lexeme}

theorem ahead_unique (ahead : cursor.Ahead lexemes) (ahead' : cursor.Ahead others) : lexemes = others := by
  induction lexemes generalizing cursor others with
  | nil => exact (ahead_none ahead' (ahead_finish ahead)).symm
  | cons lexeme lexemes ih =>
      cases others with
      | nil => cases ahead_none ahead (ahead_finish ahead')
      | cons other others =>
          obtain ⟨moved, advanced, there⟩ := ahead_advance ahead
          obtain ⟨moved', advanced', there'⟩ := ahead_advance ahead'
          cases advanced.symm.trans advanced'
          rw [← ahead_token ahead, ← ahead_token ahead', ih there there']

theorem ahead_behind (spans : cursor.Spans own moved) (ahead : cursor.Ahead lexemes) :
    ∃ others, lexemes = own ++ others ∧ moved.Ahead others := by
  induction spans generalizing lexemes with
  | refl => exact ⟨lexemes, rfl, ahead⟩
  | step going advanced _ ih =>
      cases lexemes with
      | nil => exact absurd (ahead_finish ahead) going
      | cons lexeme lexemes =>
          obtain ⟨between, advanced', there⟩ := ahead_advance ahead
          cases advanced.symm.trans advanced'
          obtain ⟨others, rfl, behind⟩ := ih there
          exact ⟨others, by rw [← ahead_token ahead]; rfl, behind⟩

end Cursor

namespace Search

variable {settings : Settings} {levels limit : Nat} {tree : Expr} {text : String} {state after : ParseState}
variable {front back lexemes others : List Lexeme} {closing last : Lexeme}

-- What is in pairs and is followed by one more parenthesis ends before that one.
theorem balanced_cut (inside : Balanced front) (whole : Balanced lexemes) (closes : closing.kind = .closeParen)
    (same : lexemes ++ [last] = front ++ closing :: others) : lexemes = front ∧ others = [] := by
  rcases List.append_eq_append_iff.mp same with ⟨between, rfl, rest⟩ | ⟨between, rfl, rest⟩
  · cases between <;> simp_all
  · cases between with
    | nil => simp_all
    | cons first between =>
        obtain ⟨rfl, -⟩ := List.cons.inj rest
        exact absurd whole (balanced_ends inside closes)

theorem spelled_before {text tail : List Char} (spelled : Spelled .search text front)
    (outside : ∀ d ∈ tail.head?, isWordChar d = false) (behind : Spelled .search tail back) :
    Spelled .search (text ++ tail) (front ++ back) := by
  induction spelled with
  | blank blank => exact spelled_past_blanks (List.dropWhile_eq_nil_iff.mp blank) behind
  | @lexeme text taken rest kind front scans going _ ih =>
      have some : text.dropWhile Text.isBlank ≠ [] := fun none => by
        rw [none] at scans
        cases scans
        exact going rfl
      have again := scan_of_taken (taken_before (taken_of_scan scans going) outside)
      rw [← Expression.drop_while_append some] at again
      exact .lexeme again going ih

theorem spelled_enclosed (spelled : Spelled .search text.toList lexemes) :
    Spelled .search (enclosed text).toList (grouped lexemes) := by
  have nothing : Spelled .search [] [] := .blank rfl
  rw [enclosed_list]
  exact spelled_opening (spelled_before spelled (fun d head => by cases head; decide) (spelled_closing nothing))

theorem search_enclosed (accepted : parse settings .search text = .ok (.search tree)) :
    parse (settings.withDepth (settings.maxDepth + 4)) .search (enclosed text) = .ok (.search tree) := by
  obtain ⟨lexemes, spelled, -, gets⟩ := accepted_echoes accepted
  have inner := gets (settings.withDepth (settings.maxDepth + 4)) lexemes [Search.closing] (thins_refl lexemes) ⟨⟨rfl, rfl⟩, rfl⟩
  have group := disjunction_of_operand closed_nil (single_gets rfl (group_gets inner))
  rw [List.append_nil] at group
  exact search_of_gets (spelled_enclosed spelled) (whole_gets group)

theorem prefixes_bare {p more : Parse Expr} (bare : state.cursor.token.isKeyword true "not" = false) :
    prefixes settings p more state = p state := by
  change (if state.cursor.token.isKeyword true "not" then _ else _ : Parse Expr) state = _
  rw [bare]
  rfl

theorem group_of_disjunction (done : disjunction settings levels state = .ok tree after)
    (opens : state.cursor.token.kind = .openParen) :
    ∃ fewer moved inner between, levels = fewer + 4 ∧ Cursor.advance state.cursor = .ok () moved ∧
      disjunction settings fewer ⟨moved, state.scope, state.depth + 4, 0⟩ = .ok inner between ∧
      between.cursor.token.kind = .closeParen := by
  obtain _ | levels := levels
  · cases done
  obtain ⟨_, ran, -⟩ := chain_ok done
  obtain ⟨_, _, ran, -⟩ := bind_ok ran
  obtain _ | levels := levels
  · cases ran
  obtain ⟨_, ran, -⟩ := chain_ok ran
  obtain ⟨_, _, ran, -⟩ := bind_ok ran
  obtain ⟨_, ran, -⟩ := chain_ok ran
  have bare : state.cursor.token.isKeyword true "not" = false := by simp [Token.isKeyword, opens]
  obtain _ | _ | levels := levels
  · cases ran
  · cases (prefixes_bare (by exact bare)).symm.trans ran
  replace ran := (prefixes_bare (by exact bare)).symm.trans ran
  obtain ⟨_, ran, -⟩ := recurse_ok (show recurse settings 1 _ _ = _ from ran)
  replace ran := (congrFun (if_pos opens) _).symm.trans ran
  obtain ⟨_, ready, advanced, ran⟩ := bind_ok ran
  obtain ⟨moved, stepped, rfl⟩ := advance_ok advanced
  obtain ⟨inner, between, ran, closed⟩ := bind_ok ran
  obtain ⟨_, _, closes, -⟩ := bind_ok closed
  exact ⟨levels, moved, inner, between, rfl, stepped, ran, (expect_ok closes).1⟩

theorem search_bare (accepted : parse settings .search text = .ok (.search tree)) {parsed : ParsedOption}
    (read : parse (settings.withDepth (limit + 4)) .search (enclosed text) = .ok parsed) :
    ∃ tree, parse (settings.withDepth limit) .search text = .ok (.search tree) := by
  obtain ⟨lexemes, spelled, balanced⟩ := accepted_spelled accepted
  have plain : (Cursor.start (enclosed text) .search 0 false).Plain .search := ⟨rfl, rfl⟩
  obtain ⟨first, stepped, here⟩ := Cursor.ahead_of_spelled plain (spelled_enclosed spelled)
  obtain ⟨_, _, ran, -⟩ := disjunction_of_search read stepped
  have opens : first.token.kind = .openParen := congrArg Lexeme.kind (Cursor.ahead_token here)
  obtain ⟨fewer, moved, inner, between, same, advanced, ran, closes⟩ := group_of_disjunction ran opens
  obtain rfl : limit = fewer := Nat.add_right_cancel same
  obtain ⟨moved', advanced', inside⟩ := Cursor.ahead_advance here
  cases advanced.symm.trans advanced'
  -- What is read inside has its parentheses in pairs, so it is all there is up to the last one.
  obtain ⟨front, others, split, behind, gets⟩ :=
    (echoing (settings.withDepth (limit + 4)) (settings.withDepth limit) limit).disjunction _ inner between _ ran inside
  obtain ⟨own, walks, pairs⟩ := (pairing (settings.withDepth (limit + 4)) limit).disjunction _ inner between ran
  obtain ⟨others', split', behind'⟩ := Cursor.ahead_behind walks.spans inside
  obtain rfl := Cursor.ahead_unique behind behind'
  obtain rfl := List.append_cancel_right (split.symm.trans split')
  obtain _ | ⟨last, others⟩ := others
  · cases closes.symm.trans (Cursor.ahead_finish behind)
  have closed : last.kind = .closeParen := (congrArg Lexeme.kind (Cursor.ahead_token behind)).symm.trans closes
  obtain ⟨rfl, rfl⟩ := balanced_cut pairs balanced closed split
  have ends : Closed [last] :=
    ⟨⟨by simp [keywordAhead, closed], by simp [operandAhead, keywordAhead, closed]⟩, by simp [keywordAhead, closed]⟩
  have whole := gets lexemes [] (thins_refl lexemes) (alike_closed ends closed_nil)
  rw [List.append_nil] at whole
  exact ⟨inner, search_of_gets spelled (whole_gets whole)⟩

end Search

section

variable {settings : Settings} {option : QueryOption} {price limit : Nat} {text : String} {parsed : ParsedOption}

theorem priced_cases (priced : option.groupLevels? = some price) (accepted : parse settings option text = .ok parsed) :
    (option = .filter ∧ price = 7 ∧ ∃ tree, parsed = .filter tree) ∨
      (option = .search ∧ price = 4 ∧ ∃ tree, parsed = .search tree) := by
  obtain ⟨_, done⟩ := parser_ok accepted
  obtain ⟨_, _, -, done⟩ := bind_ok done
  cases option with
  | filter =>
      obtain ⟨tree, _, -, ⟨⟩⟩ := bind_ok done
      exact .inl ⟨rfl, (Option.some.inj priced).symm, tree, rfl⟩
  | search =>
      obtain ⟨tree, _, -, ⟨⟩⟩ := bind_ok done
      exact .inr ⟨rfl, (Option.some.inj priced).symm, tree, rfl⟩
  | _ => cases priced

theorem enclosed_accepted (priced : option.groupLevels? = some price) (accepted : parse settings option text = .ok parsed) :
    parse (settings.withDepth (settings.maxDepth + price)) option (enclosed text) = .ok parsed := by
  rcases priced_cases priced accepted with ⟨rfl, rfl, tree, rfl⟩ | ⟨rfl, rfl, tree, rfl⟩
  · exact filter_enclosed accepted
  · exact Search.search_enclosed accepted

theorem bare_accepted (priced : option.groupLevels? = some price) (accepted : parse settings option text = .ok parsed)
    (real : option = .filter → limit + price < maxCount) {other : ParsedOption}
    (read : parse (settings.withDepth (limit + price)) option (enclosed text) = .ok other) :
    ∃ parsed, parse (settings.withDepth limit) option text = .ok parsed := by
  rcases priced_cases priced accepted with ⟨rfl, rfl, tree, rfl⟩ | ⟨rfl, rfl, tree, rfl⟩
  · exact ⟨_, filter_bare accepted (real rfl) read⟩
  · obtain ⟨tree, bare⟩ := Search.search_bare accepted read
    exact ⟨_, bare⟩

theorem enclosed_needs (priced : option.groupLevels? = some price)
    (read : parse settings option (enclosed text) = .ok parsed) : price ≤ settings.maxDepth := by
  rcases priced_cases priced read with ⟨rfl, rfl, -⟩ | ⟨rfl, rfl, -⟩
  · obtain ⟨cursor, _, _, on, ran, -⟩ := disjunction_of_filter read
    rw [enclosed_list] at on
    obtain ⟨fewer, _, _, _, same, -⟩ := group_of_disjunction ran (Cursor.begins_mark on rfl rfl).2.2
    omega
  · have plain : (Cursor.start (enclosed text) .search 0 false).Plain .search := ⟨rfl, rfl⟩
    have scans : Dialect.scan .search ((enclosed text).toList.dropWhile Text.isBlank) =
        .token .openParen ['('] (text.toList ++ [')']) := by
      rw [enclosed_list]
      rfl
    obtain ⟨first, stepped, -, -, lexeme⟩ := Cursor.advance_scans plain scans
    obtain ⟨_, _, ran, -⟩ := Search.disjunction_of_search read stepped
    obtain ⟨fewer, _, _, _, same, -⟩ := Search.group_of_disjunction ran (congrArg Lexeme.kind lexeme)
    omega

-- Parentheses around all of a filter or a search change nothing but the levels it takes, of which they take a fixed
-- number. The greatest limit stands for none, so it does not count as one that is higher by the price of the
-- parentheses, unless the text of a filter is so short that no limit of this height is exceeded.
theorem parentheses_cost (settings : Settings) :
    (∀ option price text parsed, QueryOption.groupLevels? option = some price → parse settings option text = .ok parsed →
      (∀ limit, (option = .filter → limit + price < maxCount ∨ 8 * (Text.byteLength text.toList + 1) + price ≤ maxCount) →
        parse (settings.withDepth limit) option text = .ok parsed ∧
          parse (settings.withDepth (limit + price)) option ("(" ++ text ++ ")") = .ok parsed ∨
        parse (settings.withDepth limit) option text = .error (.depthExceeded limit) ∧
          parse (settings.withDepth (limit + price)) option ("(" ++ text ++ ")") = .error (.depthExceeded (limit + price))) ∧
      ∀ low < price, parse (settings.withDepth low) option ("(" ++ text ++ ")") = .error (.depthExceeded low)) ∧
    ∀ name, settings.Names name → ∀ count limit, parse (settings.withDepth limit) .filter (enclosedTimes name count) =
      if 7 * count + 8 ≤ limit then .ok (.filter (.ofName name)) else .error (.depthExceeded limit) := by
  refine ⟨fun option price text parsed priced accepted => ⟨fun limit real => ?_, fun low less => ?_⟩, fun name => name_price⟩
  · have group := enclosed_accepted priced accepted
    rcases accepted_or_exceeded accepted limit with bare | exceeded
    · exact .inl ⟨bare, @enclosed_accepted (settings.withDepth limit) _ _ _ _ priced bare⟩
    · refine .inr ⟨exceeded, (accepted_or_exceeded group (limit + price)).resolve_left fun read => ?_⟩
      by_cases short : option = .filter ∧ ¬ limit + price < maxCount
      · have room := (real short.1).resolve_left short.2
        have enough : 8 * (Text.byteLength text.toList + 1) ≤ (settings.withDepth limit).maxDepth := by
          change _ ≤ limit
          omega
        exact parse_not_exceeded enough limit exceeded
      · have lower (filters : option = .filter) : limit + price < maxCount :=
          Decidable.not_not.mp fun greatest => short ⟨filters, greatest⟩
        obtain ⟨_, bare⟩ := bare_accepted priced accepted lower read
        cases bare.symm.trans exceeded
  · refine (accepted_or_exceeded (enclosed_accepted priced accepted) low).resolve_left fun read => ?_
    have needs := enclosed_needs priced read
    exact absurd less (Nat.not_lt.mpr needs)

-- At the least limits and one below them: a filter that ends with a parenthesis, a search whose first parenthesis is
-- not closed by its last one, and a name in two pairs.
theorem parentheses_cost_at_limits :
    let filter : ParsedOption := .filter (.binary .equal (.unary .not (.endPath "a" none)) (.endPath "b" none))
    let search : ParsedOption := .search (.binary .or (.term "a") (.binary .and (.term "b") (.term "c")))
    let settings : Settings := { maxDepth := 16 }
    parse settings .filter "not a eq (b)" = .ok filter ∧ parse settings .search "(a) or (b c)" = .ok search ∧
      settings.Names "x" ∧ 16 + 7 < maxCount ∧
      parse (settings.withDepth 23) .filter "(not a eq (b))" = .ok filter ∧
      parse (settings.withDepth 22) .filter "(not a eq (b))" = .error (.depthExceeded 22) ∧
      parse (settings.withDepth 14) .search "((a) or (b c))" = .ok search ∧
      parse (settings.withDepth 13) .search "((a) or (b c))" = .error (.depthExceeded 13) ∧
      parse (settings.withDepth 3) .search "((a) or (b c))" = .error (.depthExceeded 3) ∧
      parse (settings.withDepth 22) .filter "((x))" = .ok (.filter (.endPath "x" none)) ∧
      parse (settings.withDepth 21) .filter "((x))" = .error (.depthExceeded 21) := by
  intro filter search settings
  have filtered : parse settings .filter "not a eq (b)" = .ok filter := by decide +kernel
  have searched : parse settings .search "(a) or (b c)" = .ok search := by decide +kernel
  have names : settings.Names "x" := ⟨by decide +kernel, by decide⟩
  obtain ⟨grouped, named⟩ := parentheses_cost settings
  obtain ⟨filters, -⟩ := grouped .filter 7 "not a eq (b)" filter rfl filtered
  obtain ⟨searches, low⟩ := grouped .search 4 "(a) or (b c)" search rfl searched
  have enough : parse (settings.withDepth 10) .search "(a) or (b c)" = .ok search := by decide +kernel
  have missing : parse (settings.withDepth 15) .filter "not a eq (b)" ≠ .ok filter := by decide +kernel
  have missing' : parse (settings.withDepth 9) .search "(a) or (b c)" ≠ .ok search := by decide +kernel
  have twice : enclosedTimes "x" 2 = "((x))" := by decide
  have tree : Expr.ofName "x" = .endPath "x" none := if_neg (by decide)
  have read := named "x" names 2 22
  have unread := named "x" names 2 21
  rw [twice, if_pos (by decide), tree] at read
  rw [twice, if_neg (by decide)] at unread
  refine ⟨filtered, searched, names, by decide, ?_, ?_, ?_, ?_, low 3 (by decide), read, unread⟩
  · exact ((filters 16 fun _ => .inl (by decide)).resolve_right fun exceeded => by cases exceeded.1.symm.trans filtered).2
  · exact ((filters 15 fun _ => .inl (by decide)).resolve_left fun read => missing read.1).2
  · exact ((searches 10 nofun).resolve_right fun exceeded => by cases exceeded.1.symm.trans enough).2
  · exact ((searches 9 nofun).resolve_left fun read => missing' read.1).2

end

end QueryOptions
