import QueryOptions.Proofs.Nested.Agreement
import QueryOptions.Proofs.Nested.Balance

set_option autoImplicit false

namespace QueryOptions

open Parse

variable {text value tail : List Char} {lexemes front : List Lexeme} {depth : Nat}

namespace Search

theorem crosses_blanks (others : Crosses depth (text.dropWhile Text.isBlank) 0 []) : Crosses depth text 0 [] := by
  have blanks : Crosses depth (text.takeWhile Text.isBlank ++ text.dropWhile Text.isBlank) depth
      (text.dropWhile Text.isBlank) := .of_plain _ fun c member => blank_plain c (Expression.take_while_all _ _ c member)
  rw [List.takeWhile_append_dropWhile] at blanks
  exact blanks.trans others

theorem spelled_crosses (spelled : Spelled .search text lexemes)
    (unquoted : ∀ lexeme ∈ lexemes, Unquoted lexeme.text.toList) (alone : ';' ∉ text)
    (closed : openAfter depth lexemes = some 0) : Crosses depth text 0 [] := by
  induction spelled generalizing depth with
  | blank blank =>
      cases closed
      refine crosses_blanks ?_
      rw [blank]
      exact .refl 0 []
  | @lexeme text taken rest kind lexemes scans going _ ih =>
      refine crosses_blanks ?_
      obtain ⟨here, later⟩ := List.forall_mem_cons.mp unquoted
      have visible : ';' ∉ text.dropWhile Text.isBlank := fun member =>
        alone ((List.dropWhile_suffix _).subset member)
      have reads := taken_of_scan scans going
      generalize text.dropWhile Text.isBlank = text at visible reads
      have behind : ';' ∉ rest := fun member => visible (by rw [← taken_split reads]; exact List.mem_append_right _ member)
      by_cases term : kind.isTerm
      · rw [open_after_term term] at closed
        rw [String.toList_ofList] at here
        exact term_crosses reads term here visible (ih later behind closed)
      · cases reads with
        | opening rest => exact .opening (ih later behind (by rwa [open_after_opening rfl] at closed))
        | closing rest =>
            cases depth with
            | zero =>
                rw [open_after_unopened rfl] at closed
                cases closed
            | succ depth => exact .closing (ih later behind (by rwa [open_after_closing rfl] at closed))
        | phrase => exact absurd rfl term
        | word => exact absurd (term_kind _) term

theorem spelled_ends (spelled : Spelled .search text front)
    (whole : Spelled .search (text ++ ')' :: tail) lexemes) :
    ∃ back, lexemes = front ++ ⟨.closeParen, ")"⟩ :: back := by
  induction spelled generalizing lexemes with
  | @blank text blank =>
      have closes : (text ++ ')' :: tail).dropWhile Text.isBlank = ')' :: tail := by
        rw [List.dropWhile_append, blank]
        rfl
      cases whole with
      | blank blank' =>
          rw [closes] at blank'
          cases blank'
      | lexeme scans' =>
          rw [closes] at scans'
          cases scans'
          exact ⟨_, rfl⟩
  | @lexeme text taken rest kind front scans going _ ih =>
      have some : text.dropWhile Text.isBlank ≠ [] := fun none => by
        rw [none] at scans
        cases scans
        exact going rfl
      have outside : ∀ d ∈ (')' :: tail).head?, isWordChar d = false := by
        rintro d ⟨⟩
        decide
      have again := scan_of_taken (taken_before (taken_of_scan scans going) outside)
      rw [← Expression.drop_while_append some] at again
      cases whole with
      | blank blank' =>
          rw [blank'] at again
          have found : .finish = kind := Except.ok.inj (congrArg Scan.outcome again)
          exact absurd found.symm going
      | lexeme scans' _ others =>
          rw [show Dialect.scan .search _ = _ from again] at scans'
          cases scans'
          obtain ⟨back, rfl⟩ := ih others
          exact ⟨back, rfl⟩

variable {settings : Settings} {levels position : Nat} {state after : ParseState} {text : String} {tree : Expr}

theorem accepted_spelled (accepted : parse settings .search text = .ok (.search tree)) :
    ∃ lexemes, Spelled .search text.toList lexemes ∧ Balanced lexemes := by
  obtain ⟨after, done⟩ := parser_ok accepted
  obtain ⟨_, between, advanced, done⟩ := bind_ok done
  obtain ⟨expr, last, read, done⟩ := bind_ok done
  cases done
  exact whole_balanced ⟨rfl, rfl⟩ ((bind_done advanced).trans read)

theorem within_spelled (done : within text .search position (whole settings levels) state = .ok tree after) :
    ∃ lexemes, Spelled .search text.toList lexemes ∧ Balanced lexemes := by
  rw [within_by_map] at done
  obtain ⟨before, ran, -⟩ := map_state_ok done
  exact whole_balanced ⟨rfl, rfl⟩ ran

end Search

-- Whether the raw scan takes a text for the value of an option, where only the parenthesis
-- after the options follows.
def TakenWhole (value : List Char) : Prop :=
  scanValue ((value ++ [')']).length + 1) 0 (value ++ [')']) = ⟨none, value, [')']⟩

theorem taken_whole_of_crosses (crosses : Crosses 0 value 0 []) : TakenWhole value := by
  have further : Crosses 0 (value ++ [')']) 0 [')'] := crosses.before (by simp) (by simp)
  obtain ⟨taken, scan, split⟩ := scan_value_of_crosses further rfl ⟨_, _, rfl, .inl rfl⟩ _ (Nat.lt_succ_self _)
  obtain rfl : taken = value := List.append_cancel_right split
  exact scan

-- What the scan takes of a value without semicolons, if it finds no fault, is all of it or
-- ends before another parenthesis.
theorem scan_value_taken (alone : ';' ∉ value)
    (fine : (scanValue ((value ++ [')']).length + 1) 0 (value ++ [')'])).fault = none) :
    TakenWhole value ∨
      ∃ tail, value = (scanValue ((value ++ [')']).length + 1) 0 (value ++ [')'])).taken ++ ')' :: tail := by
  obtain ⟨crosses, delimiter⟩ := scan_value_crosses _ 0 (value ++ [')']) (Nat.lt_succ_self _) fine
  obtain ⟨taken, scan, split⟩ := scan_value_of_crosses crosses rfl delimiter _ (Nat.lt_succ_self _)
  obtain ⟨c, after, rest, delimits⟩ := delimiter
  rw [rest] at scan split
  have closes : c = ')' := by
    refine delimits.resolve_right ?_
    rintro rfl
    have member : ';' ∈ value ++ [')'] := split ▸ List.mem_append_right taken List.mem_cons_self
    simp [alone] at member
  subst closes
  rcases List.eq_nil_or_concat after with rfl | ⟨tail, last, rfl⟩
  · obtain rfl : taken = value := List.append_cancel_right split
    exact .inl scan
  · refine .inr ⟨tail, ?_⟩
    rw [scan]
    have longer : (taken ++ ')' :: tail) ++ [last] = value ++ [')'] := by
      rw [← split, List.append_assoc, List.concat_eq_append]
      rfl
    exact (List.append_inj_left' longer rfl).symm

theorem option_value_ok {cursor found : Cursor} {value : String} {position : Nat}
    (cut : Cursor.optionValue cursor = .ok (value, position) found) :
    (scanValue (cursor.rest.length + 1) 0 cursor.rest).fault = none ∧
      value = String.ofList (scanValue (cursor.rest.length + 1) 0 cursor.rest).taken := by
  unfold Cursor.optionValue at cut
  dsimp only at cut
  cases fault : (scanValue (cursor.rest.length + 1) 0 cursor.rest).fault with
  | some error =>
      rw [fault] at cut
      cases cut
  | none =>
      rw [fault] at cut
      dsimp only at cut
      split at cut
      · cases cut
        exact ⟨rfl, rfl⟩
      · cases cut

namespace ItemOption

variable {settings : Settings} {text : String} {tree : Expr}

theorem search_taken_whole (accepted : parse settings .search text = .ok (.search tree)) (alone : ';' ∉ text.toList)
    {others : NestedOptions} {after : ParseState}
    (done : Items.options settings .expand settings.maxDepth (Items.inner settings settings.maxDepth)
      (.fresh (.opened (search.letters ++ '=' :: (text.toList ++ [')'])))) = .ok others after) :
    TakenWhole text.toList := by
  obtain ⟨moved, advanced, ran⟩ := Items.options_ok rfl done
  rw [show Cursor.advance (ParseState.fresh (.opened _)).cursor = _ from search.advance_name _] at advanced
  cases advanced
  obtain ⟨option, options', found, moved, round, -⟩ := Items.options_from_ok (Items.inner_fits _ _) ran
  obtain ⟨named, value, position, name, cut, read⟩ := round.read
  have expected := search.named settings (text.toList ++ [')'])
  obtain rfl : search.onEqual (text.toList ++ [')']) = named :=
    (EStateM.Result.ok.inj (expected.advanced.symm.trans name.advanced)).2
  obtain rfl : search = option :=
    (EStateM.Result.ok.inj ((expected.again [] List.not_mem_nil).symm.trans (name.again [] List.not_mem_nil))).1
  obtain ⟨fine, rfl⟩ := option_value_ok cut
  rcases scan_value_taken alone fine with whole | ⟨tail, longer⟩
  · exact whole
  -- The value would be a search that is part of a longer one, up to a parenthesis of that.
  · obtain ⟨tree', _, searched, -⟩ := bind_ok (p := within _ .search _ (Search.whole _ _)) read
    obtain ⟨front, spelled, balanced⟩ := Search.within_spelled searched
    obtain ⟨lexemes, spelled', balanced'⟩ := Search.accepted_spelled accepted
    rw [String.toList_ofList] at spelled
    rw [longer] at spelled'
    obtain ⟨back, rfl⟩ := Search.spelled_ends spelled spelled'
    exact absurd balanced' (balanced_ends balanced rfl)

theorem read_search {after state : ParseState} (options : NestedOptions) (position : Nat)
    (done : QueryOption.search.parser settings (QueryOption.search.start text) = .ok (.search tree) after)
    (scope : state.scope = Context.standing) (depth : state.depth = 0) (links : state.links = 0) :
    Items.readValue settings settings.maxDepth (Items.inner settings settings.maxDepth) options .search text position
      state = .ok { options with search := some tree } state := by
  have S : NestedSimulation settings settings (fun _ place place' => place' = position + place)
      (Extension position 0) := Extension.simulation (Nat.le_refl _)
  have kept := parser_kept done
  obtain ⟨_, between, started, ran⟩ := bind_ok done
  obtain ⟨tree', _, read, rest⟩ := bind_ok ran
  cases rest
  have related := Search.whole_related S.toLevelling settings.maxDepth _ (.inl rfl)
  exact bind_done (within_extends related rfl ((bind_done started).trans read) kept scope depth links)

theorem search_round {after : ParseState} {moved : Cursor} (whole : TakenWhole text.toList)
    (done : QueryOption.search.parser settings (QueryOption.search.start text) = .ok (.search tree) after)
    (advanced : Cursor.advance (search.onDelimiter text .closeParen ')' []) = .ok () moved) :
    Items.Round settings .expand settings.maxDepth (Items.inner settings settings.maxDepth) {} .search
      (.fresh (search.onName (text.toList ++ [')']))) { search := some tree }
      (search.onDelimiter text .closeParen ')' []) moved := by
  have cut : Cursor.optionValue (search.onEqual (text.toList ++ [')'])) =
      .ok (text, _) (search.onDelimiter text .closeParen ')' []) :=
    option_value_taken whole rfl .close
  exact ⟨⟨_, _, _, search.named settings _, cut, read_search {} _ done rfl rfl rfl⟩, advanced⟩

end ItemOption

theorem search_written (text : String) :
    itemText ("$search=" ++ text) =
      String.ofList ('A' :: '(' :: (ItemOption.search.letters ++ '=' :: (text.toList ++ [')']))) := by
  rw [item_text_list, String.toList_append, List.append_assoc]
  rfl

-- A nested search comes to what its text comes to by itself if the raw scan takes it whole,
-- and to nothing else: it is refused if the scan does not. A search without apostrophes in
-- its words is taken whole.
theorem nested_search_agrees (settings : Settings) (value : String) (tree : Expr)
    (positive : 1 ≤ settings.maxPathLength) (accepted : parse settings .search value = .ok (.search tree))
    (alone : ';' ∉ value.toList) :
    (TakenWhole value.toList → parse settings .expand (itemText ("$search=" ++ value)) =
      .ok (.expand [⟨["A"], { search := some tree }, none, none, none⟩])) ∧
    (¬ TakenWhole value.toList → ∃ error, parse settings .expand (itemText ("$search=" ++ value)) = .error error) ∧
    ∀ tokens, tokenize value .search 0 = .ok tokens → (∀ token ∈ tokens, Search.Unquoted token.text.toList) →
      TakenWhole value.toList := by
  rw [search_written]
  refine ⟨fun whole => ?_, fun broken => ?_, fun tokens read unquoted => ?_⟩
  · obtain ⟨after, done⟩ := parser_ok accepted
    have ended : Cursor.advance (ItemOption.search.onDelimiter value .closeParen ')' []) =
        .ok () ((ItemOption.search.onDelimiter value .closeParen ')' []).onto .finish [] []) := Cursor.advance_end rfl rfl
    have round := ItemOption.search_round whole done ended
    refine (expand_single settings positive _ { search := some tree }).mpr
      ⟨.fresh ((ItemOption.search.onDelimiter value .closeParen ')' []).onto .finish [] []), ?_, rfl⟩
    exact (Items.options_open rfl (ItemOption.search.advance_name _) (fun same => by cases same)).trans
      (Items.options_from_round round List.not_mem_nil)
  · cases result : parse settings .expand (String.ofList _) with
    | error error => exact ⟨error, rfl⟩
    | ok parsed =>
        obtain ⟨others, after, done⟩ := expand_options positive result
        exact absurd (ItemOption.search_taken_whole accepted alone done) broken
  · obtain ⟨lexemes, spelled, balanced⟩ := Search.accepted_spelled accepted
    have started : (Cursor.start value .search 0 false).Plain .search := ⟨rfl, rfl⟩
    have same : Spelled .search value.toList (tokens.map Token.lexeme) :=
      Cursor.spelled_of_tokens started (Nat.lt_succ_self _) read
    obtain rfl := spelled_unique spelled same
    have bare : ∀ lexeme ∈ tokens.map Token.lexeme, Search.Unquoted lexeme.text.toList := fun lexeme member => by
      obtain ⟨token, listed, rfl⟩ := List.mem_map.mp member
      exact unquoted token listed
    exact taken_whole_of_crosses (Search.spelled_crosses spelled bare alone (balanced_closed balanced))

def searchTree? : Except ParseError ParsedOption → Option Expr
  | .ok (.search tree) => some tree
  | _ => none

theorem search_tree {result : Except ParseError ParsedOption} {tree : Expr} (found : searchTree? result = some tree) :
    result = .ok (.search tree) := by
  unfold searchTree? at found
  split at found <;> cases found
  rfl

theorem nested_phrase_agrees :
    parse {} .expand "A($search=\"it's (\" or (b not c))" =
      .ok (.expand [⟨["A"],
        { search := some (.binary .or (.term "it's (") (.binary .and (.term "b") (.unary .not (.term "c")))) },
        none, none, none⟩]) := by
  have accepted : parse {} .search "\"it's (\" or (b not c)" =
      .ok (.search (.binary .or (.term "it's (") (.binary .and (.term "b") (.unary .not (.term "c"))))) :=
    search_tree (by decide +kernel)
  have read : tokenize "\"it's (\" or (b not c)" .search 0 =
      .ok [⟨.stringLiteral, "\"it's (\"", 0⟩, ⟨.identifier, "or", 9⟩, ⟨.openParen, "(", 12⟩, ⟨.stringLiteral, "b", 13⟩,
        ⟨.identifier, "not", 15⟩, ⟨.stringLiteral, "c", 19⟩, ⟨.closeParen, ")", 20⟩] := by
    decide +kernel
  obtain ⟨agrees, -, taken⟩ := nested_search_agrees {} _ _ (by decide) accepted (by decide)
  exact agrees (taken _ read (by decide))

example : searchTree? (parse {} .search "it's") = some (.term "it's") ∧
    ¬ (parse {} .expand "A($search=it's)").isOk := by decide +kernel

end QueryOptions
