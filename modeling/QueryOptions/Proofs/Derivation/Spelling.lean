import QueryOptions.Expr.Equality
import QueryOptions.Proofs.Derivation.Complete
import QueryOptions.Proofs.Threshold

set_option autoImplicit false

namespace QueryOptions

-- A text is a sequence of lexemes with blanks around them.
inductive Spelled (dialect : Dialect) : List Char → List Lexeme → Prop where
  | blank {text : List Char} (blank : text.dropWhile Text.isBlank = []) : Spelled dialect text []
  | lexeme {text taken rest : List Char} {kind : TokenKind} {lexemes : List Lexeme}
      (scans : dialect.scan (text.dropWhile Text.isBlank) = .token kind taken rest) (going : kind ≠ .finish)
      (others : Spelled dialect rest lexemes) : Spelled dialect text (⟨kind, String.ofList taken⟩ :: lexemes)

namespace Cursor

structure Plain (dialect : Dialect) (cursor : Cursor) : Prop where
  dialect : cursor.dialect = dialect
  blanks : cursor.keepsBlanks = false

variable {dialect : Dialect} {cursor moved first last : Cursor} {kind : TokenKind} {taken rest : List Char}
variable {lexemes : List Lexeme}

theorem advance_scans (plain : cursor.Plain dialect)
    (scans : dialect.scan (cursor.rest.dropWhile Text.isBlank) = .token kind taken rest) :
    ∃ moved, advance cursor = .ok () moved ∧ moved.Plain dialect ∧ moved.rest = rest ∧
      moved.token.lexeme = ⟨kind, String.ofList taken⟩ := by
  obtain ⟨text, offset, token, dialect, keepsBlanks⟩ := cursor
  obtain ⟨rfl, rfl⟩ := plain
  dsimp only at scans
  unfold advance
  dsimp only
  rw [if_neg (by simp), scans]
  exact ⟨_, rfl, ⟨rfl, rfl⟩, rfl, rfl⟩

theorem scans_of_advance (plain : cursor.Plain dialect) (advanced : advance cursor = .ok () moved) :
    moved.Plain dialect ∧ ∃ kind taken,
      dialect.scan (cursor.rest.dropWhile Text.isBlank) = .token kind taken moved.rest ∧
        moved.token.lexeme = ⟨kind, String.ofList taken⟩ := by
  obtain ⟨text, offset, token, dialect, keepsBlanks⟩ := cursor
  obtain ⟨rfl, rfl⟩ := plain
  unfold advance at advanced
  dsimp only at advanced ⊢
  rw [if_neg (by simp)] at advanced
  cases scan : dialect.scan (text.dropWhile Text.isBlank) with
  | mk outcome taken rest =>
      rw [scan] at advanced
      cases outcome with
      | ok kind =>
          cases advanced
          exact ⟨⟨rfl, rfl⟩, kind, taken, rfl, rfl⟩
      | error error => cases advanced

theorem spans_of_spelled {text : List Char} (spelled : Spelled dialect text lexemes) (plain : cursor.Plain dialect)
    (here : cursor.rest = text) :
    ∃ first last, advance cursor = .ok () first ∧ first.Spans lexemes last ∧ last.token.kind = .finish := by
  induction spelled generalizing cursor with
  | blank blank =>
      subst here
      obtain ⟨moved, advanced, -, -, token⟩ := advance_scans plain (by rw [blank]; exact dialect.scan_nil)
      exact ⟨moved, moved, advanced, .refl moved, congrArg Lexeme.kind token⟩
  | lexeme scans going _ ih =>
      subst here
      obtain ⟨moved, advanced, plain', there, token⟩ := advance_scans plain scans
      obtain ⟨next, last, advanced', spans, finish⟩ := ih plain' there
      refine ⟨moved, last, advanced, ?_, finish⟩
      rw [← token]
      exact .step (by rwa [show moved.token.kind = _ from congrArg Lexeme.kind token]) advanced' spans

theorem advance_past_gap {gap text : List Char} (plain : cursor.Plain dialect) (here : cursor.rest = gap ++ text)
    (blank : ∀ c ∈ gap, Text.isBlank c) :
    advance cursor = advance { cursor with rest := text, offset := cursor.offset + Text.byteLength gap } := by
  obtain ⟨_, offset, token, dialect, keepsBlanks⟩ := cursor
  obtain ⟨rfl, rfl⟩ := plain
  dsimp only at here
  subst here
  unfold advance
  dsimp only
  rw [if_neg (by simp), if_neg (by simp), List.takeWhile_append_of_pos blank, List.dropWhile_append_of_pos blank,
    Text.byteLength_append]
  simp only [Nat.add_assoc]

theorem blank_of_finish (plain : cursor.Plain dialect) (advanced : advance cursor = .ok () moved)
    (finish : moved.token.kind = .finish) : cursor.rest.dropWhile Text.isBlank = [] := by
  obtain ⟨-, kind, taken, scans, token⟩ := scans_of_advance plain advanced
  cases visible : cursor.rest.dropWhile Text.isBlank with
  | nil => rfl
  | cons c text =>
      rw [visible] at scans
      have splits := dialect.scan_splits c text
      have found : kind = .finish := (congrArg Lexeme.kind token).symm.trans finish
      exact absurd found (splits.takes kind (congrArg Scan.outcome scans)).2.1

theorem spelled_step (plain : cursor.Plain dialect) (advanced : advance cursor = .ok () moved)
    (going : moved.token.kind ≠ .finish) (others : Spelled dialect moved.rest lexemes) :
    Spelled dialect cursor.rest (moved.token.lexeme :: lexemes) := by
  obtain ⟨-, kind, taken, scans, token⟩ := scans_of_advance plain advanced
  have same : moved.token.kind = kind := congrArg Lexeme.kind token
  rw [token]
  exact .lexeme scans (same ▸ going) others

theorem spelled_of_spans (plain : cursor.Plain dialect) (advanced : advance cursor = .ok () first)
    (spans : first.Spans lexemes last) (finish : last.token.kind = .finish) : Spelled dialect cursor.rest lexemes := by
  induction spans generalizing cursor with
  | refl => exact .blank (blank_of_finish plain advanced finish)
  | step going advanced' _ ih =>
      exact spelled_step plain advanced going (ih (scans_of_advance plain advanced).1 advanced' finish)

theorem spelled_of_tokens {count : Nat} {tokens : List Token} (plain : cursor.Plain dialect)
    (enough : cursor.rest.length < count) (read : cursor.tokens count = .ok tokens) :
    Spelled dialect cursor.rest (tokens.map Token.lexeme) := by
  induction count generalizing cursor tokens with
  | zero => exact absurd enough (Nat.not_lt_zero _)
  | succ count ih =>
      unfold Cursor.tokens at read
      cases advanced : advance cursor with
      | error error moved =>
          rw [advanced] at read
          cases read
      | ok value moved =>
          rw [advanced] at read
          dsimp only at read
          by_cases finish : moved.token.kind = .finish
          · rw [if_pos finish] at read
            cases read
            exact .blank (blank_of_finish plain advanced finish)
          · rw [if_neg finish] at read
            have shorter := advance_takes advanced finish
            cases rest : moved.tokens count with
            | error error =>
                rw [rest] at read
                cases read
            | ok others =>
                rw [rest] at read
                cases read
                have moves := (scans_of_advance plain advanced).1
                exact spelled_step plain advanced finish (ih moves (by omega) rest)

theorem tokens_of_spelled {count : Nat} {text : List Char} (spelled : Spelled dialect text lexemes)
    (plain : cursor.Plain dialect) (here : cursor.rest = text) (enough : cursor.rest.length < count) :
    ∃ tokens, cursor.tokens count = .ok tokens ∧ tokens.map Token.lexeme = lexemes := by
  induction spelled generalizing cursor count with
  | blank blank =>
      obtain ⟨count, rfl⟩ := Nat.exists_eq_succ_of_ne_zero (Nat.ne_zero_of_lt enough)
      subst here
      obtain ⟨moved, advanced, -, -, token⟩ := advance_scans plain (by rw [blank]; exact dialect.scan_nil)
      have finish : moved.token.kind = .finish := congrArg Lexeme.kind token
      refine ⟨[], ?_, rfl⟩
      rw [tokens, advanced]
      exact if_pos finish
  | lexeme scans going _ ih =>
      obtain ⟨count, rfl⟩ := Nat.exists_eq_succ_of_ne_zero (Nat.ne_zero_of_lt enough)
      subst here
      obtain ⟨moved, advanced, plain', there, token⟩ := advance_scans plain scans
      have going' : moved.token.kind ≠ .finish := by rwa [show moved.token.kind = _ from congrArg Lexeme.kind token]
      have shorter := advance_takes advanced going'
      obtain ⟨others, read, same⟩ := @ih moved count plain' there (by omega)
      refine ⟨moved.token :: others, ?_, by rw [List.map_cons, token, same]⟩
      rw [tokens, advanced]
      dsimp only
      rw [if_neg going', read]

end Cursor

theorem spelled_unique {dialect : Dialect} {text : List Char} {lexemes lexemes' : List Lexeme}
    (spelled : Spelled dialect text lexemes) (again : Spelled dialect text lexemes') : lexemes = lexemes' := by
  induction spelled generalizing lexemes' with
  | blank blank =>
      cases again with
      | blank => rfl
      | lexeme scans going =>
          rw [blank, Dialect.scan_nil] at scans
          cases scans
          exact absurd rfl going
  | lexeme scans going _ ih =>
      cases again with
      | blank blank =>
          rw [blank, Dialect.scan_nil] at scans
          cases scans
          exact absurd rfl going
      | lexeme scans' going' others' =>
          rw [scans] at scans'
          cases scans'
          rw [ih others']

open Parse

theorem spelled_whole {α : Type} {p : Parse α} {dialect : Dialect} {state after : ParseState} {value : α}
    (plain : state.cursor.Plain dialect)
    (done : (do advance; let value ← p; expectEnd; pure value : Parse α) state = .ok value after) :
    ∃ first last, p { state with cursor := first } = .ok value last ∧
      ∀ lexemes, Walks { state with cursor := first } lexemes last → Spelled dialect state.cursor.rest lexemes := by
  obtain ⟨_, between, advanced, done⟩ := bind_ok done
  obtain ⟨first, stepped, rfl⟩ := advance_ok advanced
  obtain ⟨value, last, read, done⟩ := bind_ok done
  obtain ⟨_, final, stopped, done⟩ := bind_ok done
  cases done
  obtain ⟨rfl, finish⟩ := expect_end_ok stopped
  exact ⟨first, _, read, fun lexemes walks => Cursor.spelled_of_spans plain stepped walks.spans finish⟩

namespace Expression

theorem whole_derives [Counter] {settings : Settings} {levels : Nat} {state after : ParseState} {tree : Expr}
    (plain : state.cursor.Plain .expression)
    (done : (do advance; whole settings levels : Parse Expr) state = .ok tree after) :
    ∃ lexemes, Spelled .expression state.cursor.rest lexemes ∧
      Derives settings state.scope (.chain 0 tree) lexemes := by
  obtain ⟨first, last, read, spelled⟩ := spelled_whole plain done
  obtain ⟨lexemes, walks, derives⟩ := (sound settings levels).rule 0 (by decide) _ _ last read
  exact ⟨lexemes, spelled lexemes walks, derives⟩

theorem whole_yields {settings : Settings} (apart : Unambiguous settings) (levels : Nat) {state : ParseState} {tree : Expr}
    {lexemes : List Lexeme} (plain : state.cursor.Plain .expression)
    (spelled : Spelled .expression state.cursor.rest lexemes)
    (derives : Derives settings state.scope (.chain 0 tree) lexemes) :
    ∃ moved, Yields (do advance; whole settings levels) state tree moved := by
  obtain ⟨first, last, advanced, spans, finish⟩ := Cursor.spans_of_spelled spelled plain rfl
  refine ⟨last, Yields.of_advance advanced ?_⟩
  have stops : Stops settings 0 last.token.lexeme :=
    stops_of_kind (by rw [show last.token.lexeme.kind = _ from finish]; decide)
  have tree_there : Yields (rule settings 0 levels) { state with cursor := first } tree last :=
    rule_complete (complete apart derives) rfl spans stops (ends_of_kind finish (by decide))
  refine Yields.of_bind tree_there fun after there _ => ?_
  subst there
  exact Yields.of_run (bind_done (congrFun (if_pos finish) after)) rfl (Yields.of_pure rfl)

section

variable {settings settings' : Settings}

theorem operator_at_in (operators : settings'.customOperators = settings.customOperators)
    (cases : settings'.ignoreCase = settings.ignoreCase) (level : Nat) (lexeme : Lexeme) :
    operatorAt settings' level lexeme = operatorAt settings level lexeme := by
  have word : settings'.matchesKeyword = settings.matchesKeyword := by
    funext text keyword
    rw [Settings.matchesKeyword, Settings.matchesKeyword, cases]
  have custom : BinaryOperator.ofCustom? settings' = BinaryOperator.ofCustom? settings := by
    funext text
    rw [BinaryOperator.ofCustom?, BinaryOperator.ofCustom?, operators, word]
  simp only [operatorAt, Lexeme.isKeyword, word, custom, cases]
  rfl

theorem derives_in (operators : settings'.customOperators = settings.customOperators)
    (cases : settings'.ignoreCase = settings.ignoreCase) {scope : List String} {phrase : Phrase} {lexemes : List Lexeme}
    (derives : Derives settings scope phrase lexemes) : Derives settings' scope phrase lexemes := by
  have operator := operator_at_in operators cases
  have keyword (word : String) (lexeme : Lexeme) : lexeme.isKeyword settings' word = lexeme.isKeyword settings word := by
    simp only [Lexeme.isKeyword, Settings.matchesKeyword, cases]
  have signs (lexeme : Lexeme) : prefixAt settings' lexeme = prefixAt settings lexeme := by
    simp only [prefixAt, keyword]
  induction derives with
  | operand bare _ ih => exact .operand (fun first head => (signs first).trans (bare first head)) ih
  | prefixed spelled _ ih => exact .prefixed ((signs _).trans spelled) ih
  | tighter loose _ ih => exact .tighter loose ih
  | link _ spelled _ before operand => exact .link before ((operator _ _).trans spelled) operand
  | membership _ spelled _ before candidates =>
      refine .membership before ?_ candidates
      rwa [isMembership, keyword]
  | literal literal => exact .literal literal
  | parameter => exact .parameter
  | group opens _ closes ih => exact .group opens ih closes
  | path named _ ih => exact .path named ih
  | single bare _ ih => exact .single bare ih
  | list opens _ closes ih => exact .list opens ih closes
  | last _ ih => exact .last ih
  | further _ separates _ item others => exact .further item separates others
  | none opens closes => exact .none opens closes
  | some opens _ closes ih => exact .some opens ih closes
  | declared spelled known => exact .declared spelled known
  | property spelled free => exact .property spelled free
  | call spelled plain _ ih => exact .call spelled plain ih
  | nonempty spelled quantifies opens closes => exact .nonempty spelled quantifies opens closes
  | lambda spelled quantifies opens named colons fresh _ closes ih =>
      exact .lambda spelled quantifies opens named colons fresh ih closes
  | root _ ih => exact .root ih
  | step _ slashes _ before ih => exact .step before slashes ih

theorem derives_with_depth (limit : Nat) {scope : List String} {phrase : Phrase} {lexemes : List Lexeme}
    (derives : Derives settings scope phrase lexemes) : Derives (settings.withDepth limit) scope phrase lexemes :=
  @derives_in settings (settings.withDepth limit) rfl rfl _ _ _ derives

end

end Expression

theorem Context.filter_derives_with [Counter] {context after : Context} {text : String} {levels : Nat} {tree : Expr}
    (parsed : Context.parseWith .filter text levels context = .ok (.filter tree) after) :
    ∃ lexemes, Spelled .expression text.toList lexemes ∧
      Expression.Derives context.settings context.scope (.chain 0 tree) lexemes := by
  unfold Context.parseWith at parsed
  cases result : Parse.onText text QueryOption.filter.dialect 0 context.scope
      (QueryOption.filter.grammar context.settings levels) context.depth with
  | ok found after =>
      rw [result] at parsed
      cases parsed
      obtain ⟨_, between, advanced, done⟩ := bind_ok result
      obtain ⟨expr, last, read, done⟩ := bind_ok done
      cases done
      exact Expression.whole_derives ⟨rfl, rfl⟩ ((bind_done advanced).trans read)
  | error error after =>
      rw [result] at parsed
      cases parsed

theorem Context.filter_derives {context : Context} {text : String} {tree : Expr}
    (parsed : (Context.run (Context.parse .filter text) context).1 = .ok (.filter tree)) :
    ∃ lexemes, Spelled .expression text.toList lexemes ∧
      Expression.Derives context.settings context.scope (.chain 0 tree) lexemes := by
  obtain ⟨_, accepted⟩ := Context.step_of_value parsed
  obtain ⟨_, _, accepted⟩ := Context.counted_ok accepted
  exact Context.filter_derives_with accepted

theorem filter_derives {settings : Settings} {text : String} {tree : Expr}
    (parsed : parse settings .filter text = .ok (.filter tree)) :
    ∃ lexemes, Spelled .expression text.toList lexemes ∧
      Expression.Derives settings Context.standing (.chain 0 tree) lexemes := by
  obtain ⟨_, accepted⟩ := Context.step_of_value ((parse_by_run settings .filter text).symm.trans parsed)
  exact Context.filter_derives_with accepted

theorem parse_of_yields {settings : Settings} {option : QueryOption} {text : String} {parsed : ParsedOption} {moved : Cursor}
    (yields : Yields (option.parser settings) (option.start text) parsed moved)
    (enough : 8 * (Text.byteLength text.toList + 1) ≤ settings.maxDepth) : parse settings option text = .ok parsed := by
  rcases yields with ⟨after, done, -, -⟩ | ⟨error, after, failed, counted⟩
  · exact parse_of_ok done
  -- A limit so high is not exceeded, and levels are always accounted for.
  · have refused := parse_of_error failed
    rcases counted with rfl | ⟨limit, rfl⟩
    · exact absurd rfl (parse_accounted refused).balanced
    · exact absurd refused (parse_not_exceeded enough limit)

theorem filter_of_derives {settings : Settings} {text : String} {tree : Expr} {lexemes : List Lexeme}
    (plain : settings.customOperators = []) (spelled : Spelled .expression text.toList lexemes)
    (derives : Expression.Derives settings Context.standing (.chain 0 tree) lexemes)
    (enough : 8 * (Text.byteLength text.toList + 1) ≤ settings.maxDepth) :
    parse settings .filter text = .ok (.filter tree) := by
  obtain ⟨moved, yields⟩ : ∃ moved, Yields (do advance; Expression.whole settings settings.maxDepth)
      (QueryOption.filter.start text) tree moved :=
    Expression.whole_yields (Expression.unambiguous_of_plain plain) _ ⟨rfl, rfl⟩ spelled derives
  have parsed : Yields (QueryOption.filter.parser settings) (QueryOption.filter.start text) (.filter tree) moved := by
    refine Yields.of_run (congrFun (bind_assoc _ _ _).symm _) rfl ?_
    exact Yields.of_bind yields fun after there _ => Yields.of_pure there
  exact parse_of_yields parsed enough

theorem parse_with_enough {settings : Settings} {option : QueryOption} {text : String} {parsed : ParsedOption}
    {limit limit' : Nat} (accepted : parse (settings.withDepth limit) option text = .ok parsed)
    (enough : 8 * (Text.byteLength text.toList + 1) ≤ limit') :
    parse (settings.withDepth limit') option text = .ok parsed := by
  obtain ⟨threshold, outcome, low, -, fixed⟩ := parse_threshold settings option text
  by_cases reached : threshold ≤ limit
  · rw [(fixed limit).1 reached] at accepted
    rw [(fixed limit').1 (Nat.le_trans low enough), accepted]
  · rw [(fixed limit).2 (Nat.not_le.mp reached)] at accepted
    cases accepted

def Accepted (text : String) (tree : Expr) : Prop :=
  ∃ limit, parse { maxDepth := limit } .filter text = .ok (.filter tree)

theorem accepted_derives {text : String} {tree : Expr} (accepted : Accepted text tree) :
    ∃ lexemes, Spelled .expression text.toList lexemes ∧
      Expression.Derives {} Context.standing (.chain 0 tree) lexemes := by
  obtain ⟨limit, parsed⟩ := accepted
  obtain ⟨lexemes, spelled, derives⟩ := filter_derives parsed
  exact ⟨lexemes, spelled, Expression.derives_with_depth ({} : Settings).maxDepth derives⟩

theorem parse_of_derives {text : String} {tree : Expr} {lexemes : List Lexeme} {limit : Nat}
    (spelled : Spelled .expression text.toList lexemes)
    (derives : Expression.Derives {} Context.standing (.chain 0 tree) lexemes)
    (enough : 8 * (Text.byteLength text.toList + 1) ≤ limit) :
    parse { maxDepth := limit } .filter text = .ok (.filter tree) :=
  filter_of_derives rfl spelled (Expression.derives_with_depth limit derives) enough

theorem accepted_unique {text : String} {tree tree' : Expr} {lexemes : List Lexeme} (accepted : Accepted text tree)
    (spelled : Spelled .expression text.toList lexemes)
    (derives : Expression.Derives {} Context.standing (.chain 0 tree') lexemes) :
    tree = tree' := by
  obtain ⟨limit, parsed⟩ := accepted
  have enough := Nat.le_refl (8 * (Text.byteLength text.toList + 1))
  have again := parse_of_derives spelled derives enough
  have within : parse (({} : Settings).withDepth limit) .filter text = .ok (.filter tree) := parsed
  have lifted := parse_with_enough within enough
  cases lifted.symm.trans again
  rfl

def filterTree? : Except ParseError ParsedOption → Option Expr
  | .ok (.filter tree) => some tree
  | _ => none

theorem filter_tree {result : Except ParseError ParsedOption} {tree : Expr} (found : filterTree? result = some tree) :
    result = .ok (.filter tree) := by
  unfold filterTree? at found
  split at found <;> cases found
  rfl

theorem accepted_within {text : String} {tree : Expr} {limit : Nat}
    (found : filterTree? (parse { maxDepth := limit } .filter text) = some tree) : Accepted text tree :=
  ⟨limit, filter_tree found⟩

end QueryOptions
