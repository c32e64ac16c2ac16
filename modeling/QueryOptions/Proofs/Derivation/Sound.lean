import QueryOptions.Proofs.Derivation.Rules
import QueryOptions.Proofs.Derivation.Spans
import QueryOptions.Proofs.Reading.Expression

set_option autoImplicit false

namespace QueryOptions

open Parse

structure Walks (state : ParseState) (lexemes : List Lexeme) (after : ParseState) : Prop where
  spans : state.cursor.Spans lexemes after.cursor
  scope : after.scope = state.scope

variable {state between after : ParseState} {settings : Settings} {front back lexemes : List Lexeme} {α : Type}

theorem walks_nil (state : ParseState) : Walks state [] state := ⟨.refl _, rfl⟩

theorem walks_append (first : Walks state front between) (second : Walks between back after) :
    Walks state (front ++ back) after :=
  ⟨Cursor.spans_append first.spans second.spans, second.scope.trans first.scope⟩

theorem walks_cons {lexeme : Lexeme} (first : Walks state [lexeme] between) (second : Walks between lexemes after) :
    Walks state (lexeme :: lexemes) after := walks_append first second

theorem advance_walks (going : state.cursor.token.kind ≠ .finish) (done : advance state = .ok () after) :
    Walks state [state.cursor.token.lexeme] after := by
  obtain ⟨moved, advanced, rfl⟩ := advance_ok done
  exact ⟨Cursor.spans_single going advanced, rfl⟩

theorem closing_kept {count : ParseState → Nat} {body : Parse α} {value : α}
    (done : closing settings count body state = .ok value after) :
    ∃ before, body state = .ok value before ∧ after.cursor = before.cursor ∧ after.scope = before.scope := by
  obtain ⟨before, ran, -⟩ := closing_done done
  unfold closing at done
  rw [ran] at done
  dsimp only at done
  unfold leave shared Context.leave at done
  by_cases missing : before.depth < count before
  · rw [if_pos missing] at done
    cases done
  · rw [if_neg missing] at done
    cases done
    exact ⟨before, ran, rfl, rfl⟩

theorem recurse_kept [Counter] {levels : Nat} {body : Parse α} {value : α}
    (done : recurse settings levels body state = .ok value after) :
    ∃ before, body { state with depth := Counter.add state.depth levels } = .ok value before ∧
      after.cursor = before.cursor ∧ after.scope = before.scope := by
  obtain ⟨_, between, entered, closed⟩ := bind_ok done
  rw [enter_ok entered] at closed
  exact closing_kept closed

theorem chain_kept [Counter] {body : Parse α} {value : α} (done : chain settings body state = .ok value after) :
    ∃ before, body { state with depth := Counter.add state.depth 1, links := 0 } = .ok value before ∧
      after.cursor = before.cursor ∧ after.scope = before.scope := by
  obtain ⟨_, between, entered, closed⟩ := bind_ok done
  rw [enter_ok entered, counting_links_by_map] at closed
  obtain ⟨inner, finished, rfl⟩ := map_state_ok closed
  obtain ⟨before, ran, cursor, scope⟩ := closing_kept finished
  exact ⟨before, ran, cursor, scope⟩

theorem hold_ok [Counter] (done : hold settings state = .ok () after) :
    after = { state with depth := Counter.add state.depth 1, links := state.links + 1 } := by
  obtain ⟨_, between, entered, held⟩ := bind_ok done
  rw [enter_ok entered] at held
  cases held
  rfl

theorem expect_ok {kind : TokenKind} {description : String} (done : expect kind description state = .ok () after) :
    state.cursor.token.kind = kind ∧ advance state = .ok () after := by
  by_cases found : state.cursor.token.kind = kind
  · exact ⟨found, (expect_found found).symm.trans done⟩
  · rw [expect_by_current] at done
    have failed : (if state.cursor.token.kind = kind then advance
        else throw (.expectedToken description state.cursor.token.describe state.cursor.token.position) : Parse Unit) state =
          .ok () after := done
    rw [if_neg found] at failed
    cases failed

theorem expect_walks {kind : TokenKind} {description : String} (other : kind ≠ .finish)
    (done : expect kind description state = .ok () after) :
    state.cursor.token.lexeme.kind = kind ∧ Walks state [state.cursor.token.lexeme] after := by
  obtain ⟨found, advanced⟩ := expect_ok done
  exact ⟨found, advance_walks (found ▸ other) advanced⟩

theorem identifier_walks {description : String} {name : String} (done : identifier description state = .ok name after) :
    state.cursor.token.lexeme.kind = .identifier ∧ name = state.cursor.token.lexeme.text ∧
      Walks state [state.cursor.token.lexeme] after := by
  by_cases named : state.cursor.token.kind = .identifier
  · replace done : (do
        advance
        pure state.cursor.token.text : Parse String) state = .ok name after :=
      (congrFun (if_pos named) state).symm.trans done
    obtain ⟨_, between, advanced, done⟩ := bind_ok done
    cases done
    exact ⟨named, rfl, advance_walks (by rw [named]; decide) advanced⟩
  · have failed : (failExpected description : Parse String) state = .ok name after :=
      (congrFun (if_neg named) state).symm.trans done
    cases failed

theorem starred_walks {acceptStar : Bool} {name : String} (done : dottedName acceptStar state = .ok name after) :
    ∃ lexemes, Walks state lexemes after ∧ Expression.Starred acceptStar lexemes name := by
  unfold dottedName move at done
  cases result : Cursor.dottedName acceptStar state.cursor with
  | ok spelled moved =>
      rw [result] at done
      cases done
      obtain ⟨lexemes, spans, starred⟩ := Cursor.dotted_name_sound result
      exact ⟨lexemes, ⟨spans, rfl⟩, starred⟩
  | error error moved =>
      rw [result] at done
      cases done

theorem dotted_name_walks {name : String} (done : dottedName false state = .ok name after) :
    ∃ lexemes, Walks state lexemes after ∧ Expression.Name lexemes name := by
  obtain ⟨lexemes, walks, starred⟩ := starred_walks done
  exact ⟨lexemes, walks, Expression.name_of_starred starred⟩

theorem declaring_kept {name : String} {body : Parse α} {value : α}
    (done : declaring settings name body state = .ok value after) :
    name ∉ state.scope ∧ ∃ before, body { state with scope := name :: state.scope } = .ok value before ∧
      after = leaving name before := by
  rw [declaring_by_map] at done
  obtain ⟨_, between, declared, done⟩ := bind_ok done
  obtain ⟨before, ran, same⟩ := map_state_ok done
  unfold shared Context.declare Context.isVariable at declared
  by_cases known : state.scope.contains name
  · rw [if_pos known] at declared
    cases declared
  · rw [if_neg known] at declared
    cases declared
    exact ⟨by simpa using known, before, ran, same⟩

namespace Expression

variable {level levels : Nat} {scope : List String} {value left : Expr}

theorem below_ok {rule : Nat → Parse α} {value : α} (done : below settings rule levels state = .ok value after) :
    ∃ fewer, levels = fewer + 1 ∧ rule fewer state = .ok value after := by
  cases levels with
  | zero => cases done
  | succ fewer => exact ⟨fewer, rfl, done⟩

theorem go_on_ok [Counter] {operand : Parse Expr} {more : Expr → Parse Expr} (going : state.cursor.token.kind ≠ .finish)
    (done : goOn settings operand more state = .ok value after) :
    ∃ ready right between, Walks state [state.cursor.token.lexeme] ready ∧ operand ready = .ok right between ∧
      more right between = .ok value after := by
  obtain ⟨_, held, holding, done⟩ := bind_ok done
  rw [hold_ok holding] at done
  obtain ⟨_, ready, advanced, done⟩ := bind_ok done
  obtain ⟨moved, stepped, rfl⟩ := advance_ok advanced
  obtain ⟨right, between, ran, done⟩ := bind_ok done
  exact ⟨{ state with cursor := moved, depth := Counter.add state.depth 1, links := state.links + 1 }, right, between,
    ⟨Cursor.spans_single going stepped, rfl⟩, ran, done⟩

def Sound (settings : Settings) (p : Parse α) (phrase : α → Phrase) : Prop :=
  ∀ state value after, p state = .ok value after →
    ∃ lexemes, Walks state lexemes after ∧ Derives settings state.scope (phrase value) lexemes

def SoundTail (settings : Settings) (level : Nat) (tail : Expr → Parse Expr) : Prop :=
  ∀ left state value after front, tail left state = .ok value after →
    Derives settings state.scope (.chain level left) front →
    ∃ back, Walks state back after ∧ Derives settings state.scope (.chain level value) (front ++ back)

theorem sound_chain [Counter] {p : Parse α} {phrase : α → Phrase} (body : Sound settings p phrase) :
    Sound settings (chain settings p) phrase := by
  intro state value after done
  obtain ⟨before, ran, cursor, scope⟩ := chain_kept done
  obtain ⟨lexemes, walks, derives⟩ := body _ value before ran
  exact ⟨lexemes, ⟨cursor ▸ walks.spans, scope.trans walks.scope⟩, derives⟩

theorem sound_recurse [Counter] {levels : Nat} {p : Parse α} {phrase : α → Phrase} (body : Sound settings p phrase) :
    Sound settings (recurse settings levels p) phrase := by
  intro state value after done
  obtain ⟨before, ran, cursor, scope⟩ := recurse_kept done
  obtain ⟨lexemes, walks, derives⟩ := body _ value before ran
  exact ⟨lexemes, ⟨cursor ▸ walks.spans, scope.trans walks.scope⟩, derives⟩

theorem separated_sound {item : Parse Expr} (items : Sound settings item (.chain 0)) (count : Nat) (first : Expr)
    {trees : List Expr} (done : separated .comma item count state = .ok trees after)
    (before : Derives settings state.scope (.chain 0 first) front) :
    ∃ back, Walks state back after ∧ Derives settings state.scope (.items (first :: trees)) (front ++ back) := by
  induction count generalizing first state trees front with
  | zero =>
      cases done
      exact ⟨[], walks_nil _, by rw [List.append_nil]; exact .last before⟩
  | succ count ih =>
      change (if state.cursor.token.kind == .comma then _ else _ : Parse (List Expr)) state = _ at done
      by_cases comma : state.cursor.token.kind == .comma
      · rw [if_pos comma] at done
        have separates := eq_of_beq comma
        obtain ⟨_, ready, advanced, done⟩ := bind_ok done
        obtain ⟨second, between, ran, done⟩ := bind_ok done
        obtain ⟨others, last, ran', done⟩ := bind_ok done
        cases done
        have step := advance_walks (by rw [separates]; decide) advanced
        obtain ⟨own, walks, derives⟩ := items _ second between ran
        have same : between.scope = ready.scope := walks.scope
        obtain ⟨back, walks', derives'⟩ := ih second ran' (same ▸ derives)
        refine ⟨_, walks_cons step (walks_append walks walks'), .further before separates ?_⟩
        rwa [same, step.scope] at derives'
      · rw [if_neg comma] at done
        cases done
        exact ⟨[], walks_nil _, by rw [List.append_nil]; exact .last before⟩

theorem sep_by_sound {item : Parse Expr} (items : Sound settings item (.chain 0)) :
    Sound settings (sepBy .comma item) .items := by
  intro state trees after done
  obtain ⟨first, between, ran, done⟩ := bind_ok done
  obtain ⟨_, _, ⟨⟩, done⟩ := bind_ok done
  obtain ⟨others, last, ran', done⟩ := bind_ok done
  cases done
  obtain ⟨front, walks, derives⟩ := items state first between ran
  have same : between.scope = state.scope := walks.scope
  obtain ⟨back, walks', derives'⟩ := separated_sound items _ first ran' (same ▸ derives)
  exact ⟨_, walks_append walks walks', same ▸ derives'⟩

theorem candidates_sound [Counter] {item single : Parse Expr} (items : Sound settings item (.chain 0))
    (singles : Sound settings single .primary) : Sound settings (candidates settings item single) .candidates := by
  intro state value after done
  change (if state.cursor.token.kind == .openParen then _ else _ : Parse Expr) state = _ at done
  by_cases opening : state.cursor.token.kind == .openParen
  · rw [if_pos opening] at done
    have opens := eq_of_beq opening
    obtain ⟨before, ran, cursor, scope⟩ := recurse_kept done
    obtain ⟨_, ready, advanced, done⟩ := bind_ok ran
    obtain ⟨trees, between, read, done⟩ := bind_ok done
    obtain ⟨_, last, closing, done⟩ := bind_ok done
    cases done
    have step := advance_walks (by dsimp only; rw [opens]; decide) advanced
    obtain ⟨own, walks, derives⟩ := sep_by_sound items _ trees between read
    obtain ⟨closes, step'⟩ := expect_walks (by decide) closing
    have all := walks_cons step (walks_append walks step')
    refine ⟨_, ⟨cursor ▸ all.spans, scope.trans all.scope⟩, .list opens ?_ closes⟩
    rwa [step.scope] at derives
  · rw [if_neg opening] at done
    obtain ⟨own, walks, derives⟩ := singles state value after done
    refine ⟨own, walks, .single (fun first head => ?_) derives⟩
    rw [Cursor.spans_head walks.spans first head]
    exact fun same => opening (beq_of_eq same)

theorem operand_sound [Counter] {inner path : Parse Expr} (inners : Sound settings inner (.chain 0))
    (paths : Sound settings path .path) : Sound settings (operand inner path) .primary := by
  intro state value after done
  change (if state.cursor.token.kind = .openParen then _ else _ : Parse Expr) state = _ at done
  by_cases opens : state.cursor.token.kind = .openParen
  · rw [if_pos opens] at done
    obtain ⟨_, ready, advanced, done⟩ := bind_ok done
    obtain ⟨tree, between, ran, done⟩ := bind_ok done
    obtain ⟨_, last, closing, done⟩ := bind_ok done
    cases done
    have step := advance_walks (by rw [opens]; decide) advanced
    obtain ⟨own, walks, derives⟩ := inners _ _ between ran
    obtain ⟨closes, step'⟩ := expect_walks (by decide) closing
    refine ⟨_, walks_cons step (walks_append walks step'), .group opens ?_ closes⟩
    rwa [step.scope] at derives
  · rw [if_neg opens] at done
    by_cases literal : state.cursor.token.kind.isLiteral
    · rw [if_pos literal] at done
      obtain ⟨_, ready, advanced, done⟩ := bind_ok done
      cases done
      have going : state.cursor.token.kind ≠ .finish := fun finish => by rw [finish] at literal; cases literal
      exact ⟨_, advance_walks going advanced, .literal literal⟩
    · rw [if_neg literal] at done
      by_cases refers : state.cursor.token.kind = .annotationIdentifier
      · rw [if_pos refers] at done
        obtain ⟨_, ready, advanced, done⟩ := bind_ok done
        cases done
        have step := advance_walks (by rw [refers]; decide) advanced
        rw [show state.cursor.token.lexeme = ⟨.annotationIdentifier, state.cursor.token.text⟩ from
          congrArg (Lexeme.mk · _) refers] at step
        exact ⟨_, step, .parameter⟩
      · rw [if_neg refers] at done
        by_cases named : state.cursor.token.kind = .identifier
        · rw [if_pos named] at done
          obtain ⟨own, walks, derives⟩ := paths state value after done
          refine ⟨own, walks, .path (fun first head => ?_) derives⟩
          rw [Cursor.spans_head walks.spans first head]
          exact named
        · rw [if_neg named] at done
          cases done

theorem arguments_sound {item : Parse Expr} (items : Sound settings item (.chain 0)) :
    Sound settings (arguments item) .arguments := by
  intro state trees after done
  obtain ⟨_, ready, opening, done⟩ := bind_ok done
  obtain ⟨opens, step⟩ := expect_walks (by decide) opening
  change (if ready.cursor.token.kind == .closeParen then _ else _ : Parse (List Expr)) ready = _ at done
  by_cases empty : ready.cursor.token.kind == .closeParen
  · rw [if_pos empty] at done
    have closes := eq_of_beq empty
    obtain ⟨_, last, advanced, done⟩ := bind_ok done
    cases done
    exact ⟨_, walks_cons step (advance_walks (by rw [closes]; decide) advanced), .none opens closes⟩
  · rw [if_neg empty] at done
    obtain ⟨trees, between, read, done⟩ := bind_ok done
    obtain ⟨own, walks, derives⟩ := sep_by_sound items ready trees between read
    change (if between.cursor.token.kind == .closeParen then _ else _ : Parse (List Expr)) between = _ at done
    by_cases closing : between.cursor.token.kind == .closeParen
    · rw [if_pos closing] at done
      have closes := eq_of_beq closing
      obtain ⟨_, last, advanced, done⟩ := bind_ok done
      cases done
      have step' := advance_walks (by rw [closes]; decide) advanced
      refine ⟨_, walks_cons step (walks_append walks step'), .some opens ?_ closes⟩
      rwa [step.scope] at derives
    · rw [if_neg closing] at done
      cases done

theorem lambda_sound {inner : Parse Expr} (inners : Sound settings inner (.chain 0)) {name : String}
    {quantifier : Quantifier} {parent : Expr} (spelled : Name front name)
    (quantifies : Quantifier.ofName? name = some quantifier)
    (done : lambda settings inner quantifier parent state = .ok value after) :
    ∃ back, Walks state back after ∧ Derives settings state.scope (.segment (some parent) value) (front ++ back) := by
  obtain ⟨_, ready, opening, done⟩ := bind_ok done
  obtain ⟨opens, step⟩ := expect_walks (by decide) opening
  change (if (ready.cursor.token.kind == .closeParen && quantifier == .any) = true then _ else _ : Parse Expr) ready = _
    at done
  by_cases empty : (ready.cursor.token.kind == .closeParen && quantifier == .any) = true
  · rw [if_pos empty] at done
    obtain ⟨closing, any⟩ := Bool.and_eq_true_iff.mp empty
    have closes := eq_of_beq closing
    obtain ⟨_, last, advanced, done⟩ := bind_ok done
    cases done
    exact ⟨_, walks_cons step (advance_walks (by rw [closes]; decide) advanced),
      .nonempty spelled (eq_of_beq any ▸ quantifies) opens closes⟩
  · rw [if_neg empty] at done
    obtain ⟨word, named, identified, done⟩ := bind_ok done
    obtain ⟨_, ready', coloned, done⟩ := bind_ok done
    obtain ⟨condition, between, declared, done⟩ := bind_ok done
    obtain ⟨_, last, closing, done⟩ := bind_ok done
    cases done
    obtain ⟨names, rfl, stepName⟩ := identifier_walks identified
    obtain ⟨colons, stepColon⟩ := expect_walks (by decide) coloned
    obtain ⟨fresh, before, ran, rfl⟩ := declaring_kept declared
    obtain ⟨own, walks, derives⟩ := inners _ condition before ran
    obtain ⟨closes, stepClose⟩ := expect_walks (by decide) closing
    have scope : ready'.scope = state.scope := (stepColon.scope.trans stepName.scope).trans step.scope
    have inside : Walks ready' own (leaving ready.cursor.token.lexeme.text before) := by
      refine ⟨walks.spans, ?_⟩
      have same := walks.scope
      unfold leaving
      dsimp only at same ⊢
      rw [same, List.erase_cons_head]
    refine ⟨_, walks_cons step (walks_cons stepName (walks_cons stepColon (walks_append inside stepClose))),
      .lambda spelled quantifies opens names colons ?_ ?_ closes⟩
    · rwa [scope] at fresh
    · dsimp only at derives
      rwa [scope] at derives

theorem after_name_sound [Counter] {inner : Parse Expr} (inners : Sound settings inner (.chain 0)) {parent : Option Expr}
    {name : String} (spelled : Name front name) (done : afterName settings inner parent name state = .ok value after) :
    ∃ back, Walks state back after ∧ Derives settings state.scope (.segment parent value) (front ++ back) := by
  have called (plain : parent = none ∨ Quantifier.ofName? name = none)
      (done : (do
        let arguments ← recurse settings 1 (arguments inner)
        pure (.call name arguments parent) : Parse Expr) state = .ok value after) :
      ∃ back, Walks state back after ∧ Derives settings state.scope (.segment parent value) (front ++ back) := by
    obtain ⟨trees, between, read, done⟩ := bind_ok done
    cases done
    obtain ⟨back, walks, derives⟩ := sound_recurse (arguments_sound inners) state trees _ read
    exact ⟨back, walks, .call spelled plain derives⟩
  change (if state.cursor.token.kind == .openParen then _ else _ : Parse Expr) state = _ at done
  by_cases opening : state.cursor.token.kind == .openParen
  · rw [if_pos opening] at done
    cases quantifies : Quantifier.ofName? name with
    | none =>
        rw [quantifies] at done
        exact called (.inr quantifies) done
    | some quantifier =>
        rw [quantifies] at done
        cases parent with
        | none => exact called (.inl rfl) done
        | some source =>
            obtain ⟨before, ran, cursor, scope⟩ := recurse_kept done
            obtain ⟨back, walks, derives⟩ := lambda_sound inners spelled quantifies ran
            exact ⟨back, ⟨cursor ▸ walks.spans, scope.trans walks.scope⟩, derives⟩
  · rw [if_neg opening] at done
    have bare {tree : Expr} (derives : Derives settings state.scope (.segment parent tree) front) :
        ∃ back, Walks state back state ∧ Derives settings state.scope (.segment parent tree) (front ++ back) :=
      ⟨[], walks_nil state, by rwa [List.append_nil]⟩
    change (if (parent.isNone && state.scope.contains name) = true then _ else _ : Parse Expr) state = _ at done
    by_cases known : (parent.isNone && state.scope.contains name) = true
    · rw [if_pos known] at done
      cases done
      obtain ⟨root, member⟩ := Bool.and_eq_true_iff.mp known
      obtain rfl := Option.isNone_iff_eq_none.mp root
      exact bare (.declared spelled (by simpa using member))
    · rw [if_neg known] at done
      cases done
      refine bare (.property spelled fun root member => known ?_)
      rw [root]
      simpa using member

theorem segment_sound [Counter] {inner : Parse Expr} (inners : Sound settings inner (.chain 0)) (parent : Option Expr) :
    Sound settings (segment settings inner parent) (.segment parent) := by
  intro state value after done
  rw [segment_by_name] at done
  obtain ⟨name, between, named, done⟩ := bind_ok done
  obtain ⟨front, walks, spelled⟩ := dotted_name_walks named
  obtain ⟨back, walks', derives⟩ := after_name_sound inners spelled done
  exact ⟨_, walks_append walks walks', walks.scope ▸ derives⟩

inductive Leading (settings : Settings) (scope : List String) : Option Expr → List Lexeme → Prop where
  | none : Leading settings scope none []
  | some {parent : Expr} {lexemes : List Lexeme} {slash : Lexeme} (before : Derives settings scope (.path parent) lexemes)
      (slashes : slash.kind = .slash) : Leading settings scope (some parent.intoInner) (lexemes ++ [slash])

theorem path_of_segment {parent : Option Expr} {tree : Expr} (leading : Leading settings scope parent front)
    (segment : Derives settings scope (.segment parent tree) back) :
    Derives settings scope (.path tree) (front ++ back) := by
  cases leading with
  | none => exact .root segment
  | some before slashes =>
      rw [List.append_assoc]
      exact .step before slashes segment

def SoundPath (settings : Settings) (path : Option Expr → Parse Expr) : Prop :=
  ∀ parent state value after front, path parent state = .ok value after → Leading settings state.scope parent front →
    ∃ back, Walks state back after ∧ Derives settings state.scope (.path value) (front ++ back)

theorem segments_sound [Counter] {inner : Parse Expr} {more : Option Expr → Parse Expr} (inners : Sound settings inner (.chain 0))
    (rest : SoundPath settings more) : SoundPath settings (segments settings inner fun expr => more (some expr)) := by
  intro parent state value after front done leading
  obtain ⟨tree, between, read, done⟩ := bind_ok done
  obtain ⟨own, walks, derives⟩ := segment_sound inners parent state tree between read
  have path := path_of_segment leading derives
  change (if between.cursor.token.kind == .slash then _ else _ : Parse Expr) between = _ at done
  by_cases slash : between.cursor.token.kind == .slash
  · rw [if_pos slash] at done
    have slashes := eq_of_beq slash
    obtain ⟨_, held, holding, done⟩ := bind_ok done
    rw [hold_ok holding] at done
    obtain ⟨_, ready, advanced, done⟩ := bind_ok done
    obtain ⟨moved, stepped, rfl⟩ := advance_ok advanced
    have step : Walks between [between.cursor.token.lexeme]
        { between with cursor := moved, depth := Counter.add between.depth 1, links := between.links + 1 } :=
      ⟨Cursor.spans_single (by rw [slashes]; decide) stepped, rfl⟩
    have before := walks_append walks step
    have leading' : Leading settings between.scope (some tree.intoInner)
        (front ++ own ++ [between.cursor.token.lexeme]) := by
      rw [walks.scope]
      exact .some path slashes
    obtain ⟨back, walks', derives'⟩ := rest _ _ value after _ done leading'
    refine ⟨_, walks_append before walks', ?_⟩
    rw [before.scope] at derives'
    simpa only [List.append_assoc] using derives'
  · rw [if_neg slash] at done
    cases done
    exact ⟨own, walks, path⟩

theorem sound_below {rule : Nat → Parse α} {phrase : α → Phrase}
    (fewer : ∀ fewer, levels = fewer + 1 → Sound settings (rule fewer) phrase) :
    Sound settings (below settings rule levels) phrase := by
  intro state value after done
  obtain ⟨fewer', same, ran⟩ := below_ok done
  exact fewer fewer' same state value after ran

theorem go_on_sound [Counter] {operand : Parse Expr} {more : Expr → Parse Expr} {phrase : Expr → Phrase}
    {whole : Expr → Expr} (going : state.cursor.token.kind ≠ .finish) (operands : Sound settings operand phrase)
    (linked : ∀ {right : Expr} {back : List Lexeme}, Derives settings state.scope (phrase right) back →
      Derives settings state.scope (.chain level (whole right)) (front ++ state.cursor.token.lexeme :: back))
    (rest : SoundTail settings level more)
    (done : goOn settings operand (fun right => more (whole right)) state = .ok value after) :
    ∃ back, Walks state back after ∧ Derives settings state.scope (.chain level value) (front ++ back) := by
  obtain ⟨ready, right, between, step, read, done⟩ := go_on_ok going done
  obtain ⟨own, walks, derives⟩ := operands ready right between read
  have far := walks_append step walks
  have before : Derives settings between.scope (.chain level (whole right)) (front ++ state.cursor.token.lexeme :: own) := by
    rw [far.scope]
    exact linked (step.scope ▸ derives)
  obtain ⟨back, walks', derives'⟩ := rest _ between value after _ done before
  refine ⟨_, walks_append far walks', ?_⟩
  rw [far.scope] at derives'
  simpa only [List.append_assoc, List.cons_append, List.nil_append] using derives'

theorem tail_sound [Counter] (loose : level < 5)
    (operands : Sound settings (below settings (rule settings (level + 1)) levels) (.chain (level + 1)))
    (candidates : Sound settings (candidatesAt settings levels) .candidates)
    (rest : SoundTail settings level fun expr => below settings (fun fewer => tail settings level fewer expr) levels) :
    SoundTail settings level (tail settings level levels) := by
  intro left state value after front done before
  have going (word : state.cursor.token.lexeme.kind = .identifier) : state.cursor.token.kind ≠ .finish := by
    rw [show state.cursor.token.kind = .identifier from word]
    decide
  rw [tail_at loose] at done
  by_cases tests : isMembership settings level state.cursor.token.lexeme
  · rw [if_pos tests] at done
    obtain rfl := membership_level tests
    exact go_on_sound (going (membership_word tests)) candidates (fun derives => .membership before tests derives) rest done
  · rw [if_neg tests] at done
    cases spelled : operatorAt settings level state.cursor.token.lexeme with
    | none =>
        rw [spelled] at done
        cases done
        exact ⟨[], walks_nil _, by rwa [List.append_nil]⟩
    | some operator =>
        rw [spelled] at done
        exact go_on_sound (going (operator_word spelled)) operands (fun derives => .link before spelled derives) rest done

theorem body_sound [Counter] (loose : level < 5) (operands : Sound settings (rule settings (level + 1) levels) (.chain (level + 1)))
    (rest : SoundTail settings level (tail settings level levels)) :
    Sound settings (body settings level levels) (.chain level) := by
  intro state value after done
  rw [body, if_pos loose] at done
  obtain ⟨left, between, read, done⟩ := bind_ok done
  obtain ⟨front, walks, derives⟩ := operands state left between read
  have before : Derives settings between.scope (.chain level left) front := by
    rw [walks.scope]
    exact .tighter loose derives
  obtain ⟨back, walks', derives'⟩ := rest left between value after front done before
  exact ⟨_, walks_append walks walks', walks.scope ▸ derives'⟩

theorem prefixed_sound [Counter] (operands : Sound settings (primary settings levels) .primary)
    (rest : Sound settings (prefixed settings levels) (.chain 5)) :
    Sound settings (prefixed settings (levels + 1)) (.chain 5) := by
  intro state value after done
  rw [prefixed_at] at done
  cases spelled : prefixAt settings state.cursor.token.lexeme with
  | none =>
      rw [spelled] at done
      obtain ⟨lexemes, walks, derives⟩ := operands state value after done
      refine ⟨lexemes, walks, .operand (fun first head => ?_) derives⟩
      rw [Cursor.spans_head walks.spans first head]
      exact spelled
  | some operator =>
      rw [spelled] at done
      have going : state.cursor.token.kind ≠ .finish := by
        intro finish
        simp [prefixAt, Lexeme.isKeyword, Token.lexeme, finish] at spelled
      obtain ⟨ready, tree, between, step, read, done⟩ := go_on_ok going done
      cases done
      obtain ⟨lexemes, walks, derives⟩ := rest ready tree after read
      exact ⟨_, walks_cons step walks, .prefixed spelled (step.scope ▸ derives)⟩

structure SoundAt [Counter] (settings : Settings) (levels : Nat) : Prop where
  rule : ∀ level ≤ 5, Sound settings (rule settings level levels) (.chain level)
  tail : ∀ level < 5, SoundTail settings level (tail settings level levels)
  prefixed : Sound settings (prefixed settings levels) (.chain 5)
  primary : Sound settings (primary settings levels) .primary
  path : Sound settings (path settings levels) .path
  pathFrom : SoundPath settings (pathFrom settings levels)

theorem path_from_sound [Counter] (inners : Sound settings (below settings (disjunction settings) levels) (.chain 0))
    (rest : SoundPath settings fun parent => below settings (fun fewer => pathFrom settings fewer parent) levels) :
    SoundPath settings (pathFrom settings levels) := by
  intro parent
  rw [path_from_at]
  exact segments_sound inners rest parent

-- Every rule calls rules with fewer levels, but for the chain of prefixes, whose level is
-- among those counted as left already.
theorem sound [Counter] (settings : Settings) (levels : Nat) : SoundAt settings levels := by
  induction levels using Nat.strongRecOn with
  | _ levels ih =>
      have before (fewer : Nat) (same : levels = fewer + 1) : SoundAt settings fewer := ih fewer (by omega)
      have rules (level : Nat) (le : level ≤ 5) :
          Sound settings (below settings (Expression.rule settings level) levels) (.chain level) :=
        sound_below fun fewer same => (before fewer same).rule level le
      have candidates : Sound settings (candidatesAt settings levels) .candidates :=
        sound_below fun fewer same => sound_below fun fewest same' =>
          candidates_sound ((ih fewest (by omega)).rule 0 (by decide)) ((ih (fewest + 1) (by omega)).primary)
      have prefixed : Sound settings (Expression.prefixed settings levels) (.chain 5) := by
        cases levels with
        | zero => exact fun _ _ _ done => by cases done
        | succ fewer => exact prefixed_sound (before fewer rfl).primary (before fewer rfl).prefixed
      refine ⟨fun level le => ?_, fun level loose => ?_, prefixed, ?_, ?_, ?_⟩
      · by_cases loose : level < 5
        · rw [rule_loose loose]
          refine sound_below fun fewer same => sound_chain ?_
          exact body_sound loose ((before fewer same).rule _ loose) ((before fewer same).tail level loose)
        · obtain rfl : level = 5 := by omega
          rw [rule_tight loose, body, if_neg loose]
          exact sound_chain prefixed
      · refine tail_sound loose (rules _ loose) candidates ?_
        intro left state value after front done derives
        obtain ⟨fewer, same, done⟩ := below_ok done
        exact (before fewer same).tail level loose left state value after front done derives
      · cases levels with
        | zero => exact fun _ _ _ done => by cases done
        | succ fewer =>
            exact sound_recurse (operand_sound ((before fewer rfl).rule 0 (by decide)) (before fewer rfl).path)
      · cases levels with
        | zero => exact fun _ _ _ done => by cases done
        | succ fewer =>
            refine sound_chain fun state value after done => ?_
            exact (before fewer rfl).pathFrom none state value after [] done .none
      · refine path_from_sound (rules 0 (by decide)) ?_
        intro parent state value after front done leading
        obtain ⟨fewer, same, done⟩ := below_ok done
        exact (before fewer same).pathFrom parent state value after front done leading

end Expression

end QueryOptions
