import QueryOptions.Proofs.Derivation.Vocabulary
import QueryOptions.Proofs.Derivation.Yields

set_option autoImplicit false

namespace QueryOptions.Expression

open Parse

variable {settings : Settings} {scope : List String} {level levels : Nat} {state : ParseState} {moved : Cursor}
variable {front back lexemes : List Lexeme} {left right tree : Expr}

structure Ends (cursor : Cursor) : Prop where
  dot : cursor.token.kind ≠ .dot
  slash : cursor.token.kind ≠ .slash
  opening : cursor.token.kind ≠ .openParen

theorem ends_of_kind {cursor : Cursor} {kind : TokenKind} (found : cursor.token.kind = kind)
    (other : kind ≠ .dot ∧ kind ≠ .slash ∧ kind ≠ .openParen) : Ends cursor := by
  subst found
  exact ⟨other.1, other.2.1, other.2.2⟩

def further (settings : Settings) (levels : Nat) (tree : Expr) : Parse Expr := do
  if ← atKind .slash then
    hold settings
    advance
    below settings (fun fewer => pathFrom settings fewer (some tree.intoInner)) levels
  else pure tree

def inner (settings : Settings) (levels : Nat) : Parse Expr := below settings (disjunction settings) levels

def listed (item : Parse Expr) (counts : ParseState → Nat) : Parse (List Expr) := do
  let first ← item
  let others ← separated .comma item (counts (← get))
  pure (first :: others)

-- The rules give what derives. A chain does so up to the place where its tail goes on, and
-- a path up to the place where its next segment does.
def Complete (settings : Settings) (scope : List String) (lexemes : List Lexeme) : Phrase → Prop
  | .chain level tree => ∀ levels state moved value final, state.scope = scope → state.cursor.Spans lexemes moved →
      Stops settings (level + 1) moved.token.lexeme → Ends moved →
      (∀ fewer after, after.cursor = moved → after.scope = scope →
        Yields (tail settings level fewer tree) after value final) →
      Yields (body settings level levels) state value final
  | .primary tree => ∀ levels state moved, state.scope = scope → state.cursor.Spans lexemes moved → Ends moved →
      Yields (primary settings levels) state tree moved
  | .candidates tree => ∀ levels state moved, state.scope = scope → state.cursor.Spans lexemes moved → Ends moved →
      Yields (candidatesAt settings levels) state tree moved
  | .items trees => ∀ levels state moved counts, state.scope = scope → state.cursor.Spans lexemes moved →
      moved.token.kind = .closeParen →
      (∀ others after, others.length < lexemes.length → after.cursor.Spans others moved → others.length ≤ counts after) →
      Yields (listed (inner settings levels) counts) state trees moved
  | .arguments trees => ∀ levels state moved, state.scope = scope → state.cursor.Spans lexemes moved →
      state.cursor.token.kind = .openParen ∧ Yields (arguments (inner settings levels)) state trees moved
  | .path tree => ∀ levels state moved value final, state.scope = scope → state.cursor.Spans lexemes moved →
      moved.token.kind ≠ .dot → moved.token.kind ≠ .openParen →
      (∀ fewer after, after.cursor = moved → after.scope = scope → Yields (further settings fewer tree) after value final) →
      Yields (pathFrom settings levels none) state value final
  | .segment parent tree => ∀ levels state moved, state.scope = scope → state.cursor.Spans lexemes moved →
      moved.token.kind ≠ .dot → moved.token.kind ≠ .openParen →
      Yields (segment settings (inner settings levels) parent) state tree moved

theorem tail_stops (stops : Stops settings level state.cursor.token.lexeme) :
    tail settings level levels left state = .ok left state := by
  by_cases loose : level < 5
  · rw [tail_at loose, stops.operators level (Nat.le_refl _), if_neg]
    · rfl
    · rw [stops.membership level (Nat.le_refl _)]
      decide
  · obtain ⟨more, rfl⟩ : ∃ more, level = more + 5 := ⟨level - 5, by omega⟩
    rfl

theorem tail_links {operator : BinaryOperator}
    (spelled : operatorAt settings level state.cursor.token.lexeme = some operator)
    (other : isMembership settings level state.cursor.token.lexeme = false) :
    tail settings level levels left state =
      goOn settings (below settings (rule settings (level + 1)) levels)
        (fun right => below settings (fun fewer => tail settings level fewer (.binary operator left right)) levels)
        state := by
  rw [tail_at (operator_loose spelled), other, if_neg (by decide), spelled]
  rfl

theorem tail_tests (spelled : isMembership settings 2 state.cursor.token.lexeme) :
    tail settings 2 levels left state =
      goOn settings (candidatesAt settings levels)
        (fun right => below settings (fun fewer => tail settings 2 fewer (.membership left right)) levels) state := by
  rw [tail_at (by decide), if_pos spelled]

theorem rule_complete (complete : Complete settings scope lexemes (.chain level tree)) (kept : state.scope = scope)
    (spans : state.cursor.Spans lexemes moved) (stops : Stops settings level moved.token.lexeme) (ends : Ends moved) :
    Yields (rule settings level levels) state tree moved := by
  have bodies (fewer : Nat) : Yields (chain settings (body settings level fewer)) state tree moved := by
    refine Yields.of_chain (complete fewer _ moved tree moved kept spans (stops_tighter (Nat.le_succ _) stops) ends ?_)
    intro fewest after there kept'
    exact .inl ⟨after, tail_stops (there ▸ stops), there, rfl⟩
  by_cases loose : level < 5
  · rw [rule_loose loose]
    exact Yields.of_below bodies
  · rw [rule_tight loose]
    exact bodies levels

theorem inner_complete (complete : Complete settings scope lexemes (.chain 0 tree)) (kept : state.scope = scope)
    (spans : state.cursor.Spans lexemes moved) (other : moved.token.kind ≠ .identifier) (ends : Ends moved) :
    Yields (inner settings levels) state tree moved :=
  Yields.of_below fun levels => show Yields (rule settings 0 levels) state tree moved from
    rule_complete complete kept spans (stops_of_kind other) ends

theorem operand_complete (bare : ∀ first ∈ lexemes.head?, prefixAt settings first = none) (some : lexemes ≠ [])
    (complete : Complete settings scope lexemes (.primary tree)) : Complete settings scope lexemes (.chain 5 tree) := by
  intro levels state moved value final kept spans stops ends next
  have first := bare _ (Cursor.head_of_spans spans some)
  rw [body, if_neg (by decide)]
  cases levels with
  | zero => exact Yields.too_deep
  | succ levels =>
      refine Yields.of_run (prefixed_at levels) rfl ?_
      rw [first]
      refine Yields.of_value (complete levels state moved kept spans ends) fun after there kept' => ?_
      exact next 0 after there (kept'.trans kept)

theorem prefixed_complete {first : Lexeme} {operator : UnaryOperator} (spelled : prefixAt settings first = some operator)
    (complete : Complete settings scope lexemes (.chain 5 tree)) :
    Complete settings scope (first :: lexemes) (.chain 5 (.unary operator tree)) := by
  intro levels state moved value final kept spans stops ends next
  obtain ⟨rfl, ready, advanced, others⟩ := Cursor.spans_cons spans
  rw [body, if_neg (by decide)]
  cases levels with
  | zero => exact Yields.too_deep
  | succ levels =>
      refine Yields.of_run (prefixed_at levels) rfl ?_
      rw [spelled]
      refine Yields.of_go_on advanced (fun after there kept' => ?_) fun after there kept' =>
        next 0 after there (kept'.trans kept)
      have inside := complete levels after moved tree moved (kept'.trans kept) (there ▸ others) stops ends
        fun _ last there' _ => Yields.of_pure there'
      rwa [body, if_neg (by decide)] at inside

theorem tighter_complete (loose : level < 5) (complete : Complete settings scope lexemes (.chain (level + 1) tree)) :
    Complete settings scope lexemes (.chain level tree) := by
  intro levels state moved value final kept spans stops ends next
  rw [body, if_pos loose]
  refine Yields.of_bind (rule_complete complete kept spans stops ends) fun after there kept' => ?_
  exact next levels after there (kept'.trans kept)

theorem link_complete (apart : Unambiguous settings) {word : Lexeme} {operator : BinaryOperator}
    (spelled : operatorAt settings level word = some operator)
    (before : Complete settings scope front (.chain level left))
    (operand : Complete settings scope back (.chain (level + 1) right)) :
    Complete settings scope (front ++ word :: back) (.chain level (.binary operator left right)) := by
  intro levels state moved value final kept spans stops ends next
  obtain ⟨between, first, second⟩ := Cursor.spans_split spans
  obtain ⟨rfl, ready, advanced, others⟩ := Cursor.spans_cons second
  obtain ⟨other, stops'⟩ := apart.operators spelled
  have at_word : between.token.kind = .identifier := operator_word spelled
  have ends' : Ends between := ends_of_kind at_word (by decide)
  refine before levels state between value final kept first stops' ends' fun fewer after there kept' => ?_
  subst there
  have operands (last : ParseState) (there : last.cursor = ready) (kept : last.scope = after.scope) :
      Yields (below settings (rule settings (level + 1)) fewer) last right moved :=
    Yields.of_below fun _ => rule_complete operand (kept.trans kept') (there ▸ others) stops ends
  exact Yields.of_run (tail_links spelled other) rfl <| Yields.of_go_on advanced operands fun last there kept =>
    Yields.of_below fun fewest => next fewest last there (kept.trans kept')

theorem membership_complete (apart : Unambiguous settings) {word : Lexeme} (spelled : isMembership settings 2 word)
    (before : Complete settings scope front (.chain 2 left)) (candidates : Complete settings scope back (.candidates right)) :
    Complete settings scope (front ++ word :: back) (.chain 2 (.membership left right)) := by
  intro levels state moved value final kept spans stops ends next
  obtain ⟨between, first, second⟩ := Cursor.spans_split spans
  obtain ⟨rfl, ready, advanced, others⟩ := Cursor.spans_cons second
  have at_word : between.token.kind = .identifier := membership_word spelled
  have ends' : Ends between := ends_of_kind at_word (by decide)
  refine before levels state between value final kept first (apart.membership spelled) ends' fun fewer after there kept' => ?_
  subst there
  have operands (last : ParseState) (there : last.cursor = ready) (kept : last.scope = after.scope) :
      Yields (candidatesAt settings fewer) last right moved :=
    candidates fewer last moved (kept.trans kept') (there ▸ others) ends
  exact Yields.of_run (tail_tests spelled) rfl <| Yields.of_go_on advanced operands fun last there kept =>
    Yields.of_below fun fewest => next fewest last there (kept.trans kept')

theorem primary_by_operand (levels : Nat) :
    primary settings levels = below settings (fun fewer =>
      recurse settings 1 (operand (disjunction settings fewer) (path settings fewer))) levels := by
  cases levels <;> rfl

theorem primary_complete
    (operands : ∀ levels after, after.cursor = state.cursor → after.scope = state.scope →
      Yields (operand (inner settings (levels + 1)) (path settings levels)) after tree moved) :
    Yields (primary settings levels) state tree moved := by
  rw [primary_by_operand]
  exact Yields.of_below fun fewer => Yields.of_recurse (operands fewer _ rfl rfl)

theorem literal_complete {kind : TokenKind} {text : String} (literal : kind.isLiteral) :
    Complete settings scope [⟨kind, text⟩] (.primary (.literal kind text)) := by
  intro levels state moved kept spans ends
  refine primary_complete fun fewer after there kept' => ?_
  rw [← there] at spans
  obtain ⟨same, ready, advanced, others⟩ := Cursor.spans_cons spans
  obtain ⟨rfl, rfl⟩ := Lexeme.mk.inj same
  obtain rfl := Cursor.spans_nil others
  have other : after.cursor.token.kind ≠ .openParen := fun opens => by rw [opens] at literal; cases literal
  have read : operand (inner settings (fewer + 1)) (path settings fewer) after =
      (do
        advance
        pure (.literal after.cursor.token.kind after.cursor.token.text) : Parse Expr) after :=
    (congrFun (if_neg other) after).trans (congrFun (if_pos literal) after)
  exact Yields.of_run read rfl (Yields.of_advance advanced (Yields.of_pure rfl))

theorem parameter_complete {text : String} :
    Complete settings scope [⟨.annotationIdentifier, text⟩] (.primary (.parameterAlias text)) := by
  intro levels state moved kept spans ends
  refine primary_complete fun fewer after there kept' => ?_
  rw [← there] at spans
  obtain ⟨same, ready, advanced, others⟩ := Cursor.spans_cons spans
  obtain ⟨refers, rfl⟩ := Lexeme.mk.inj same
  obtain rfl := Cursor.spans_nil others
  have read : operand (inner settings (fewer + 1)) (path settings fewer) after =
      (do
        advance
        pure (.parameterAlias after.cursor.token.text) : Parse Expr) after := by
    refine (congrFun (if_neg (by rw [refers]; decide)) after).trans ?_
    exact (congrFun (if_neg (by rw [refers]; decide)) after).trans (congrFun (if_pos refers) after)
  exact Yields.of_run read rfl (Yields.of_advance advanced (Yields.of_pure rfl))

theorem group_complete {opening closing : Lexeme} (opens : opening.kind = .openParen) (closes : closing.kind = .closeParen)
    (complete : Complete settings scope lexemes (.chain 0 tree)) :
    Complete settings scope (opening :: (lexemes ++ [closing])) (.primary tree) := by
  intro levels state moved kept spans ends
  refine primary_complete fun fewer after there kept' => ?_
  rw [← there] at spans
  obtain ⟨rfl, ready, advanced, others⟩ := Cursor.spans_cons spans
  obtain ⟨between, inside, last⟩ := Cursor.spans_split others
  obtain ⟨rfl, past, advanced', others⟩ := Cursor.spans_cons last
  obtain rfl := Cursor.spans_nil others
  have closing' : between.token.kind = .closeParen := closes
  have read : operand (inner settings (fewer + 1)) (path settings fewer) after =
      (do
        advance
        let expr ← inner settings (fewer + 1)
        expect .closeParen "')'"
        pure expr : Parse Expr) after := congrFun (if_pos opens) after
  refine Yields.of_run read rfl (Yields.of_advance advanced ?_)
  refine Yields.of_bind (inner_complete complete (kept'.trans kept) inside (by rw [closing']; decide)
    (ends_of_kind closing' (by decide))) fun last there' kept'' => ?_
  subst there'
  exact Yields.of_expect closing' advanced' (Yields.of_pure rfl)

theorem whole_path_complete (complete : Complete settings scope lexemes (.path tree)) (kept : state.scope = scope)
    (spans : state.cursor.Spans lexemes moved) (ends : Ends moved) : Yields (path settings levels) state tree moved := by
  cases levels with
  | zero => exact Yields.too_deep
  | succ fewer =>
      refine Yields.of_chain (complete fewer _ moved tree moved kept spans ends.dot ends.opening ?_)
      intro fewest last there _
      have stops : further settings fewest tree last = .ok tree last := by
        have other : ¬ (last.cursor.token.kind == .slash) = true := by
          rw [there]
          exact fun slash => ends.slash (eq_of_beq slash)
        exact congrFun (if_neg other) last
      exact .inl ⟨last, stops, there, rfl⟩

theorem path_primary_complete (named : ∀ first ∈ lexemes.head?, first.kind = .identifier) (some : lexemes ≠ [])
    (complete : Complete settings scope lexemes (.path tree)) : Complete settings scope lexemes (.primary tree) := by
  intro levels state moved kept spans ends
  refine primary_complete fun fewer after there kept' => ?_
  have word : after.cursor.token.kind = .identifier := by
    rw [there]
    exact named _ (Cursor.head_of_spans spans some)
  have read : operand (inner settings (fewer + 1)) (path settings fewer) after = path settings fewer after := by
    refine (congrFun (if_neg (by rw [word]; decide)) after).trans ?_
    refine (congrFun (if_neg (by rw [word]; decide)) after).trans ?_
    exact (congrFun (if_neg (by rw [word]; decide)) after).trans (congrFun (if_pos word) after)
  exact Yields.of_run read rfl (whole_path_complete complete (kept'.trans kept) (there ▸ spans) ends)

theorem single_complete (bare : ∀ first ∈ lexemes.head?, first.kind ≠ .openParen) (some : lexemes ≠ [])
    (complete : Complete settings scope lexemes (.primary tree)) : Complete settings scope lexemes (.candidates tree) := by
  intro levels state moved kept spans ends
  have other : ¬ (state.cursor.token.kind == .openParen) = true :=
    fun opens => bare _ (Cursor.head_of_spans spans some) (eq_of_beq opens)
  refine Yields.of_below fun _ => Yields.of_below fun fewer => ?_
  have read : candidates settings (disjunction settings fewer) (primary settings (fewer + 1)) state =
      primary settings (fewer + 1) state := congrFun (if_neg other) state
  exact Yields.of_run read rfl (complete (fewer + 1) state moved kept spans ends)

theorem sep_by_listed (item : Parse Expr) :
    sepBy .comma item = listed item fun after => after.cursor.rest.length + 1 := rfl

theorem sep_by_complete {trees : List Expr} (complete : Complete settings scope lexemes (.items trees))
    (kept : state.scope = scope) (spans : state.cursor.Spans lexemes moved) (closing : moved.token.kind = .closeParen) :
    Yields (sepBy .comma (inner settings levels)) state trees moved := by
  rw [sep_by_listed]
  exact complete levels state moved _ kept spans closing fun _ _ _ others => Cursor.spans_length others

theorem list_complete {trees : List Expr} {opening closing : Lexeme} (opens : opening.kind = .openParen)
    (closes : closing.kind = .closeParen) (complete : Complete settings scope lexemes (.items trees)) :
    Complete settings scope (opening :: (lexemes ++ [closing])) (.candidates (.collection trees)) := by
  intro levels state moved kept spans ends
  obtain ⟨rfl, ready, advanced, others⟩ := Cursor.spans_cons spans
  obtain ⟨between, inside, last⟩ := Cursor.spans_split others
  obtain ⟨rfl, past, advanced', others⟩ := Cursor.spans_cons last
  obtain rfl := Cursor.spans_nil others
  have closing' : between.token.kind = .closeParen := closes
  refine Yields.of_below fun _ => Yields.of_below fun fewer => ?_
  have read : candidates settings (disjunction settings fewer) (primary settings (fewer + 1)) state =
      recurse settings 1 (collection (inner settings (fewer + 1))) state :=
    congrFun (if_pos (beq_of_eq opens)) state
  refine Yields.of_run read rfl (Yields.of_recurse (Yields.of_advance advanced ?_))
  refine Yields.of_bind (sep_by_complete complete kept inside closing') fun last there' kept' => ?_
  subst there'
  exact Yields.of_expect closing' advanced' (Yields.of_pure rfl)

theorem separated_stops {α : Type} {item : Parse α} {separator : TokenKind} (count : Nat)
    (other : state.cursor.token.kind ≠ separator) : separated separator item count state = .ok [] state := by
  cases count with
  | zero => rfl
  | succ count =>
      have stops : ¬ (state.cursor.token.kind == separator) = true := fun same => other (eq_of_beq same)
      exact congrFun (if_neg stops) state

theorem last_complete (complete : Complete settings scope lexemes (.chain 0 tree)) :
    Complete settings scope lexemes (.items [tree]) := by
  intro levels state moved counts kept spans closing _
  refine Yields.of_bind (inner_complete complete kept spans (by rw [closing]; decide) (ends_of_kind closing (by decide)))
    fun after there kept' => ?_
  subst there
  have stops : separated .comma (inner settings levels) (counts after) after = .ok [] after :=
    separated_stops _ (by rw [closing]; decide)
  exact .inl ⟨after, bind_done stops, rfl, rfl⟩

theorem further_complete {trees : List Expr} {comma : Lexeme} (separates : comma.kind = .comma) (some : front ≠ [])
    (item : Complete settings scope front (.chain 0 tree)) (others : Complete settings scope back (.items trees)) :
    Complete settings scope (front ++ comma :: back) (.items (tree :: trees)) := by
  intro levels state moved counts kept spans closing enough
  obtain ⟨between, first, second⟩ := Cursor.spans_split spans
  obtain ⟨rfl, ready, advanced, rest⟩ := Cursor.spans_cons second
  have separates' : between.token.kind = .comma := separates
  refine Yields.of_bind (inner_complete item kept first (by rw [separates']; decide) (ends_of_kind separates' (by decide)))
    fun after there kept' => ?_
  subst there
  have length : (after.cursor.token.lexeme :: back).length ≤ counts after :=
    enough _ after (by have := List.length_pos_iff.mpr some; simp only [List.length_append]; omega) second
  obtain ⟨count, same⟩ : ∃ fewer, counts after = fewer + 1 := ⟨counts after - 1, by simp at length; omega⟩
  rw [same] at length
  have goes : separated .comma (inner settings levels) (counts after) after =
      (do
        advance
        listed (inner settings levels) fun _ => count : Parse (List Expr)) after := by
    rw [same]
    exact congrFun (if_pos (beq_of_eq separates')) after
  have read : Yields (separated .comma (inner settings levels) (counts after)) after trees moved := by
    refine Yields.of_run goes rfl (Yields.of_advance advanced ?_)
    refine others levels _ moved _ (kept'.trans kept) rest closing fun items last fewer _ => ?_
    simp only [List.length_cons] at length
    omega
  have whole : Yields (do
      let others ← separated .comma (inner settings levels) (counts after)
      pure (tree :: others) : Parse (List Expr)) after (tree :: trees) moved :=
    Yields.of_bind read fun last there _ => Yields.of_pure there
  exact Yields.of_run rfl rfl whole

theorem none_complete {opening closing : Lexeme} (opens : opening.kind = .openParen) (closes : closing.kind = .closeParen) :
    Complete settings scope [opening, closing] (.arguments []) := by
  intro levels state moved kept spans
  obtain ⟨rfl, ready, advanced, others⟩ := Cursor.spans_cons spans
  obtain ⟨rfl, past, advanced', others⟩ := Cursor.spans_cons others
  obtain rfl := Cursor.spans_nil others
  refine ⟨opens, Yields.of_expect opens advanced (Yields.of_kind (beq_of_eq closes) ?_)⟩
  exact Yields.of_advance advanced' (Yields.of_pure rfl)

theorem some_complete {trees : List Expr} {opening closing : Lexeme} (opens : opening.kind = .openParen)
    (closes : closing.kind = .closeParen) (some : lexemes ≠ []) (head : ∀ first ∈ lexemes.head?, first.kind ≠ .closeParen)
    (complete : Complete settings scope lexemes (.items trees)) :
    Complete settings scope (opening :: (lexemes ++ [closing])) (.arguments trees) := by
  intro levels state moved kept spans
  obtain ⟨rfl, ready, advanced, others⟩ := Cursor.spans_cons spans
  obtain ⟨between, inside, last⟩ := Cursor.spans_split others
  obtain ⟨rfl, past, advanced', others⟩ := Cursor.spans_cons last
  obtain rfl := Cursor.spans_nil others
  have other : (ready.token.kind == .closeParen) = false :=
    beq_false_of_ne (head _ (Cursor.head_of_spans inside some))
  refine ⟨opens, Yields.of_expect opens advanced (Yields.of_kind other ?_)⟩
  refine Yields.of_bind (sep_by_complete complete kept inside closes) fun last there _ => ?_
  subst there
  refine Yields.of_kind (beq_of_eq closes) ?_
  exact Yields.of_advance advanced' (Yields.of_pure rfl)

variable {name : String} {parent : Option Expr}

theorem segment_complete (spelled : Name front name)
    (after : ∀ levels (state : ParseState) moved, state.scope = scope → state.cursor.Spans back moved →
      moved.token.kind ≠ .dot → moved.token.kind ≠ .openParen →
      state.cursor.token.kind ≠ .dot ∧ Yields (afterName settings (inner settings levels) parent name) state tree moved) :
    Complete settings scope (front ++ back) (.segment parent tree) := by
  intro levels state moved kept spans dot opening
  obtain ⟨between, first, second⟩ := Cursor.spans_split spans
  obtain ⟨stops, yields⟩ := after levels { state with cursor := between } moved kept second dot opening
  rw [segment_by_name]
  exact Yields.of_dotted_name spelled first stops yields

theorem bare_complete (spelled : Name lexemes name)
    (found : ∀ state : ParseState, state.scope = scope →
      (if (parent.isNone && state.scope.contains name) = true then pure (.rangeVariable name)
        else pure (.endPath name parent) : Parse Expr) state = .ok tree state) :
    Complete settings scope lexemes (.segment parent tree) := by
  rw [← List.append_nil lexemes]
  refine segment_complete spelled fun levels state moved kept spans dot opening => ?_
  obtain rfl := Cursor.spans_nil spans
  have other : ¬ (state.cursor.token.kind == .openParen) = true := fun opens => opening (eq_of_beq opens)
  exact ⟨dot, .inl ⟨state, (congrFun (if_neg other) state).trans (found state kept), rfl, rfl⟩⟩

theorem call_complete {trees : List Expr} (spelled : Name front name)
    (plain : parent = none ∨ Quantifier.ofName? name = none)
    (complete : Complete settings scope back (.arguments trees)) :
    Complete settings scope (front ++ back) (.segment parent (.call name trees parent)) := by
  refine segment_complete spelled fun levels state moved kept spans dot opening => ?_
  obtain ⟨opens, -⟩ := complete levels state moved kept spans
  refine ⟨by rw [opens]; decide, Yields.of_run (congrFun (if_pos (beq_of_eq opens)) state) rfl ?_⟩
  have called : Yields (do
      let trees ← recurse settings 1 (arguments (inner settings levels))
      pure (.call name trees parent) : Parse Expr) state (.call name trees parent) moved :=
    Yields.of_bind (Yields.of_recurse (complete levels { state with depth := state.depth + 1 } moved kept spans).2)
      fun _ there _ => Yields.of_pure there
  rcases plain with rfl | plain
  · cases Quantifier.ofName? name <;> exact called
  · rw [plain]
    exact called

theorem quantified_complete {quantifier : Quantifier} {source : Expr} (spelled : Name front name)
    (quantifies : Quantifier.ofName? name = some quantifier)
    (complete : ∀ levels (state : ParseState) moved, state.scope = scope → state.cursor.Spans back moved →
      state.cursor.token.kind = .openParen ∧
        Yields (lambda settings (inner settings levels) quantifier source) state tree moved) :
    Complete settings scope (front ++ back) (.segment (some source) tree) := by
  refine segment_complete spelled fun levels state moved kept spans dot opening => ?_
  obtain ⟨opens, -⟩ := complete levels state moved kept spans
  refine ⟨by rw [opens]; decide, Yields.of_run (congrFun (if_pos (beq_of_eq opens)) state) rfl ?_⟩
  rw [quantifies]
  exact Yields.of_recurse (complete levels { state with depth := state.depth + 1 } moved kept spans).2

theorem nonempty_complete {source : Expr} {opening closing : Lexeme} (spelled : Name front name)
    (quantifies : Quantifier.ofName? name = some .any) (opens : opening.kind = .openParen)
    (closes : closing.kind = .closeParen) :
    Complete settings scope (front ++ [opening, closing]) (.segment (some source) (.nonempty source)) := by
  refine quantified_complete spelled quantifies fun levels state moved kept spans => ?_
  obtain ⟨rfl, ready, advanced, others⟩ := Cursor.spans_cons spans
  obtain ⟨rfl, past, advanced', others⟩ := Cursor.spans_cons others
  obtain rfl := Cursor.spans_nil others
  refine ⟨opens, Yields.of_expect opens advanced (Yields.of_kind (beq_of_eq closes) ?_)⟩
  exact Yields.of_advance advanced' (Yields.of_pure rfl)

theorem lambda_complete {quantifier : Quantifier} {source condition : Expr} {opening word colon closing : Lexeme}
    (spelled : Name front name) (quantifies : Quantifier.ofName? name = some quantifier) (opens : opening.kind = .openParen)
    (named : word.kind = .identifier) (colons : colon.kind = .colon) (fresh : word.text ∉ scope)
    (closes : closing.kind = .closeParen)
    (complete : Complete settings (word.text :: scope) lexemes (.chain 0 condition)) :
    Complete settings scope (front ++ opening :: word :: colon :: (lexemes ++ [closing]))
      (.segment (some source) (.lambda quantifier source word.text condition)) := by
  refine quantified_complete spelled quantifies fun levels state moved kept spans => ?_
  obtain ⟨rfl, ready, advanced, others⟩ := Cursor.spans_cons spans
  obtain ⟨rfl, atColon, stepped, others⟩ := Cursor.spans_cons others
  obtain ⟨rfl, start, begun, others⟩ := Cursor.spans_cons others
  obtain ⟨between, inside, last⟩ := Cursor.spans_split others
  obtain ⟨rfl, past, advanced', others⟩ := Cursor.spans_cons last
  obtain rfl := Cursor.spans_nil others
  have closing' : between.token.kind = .closeParen := closes
  have other : (ready.token.kind == .closeParen) = false := by
    rw [show ready.token.kind = .identifier from named]
    rfl
  refine ⟨opens, Yields.of_expect opens advanced (Yields.of_kind other ?_)⟩
  have variable' : identifier "range variable" { state with cursor := ready } =
      .ok ready.token.text { state with cursor := atColon } :=
    (congrFun (if_pos named) _).trans (bind_done (advance_done stepped))
  refine Yields.of_run (bind_done variable') rfl (Yields.of_expect colons begun ?_)
  have body : Yields (declaring settings ready.token.text (inner settings levels)) { state with cursor := start }
      condition between := by
    refine Yields.of_declaring (kept.symm ▸ fresh) ?_
    exact inner_complete complete (congrArg _ kept) inside (by rw [closing']; decide) (ends_of_kind closing' (by decide))
  refine Yields.of_bind body fun last there _ => ?_
  subst there
  exact Yields.of_expect closing' advanced' (Yields.of_pure rfl)

theorem root_complete (complete : Complete settings scope lexemes (.segment none tree)) :
    Complete settings scope lexemes (.path tree) := by
  intro levels state moved value final kept spans dot opening next
  rw [path_from_at]
  refine Yields.of_bind (complete levels state moved kept spans dot opening) fun after there kept' => ?_
  exact next levels after there (kept'.trans kept)

theorem step_complete {source : Expr} {slash : Lexeme} (slashes : slash.kind = .slash)
    (before : Complete settings scope front (.path source))
    (segment : Complete settings scope back (.segment (some source.intoInner) tree)) :
    Complete settings scope (front ++ slash :: back) (.path tree) := by
  intro levels state moved value final kept spans dot opening next
  obtain ⟨between, first, second⟩ := Cursor.spans_split spans
  obtain ⟨rfl, ready, advanced, others⟩ := Cursor.spans_cons second
  have slashes' : between.token.kind = .slash := slashes
  refine before levels state between value final kept first (by rw [slashes']; decide) (by rw [slashes']; decide)
    fun fewer after there kept' => ?_
  subst there
  refine Yields.of_run (congrFun (if_pos (beq_of_eq slashes')) after) rfl ?_
  refine Yields.of_hold (Yields.of_advance advanced (Yields.of_below fun fewest => ?_))
  rw [path_from_at]
  refine Yields.of_bind (segment fewest _ moved kept' others dot opening) fun last there' kept'' => ?_
  exact next fewest last there' (kept''.trans kept')

theorem complete (apart : Unambiguous settings) {phrase : Phrase} (derives : Derives settings scope phrase lexemes) :
    Complete settings scope lexemes phrase := by
  induction derives with
  | operand bare primary ih => exact operand_complete bare (derives_ne_nil primary) ih
  | prefixed spelled _ ih => exact prefixed_complete spelled ih
  | tighter loose _ ih => exact tighter_complete loose ih
  | link _ spelled _ before operand => exact link_complete apart spelled before operand
  | membership _ spelled _ before candidates => exact membership_complete apart spelled before candidates
  | literal literal => exact literal_complete literal
  | parameter => exact parameter_complete
  | group opens _ closes ih => exact group_complete opens closes ih
  | path named path ih => exact path_primary_complete named (derives_ne_nil path) ih
  | single bare primary ih => exact single_complete bare (derives_ne_nil primary) ih
  | list opens _ closes ih => exact list_complete opens closes ih
  | last _ ih => exact last_complete ih
  | further item separates _ ih others => exact further_complete separates (derives_ne_nil item) ih others
  | none opens closes => exact none_complete opens closes
  | some opens items closes ih => exact some_complete opens closes (derives_ne_nil items) (derives_head items) ih
  | @declared scope name _ spelled known =>
      refine bare_complete spelled fun state kept => ?_
      rw [kept, if_pos (by simpa using known)]
      rfl
  | @property scope parent name _ spelled free =>
      refine bare_complete spelled fun state kept => ?_
      rw [kept, if_neg]
      · rfl
      · intro known
        obtain ⟨root, member⟩ := Bool.and_eq_true_iff.mp known
        exact free (Option.isNone_iff_eq_none.mp root) (by simpa using member)
  | call spelled plain _ ih => exact call_complete spelled plain ih
  | nonempty spelled quantifies opens closes => exact nonempty_complete spelled quantifies opens closes
  | lambda spelled quantifies opens named colons fresh _ closes ih =>
      exact lambda_complete spelled quantifies opens named colons fresh closes ih
  | root _ ih => exact root_complete ih
  | step _ slashes _ before segment => exact step_complete slashes before segment

end QueryOptions.Expression
