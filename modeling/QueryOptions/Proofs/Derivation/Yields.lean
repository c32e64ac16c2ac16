import QueryOptions.Proofs.Derivation.Rules
import QueryOptions.Proofs.Derivation.Spans
import QueryOptions.Proofs.Extension
import QueryOptions.Proofs.Neutral
import QueryOptions.Proofs.Reading.Basic

set_option autoImplicit false

namespace QueryOptions

open Parse

def Yields {α : Type} (p : Parse α) (state : ParseState) (value : α) (moved : Cursor) : Prop :=
  (∃ after, p state = .ok value after ∧ after.cursor = moved ∧ after.scope = state.scope) ∨
    ∃ error after, p state = .error error after ∧ error.OfLevels

namespace Yields

variable {α β : Type} {p : Parse α} {f : α → Parse β} {state : ParseState} {value : α} {result : β}
variable {between moved : Cursor} {settings : Settings}

theorem of_pure (there : state.cursor = moved) : Yields (pure value) state value moved :=
  .inl ⟨state, rfl, there, rfl⟩

theorem of_bind (first : Yields p state value between)
    (second : ∀ after, after.cursor = between → after.scope = state.scope → Yields (f value) after result moved) :
    Yields (p >>= f) state result moved := by
  rcases first with ⟨middle, ran, there, kept⟩ | ⟨error, middle, failed, counted⟩
  · rcases second middle there kept with ⟨after, ran', there', kept'⟩ | ⟨error, after, failed, counted⟩
    · exact .inl ⟨after, (bind_done ran).trans ran', there', kept'.trans kept⟩
    · exact .inr ⟨error, after, (bind_done ran).trans failed, counted⟩
  · refine .inr ⟨error, middle, ?_, counted⟩
    change EStateM.bind p f state = _
    unfold EStateM.bind
    rw [failed]

theorem of_value {other : α} (ends : Yields p state value between)
    (next : ∀ after, after.cursor = between → after.scope = state.scope → Yields (pure value : Parse α) after other moved) :
    Yields p state other moved := by
  rw [← bind_pure p]
  exact of_bind ends next

theorem too_deep : Yields (tooDeep settings) state value moved :=
  .inr ⟨_, state, rfl, .inr ⟨_, rfl⟩⟩

theorem of_run {q : Parse α} {state' : ParseState} (ran : p state = q state') (kept : state'.scope = state.scope)
    (yields : Yields q state' value moved) : Yields p state value moved := by
  rcases yields with ⟨after, ran', there, kept'⟩ | ⟨error, after, failed, counted⟩
  · exact .inl ⟨after, ran.trans ran', there, kept'.trans kept⟩
  · exact .inr ⟨error, after, ran.trans failed, counted⟩

theorem of_advance {f : Unit → Parse β} (advanced : Cursor.advance state.cursor = .ok () between)
    (next : Yields (f ()) { state with cursor := between } result moved) : Yields (advance >>= f) state result moved :=
  of_run (bind_done (advance_done advanced)) rfl next

theorem of_expect {kind : TokenKind} {description : String} {f : Unit → Parse β} (found : state.cursor.token.kind = kind)
    (advanced : Cursor.advance state.cursor = .ok () between)
    (next : Yields (f ()) { state with cursor := between } result moved) :
    Yields (expect kind description >>= f) state result moved :=
  of_run (bind_done ((expect_found found).trans (advance_done advanced))) rfl next

theorem of_kind {kind : TokenKind} {f : Bool → Parse β} {found : Bool} (seen : (state.cursor.token.kind == kind) = found)
    (next : Yields (f found) state result moved) : Yields (atKind kind >>= f) state result moved := by
  subst seen
  exact of_run rfl rfl next

theorem of_enter (levels : Nat) (entered : Yields p { state with depth := state.depth + levels } value moved) :
    Yields (do enter settings levels; p) state value moved := by
  rcases Neutral.enter_result settings levels state with opened | exceeded
  · exact of_run (bind_done opened) rfl entered
  · refine .inr ⟨.depthExceeded settings.maxDepth, state, ?_, .inr ⟨_, rfl⟩⟩
    change EStateM.bind _ _ _ = _
    unfold EStateM.bind
    rw [exceeded]

theorem of_closing {count : ParseState → Nat} (body : Yields p state value moved) :
    Yields (closing settings count p) state value moved := by
  rcases body with ⟨after, ran, there, kept⟩ | ⟨error, after, failed, counted⟩
  · unfold Yields closing leave shared Context.leave
    rw [ran]
    dsimp only
    by_cases missing : after.depth < count after
    · rw [if_pos missing]
      exact .inr ⟨_, _, rfl, .inl rfl⟩
    · rw [if_neg missing]
      exact .inl ⟨_, rfl, there, kept⟩
  · obtain ⟨left, failed'⟩ := closing_error settings count failed
    exact .inr ⟨error, left, failed', counted⟩

theorem of_recurse {levels : Nat} (body : Yields p { state with depth := state.depth + levels } value moved) :
    Yields (recurse settings levels p) state value moved :=
  of_enter levels (of_closing body)

theorem of_chain (body : Yields p { state with depth := state.depth + 1, links := 0 } value moved) :
    Yields (chain settings p) state value moved := by
  have closed : Yields (closing settings (fun after => after.links + 1) p)
      { state with depth := state.depth + 1, links := 0 } value moved := of_closing body
  refine of_enter 1 ?_
  unfold Yields
  rw [counting_links_by_map]
  rcases closed with ⟨after, ran, there, kept⟩ | ⟨error, after, failed, counted⟩
  · dsimp only
    rw [ran]
    exact .inl ⟨_, rfl, there, kept⟩
  · dsimp only
    rw [failed]
    exact .inr ⟨error, _, rfl, counted⟩

theorem of_hold {f : Unit → Parse β}
    (next : Yields (f ()) { state with depth := state.depth + 1, links := state.links + 1 } result moved) :
    Yields (hold settings >>= f) state result moved := by
  unfold hold
  rw [bind_assoc]
  exact of_enter 1 next

theorem of_declaring {name : String} (fresh : name ∉ state.scope)
    (body : Yields p { state with scope := name :: state.scope } value moved) :
    Yields (declaring settings name p) state value moved := by
  have unknown : ¬ state.scope.contains name := by simpa using fresh
  have declared : shared settings (Context.declare name) state = .ok () { state with scope := name :: state.scope } := by
    unfold shared Context.declare Context.isVariable
    rw [if_neg unknown]
  have inside : declaring settings name p state =
      mapState (leaving name) (p { state with scope := name :: state.scope }) := by
    rw [declaring_by_map]
    exact bind_done declared
  unfold Yields
  rw [inside]
  rcases body with ⟨after, ran, there, kept⟩ | ⟨error, after, failed, counted⟩
  · rw [ran]
    refine .inl ⟨_, rfl, there, ?_⟩
    unfold leaving
    rw [kept]
    exact List.erase_cons_head name state.scope
  · rw [failed]
    exact .inr ⟨error, _, rfl, counted⟩

theorem of_dotted_name {lexemes : List Lexeme} {name : String} {f : String → Parse β}
    (spelled : Expression.Name lexemes name) (spans : state.cursor.Spans lexemes between)
    (stops : between.token.kind ≠ .dot) (next : Yields (f name) { state with cursor := between } result moved) :
    Yields (dottedName false >>= f) state result moved := by
  have named : dottedName false state = .ok name { state with cursor := between } := by
    unfold dottedName move
    rw [Cursor.dotted_name_complete spelled spans stops]
  exact of_run (bind_done named) rfl next

theorem of_below {rule : Nat → Parse α} {levels : Nat} (fewer : ∀ fewer, Yields (rule fewer) state value moved) :
    Yields (Expression.below settings rule levels) state value moved := by
  cases levels with
  | zero => exact too_deep
  | succ levels => exact fewer levels

theorem of_go_on {operand : Parse Expr} {more : Expr → Parse Expr} {ready : Cursor} {right whole : Expr}
    (advanced : Cursor.advance state.cursor = .ok () ready)
    (operands : ∀ after, after.cursor = ready → after.scope = state.scope → Yields operand after right between)
    (rest : ∀ after, after.cursor = between → after.scope = state.scope → Yields (more right) after whole moved) :
    Yields (Expression.goOn settings operand more) state whole moved := by
  refine of_hold (of_advance advanced ?_)
  exact of_bind (operands _ rfl rfl) fun after there kept => rest after there kept

end Yields

end QueryOptions
