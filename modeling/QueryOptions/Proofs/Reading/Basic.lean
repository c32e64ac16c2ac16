import QueryOptions.Proofs.Reading.Motion

set_option autoImplicit false

namespace QueryOptions

open Parse

-- So many levels can be opened, and they suffice for the text ahead, with a few more to
-- begin with.
structure Room (settings : Settings) (levels cost : Nat) (state : ParseState) : Prop where
  opened : state.depth + levels ≤ settings.maxDepth
  enough : 8 * state.cursor.ahead.length + cost ≤ levels

structure Reached (M : Motion) (part : Part) (depth depth' : Nat) (state after : ParseState) : Prop where
  lexed : M.lexed after.cursor
  passed : M.passes depth state.cursor.ahead depth' after.cursor.ahead
  kept : Kept part state after

-- How a parse ends: further on, or with an error that is not for want of levels if there is
-- room.
def Reads (M : Motion) (room : Prop) (part : Part) (depth depth' : Nat) (state : ParseState) {α : Type} :
    EStateM.Result ParseError ParseState α → Prop
  | .ok _ after => Reached M part depth depth' state after
  | .error error _ => room → ∀ limit, error ≠ .depthExceeded limit

def Fits (M : Motion) (settings : Settings) (part : Part) (levels cost : Nat) {α : Type} (p : Parse α) : Prop :=
  ∀ depth state, M.lexed state.cursor →
    Reads M (Room settings levels cost state) part depth depth state (p state)

variable {M : Motion} {settings : Settings} {room : Prop} {part : Part} {depth depth' depth'' : Nat}
variable {state after : ParseState} {α β : Type}

theorem reached_same (lexed : M.lexed state.cursor) : Reached M part depth depth state state :=
  ⟨lexed, M.refl _ _, kept_same _ _⟩

theorem reached_trans {between : ParseState} (first : Reached M part depth depth' state between)
    (second : Reached M part depth' depth'' between after) : Reached M part depth depth'' state after :=
  ⟨second.lexed, M.trans first.passed second.passed, kept_trans first.kept second.kept⟩

theorem reached_of_rule (reached : Reached M .rule depth depth' state after) :
    Reached M part depth depth' state after :=
  ⟨reached.lexed, reached.passed, kept_rule reached.kept⟩

theorem reached_depth (reached : Reached M .rule depth depth' state after) : after.depth = state.depth := by
  have sum := reached.kept.depth
  rw [reached.kept.links rfl] at sum
  exact Nat.add_right_cancel sum

theorem room_after {levels cost : Nat} (room : Room settings levels cost state)
    (reached : Reached M .rule depth depth' state after) : Room settings levels cost after := by
  have shorter := M.shrinks reached.passed
  obtain ⟨opened, enough⟩ := room
  exact ⟨by rw [reached_depth reached]; exact opened, by omega⟩

theorem reads_pure (value : α) (lexed : M.lexed state.cursor) :
    Reads M room part depth depth state ((pure value : Parse α) state) := reached_same lexed

theorem reads_error {error : ParseError} (other : ∀ limit, error ≠ .depthExceeded limit) :
    Reads M room part depth depth' state ((throw error : Parse α) state) := fun _ => other

theorem positional_not_exceeded {error : ParseError} (placed : error.position.isSome) (limit : Nat) :
    error ≠ .depthExceeded limit := by
  rintro rfl
  cases placed

theorem reads_refused {error : ParseError} (placed : error.position.isSome) :
    Reads M room part depth depth' state ((throw error : Parse α) state) :=
  reads_error (positional_not_exceeded placed)

theorem reads_fail_expected (description : String) :
    Reads M room part depth depth' state ((failExpected description : Parse α) state) :=
  reads_refused rfl

theorem reads_reached {between : ParseState} {result : EStateM.Result ParseError ParseState α}
    (reached : Reached M part depth depth' state between)
    (next : Reads M room part depth' depth'' between result) : Reads M room part depth depth'' state result := by
  cases result with
  | ok value after => exact reached_trans reached next
  | error error after => exact next

theorem reads_bind {p : Parse α} {f : α → Parse β} (first : Reads M room .rule depth depth' state (p state))
    (second : ∀ value after, Reached M .rule depth depth' state after →
      Reads M room part depth' depth'' after (f value after)) :
    Reads M room part depth depth'' state ((p >>= f) state) := by
  change Reads _ _ _ _ _ _ (EStateM.bind p f state)
  unfold EStateM.bind
  cases result : p state with
  | ok value after =>
      rw [result] at first
      exact reads_reached (reached_of_rule first) (second value after first)
  | error error after =>
      rw [result] at first
      exact first

theorem reads_map {p : Parse α} {f : α → β} (reads : Reads M room part depth depth' state (p state)) :
    Reads M room part depth depth' state ((do return f (← p) : Parse β) state) := by
  change Reads _ _ _ _ _ _ (EStateM.bind p (fun value => pure (f value)) state)
  unfold EStateM.bind
  cases result : p state with
  | ok value after =>
      rw [result] at reads
      exact reads
  | error error after =>
      rw [result] at reads
      exact reads

theorem reads_of_room {room' : Prop} {result : EStateM.Result ParseError ParseState α} (fits : room → room')
    (reads : Reads M room' part depth depth' state result) : Reads M room part depth depth' state result := by
  cases result with
  | ok value after => exact reads
  | error error after => exact fun there => reads (fits there)

theorem reads_of_rule {result : EStateM.Result ParseError ParseState α}
    (reads : Reads M room .rule depth depth' state result) : Reads M room part depth depth' state result := by
  cases result with
  | ok value after => exact reached_of_rule reads
  | error error after => exact reads

theorem fits_mono {levels cost cost' : Nat} {p : Parse α} (fits : Fits M settings part levels cost p)
    (le : cost ≤ cost') : Fits M settings part levels cost' p := fun depth state lexed =>
  reads_of_room (by rintro ⟨opened, enough⟩; exact ⟨opened, by omega⟩) (fits depth state lexed)

theorem reads_rule {levels cost : Nat} {p : Parse α} {f : α → Parse β} (rule : Fits M settings .rule levels cost p)
    (lexed : M.lexed state.cursor) (fits : room → Room settings levels cost state)
    (next : ∀ value after, Reached M .rule depth depth state after →
      Reads M room part depth depth' after (f value after)) :
    Reads M room part depth depth' state ((p >>= f) state) :=
  reads_bind (reads_of_room fits (rule depth state lexed)) next

theorem reads_at_kind {kind : TokenKind} {f : Bool → Parse α}
    (yes : state.cursor.token.kind = kind → Reads M room part depth depth' state (f true state))
    (no : state.cursor.token.kind ≠ kind → Reads M room part depth depth' state (f false state)) :
    Reads M room part depth depth' state ((atKind kind >>= f) state) := by
  change Reads _ _ _ _ _ _ (f (state.cursor.token.kind == kind) state)
  by_cases same : state.cursor.token.kind = kind
  · rw [beq_iff_eq.mpr same]
    exact yes same
  · rw [beq_eq_false_iff_ne.mpr same]
    exact no same

theorem reads_at_keyword {ignoreCase : Bool} {keyword : String} {f : Bool → Parse α}
    (yes : state.cursor.token.kind = .identifier → Reads M room part depth depth' state (f true state))
    (no : Reads M room part depth depth' state (f false state)) :
    Reads M room part depth depth' state ((atKeyword ignoreCase keyword >>= f) state) := by
  change Reads _ _ _ _ _ _ (f (state.cursor.token.isKeyword ignoreCase keyword) state)
  cases found : state.cursor.token.isKeyword ignoreCase keyword with
  | true => exact yes (eq_of_beq (Bool.and_eq_true_iff.mp found).1)
  | false => exact no

theorem reads_advance {f : Unit → Parse α} (lexed : M.lexed state.cursor)
    (going : state.cursor.token.kind ≠ .finish)
    (passes : ∀ moved, Cursor.advance state.cursor = .ok () moved →
      M.passes depth state.cursor.ahead depth' moved.ahead)
    (next : ∀ moved, Cursor.advance state.cursor = .ok () moved → M.lexed moved →
      moved.ahead.length < state.cursor.ahead.length →
      Reads M room part depth' depth'' { state with cursor := moved } (f () { state with cursor := moved })) :
    Reads M room part depth depth'' state ((advance >>= f) state) := by
  change Reads _ _ _ _ _ _ (EStateM.bind (move Cursor.advance) f state)
  unfold EStateM.bind move
  cases advanced : Cursor.advance state.cursor with
  | ok value moved =>
      have reached : Reached M part depth depth' state { state with cursor := moved } :=
        ⟨M.steps lexed advanced, passes moved advanced, rfl, rfl, fun _ => rfl⟩
      exact reads_reached reached (next moved advanced reached.lexed (M.shortens lexed going advanced))
  | error error moved =>
      exact fun _ => positional_not_exceeded (Cursor.advance_placed _ _ _ advanced)

theorem not_finish_of_inner {kind : TokenKind} (inner : kind.isBound = false) : kind ≠ .finish := by
  rintro rfl
  cases inner

theorem reads_advance_inner {f : Unit → Parse α} (lexed : M.lexed state.cursor)
    (inner : state.cursor.token.kind.isBound = false)
    (next : ∀ moved, M.lexed moved → moved.ahead.length < state.cursor.ahead.length →
      Reads M room part depth depth' { state with cursor := moved } (f () { state with cursor := moved })) :
    Reads M room part depth depth' state ((advance >>= f) state) :=
  reads_advance lexed (not_finish_of_inner inner) (fun _ advanced => M.inner lexed inner advanced depth)
    fun moved _ => next moved

theorem reads_advance_opening {f : Unit → Parse α} (lexed : M.lexed state.cursor)
    (opening : state.cursor.token.kind = .openParen)
    (next : ∀ moved, M.lexed moved → moved.ahead.length < state.cursor.ahead.length →
      Reads M room part (depth + 1) depth' { state with cursor := moved } (f () { state with cursor := moved })) :
    Reads M room part depth depth' state ((advance >>= f) state) :=
  reads_advance lexed (by simp [opening]) (fun _ advanced => M.opening lexed opening advanced depth)
    fun moved _ => next moved

theorem reads_advance_closing {f : Unit → Parse α} (lexed : M.lexed state.cursor)
    (closing : state.cursor.token.kind = .closeParen)
    (next : ∀ moved, M.lexed moved → moved.ahead.length < state.cursor.ahead.length →
      Reads M room part depth depth' { state with cursor := moved } (f () { state with cursor := moved })) :
    Reads M room part (depth + 1) depth' state ((advance >>= f) state) :=
  reads_advance lexed (by simp [closing]) (fun _ advanced => M.closing lexed closing advanced depth)
    fun moved _ => next moved

theorem bind_congr_state {p q : Parse α} {f : α → Parse β} (same : p state = q state) :
    (p >>= f) state = (q >>= f) state := by
  change EStateM.bind p f state = EStateM.bind q f state
  unfold EStateM.bind
  rw [same]

theorem expect_found {kind : TokenKind} {description : String} (found : state.cursor.token.kind = kind) :
    expect kind description state = advance state := by
  rw [expect_by_current]
  change (if state.cursor.token.kind = kind then advance else _ : Parse Unit) state = _
  rw [if_pos found]

theorem expect_end_ok (done : expectEnd state = .ok () after) :
    after = state ∧ state.cursor.token.kind = .finish := by
  change (if state.cursor.token.kind = .finish then pure () else _ : Parse Unit) state = _ at done
  by_cases finish : state.cursor.token.kind = .finish
  · rw [if_pos finish] at done
    cases done
    exact ⟨rfl, finish⟩
  · rw [if_neg finish] at done
    cases done

theorem reads_expect {kind : TokenKind} {description : String} {f : Unit → Parse α}
    (found : state.cursor.token.kind = kind →
      Reads M room part depth depth' state ((advance >>= f) state)) :
    Reads M room part depth depth' state ((expect kind description >>= f) state) := by
  by_cases same : state.cursor.token.kind = kind
  · rw [bind_congr_state (expect_found same)]
    exact found same
  · rw [expect_by_current]
    change Reads _ _ _ _ _ _ (((if state.cursor.token.kind = kind then advance else _) >>= f : Parse α) state)
    rw [if_neg same]
    exact reads_refused rfl

theorem reads_closing {f : Unit → Parse α} (lexed : M.lexed state.cursor)
    (next : ∀ moved, M.lexed moved → moved.ahead.length < state.cursor.ahead.length →
      Reads M room part depth depth' { state with cursor := moved } (f () { state with cursor := moved })) :
    Reads M room part (depth + 1) depth' state ((expect .closeParen "')'" >>= f) state) :=
  reads_expect fun found => reads_advance_closing lexed found next

theorem reads_enter {levels : Nat} {f : Unit → Parse α} (fits : room → state.depth + levels ≤ settings.maxDepth)
    (entered : Reads M room part depth depth' state (f () { state with depth := state.depth + levels })) :
    Reads M room part depth depth' state ((enter settings levels >>= f) state) := by
  change Reads _ _ _ _ _ _ (EStateM.bind (enter settings levels) f state)
  unfold EStateM.bind
  rw [enter_exactly]
  by_cases deep : settings.maxDepth < state.depth + levels
  · rw [if_pos deep]
    intro there
    have := fits there
    omega
  · rw [if_neg deep]
    exact entered

theorem closing_ok {count : ParseState → Nat} {body : Parse α} {value : α} (result : body state = .ok value after)
    (opened : count after ≤ after.depth) :
    closing settings count body state = .ok value { after with depth := after.depth - count after } := by
  unfold closing
  rw [result]
  dsimp only
  rw [Neutral.leave_result opened]

theorem reads_recurse {levels : Nat} {p : Parse α} (fits : room → state.depth + levels ≤ settings.maxDepth)
    (body : Reads M room .rule depth depth' { state with depth := state.depth + levels }
      (p { state with depth := state.depth + levels })) :
    Reads M room .rule depth depth' state (recurse settings levels p state) := by
  refine reads_enter fits ?_
  cases result : p { state with depth := state.depth + levels } with
  | ok value after =>
      rw [result] at body
      have opened := reached_depth body
      dsimp only at opened
      rw [closing_ok result (by omega)]
      refine ⟨body.lexed, body.passed, body.kept.scope, ?_, body.kept.links⟩
      change after.depth - levels + state.links = state.depth + after.links
      rw [opened, body.kept.links rfl, Nat.add_sub_cancel]
  | error error after =>
      rw [result] at body
      obtain ⟨left, failed⟩ := closing_error settings (fun _ => levels) result
      rw [failed]
      exact body

-- The levels of a chain are closed with it, those of its links among them.
theorem reads_chain {p : Parse α} (fits : room → state.depth + 1 ≤ settings.maxDepth)
    (body : Reads M room .links depth depth' { state with depth := state.depth + 1, links := 0 }
      (p { state with depth := state.depth + 1, links := 0 })) :
    Reads M room .rule depth depth' state (chain settings p state) := by
  refine reads_enter fits ?_
  rw [counting_links_by_map]
  cases result : p { state with depth := state.depth + 1, links := 0 } with
  | ok value after =>
      rw [result] at body
      have opened : after.depth = state.depth + 1 + after.links := body.kept.depth
      rw [closing_ok result (by omega)]
      refine ⟨body.lexed, body.passed, body.kept.scope, ?_, fun _ => rfl⟩
      change after.depth - (after.links + 1) + state.links = state.depth + state.links
      omega
  | error error after =>
      rw [result] at body
      obtain ⟨left, failed⟩ := closing_error settings (fun after => after.links + 1) result
      rw [failed]
      exact body

theorem reads_hold {f : Unit → Parse α} (fits : room → state.depth + 1 ≤ settings.maxDepth)
    (next : Reads M room .links depth depth' { state with depth := state.depth + 1, links := state.links + 1 }
      (f () { state with depth := state.depth + 1, links := state.links + 1 })) :
    Reads M room .links depth depth' state ((hold settings >>= f) state) := by
  rw [hold, bind_assoc]
  refine reads_enter fits ?_
  change Reads _ _ _ _ _ _ (f () { state with depth := state.depth + 1, links := state.links + 1 })
  cases result : f () { state with depth := state.depth + 1, links := state.links + 1 } with
  | ok value after =>
      rw [result] at next
      have sum := next.kept.depth
      dsimp only at sum
      exact ⟨next.lexed, next.passed, next.kept.scope, by omega, fun rule => by cases rule⟩
  | error error after =>
      rw [result] at next
      exact next

theorem fits_chain {levels cost : Nat} {p : Parse α} (body : Fits M settings .links levels cost p) :
    Fits M settings .rule (levels + 1) (cost + 1) (chain settings p) := by
  intro depth state lexed
  refine reads_chain (by rintro ⟨opened, enough⟩; omega) (reads_of_room ?_
    (body depth _ lexed))
  rintro ⟨opened, enough⟩
  exact ⟨by dsimp only at *; omega, by dsimp only at *; omega⟩

theorem fits_chain_of {levels cost : Nat} {first : Parse α} {tail : α → Parse α}
    (operand : Fits M settings .rule levels cost first)
    (rest : ∀ left, Fits M settings .links levels cost (tail left)) :
    Fits M settings .rule (levels + 1) (cost + 1) (chain settings do tail (← first)) := by
  refine fits_chain fun depth state lexed => ?_
  refine reads_rule operand lexed id fun left after reached => ?_
  exact reads_of_room (fun room => room_after room reached) (rest left depth after reached.lexed)

theorem fits_of_too_deep (levels : Nat) (part : Part) (cost : Nat) (none : levels < cost) :
    Fits M settings part levels cost (tooDeep settings : Parse α) := by
  intro depth state _ room
  have := room.enough
  omega

theorem fits_sep_by {levels cost : Nat} {separator : TokenKind} {item : Parse α}
    (inner : separator.isBound = false) (items : Fits M settings .rule levels cost item) :
    Fits M settings .rule levels cost (sepBy separator item) := by
  have further (count : Nat) : Fits M settings .rule levels cost (separated separator item count) := by
    induction count with
    | zero => exact fun depth state lexed => reads_pure [] lexed
    | succ count ih =>
        intro depth state lexed
        refine reads_at_kind (fun same => ?_) (fun _ => reads_pure [] lexed)
        refine reads_advance_inner lexed (by rw [same]; exact inner) fun moved lexed shorter => ?_
        have fits : Room settings levels cost state → Room settings levels cost { state with cursor := moved } :=
          fun room => ⟨room.opened, by have := room.enough; dsimp only; omega⟩
        refine reads_rule items lexed fits fun first after reached => ?_
        refine reads_rule ih reached.lexed (fun room => room_after (fits room) reached) fun _ _ reached => ?_
        exact reads_pure _ reached.lexed
  intro depth state lexed
  refine reads_rule items lexed id fun first after reached => ?_
  change Reads _ _ _ _ _ _
    ((separated separator item (after.cursor.rest.length + 1) >>= fun rest => pure (first :: rest)) after)
  refine reads_rule (further _) reached.lexed
    (fun room => room_after room reached) fun _ _ reached => ?_
  exact reads_pure _ reached.lexed

theorem fits_declaring {levels cost : Nat} (name : String) {p : Parse α}
    (body : Fits M settings .rule levels cost p) :
    Fits M settings .rule levels cost (declaring settings name p) := by
  intro depth state lexed
  rw [declaring_by_map]
  change Reads _ _ _ _ _ _ (EStateM.bind (shared settings (Context.declare name)) _ state)
  unfold EStateM.bind shared Context.declare
  cases Context.isVariable ⟨settings, state.depth, state.scope⟩ name with
  | true => exact reads_error fun _ same => by cases same
  | false =>
      have inside := reads_of_room (fun room : Room settings levels cost state => ⟨room.opened, room.enough⟩)
        (body depth { state with scope := name :: state.scope } lexed)
      change Reads _ _ _ _ _ _ (mapState (leaving name) (p { state with scope := name :: state.scope }))
      cases result : p { state with scope := name :: state.scope } with
      | ok value after =>
          rw [result] at inside
          exact ⟨inside.lexed, inside.passed, by simp [leaving, inside.kept.scope], inside.kept.depth,
            inside.kept.links⟩
      | error error after =>
          rw [result] at inside
          exact inside

def Cursor.Passes (M : Motion) (cursor : Cursor) (most : Nat) : EStateM.Result ParseError Cursor α → Prop
  | .ok _ moved => M.lexed moved ∧ (∀ depth, M.passes depth cursor.ahead depth moved.ahead) ∧
      moved.ahead.length < most
  | .error _ _ => True

theorem passes_advance {cursor : Cursor} {most : Nat} {f : Unit → Cursor.Step α} (lexed : M.lexed cursor)
    (inner : cursor.token.kind.isBound = false)
    (next : ∀ moved, M.lexed moved → moved.ahead.length < cursor.ahead.length → moved.Passes M most (f () moved)) :
    cursor.Passes M most ((Cursor.advance >>= f) cursor) := by
  change Cursor.Passes M cursor most (EStateM.bind Cursor.advance f cursor)
  unfold EStateM.bind
  cases advanced : cursor.advance with
  | ok value moved =>
      have first := M.inner lexed inner advanced
      have second := next moved (M.steps lexed advanced)
        (M.shortens lexed (not_finish_of_inner inner) advanced)
      dsimp only
      cases ended : f value moved with
      | ok value' moved' =>
          rw [ended] at second
          exact ⟨second.1, fun depth => M.trans (first depth) (second.2.1 depth), second.2.2⟩
      | error error moved' => trivial
  | error error moved => trivial

theorem passes_pure {cursor : Cursor} {most : Nat} (value : α) (lexed : M.lexed cursor)
    (less : cursor.ahead.length < most) : cursor.Passes M most ((pure value : Cursor.Step α) cursor) :=
  ⟨lexed, fun _ => M.refl _ _, less⟩

theorem name_inner {token : Token} (name : Cursor.isName token) : token.kind.isBound = false := by
  unfold Cursor.isName at name
  split at name <;> simp_all [TokenKind.isBound]

theorem dotted_parts_pass (acceptStar : Bool) (parts : Nat) (name : String) {cursor : Cursor} {most : Nat}
    (lexed : M.lexed cursor) (less : cursor.ahead.length < most) :
    cursor.Passes M most (Cursor.dottedParts acceptStar parts name cursor) := by
  induction parts generalizing name cursor with
  | zero => exact passes_pure name lexed less
  | succ parts ih =>
      change cursor.Passes M most ((if cursor.token.kind = .dot then _ else _ : Cursor.Step String) cursor)
      split
      · rename_i dot
        refine passes_advance lexed (by rw [dot]; rfl) fun moved lexed shorter => ?_
        change moved.Passes M most ((if Cursor.isName moved.token then _ else _ : Cursor.Step String) moved)
        split
        · rename_i named
          exact passes_advance lexed (name_inner named) fun _ lexed shorter => ih _ lexed (by omega)
        · split
          · rename_i star
            exact passes_advance lexed (by rw [star.1]; rfl) fun _ lexed shorter => passes_pure _ lexed (by omega)
          · trivial
      · exact passes_pure name lexed less

theorem dotted_name_pass (acceptStar : Bool) {cursor : Cursor} (lexed : M.lexed cursor) :
    cursor.Passes M cursor.ahead.length (Cursor.dottedName acceptStar cursor) := by
  change cursor.Passes M _ ((if Cursor.isName cursor.token then _ else _ : Cursor.Step String) cursor)
  split
  · rename_i named
    exact passes_advance lexed (name_inner named) fun _ lexed shorter => dotted_parts_pass _ _ _ lexed shorter
  · split
    · rename_i star
      exact passes_advance lexed (by rw [star.1]; rfl) fun _ lexed shorter => passes_pure _ lexed shorter
    · trivial

theorem reads_dotted_name {acceptStar : Bool} {f : String → Parse α} (lexed : M.lexed state.cursor)
    (next : ∀ name moved, M.lexed moved → moved.ahead.length < state.cursor.ahead.length →
      Reads M room part depth depth' { state with cursor := moved } (f name { state with cursor := moved })) :
    Reads M room part depth depth' state ((dottedName acceptStar >>= f) state) := by
  have passes := dotted_name_pass acceptStar lexed
  change Reads _ _ _ _ _ _ (EStateM.bind (move (Cursor.dottedName acceptStar)) f state)
  unfold EStateM.bind move
  cases moved : Cursor.dottedName acceptStar state.cursor with
  | ok name cursor =>
      rw [moved] at passes
      have reached : Reached M part depth depth state { state with cursor := cursor } :=
        ⟨passes.1, passes.2.1 depth, rfl, rfl, fun _ => rfl⟩
      exact reads_reached reached (next name cursor passes.1 passes.2.2)
  | error error cursor =>
      exact fun _ => positional_not_exceeded (Cursor.dotted_name_placed _ _ _ _ moved)

theorem reads_identifier {description : String} {f : String → Parse α} (lexed : M.lexed state.cursor)
    (next : ∀ name moved, M.lexed moved → moved.ahead.length < state.cursor.ahead.length →
      Reads M room part depth depth' { state with cursor := moved } (f name { state with cursor := moved })) :
    Reads M room part depth depth' state ((identifier description >>= f) state) := by
  change Reads _ _ _ _ _ _ (((if state.cursor.token.kind = .identifier then _ else _ : Parse String) >>= f) state)
  split
  · rename_i same
    rw [bind_assoc]
    exact reads_advance_inner lexed (by rw [same]; rfl) fun moved lexed shorter => next _ moved lexed shorter
  · exact reads_refused rfl

end QueryOptions
