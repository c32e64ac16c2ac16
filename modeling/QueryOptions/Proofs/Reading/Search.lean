import QueryOptions.Proofs.Reading.Basic
import QueryOptions.Search.Grammar

set_option autoImplicit false

namespace QueryOptions

open Parse

variable {settings : Settings} {room : Prop} {part : Part} {depth depth' : Nat} {state : ParseState}
variable {levels : Nat} {α : Type}

def Takes (settings : Settings) (levels cost : Nat) (p : Parse α) : Prop :=
  ∀ depth state, Cursor.Lexed .search state.cursor →
    Reads .search (Room settings levels cost state) .rule depth (depth + 1) state (p state)

theorem reads_take {f : Unit → Parse α} (lexed : Cursor.Lexed .search state.cursor)
    (going : state.cursor.token.kind ≠ .finish)
    (next : ∀ moved, Cursor.Lexed .search moved → moved.ahead.length < state.cursor.ahead.length →
      Reads .search room part (depth + 1) depth' { state with cursor := moved }
        (f () { state with cursor := moved })) :
    Reads .search room part depth depth' state ((advance >>= f) state) := by
  refine reads_advance (M := Motion.search) lexed going (fun moved advanced => ?_) fun moved _ => next moved
  have shorter := Cursor.ahead_shortens lexed going advanced
  exact ⟨advance_suffix lexed advanced, by omega⟩

theorem reads_less {result : EStateM.Result ParseError ParseState α}
    (reads : Reads .search room part depth (depth' + 1) state result) :
    Reads .search room part depth depth' state result := by
  cases result with
  | ok value after =>
      exact ⟨reads.lexed, ⟨reads.passed.1, Nat.le_trans (Nat.le_succ _) reads.passed.2⟩, reads.kept⟩
  | error error after => exact reads

theorem fits_of_takes {cost : Nat} {p : Parse α} (takes : Takes settings levels cost p) :
    Fits .search settings .rule levels cost p := fun depth state lexed => reads_less (takes depth state lexed)

namespace Search

theorem operand_takes {inner : Parse Expr} (inners : Fits .search settings .rule levels 8 inner) :
    Takes settings levels 0 (operand inner) := by
  intro depth state lexed
  change Reads _ _ _ _ _ _ ((if state.cursor.token.kind = .openParen then _ else _ : Parse Expr) state)
  split
  · rename_i opening
    refine reads_take lexed (by simp [opening]) fun moved lexed shorter => ?_
    refine reads_rule inners lexed (by rintro ⟨opened, enough⟩; exact ⟨opened, by dsimp only at *; omega⟩)
      fun expr after reached => ?_
    refine reads_expect fun closing => reads_less ?_
    exact reads_take reached.lexed (by simp [closing]) fun _ lexed _ => reads_pure _ lexed
  · split
    · rename_i phrase
      exact reads_take lexed (by simp [phrase]) fun _ lexed _ => reads_pure _ lexed
    · exact reads_refused rfl

theorem or_link_fits {operand : Parse Expr} {more : Expr → Parse Expr}
    (operands : Fits .search settings .rule (levels - 1) 7 operand)
    (rest : ∀ left, Fits .search settings .links (levels - 1) 1 (more left)) (left : Expr) :
    Fits .search settings .links levels 1 (orLink settings operand more left) := by
  intro depth state lexed
  refine reads_at_keyword (fun same => ?_) (reads_pure left lexed)
  refine reads_hold (by rintro ⟨opened, enough⟩; omega) ?_
  refine reads_advance_inner (M := Motion.search) lexed (by dsimp only; rw [same]; rfl) fun moved lexed shorter => ?_
  refine reads_rule operands lexed
    (by rintro ⟨opened, enough⟩; constructor <;> dsimp only at * <;> omega) fun right after reached => ?_
  refine reads_of_room ?_ (rest _ _ after reached.lexed)
  rintro ⟨opened, enough⟩
  exact room_after ⟨by dsimp only at *; omega, by dsimp only at *; omega⟩ reached

theorem join_fits {operand : Parse Expr} {more : Expr → Parse Expr} (operands : Takes settings (levels - 1) 3 operand)
    (rest : ∀ left, Fits .search settings .links (levels - 1) 4 (more left)) (left : Expr) :
    Fits .search settings .links levels 4 (join settings operand more left) := by
  intro depth state lexed
  refine reads_hold (by rintro ⟨opened, enough⟩; omega) ?_
  have first := reads_of_room (fun room : Room settings levels 4 state => ?_)
    (operands depth { state with depth := state.depth + 1, links := state.links + 1 } lexed)
  · refine reads_less (reads_bind first fun right after reached => ?_)
    refine reads_of_room ?_ (rest _ _ after reached.lexed)
    rintro ⟨opened, enough⟩
    have taken := reached.passed.2
    have deeper := reached_depth reached
    exact ⟨by dsimp only at *; omega, by dsimp only at *; omega⟩
  · obtain ⟨opened, enough⟩ := room
    exact ⟨by dsimp only; omega, by dsimp only; omega⟩

theorem and_link_fits {operand : Parse Expr} {more : Expr → Parse Expr} (operands : Takes settings (levels - 1) 3 operand)
    (rest : ∀ left, Fits .search settings .links (levels - 1) 4 (more left)) (left : Expr) :
    Fits .search settings .links levels 4 (andLink settings operand more left) := by
  intro depth state lexed
  refine reads_at_keyword (fun same => ?_) ?_
  · refine reads_advance_inner (M := Motion.search) lexed (by rw [same]; rfl) fun moved lexed shorter => ?_
    exact reads_of_room (by rintro ⟨opened, enough⟩; exact ⟨opened, by dsimp only; omega⟩)
      (join_fits operands rest left _ _ lexed)
  · change Reads _ _ _ _ _ _ ((if _ then join settings operand more left else pure left : Parse Expr) state)
    split
    · exact join_fits operands rest left _ _ lexed
    · exact reads_pure left lexed

theorem prefixes_take {operand more : Parse Expr} (operands : Takes settings levels 2 operand)
    (rest : Fits .search settings .links (levels - 1) 2 more) (depth : Nat) (state : ParseState)
    (lexed : Cursor.Lexed .search state.cursor) :
    Reads .search (Room settings levels 2 state) .links depth (depth + 1) state
      (prefixes settings operand more state) := by
  refine reads_at_keyword (fun same => ?_) (reads_of_rule (operands depth state lexed))
  refine reads_hold (by rintro ⟨opened, enough⟩; omega) ?_
  refine reads_take lexed (by simp [same]) fun moved lexed shorter => ?_
  refine reads_map (reads_of_room ?_ (rest _ _ lexed))
  rintro ⟨opened, enough⟩
  exact ⟨by dsimp only at *; omega, by dsimp only at *; omega⟩

structure Fitting (settings : Settings) (levels : Nat) : Prop where
  disjunction : Fits .search settings .rule levels 6 (disjunction settings levels)
  disjunctionTail : ∀ left, Fits .search settings .links levels 1 (disjunctionTail settings levels left)
  conjunction : Fits .search settings .rule levels 5 (conjunction settings levels)
  conjunctionTail : ∀ left, Fits .search settings .links levels 4 (conjunctionTail settings levels left)
  negated : ∀ depth state, Cursor.Lexed .search state.cursor →
    Reads .search (Room settings (levels - 1) 2 state) .links depth (depth + 1) state
      (negated settings levels state)
  primary : Takes settings levels 2 (primary settings levels)

theorem takes_of_too_deep (cost : Nat) (positive : 0 < cost) :
    Takes settings 0 cost (tooDeep settings : Parse α) := by
  intro depth state _ room
  have := room.enough
  omega

theorem negation_takes (fitting : Fitting settings levels) :
    Takes settings levels 3 (chain settings (negated settings levels)) := by
  intro depth state lexed
  refine reads_chain (by rintro ⟨opened, enough⟩; omega) (reads_of_room ?_
    (fitting.negated depth _ lexed))
  rintro ⟨opened, enough⟩
  exact ⟨by dsimp only at *; omega, by dsimp only at *; omega⟩

theorem fitting_zero : Fitting settings 0 where
  disjunction := fits_of_too_deep 0 _ 6 (by decide)
  disjunctionTail left :=
    or_link_fits (fits_of_too_deep 0 _ 7 (by decide)) (fun _ => fits_of_too_deep 0 _ 1 (by decide)) left
  conjunction := fits_of_too_deep 0 _ 5 (by decide)
  conjunctionTail left :=
    and_link_fits (takes_of_too_deep 3 (by decide)) (fun _ => fits_of_too_deep 0 _ 4 (by decide)) left
  negated depth state _ room := by
    have := room.enough
    omega
  primary := takes_of_too_deep 2 (by decide)

theorem fitting_succ (below : Fitting settings levels) : Fitting settings (levels + 1) where
  disjunction := fits_chain_of below.conjunction fun left => fits_mono (below.disjunctionTail left) (by decide)
  disjunctionTail left :=
    or_link_fits (fits_mono below.conjunction (by decide)) below.disjunctionTail left
  conjunction :=
    fits_chain_of (fits_mono (fits_of_takes (negation_takes below)) (by decide)) below.conjunctionTail
  conjunctionTail left := and_link_fits (negation_takes below) below.conjunctionTail left
  negated := by
    cases levels with
    | zero =>
        exact prefixes_take (takes_of_too_deep 2 (by decide)) (fits_of_too_deep 0 _ 2 (by decide))
    | succ fewer =>
        exact prefixes_take below.primary fun depth state lexed => reads_less (below.negated depth state lexed)
  primary := by
    intro depth state lexed
    refine reads_recurse (by rintro ⟨opened, enough⟩; omega) (reads_of_room ?_
      (operand_takes (fits_mono below.disjunction (by decide)) depth _ lexed))
    rintro ⟨opened, enough⟩
    exact ⟨by dsimp only at *; omega, by dsimp only at *; omega⟩

theorem fitting (settings : Settings) (levels : Nat) : Fitting settings levels := by
  induction levels with
  | zero => exact fitting_zero
  | succ levels ih => exact fitting_succ ih

end Search

end QueryOptions
