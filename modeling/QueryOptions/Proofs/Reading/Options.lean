import QueryOptions.Apply.Grammar
import QueryOptions.Order
import QueryOptions.Proofs.Reading.Expression
import QueryOptions.Proofs.Reading.Search

set_option autoImplicit false

namespace QueryOptions

open Parse

variable {M : Motion} {settings : Settings} {room : Prop} {part : Part} {depth depth' : Nat}
variable {state : ParseState} {levels : Nat} {α β : Type}

theorem reads_expect_end {f : Unit → Parse α}
    (finished : state.cursor.token.kind = .finish → Reads M room part depth depth' state (f () state)) :
    Reads M room part depth depth' state ((expectEnd >>= f) state) := by
  change Reads _ _ _ _ _ _ (((if state.cursor.token.kind = .finish then pure () else _ : Parse Unit) >>= f) state)
  split
  · rename_i finish
    exact finished finish
  · exact reads_refused rfl

theorem fits_then_end {cost : Nat} {p : Parse α} (fits : Fits M settings .rule levels cost p) :
    Fits M settings .rule levels cost (do let value ← p; expectEnd; pure value) := by
  intro depth state lexed
  refine reads_rule fits lexed id fun value after reached => ?_
  exact reads_expect_end fun _ => reads_pure _ reached.lexed

theorem reads_expect_keyword {ignoreCase : Bool} {keyword : String} {f : Unit → Parse α}
    (lexed : M.lexed state.cursor)
    (next : ∀ moved, M.lexed moved → moved.ahead.length < state.cursor.ahead.length →
      Reads M room part depth depth' { state with cursor := moved } (f () { state with cursor := moved })) :
    Reads M room part depth depth' state ((expectKeyword ignoreCase keyword >>= f) state) := by
  rw [expectKeyword, bind_assoc]
  refine reads_at_keyword (fun same => ?_) (reads_refused rfl)
  exact reads_advance_inner lexed (by rw [same]; rfl) next

namespace Order

theorem direction_fits (levels : Nat) : Fits M settings .rule levels 0 (direction settings) := by
  intro depth state lexed
  refine reads_at_keyword (fun same => ?_) (reads_at_keyword (fun same => ?_) (reads_pure _ lexed))
  · exact reads_advance_inner lexed (by rw [same]; rfl) fun _ lexed _ => reads_pure _ lexed
  · exact reads_advance_inner lexed (by rw [same]; rfl) fun _ lexed _ => reads_pure _ lexed

theorem whole_fits (M : Motion) (settings : Settings) (levels : Nat) :
    Fits M settings .rule levels 8 (whole settings levels) := by
  refine fits_then_end (fits_sep_by rfl fun depth state lexed => ?_)
  refine reads_rule (Expression.fitting M settings levels).disjunction lexed id fun _ after reached => ?_
  refine reads_rule (fits_mono (direction_fits levels) (Nat.zero_le 8)) reached.lexed
    (fun room => room_after room reached) fun _ _ reached => reads_pure _ reached.lexed

end Order

namespace Compute

theorem naming_fits (levels : Nat) : Fits M settings .rule levels 0 (naming settings) := by
  intro depth state lexed
  refine reads_expect_keyword lexed fun moved lexed shorter => ?_
  have named : Reads M (Room settings levels 0 state) .rule depth depth { state with cursor := moved }
      ((identifier "alias" >>= pure) { state with cursor := moved }) :=
    reads_identifier lexed fun _ _ lexed _ => reads_pure _ lexed
  rwa [bind_pure] at named

theorem items_fits (M : Motion) (settings : Settings) (levels : Nat) :
    Fits M settings .rule levels 8 (items settings levels) := by
  refine fits_sep_by rfl fun depth state lexed => ?_
  refine reads_rule (Expression.fitting M settings levels).disjunction lexed id fun _ after reached => ?_
  refine reads_rule (fits_mono (naming_fits levels) (Nat.zero_le 8)) reached.lexed
    (fun room => room_after room reached) fun _ _ reached => reads_pure _ reached.lexed

theorem whole_fits (M : Motion) (settings : Settings) (levels : Nat) :
    Fits M settings .rule levels 8 (whole settings levels) :=
  fits_then_end (items_fits M settings levels)

end Compute

namespace Apply

theorem method_fits (levels : Nat) (expression : Expr) :
    Fits M settings .rule levels 0 (method settings expression) := by
  intro depth state lexed
  refine reads_at_keyword (fun same => ?_) ?_
  · refine reads_advance_inner lexed (by rw [same]; rfl) fun moved lexed shorter => ?_
    exact reads_dotted_name lexed fun _ _ lexed _ => reads_pure _ lexed
  · change Reads _ _ _ _ _ _ ((if isVirtualCount expression then _ else _ : Parse _) state)
    split
    · exact reads_pure _ lexed
    · exact reads_refused rfl

theorem aggregates_fits (M : Motion) (settings : Settings) (levels : Nat) :
    Fits M settings .rule levels 8 (aggregates settings levels) := by
  have item : Fits M settings .rule levels 8 (aggregate settings levels) := by
    intro depth state lexed
    refine reads_rule (Expression.fitting M settings levels).disjunction lexed id fun expression _ first => ?_
    refine reads_rule (fits_mono (method_fits levels expression) (Nat.zero_le 8)) first.lexed
      (fun room => room_after room first) fun _ _ second => ?_
    exact reads_rule (fits_mono (Compute.naming_fits levels) (Nat.zero_le 8)) second.lexed
      (fun room => room_after (room_after room first) second) fun _ _ reached => reads_pure _ reached.lexed
  exact fun depth state lexed => reads_map (fits_sep_by rfl item depth state lexed)

theorem grouping_property_fits (M : Motion) (settings : Settings) (levels : Nat) :
    Fits M settings .rule levels 1 (groupingProperty settings levels) := by
  intro depth state lexed
  exact reads_at_kind (fun _ => (Expression.fitting M settings levels).path depth state lexed)
    (fun _ => reads_fail_expected _)

theorem grouping_fits {pipeline : Parse (List Transformation)} (pipelines : Fits M settings .rule levels 8 pipeline) :
    Fits M settings .rule levels 8 (grouping settings levels pipeline) := by
  intro depth state lexed
  refine reads_expect fun opening => reads_advance_opening lexed opening fun moved lexed shorter => ?_
  refine reads_rule (fits_sep_by rfl (grouping_property_fits M settings levels)) lexed
    (by rintro ⟨opened, enough⟩; exact ⟨opened, by dsimp only at *; omega⟩) fun properties after reached => ?_
  have less := M.shrinks reached.passed
  have same := reached_depth reached
  refine reads_closing reached.lexed fun moved lexed further => ?_
  refine reads_at_kind (fun comma => ?_) (fun _ => reads_pure _ lexed)
  refine reads_advance_inner lexed (by rw [comma]; rfl) fun moved lexed last => ?_
  refine reads_map (reads_of_room ?_ (pipelines _ _ lexed))
  rintro ⟨opened, enough⟩
  exact ⟨by dsimp only at *; omega, by dsimp only at *; omega⟩

theorem parenthesized_reads {body : Parse Transformation} (bodies : Fits M settings .rule levels 8 body)
    (lexed : M.lexed state.cursor) (inner : state.cursor.token.kind.isBound = false) :
    Reads M (Room settings levels 0 state) .rule depth depth state (parenthesized body state) := by
  refine reads_advance_inner lexed inner fun moved lexed shorter => ?_
  refine reads_expect fun opening => reads_advance_opening lexed opening fun moved lexed further => ?_
  refine reads_rule bodies lexed (by rintro ⟨opened, enough⟩; exact ⟨opened, by dsimp only at *; omega⟩)
    fun transformation after reached => ?_
  exact reads_closing reached.lexed fun _ lexed _ => reads_pure _ lexed

theorem transformation_with_fits {pipeline : Parse (List Transformation)}
    (pipelines : Fits M settings .rule levels 8 pipeline) :
    Fits M settings .rule levels 0 (transformationWith settings levels pipeline) := by
  intro depth state lexed
  change Reads _ _ _ _ _ _ ((if state.cursor.token.kind = .identifier then _ else _ : Parse Transformation) state)
  split
  · rename_i named
    have inner : state.cursor.token.kind.isBound = false := by rw [named]; rfl
    refine reads_at_keyword (fun _ => parenthesized_reads (aggregates_fits M settings levels) lexed inner) ?_
    refine reads_at_keyword (fun _ => parenthesized_reads (grouping_fits pipelines) lexed inner) ?_
    refine reads_at_keyword (fun _ => parenthesized_reads (fun depth state lexed =>
      reads_map ((Expression.fitting M settings levels).disjunction depth state lexed)) lexed inner) ?_
    refine reads_at_keyword (fun _ => parenthesized_reads (fun depth state lexed =>
      reads_map (Compute.items_fits M settings levels depth state lexed)) lexed inner) ?_
    exact reads_refused rfl
  · exact reads_fail_expected _

theorem transformation_fits (M : Motion) (settings : Settings) (levels : Nat) :
    Fits M settings .rule levels 8 (transformation settings levels) := by
  induction levels with
  | zero => exact fits_of_too_deep 0 _ 8 (by decide)
  | succ levels ih =>
      intro depth state lexed
      refine reads_recurse (by rintro ⟨opened, enough⟩; omega) (reads_of_room ?_
        (transformation_with_fits (fits_sep_by rfl ih) depth _ lexed))
      rintro ⟨opened, enough⟩
      exact ⟨by dsimp only at *; omega, by dsimp only at *; omega⟩

theorem whole_fits (M : Motion) (settings : Settings) (levels : Nat) :
    Fits M settings .rule levels 8 (whole settings levels) :=
  fits_then_end (fits_sep_by rfl (transformation_fits M settings levels))

end Apply

theorem Expression.whole_fits (M : Motion) (settings : Settings) (levels : Nat) :
    Fits M settings .rule levels 8 (Expression.whole settings levels) :=
  fits_then_end (Expression.fitting M settings levels).disjunction

theorem Search.whole_fits (settings : Settings) (levels : Nat) :
    Fits .search settings .rule levels 8 (Search.whole settings levels) :=
  fits_then_end (fits_mono (Search.fitting settings levels).disjunction (by decide))

end QueryOptions
