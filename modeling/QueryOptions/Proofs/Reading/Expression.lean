import QueryOptions.Expr.Grammar
import QueryOptions.Proofs.Reading.Basic

set_option autoImplicit false

namespace QueryOptions

open Parse

variable {M : Motion} {settings : Settings} {room : Prop} {part : Part} {depth depth' : Nat}
variable {state : ParseState} {levels : Nat}

def Looks {α : Type} (look? : Parse (Option α)) : Prop :=
  ∀ state, ∃ found, look? state = .ok found state ∧
    (found.isSome → state.cursor.token.kind.isBound = false)

theorem reads_look {α β : Type} {look? : Parse (Option α)} {f : Option α → Parse β} (looks : Looks look?)
    (some : ∀ found, state.cursor.token.kind.isBound = false →
      Reads M room part depth depth' state (f (some found) state))
    (none : Reads M room part depth depth' state (f none state)) :
    Reads M room part depth depth' state ((look? >>= f) state) := by
  obtain ⟨found, looked, inner⟩ := looks state
  have same : (look? >>= f) state = f found state := by
    change EStateM.bind look? f state = _
    unfold EStateM.bind
    rw [looked]
  rw [same]
  cases found with
  | none => exact none
  | some operator => exact some operator (inner rfl)

theorem keyword_inner {ignoreCase : Bool} {keyword : String} {token : Token}
    (found : token.isKeyword ignoreCase keyword) : token.kind.isBound = false := by
  rw [eq_of_beq (Bool.and_eq_true_iff.mp found).1]
  rfl

namespace Expression

theorem keyword_looks (keyword : String) (operator : BinaryOperator) :
    Looks (keywordOf? settings keyword operator) := by
  intro state
  refine ⟨_, rfl, fun found => ?_⟩
  split at found
  · rename_i spelled
    exact keyword_inner spelled
  · cases found

theorem operator_looks (table : List (String × BinaryOperator)) : Looks (operatorOf? table settings) := by
  intro state
  by_cases named : state.cursor.token.kind = .identifier
  · exact ⟨BinaryOperator.ofKeyword? table settings.ignoreCase state.cursor.token.text,
      congrFun (if_pos named) state, fun _ => by rw [named]; rfl⟩
  · exact ⟨none, congrFun (if_neg named) state, by simp⟩

theorem comparison_looks : Looks (comparisonOf? settings) := by
  intro state
  by_cases named : state.cursor.token.kind = .identifier
  · exact ⟨_, congrFun (if_pos named) state, fun _ => by rw [named]; rfl⟩
  · exact ⟨none, congrFun (if_neg named) state, by simp⟩

theorem prefix_looks : Looks (prefixOf? settings) := by
  intro state
  have looked : prefixOf? settings state = .ok
      (if state.cursor.token.kind == .minus then some .negate
        else if state.cursor.token.isKeyword settings.ignoreCase "not" then some .not else none) state := by
    change (if _ then _ else (atKeyword settings.ignoreCase "not" >>= _) : Parse _) state = _
    split
    · rfl
    · change (if _ then _ else _ : Parse _) state = _
      split <;> rfl
  refine ⟨_, looked, fun found => ?_⟩
  split at found
  · rename_i minus
    rw [eq_of_beq minus]
    rfl
  · split at found
    · rename_i spelled
      exact keyword_inner spelled
    · cases found

theorem link_fits {operator? : Parse (Option BinaryOperator)} {operand : Parse Expr}
    {more : Expr → Parse Expr} (operators : Looks operator?)
    (operands : Fits M settings .rule (levels - 1) 7 operand)
    (rest : ∀ left, Fits M settings .links (levels - 1) 1 (more left)) (left : Expr) :
    Fits M settings .links levels 1 (link settings operator? operand more left) := by
  intro depth state lexed
  refine reads_look operators (fun operator inner => ?_) (reads_pure left lexed)
  refine reads_hold (by rintro ⟨opened, enough⟩; omega) ?_
  refine reads_advance_inner lexed inner fun moved lexed shorter => ?_
  refine reads_rule operands lexed
    (by rintro ⟨opened, enough⟩; constructor <;> dsimp only at * <;> omega) fun right after reached => ?_
  refine reads_of_room ?_ (rest _ _ after reached.lexed)
  rintro ⟨opened, enough⟩
  exact room_after ⟨by dsimp only at *; omega, by dsimp only at *; omega⟩ reached

theorem candidates_fits {item single : Parse Expr} (items : Fits M settings .rule (levels - 1) 8 item)
    (singles : Fits M settings .rule levels 2 single) :
    Fits M settings .rule levels 2 (candidates settings item single) := by
  intro depth state lexed
  refine reads_at_kind (fun opening => ?_) (fun _ => singles depth state lexed)
  refine reads_recurse (by rintro ⟨opened, enough⟩; omega) ?_
  refine reads_advance_opening lexed opening fun moved lexed shorter => ?_
  refine reads_rule (fits_sep_by rfl items) lexed
    (by rintro ⟨opened, enough⟩; constructor <;> dsimp only at * <;> omega) fun items after reached => ?_
  exact reads_closing reached.lexed fun _ lexed _ => reads_pure _ lexed

theorem compare_link_fits {membership operand : Parse Expr} {more : Expr → Parse Expr}
    (memberships : Fits M settings .rule (levels - 1) 2 membership)
    (operands : Fits M settings .rule (levels - 1) 7 operand)
    (rest : ∀ left, Fits M settings .links (levels - 1) 1 (more left)) (left : Expr) :
    Fits M settings .links levels 1 (compareLink settings membership operand more left) := by
  intro depth state lexed
  refine reads_at_keyword (fun same => ?_) (link_fits comparison_looks operands rest left depth state lexed)
  refine reads_hold (by rintro ⟨opened, enough⟩; omega) ?_
  refine reads_advance_inner lexed (by dsimp only; rw [same]; rfl) fun moved lexed shorter => ?_
  refine reads_rule memberships lexed
    (by rintro ⟨opened, enough⟩; constructor <;> dsimp only at * <;> omega) fun right after reached => ?_
  refine reads_of_room ?_ (rest _ _ after reached.lexed)
  rintro ⟨opened, enough⟩
  exact room_after ⟨by dsimp only at *; omega, by dsimp only at *; omega⟩ reached

theorem prefixes_fits {operand more : Parse Expr} (operands : Fits M settings .rule levels 2 operand)
    (rest : Fits M settings .links (levels - 1) 2 more) :
    Fits M settings .links levels 2 (prefixes settings operand more) := by
  intro depth state lexed
  refine reads_look prefix_looks (fun operator inner => ?_) (reads_of_rule (operands depth state lexed))
  refine reads_hold (by rintro ⟨opened, enough⟩; omega) ?_
  refine reads_advance_inner lexed inner fun moved lexed shorter => ?_
  refine reads_map (reads_of_room ?_ (rest _ _ lexed))
  rintro ⟨opened, enough⟩
  exact ⟨by dsimp only at *; omega, by dsimp only at *; omega⟩

theorem arguments_fits {item : Parse Expr} (items : Fits M settings .rule levels 8 item) :
    Fits M settings .rule levels 0 (arguments item) := by
  intro depth state lexed
  refine reads_expect fun opening => reads_advance_opening lexed opening fun moved lexed shorter => ?_
  refine reads_at_kind (fun closing => ?_) (fun _ => ?_)
  · exact reads_advance_closing lexed closing fun _ lexed _ => reads_pure _ lexed
  · refine reads_rule (fits_sep_by rfl items) lexed
      (by rintro ⟨opened, enough⟩; exact ⟨opened, by dsimp only at *; omega⟩) fun items after reached => ?_
    refine reads_at_kind (fun closing => ?_) (fun _ => reads_fail_expected _)
    exact reads_advance_closing reached.lexed closing fun _ lexed _ => reads_pure _ lexed

theorem lambda_fits {body : Parse Expr} (bodies : Fits M settings .rule levels 8 body)
    (quantifier : Quantifier) (parent : Expr) :
    Fits M settings .rule levels 0 (lambda settings body quantifier parent) := by
  intro depth state lexed
  refine reads_expect fun opening => reads_advance_opening lexed opening fun moved lexed shorter => ?_
  have named : Reads M (Room settings levels 0 state) .rule (depth + 1) depth { state with cursor := moved }
      ((do
        let name ← identifier "range variable"
        expect .colon "':'"
        let condition ← declaring settings name body
        expect .closeParen "')'"
        pure (Expr.lambda quantifier parent name condition)) { state with cursor := moved }) := by
    refine reads_identifier lexed fun name moved lexed further => ?_
    refine reads_expect fun colon => reads_advance_inner lexed (by rw [colon]; rfl) fun moved lexed last => ?_
    refine reads_rule (fits_declaring name bodies) lexed
      (by rintro ⟨opened, enough⟩; exact ⟨opened, by dsimp only at *; omega⟩) fun condition after reached => ?_
    exact reads_closing reached.lexed fun _ lexed _ => reads_pure _ lexed
  refine reads_at_kind (fun closing => ?_) (fun _ => ?_)
  · split
    · exact reads_advance_closing lexed closing fun _ lexed _ => reads_pure _ lexed
    · exact named
  · exact named

def afterName [Counter] (settings : Settings) (inner : Parse Expr) (parent : Option Expr) (name : String) : Parse Expr := do
  if ← atKind .openParen then
    match Quantifier.ofName? name, parent with
    | some quantifier, some source => recurse settings 1 (lambda settings inner quantifier source)
    | _, _ =>
        let arguments ← recurse settings 1 (arguments inner)
        pure (.call name arguments parent)
  else if parent.isNone && (← inScope name) then pure (.rangeVariable name)
  else pure (.endPath name parent)

theorem segment_by_name [Counter] (inner : Parse Expr) (parent : Option Expr) :
    segment settings inner parent = dottedName false >>= afterName settings inner parent := rfl

theorem segment_reads {inner : Parse Expr} (inners : Fits M settings .rule (levels - 1) 8 inner)
    (parent : Option Expr) {β : Type} {f : Expr → Parse β} (lexed : M.lexed state.cursor)
    (fits : room → Room settings levels 0 state)
    (next : ∀ expr after, M.lexed after.cursor → after.depth = state.depth →
      after.cursor.ahead.length < state.cursor.ahead.length →
      Reads M room part depth depth' after (f expr after)) :
    Reads M room part depth depth' state ((segment settings inner parent >>= f) state) := by
  have named (name : String) (moved : Cursor) (lexed : M.lexed moved)
      (shorter : moved.ahead.length < state.cursor.ahead.length) :
      Reads M room .rule depth depth { state with cursor := moved }
        (afterName settings inner parent name { state with cursor := moved }) := by
    have inside {γ : Type} {p : Parse γ} (body : Fits M settings .rule (levels - 1) 0 p) :
        Reads M room .rule depth depth { state with cursor := moved }
          (recurse settings 1 p { state with cursor := moved }) := by
      refine reads_recurse (fun there => ?_) (reads_of_room (fun there => ?_) (body _ _ lexed))
      · obtain ⟨opened, enough⟩ := fits there
        dsimp only
        omega
      · obtain ⟨opened, enough⟩ := fits there
        exact ⟨by dsimp only at *; omega, by dsimp only at *; omega⟩
    refine reads_at_kind (fun _ => ?_) (fun _ => ?_)
    · have called : Reads M room .rule depth depth { state with cursor := moved }
          ((do
            let arguments ← recurse settings 1 (arguments inner)
            pure (Expr.call name arguments parent)) { state with cursor := moved }) :=
        reads_map (inside (arguments_fits inners))
      cases Quantifier.ofName? name with
      | none => exact called
      | some quantifier =>
          cases parent with
          | none => exact called
          | some source => exact inside (lambda_fits inners quantifier source)
    · cases parent with
      | none =>
          change Reads _ _ _ _ _ _
            ((if true && state.scope.contains name then pure (Expr.rangeVariable name)
              else pure (Expr.endPath name none) : Parse Expr) _)
          split <;> exact reads_pure _ lexed
      | some source => exact reads_pure _ lexed
  rw [segment_by_name, bind_assoc]
  refine reads_dotted_name lexed fun name moved lexed shorter => ?_
  refine reads_bind (named name moved lexed shorter) fun expr after reached => ?_
  have further := M.shrinks reached.passed
  have same := reached_depth reached
  exact next expr after reached.lexed same (Nat.lt_of_le_of_lt further shorter)

theorem segments_fits {inner : Parse Expr} {more : Expr → Parse Expr}
    (inners : Fits M settings .rule (levels - 1) 8 inner)
    (rest : ∀ expr, Fits M settings .links (levels - 1) 1 (more expr)) (parent : Option Expr) :
    Fits M settings .links levels 0 (segments settings inner more parent) := by
  intro depth state lexed
  refine segment_reads inners parent lexed id fun expr after lexed same shorter => ?_
  refine reads_at_kind (fun slash => ?_) (fun _ => reads_pure _ lexed)
  refine reads_hold (by rintro ⟨opened, enough⟩; omega) ?_
  refine reads_advance_inner lexed (by dsimp only; rw [slash]; rfl) fun moved lexed further => ?_
  refine reads_of_room ?_ (rest _ _ _ lexed)
  rintro ⟨opened, enough⟩
  exact ⟨by dsimp only at *; omega, by dsimp only at *; omega⟩

-- An operand. A path is read at a name only, so there is a character more for its levels.
theorem operand_fits {inner path : Parse Expr} (inners : Fits M settings .rule levels 8 inner)
    (paths : Fits M settings .rule levels 1 path) :
    Fits M settings .rule levels 1 (operand inner path) := by
  intro depth state lexed
  change Reads _ _ _ _ _ _ ((if state.cursor.token.kind = .openParen then _ else _ : Parse Expr) state)
  split
  · rename_i opening
    refine reads_advance_opening lexed opening fun moved lexed shorter => ?_
    refine reads_rule inners lexed (by rintro ⟨opened, enough⟩; exact ⟨opened, by dsimp only at *; omega⟩)
      fun expr after reached => ?_
    exact reads_closing reached.lexed fun _ lexed _ => reads_pure _ lexed
  · split
    · rename_i literal
      refine reads_advance_inner lexed ?_ fun _ lexed _ => reads_pure _ lexed
      revert literal
      cases state.cursor.token.kind <;> decide
    · split
      · rename_i reference
        exact reads_advance_inner lexed (by rw [reference]; rfl) fun _ lexed _ => reads_pure _ lexed
      · split
        · exact paths depth state lexed
        · exact reads_refused rfl

structure Fitting (M : Motion) (settings : Settings) (levels : Nat) : Prop where
  disjunction : Fits M settings .rule levels 8 (disjunction settings levels)
  disjunctionTail : ∀ left, Fits M settings .links levels 1 (disjunctionTail settings levels left)
  conjunction : Fits M settings .rule levels 7 (conjunction settings levels)
  conjunctionTail : ∀ left, Fits M settings .links levels 1 (conjunctionTail settings levels left)
  comparison : Fits M settings .rule levels 6 (comparison settings levels)
  comparisonTail : ∀ left, Fits M settings .links levels 1 (comparisonTail settings levels left)
  sum : Fits M settings .rule levels 5 (sum settings levels)
  sumTail : ∀ left, Fits M settings .links levels 1 (sumTail settings levels left)
  product : Fits M settings .rule levels 4 (product settings levels)
  productTail : ∀ left, Fits M settings .links levels 1 (productTail settings levels left)
  prefixed : Fits M settings .links (levels - 1) 2 (prefixed settings levels)
  primary : Fits M settings .rule levels 2 (primary settings levels)
  path : Fits M settings .rule levels 1 (path settings levels)
  pathFrom : ∀ parent, Fits M settings .links levels 0 (pathFrom settings levels parent)

theorem unary_fits (body : Fits M settings .links (levels - 1) 2 (prefixed settings levels)) :
    Fits M settings .rule levels 3 (chain settings (prefixed settings levels)) := by
  intro depth state lexed
  refine reads_chain (by rintro ⟨opened, enough⟩; omega) (reads_of_room ?_
    (body depth _ lexed))
  rintro ⟨opened, enough⟩
  exact ⟨by dsimp only at *; omega, by dsimp only at *; omega⟩

theorem fitting_zero : Fitting M settings 0 where
  disjunction := fits_of_too_deep 0 _ 8 (by decide)
  disjunctionTail left :=
    link_fits (keyword_looks _ _) (fits_of_too_deep 0 _ 7 (by decide))
      (fun _ => fits_of_too_deep 0 _ 1 (by decide)) left
  conjunction := fits_of_too_deep 0 _ 7 (by decide)
  conjunctionTail left :=
    link_fits (keyword_looks _ _) (fits_of_too_deep 0 _ 7 (by decide))
      (fun _ => fits_of_too_deep 0 _ 1 (by decide)) left
  comparison := fits_of_too_deep 0 _ 6 (by decide)
  comparisonTail left :=
    compare_link_fits (fits_of_too_deep 0 _ 2 (by decide)) (fits_of_too_deep 0 _ 7 (by decide))
      (fun _ => fits_of_too_deep 0 _ 1 (by decide)) left
  sum := fits_of_too_deep 0 _ 5 (by decide)
  sumTail left :=
    link_fits (operator_looks _) (fits_of_too_deep 0 _ 7 (by decide))
      (fun _ => fits_of_too_deep 0 _ 1 (by decide)) left
  product := fits_of_too_deep 0 _ 4 (by decide)
  productTail left :=
    link_fits (operator_looks _) (fits_of_too_deep 0 _ 7 (by decide))
      (fun _ => fits_of_too_deep 0 _ 1 (by decide)) left
  prefixed := fits_of_too_deep 0 _ 2 (by decide)
  primary := fits_of_too_deep 0 _ 2 (by decide)
  path := fits_of_too_deep 0 _ 1 (by decide)
  pathFrom parent :=
    segments_fits (fits_of_too_deep 0 _ 8 (by decide)) (fun _ => fits_of_too_deep 0 _ 1 (by decide)) parent

-- One more level. Only the candidates of a membership test and the operand after prefixes
-- stand two levels below the chain that they belong to.
theorem fitting_succ (below : Fitting M settings levels)
    (further : ∀ fewer, levels = fewer + 1 → Fitting M settings fewer) : Fitting M settings (levels + 1) where
  disjunction := fits_chain_of below.conjunction fun left => fits_mono (below.disjunctionTail left) (by decide)
  disjunctionTail left := link_fits (keyword_looks _ _) below.conjunction below.disjunctionTail left
  conjunction := fits_chain_of below.comparison fun left => fits_mono (below.conjunctionTail left) (by decide)
  conjunctionTail left :=
    link_fits (keyword_looks _ _) (fits_mono below.comparison (by decide)) below.conjunctionTail left
  comparison := fits_chain_of below.sum fun left => fits_mono (below.comparisonTail left) (by decide)
  comparisonTail left := by
    have operand := fits_mono below.sum (show 5 ≤ 7 by decide)
    cases levels with
    | zero =>
        exact compare_link_fits (fits_of_too_deep 0 _ 2 (by decide)) operand below.comparisonTail left
    | succ fewer =>
        exact compare_link_fits (candidates_fits (further fewer rfl).disjunction below.primary) operand
          below.comparisonTail left
  sum := fits_chain_of below.product fun left => fits_mono (below.sumTail left) (by decide)
  sumTail left := link_fits (operator_looks _) (fits_mono below.product (by decide)) below.sumTail left
  product := fits_chain_of (unary_fits below.prefixed) fun left => fits_mono (below.productTail left) (by decide)
  productTail left :=
    link_fits (operator_looks _) (fits_mono (unary_fits below.prefixed) (by decide)) below.productTail left
  prefixed := by
    cases levels with
    | zero => exact prefixes_fits (fits_of_too_deep 0 _ 2 (by decide)) (fits_of_too_deep 0 _ 2 (by decide))
    | succ fewer => exact prefixes_fits below.primary below.prefixed
  primary := by
    intro depth state lexed
    refine reads_recurse (by rintro ⟨opened, enough⟩; omega) (reads_of_room ?_
      (operand_fits below.disjunction below.path depth _ lexed))
    rintro ⟨opened, enough⟩
    exact ⟨by dsimp only at *; omega, by dsimp only at *; omega⟩
  path := fits_chain (below.pathFrom none)
  pathFrom parent :=
    segments_fits below.disjunction (fun expr => fits_mono (below.pathFrom (some expr)) (by decide)) parent

theorem fitting (M : Motion) (settings : Settings) (levels : Nat) : Fitting M settings levels := by
  induction levels using Nat.strongRecOn with
  | _ levels ih =>
      cases levels with
      | zero => exact fitting_zero
      | succ levels => exact fitting_succ (ih levels (by omega)) fun fewer _ => ih fewer (by omega)

end Expression

end QueryOptions
