import QueryOptions.Proofs.Keyword.Names
import QueryOptions.Proofs.Replay.Steps

set_option autoImplicit false

namespace QueryOptions

open Parse Expression

def EndsAlike (settings : Settings) (x y : Lexeme) : Prop :=
  Same settings x y ∨ EndsExpression settings x ∧ EndsExpression settings y

variable {α β : Type} {settings : Settings} {reads : Bool} {starts : Lexeme → Prop} {alike : Lexeme → Lexeme → Prop}
variable {x y : Lexeme} {kind : TokenKind}

theorem ends_alike_same (x y : Lexeme) (same : Same settings x y) : EndsAlike settings x y := .inl same

theorem ends_alike_view {view : Lexeme → α} {seen : α} (blind : ∀ x y, Same settings x y → view x = view y)
    (same : ∀ lexeme, EndsExpression settings lexeme → view lexeme = seen) (ends : EndsAlike settings x y) : view x = view y := by
  rcases ends with used | ⟨left, right⟩
  · exact blind x y used
  · rw [same x left, same y right]

theorem ends_alike_kind (other : kind = .dot ∨ kind = .slash ∨ kind = .openParen) (ends : EndsAlike settings x y) :
    (x.kind == kind) = (y.kind == kind) := by
  have differs (lexeme : Lexeme) (ends : EndsExpression settings lexeme) : (lexeme.kind == kind) = false := by
    refine beq_eq_false_iff_ne.mpr ?_
    rcases other with rfl | rfl | rfl
    · exact ends.other.1
    · exact ends.other.2.1
    · exact ends.other.2.2
  exact ends_alike_view (fun _ _ same => by rw [same_kind same]) differs ends

theorem ends_alike_undotted (ends : EndsAlike settings x y) (undotted : x.kind ≠ .dot) : y.kind ≠ .dot := by
  rcases ends with same | ⟨-, right⟩
  · exact same_kind same ▸ undotted
  · exact right.other.1

namespace Expression

variable {level levels : Nat} {inner item single route operands : Parse Expr} {more : Expr → Parse Expr}
variable {made : Expr → List String → Prop}

def Alone (tree : Expr) (names : List String) : Prop := names = tree.names

def Behind (before : List String) (tree : Expr) (names : List String) : Prop := tree.names = before ++ names

theorem replays_below {made : α → List String → Prop} {rule : Nat → Parse α}
    (each : ∀ fewer, levels = fewer + 1 → Replays settings reads starts alike made (rule fewer)) :
    Replays settings reads starts alike made (below settings rule levels) := by
  cases levels with
  | zero => exact replays_too_deep
  | succ fewer => exact each fewer rfl

theorem replays_go_on (passed : ∀ first, starts first → first.Passed settings)
    (operand : Replays settings true Anywhere alike Alone operands)
    (rest : ∀ right, Replays settings false Anywhere alike (fun tree names => made tree (right.names ++ names)) (more right))
    (covers : ∀ x y, Same settings x y → alike x y) : Replays settings true starts alike made (goOn settings operands more) := by
  refine replays_still still_hold fun _ => replays_advance_then passed (replays_some (replays_then operand ?_ covers))
  rintro right _ rfl
  exact rest right

theorem replays_collection (items : Replays settings true Anywhere (Same settings) Alone item) :
    Replays settings true (·.kind = .openParen) alike Alone (collection item) := by
  refine replays_advance_then (fun first opens => passed_of_kind opens (by decide)) (replays_some ?_)
  refine replays_before (replays_sep_by_exact (by decide) items) fun items names same => ?_
  refine replays_expect_then (by decide) (replays_pure ?_)
  rw [Alone, List.append_nil, same, Expr.names, Expr.item_names_flat]

theorem replays_candidates (items : Replays settings true Anywhere (Same settings) Alone item)
    (singles : Replays settings true Anywhere alike Alone single) (covers : ∀ x y, Same settings x y → alike x y) :
    Replays settings true starts alike Alone (candidates settings item single) := by
  refine replays_at_kind nofun fun seen => replays_ite (fun opens => ?_) fun _ => replays_anywhere singles
  refine replays_recurse covers (replays_mono (replays_collection items) fun first here => ?_)
  exact eq_of_beq (here.2.trans opens)

def operandAt (inner route : Parse Expr) (seen : TokenKind × String) : Parse Expr :=
  if seen.1 = .openParen then do
    advance
    let expr ← inner
    expect .closeParen "')'"
    pure expr
  else if seen.1.isLiteral then do
    advance
    pure (.literal seen.1 seen.2)
  else if seen.1 = .annotationIdentifier then do
    advance
    pure (.parameterAlias seen.2)
  else if seen.1 = .identifier then route
  else fun state => (throw (.expressionExpected state.cursor.token.position) : Parse Expr) state

def operandSeen (lexeme : Lexeme) : TokenKind × String :=
  (lexeme.kind, if lexeme.kind = .identifier then "" else lexeme.text)

theorem operand_at : operand inner route = fun state => operandAt inner route (operandSeen state.cursor.token.lexeme) state := by
  funext state
  by_cases word : state.cursor.token.lexeme.kind = .identifier
  · have other (kind : TokenKind) (differs : kind ≠ .identifier) : state.cursor.token.kind ≠ kind :=
      fun same => differs (same.symm.trans word)
    have bare : ¬ state.cursor.token.kind.isLiteral := by
      rw [show state.cursor.token.kind = .identifier from word]
      decide
    rw [operandSeen, word]
    exact congrFun ((if_neg (other _ (by decide))).trans ((if_neg bare).trans ((if_neg (other _ (by decide))).trans
      (if_pos word)))) state
  · rw [operandSeen, if_neg word]
    exact ite_last (ite_last (ite_last (ite_last rfl)))

theorem operand_seen_same (x y : Lexeme) (same : Same settings x y) : operandSeen x = operandSeen y := by
  by_cases word : x.kind = .identifier
  · rw [operandSeen, operandSeen, if_pos word, if_pos (same_kind same ▸ word), same_kind same]
  · rw [same_other same word]

theorem replays_operand (inners : Replays settings true Anywhere (Same settings) Alone inner)
    (paths : Replays settings true Anywhere alike Alone route) :
    Replays settings true starts alike Alone (operand inner route) := by
  rw [operand_at]
  refine replays_look operand_seen_same nofun fun ⟨kind, text⟩ => ?_
  have seen {first : Lexeme} (here : starts first ∧ operandSeen first = (kind, text)) : first.kind = kind :=
    congrArg Prod.fst here.2
  refine replays_ite (fun opens => ?_) fun _ => replays_ite (fun literal => ?_) fun _ => replays_ite (fun refers => ?_) fun _ =>
    replays_ite (fun _ => replays_anywhere paths) fun _ => replays_never fun _ _ _ _ done => by cases done
  · refine replays_advance_then (fun first here => passed_of_kind ((seen here).trans opens) (by decide)) (replays_some ?_)
    refine replays_before inners fun expr names same => replays_expect_then (by decide) (replays_pure ?_)
    rw [Alone, List.append_nil, same]
  · refine replays_advance_then (fun first here => passed_of_kind (seen here) ?_) (replays_pure rfl)
    refine ⟨?_, ?_, ?_⟩ <;> rintro rfl <;> cases literal
  · exact replays_advance_then (fun first here => passed_of_kind ((seen here).trans refers) (by decide)) (replays_pure rfl)

theorem replays_arguments (items : Replays settings true Anywhere (Same settings) Alone item) :
    Replays settings true starts alike (fun trees names => names = Expr.itemNames trees) (arguments item) := by
  refine replays_expect_then (by decide) (replays_some ?_)
  have closing {starts : Lexeme → Prop} {seen : Bool} (closes : seen) (first : Lexeme)
      (here : starts first ∧ (first.kind == .closeParen) = seen) : first.Passed settings :=
    passed_of_kind (eq_of_beq (here.2.trans closes)) (by decide)
  refine replays_at_kind nofun fun seen => replays_ite (fun closes => ?_) fun _ => ?_
  · exact replays_advance_then (closing closes) (replays_pure rfl)
  · refine replays_before (replays_sep_by_exact (by decide) items) fun items names same => ?_
    refine replays_at_kind nofun fun seen => replays_ite (fun closes => ?_) fun _ => replays_fail_expected _
    refine replays_advance_then (closing closes) (replays_pure ?_)
    rw [List.append_nil, same, Expr.item_names_flat]

theorem replays_lambda (inners : Replays settings true Anywhere (Same settings) Alone inner) (quantifier : Quantifier)
    (parent : Expr) :
    Replays settings true starts alike (Behind (parent.names ++ [quantifier.name])) (lambda settings inner quantifier parent) := by
  refine replays_expect_then (by decide) (replays_some ?_)
  refine replays_at_kind nofun fun seen => replays_ite (fun empty => ?_) fun _ => ?_
  · obtain ⟨closes, any⟩ := Bool.and_eq_true_iff.mp empty
    refine replays_advance_then (fun first here => passed_of_kind (eq_of_beq (here.2.trans closes)) (by decide))
      (replays_pure ?_)
    rw [Behind, Expr.names, eq_of_beq any, List.append_nil]
  · refine replays_before (replays_identifier _) fun name names own => ?_
    refine replays_expect_then (by decide) (replays_some ?_)
    refine replays_before (replays_declaring name inners) fun body names' same => ?_
    refine replays_expect_then (by decide) (replays_pure ?_)
    rw [own, Behind, Expr.names, same]
    simp

theorem replays_segment (inners : Replays settings true Anywhere (Same settings) Alone inner) (parent : Option Expr) :
    Replays settings true starts (EndsAlike settings) (Behind (Expr.namesAbove parent)) (segment settings inner parent) := by
  refine replays_then (replays_dotted_name fun _ _ => ends_alike_undotted) ?_ ends_alike_same
  rintro name _ rfl
  refine replays_at_kind (fun _ _ _ => ends_alike_kind (.inr (.inr rfl))) fun seen => replays_ite (fun _ => ?_) fun _ => ?_
  · split
    · rename_i quantifier source quantifies
      refine replays_some (replays_recurse ends_alike_same (replays_made (replays_lambda inners _ _) fun tree names same => ?_))
      rw [Behind, quantifier_name quantifies, List.append_assoc] at same
      exact same
    · refine replays_some (replays_then (replays_recurse ends_alike_same (replays_arguments inners)) ?_ ends_alike_same)
      rintro trees _ rfl
      refine replays_pure ?_
      rw [Behind, Expr.names, List.append_nil]
      rfl
  · refine replays_still (still_in_scope name) fun declared => replays_ite (fun here => replays_pure ?_) fun _ =>
      replays_pure ?_
    · rw [Option.isNone_iff_eq_none.mp (Bool.and_eq_true_iff.mp here).1]
      rfl
    · rw [Behind, Expr.names, List.append_nil]

theorem replays_segments (inners : Replays settings true Anywhere (Same settings) Alone inner)
    (rest : ∀ expr : Expr, Replays settings true Anywhere (EndsAlike settings) (Behind expr.names) (more expr))
    (parent : Option Expr) :
    Replays settings true starts (EndsAlike settings) (Behind (Expr.namesAbove parent)) (segments settings inner more parent) := by
  refine replays_then (replays_segment inners parent) (fun expr names same => ?_) ends_alike_same
  refine replays_at_kind (fun _ _ _ => ends_alike_kind (.inr (.inl rfl))) fun seen => replays_ite (fun slashes => ?_) fun _ =>
    replays_pure (by rwa [List.append_nil])
  refine replays_some (replays_still still_hold fun _ => replays_advance_then (fun first here => ?_) (replays_some ?_))
  · exact passed_of_kind (eq_of_beq (here.2.trans slashes)) (by decide)
  · refine replays_made (rest expr.intoInner) fun tree names' further => ?_
    rw [Behind] at same further ⊢
    rw [further, Expr.names_into_inner, same, List.append_assoc]

def goesOn (settings : Settings) (level : Nat) (lexeme : Lexeme) : Bool × Option BinaryOperator :=
  (isMembership settings level lexeme, operatorAt settings level lexeme)

def tailAt (settings : Settings) (level levels : Nat) (left : Expr) (seen : Bool × Option BinaryOperator) : Parse Expr :=
  if seen.1 then
    goOn settings (candidatesAt settings levels) fun right =>
      below settings (fun fewer => tail settings level fewer (.membership left right)) levels
  else linkAt settings (below settings (rule settings (level + 1)) levels)
    (fun expr => below settings (fun fewer => tail settings level fewer expr) levels) left seen.2

theorem replays_tail (loose : level < 5)
    (operand : Replays settings true Anywhere (EndsAlike settings) Alone (below settings (rule settings (level + 1)) levels))
    (candidate : Replays settings true Anywhere (EndsAlike settings) Alone (candidatesAt settings levels))
    (rest : ∀ expr : Expr, Replays settings false Anywhere (EndsAlike settings) (Behind expr.names)
      (below settings (fun fewer => tail settings level fewer expr) levels)) (left : Expr) :
    Replays settings false Anywhere (EndsAlike settings) (Behind left.names) (tail settings level levels left) := by
  have same : tail settings level levels left = fun state => tailAt settings level levels left
      (goesOn settings level state.cursor.token.lexeme) state := by
    funext state
    rw [tail_at loose]
    split <;> rename_i tests
    · exact (congrFun (if_pos tests) state).symm
    · exact (congrFun (if_neg tests) state).symm
  have blind (x y : Lexeme) (same : Same settings x y) : goesOn settings level x = goesOn settings level y :=
    congrArg₂ Prod.mk (same_membership same level) (same_operator same level)
  rw [same]
  refine replays_look blind (fun _ _ _ => ?_) fun seen => ?_
  · have none (lexeme : Lexeme) (ends : EndsExpression settings lexeme) : goesOn settings level lexeme = (false, none) :=
      congrArg₂ Prod.mk (ends.stops.membership level (Nat.zero_le _)) (ends.stops.operators level (Nat.zero_le _))
    exact ends_alike_view blind none
  · obtain ⟨tests, found⟩ := seen
    have linked {joined right : Expr} (both : joined.names = left.names ++ right.names) :
        Replays settings false Anywhere (EndsAlike settings)
          (fun tree names => Behind left.names tree (right.names ++ names))
          (below settings (fun fewer => tail settings level fewer joined) levels) :=
      replays_made (rest joined) fun tree names behind => by rwa [Behind, both, List.append_assoc] at behind
    refine replays_ite (fun member => replays_some ?_) fun _ => ?_
    · refine replays_go_on (fun first here => ?_) candidate (fun right => linked rfl) ends_alike_same
      exact .inl ⟨_, (Bool.and_eq_true_iff.mp ((congrArg Prod.fst here.2).trans member)).2⟩
    · cases found with
      | none => exact replays_pure (List.append_nil _).symm
      | some operator =>
          refine replays_some (replays_go_on (fun first here => ?_) operand (fun right => linked rfl) ends_alike_same)
          exact .inl (operator_used (congrArg Prod.snd here.2))

theorem prefix_passed {first : Lexeme} {operator : UnaryOperator} (spelled : prefixAt settings first = some operator) :
    first.Passed settings := by
  unfold prefixAt at spelled
  split at spelled
  · rename_i minus
    exact passed_of_kind (eq_of_beq minus) (by decide)
  · split at spelled
    · rename_i word
      exact .inl ⟨_, word⟩
    · cases spelled

theorem replays_prefixed (operand : Replays settings true Anywhere (EndsAlike settings) Alone (primary settings levels))
    (rest : Replays settings true Anywhere (EndsAlike settings) Alone (prefixed settings levels)) :
    Replays settings true Anywhere (EndsAlike settings) Alone (prefixed settings (levels + 1)) := by
  rw [show prefixed settings (levels + 1) = _ from funext fun state => prefixed_at levels]
  refine replays_look (fun _ _ => same_prefix) nofun fun seen => ?_
  cases seen with
  | none => exact replays_anywhere operand
  | some operator =>
      refine replays_go_on (fun first here => prefix_passed here.2) rest (fun right => replays_pure ?_) ends_alike_same
      exact List.append_nil _

theorem replays_body (loose : level < 5)
    (operand : Replays settings true Anywhere (EndsAlike settings) Alone (rule settings (level + 1) levels))
    (rest : ∀ left : Expr,
      Replays settings false Anywhere (EndsAlike settings) (Behind left.names) (tail settings level levels left)) :
    Replays settings true Anywhere (EndsAlike settings) Alone (body settings level levels) := by
  rw [body, if_pos loose]
  refine replays_then operand ?_ ends_alike_same
  rintro left _ rfl
  exact replays_made (rest left) fun tree names behind => behind.symm

structure ReplaysAt (settings : Settings) (levels : Nat) : Prop where
  rule : ∀ level ≤ 5, Replays settings true Anywhere (EndsAlike settings) Alone (rule settings level levels)
  tail : ∀ level < 5, ∀ left : Expr,
    Replays settings false Anywhere (EndsAlike settings) (Behind left.names) (tail settings level levels left)
  prefixed : Replays settings true Anywhere (EndsAlike settings) Alone (prefixed settings levels)
  primary : Replays settings true Anywhere (EndsAlike settings) Alone (primary settings levels)
  path : Replays settings true Anywhere (EndsAlike settings) Alone (path settings levels)
  pathFrom : ∀ parent, Replays settings true Anywhere (EndsAlike settings) (Behind (Expr.namesAbove parent))
    (pathFrom settings levels parent)

theorem replays_at (settings : Settings) (levels : Nat) : ReplaysAt settings levels := by
  induction levels using Nat.strongRecOn with
  | _ levels ih =>
      have before (fewer : Nat) (same : levels = fewer + 1) : ReplaysAt settings fewer := ih fewer (by omega)
      have rules (level : Nat) (le : level ≤ 5) :
          Replays settings true Anywhere (EndsAlike settings) Alone (below settings (Expression.rule settings level) levels) :=
        replays_below fun fewer same => (before fewer same).rule level le
      have inners (fewer : Nat) (less : fewer < levels) :
          Replays settings true Anywhere (Same settings) Alone (disjunction settings fewer) :=
        replays_same ((ih fewer less).rule 0 (by decide)) ends_alike_same
      have candidates : Replays settings true Anywhere (EndsAlike settings) Alone (candidatesAt settings levels) :=
        replays_below fun fewer same => replays_below fun fewest same' =>
          replays_candidates (inners fewest (by omega)) (ih (fewest + 1) (by omega)).primary ends_alike_same
      have prefixed : Replays settings true Anywhere (EndsAlike settings) Alone (Expression.prefixed settings levels) := by
        cases levels with
        | zero => exact replays_too_deep
        | succ fewer => exact replays_prefixed (before fewer rfl).primary (before fewer rfl).prefixed
      refine ⟨fun level le => ?_, fun level loose left => ?_, prefixed, ?_, ?_, fun parent => ?_⟩
      · by_cases loose : level < 5
        · rw [rule_loose loose]
          refine replays_below fun fewer same => replays_chain ends_alike_same ?_
          exact replays_body loose ((before fewer same).rule _ loose) ((before fewer same).tail level loose)
        · obtain rfl : level = 5 := by omega
          rw [rule_tight loose, body, if_neg loose]
          exact replays_chain ends_alike_same prefixed
      · refine replays_tail loose (rules _ loose) candidates (fun left => ?_) left
        exact replays_below fun fewer same => (before fewer same).tail level loose left
      · cases levels with
        | zero => exact replays_too_deep
        | succ fewer =>
            exact replays_recurse ends_alike_same (replays_operand (inners fewer (by omega)) (before fewer rfl).path)
      · cases levels with
        | zero => exact replays_too_deep
        | succ fewer =>
            refine replays_chain ends_alike_same (replays_made ((before fewer rfl).pathFrom none) ?_)
            exact fun tree names behind => behind.symm
      · rw [path_from_at]
        refine replays_segments (replays_same (rules 0 (by decide)) ends_alike_same) (fun expr => ?_) parent
        exact replays_below fun fewer same => (before fewer same).pathFrom (some expr)

theorem replays_disjunction (settings : Settings) (levels : Nat) :
    Replays settings true Anywhere (EndsAlike settings) Alone (disjunction settings levels) :=
  (replays_at settings levels).rule 0 (by decide)

end Expression

end QueryOptions
