import QueryOptions.Proofs.Derivation.Vocabulary
import QueryOptions.Proofs.Nested.Search
import QueryOptions.Proofs.Search.Render

set_option autoImplicit false

namespace QueryOptions

theorem Cursor.ahead_none {cursor : Cursor} {lexemes : List Lexeme} (ahead : cursor.Ahead lexemes)
    (finish : cursor.token.kind = .finish) : lexemes = [] := by
  obtain ⟨last, spans, -⟩ := ahead
  cases spans with
  | refl => rfl
  | step going => exact absurd finish going

namespace Search

open Parse

def isAnd (lexeme : Lexeme) : Bool := keywordAhead "and" [lexeme]

-- The second lexemes are the first ones without some of the conjunctions among them.
inductive Thins : List Lexeme → List Lexeme → Prop where
  | nil : Thins [] []
  | keep (lexeme : Lexeme) {lexemes fewer : List Lexeme} (others : Thins lexemes fewer) : Thins (lexeme :: lexemes) (lexeme :: fewer)
  | drop {lexeme : Lexeme} {lexemes fewer : List Lexeme} (joins : isAnd lexeme) (others : Thins lexemes fewer) :
      Thins (lexeme :: lexemes) fewer

variable {lexeme first : Lexeme} {lexemes fewer front back others ahead : List Lexeme} {keyword : String}

theorem thins_refl (lexemes : List Lexeme) : Thins lexemes lexemes := by
  induction lexemes with
  | nil => exact .nil
  | cons lexeme lexemes ih => exact .keep lexeme ih

theorem thins_split (thins : Thins (front ++ back) fewer) :
    ∃ front' back', fewer = front' ++ back' ∧ Thins front front' ∧ Thins back back' := by
  induction front generalizing fewer with
  | nil => exact ⟨[], fewer, rfl, .nil, thins⟩
  | cons lexeme front ih =>
      cases thins with
      | keep _ thins =>
          obtain ⟨front', back', rfl, here, there⟩ := ih thins
          exact ⟨lexeme :: front', back', rfl, .keep lexeme here, there⟩
      | drop joins thins =>
          obtain ⟨front', back', rfl, here, there⟩ := ih thins
          exact ⟨front', back', rfl, .drop joins here, there⟩

theorem thins_kept (thins : Thins (lexeme :: lexemes) fewer) (stays : isAnd lexeme = false) :
    ∃ others, fewer = lexeme :: others ∧ Thins lexemes others := by
  cases thins with
  | keep _ thins => exact ⟨_, rfl, thins⟩
  | drop joins =>
      rw [stays] at joins
      cases joins

theorem keyword_ahead_first (keyword : String) (first : Lexeme) (others : List Lexeme) :
    keywordAhead keyword (first :: others) = keywordAhead keyword [first] := rfl

theorem operand_ahead_first (first : Lexeme) (others : List Lexeme) :
    operandAhead (first :: others) = operandAhead [first] := rfl

theorem keyword_ahead_fold (found : keywordAhead keyword [lexeme]) :
    lexeme.kind = .identifier ∧ Text.fold lexeme.text = Text.fold keyword := by
  obtain ⟨word, same⟩ := Bool.and_eq_true_iff.mp found
  exact ⟨eq_of_beq word, Expression.same_word_fold same⟩

theorem not_and_of_keyword (found : keywordAhead keyword [lexeme]) (other : Text.fold keyword ≠ Text.fold "and") :
    isAnd lexeme = false :=
  Bool.eq_false_iff.mpr fun joins => other ((keyword_ahead_fold found).2.symm.trans (keyword_ahead_fold joins).2)

theorem not_and_of_kind (other : lexeme.kind ≠ .identifier) : isAnd lexeme = false :=
  Bool.eq_false_iff.mpr fun joins => other (keyword_ahead_fold joins).1

theorem not_and_of_operand (starts : operandAhead [lexeme]) : isAnd lexeme = false := by
  rcases Bool.or_eq_true_iff.mp starts with mark | negates
  · refine not_and_of_kind ?_
    rcases Bool.or_eq_true_iff.mp mark with literal | opens
    · rw [eq_of_beq literal]
      decide
    · rw [eq_of_beq opens]
      decide
  · exact not_and_of_keyword negates (by decide)

structure Alike (others others' : List Lexeme) : Prop where
  joins : keywordAhead "and" others = keywordAhead "and" others'
  operand : operandAhead others = operandAhead others'
  alternative : keywordAhead "or" others = keywordAhead "or" others'

theorem alike_first (first : Lexeme) (others others' : List Lexeme) : Alike (first :: others) (first :: others') :=
  ⟨rfl, rfl, rfl⟩

theorem alike_closed {others others' : List Lexeme} (left : Closed others) (right : Closed others') : Alike others others' :=
  ⟨left.noAnd.trans right.noAnd.symm, left.noOperand.trans right.noOperand.symm, left.noOr.trans right.noOr.symm⟩

-- Where the first run reads a chain, the second one reads it without some of the conjunctions.
def Echoes (limits : Settings) (part : Part) (levels : Nat) (p q : Parse Expr) : Prop :=
  ∀ state value after ahead, p state = .ok value after → state.cursor.Ahead ahead →
    ∃ front others, ahead = front ++ others ∧ after.cursor.Ahead others ∧
      ∀ fewer others', Thins front fewer → Alike others others' →
        Gets limits part levels q (Ready (fewer ++ others')) value (Ready others')

def EchoesOperand (limits : Settings) (part : Part) (levels : Nat) (p q : Parse Expr) : Prop :=
  ∀ state value after ahead, p state = .ok value after → state.cursor.Ahead ahead →
    ∃ first front others, ahead = first :: (front ++ others) ∧ operandAhead [first] ∧ after.cursor.Ahead others ∧
      ∀ fewer others', Thins front fewer →
        Gets limits part levels q (Ready (first :: (fewer ++ others'))) value (Ready others')

-- The alternatives behind a conjunction end it in both runs.
def EchoesLinks (limits : Settings) (levels : Nat) (p q : Parse Expr) : Prop :=
  ∀ state value after ahead, p state = .ok value after → state.cursor.Ahead ahead →
    ∃ front others, ahead = front ++ others ∧ after.cursor.Ahead others ∧
      ∀ fewer others', Thins front fewer → Alike others others' →
        Alike (front ++ others) (fewer ++ others') ∧
        Gets limits .links levels q (Ready (fewer ++ others')) value (Ready others')

def EchoesJoined (limits : Settings) (levels : Nat) (p q : Parse Expr) : Prop :=
  ∀ state value after ahead, p state = .ok value after → state.cursor.Ahead ahead →
    ∃ first front others, ahead = first :: (front ++ others) ∧ operandAhead [first] ∧ after.cursor.Ahead others ∧
      ∀ fewer others', Thins front fewer → Alike others others' →
        Gets limits .links levels q (Ready (first :: (fewer ++ others'))) value (Ready others')

variable {settings limits : Settings} {part : Part} {levels : Nat} {p q more more' : Parse Expr}
variable {tail tail' : Expr → Parse Expr} {state after : ParseState} {value left : Expr} {α : Type}

theorem look_ok {look : Parse α} {seen : α} {f : α → Parse Expr} (finds : Finds look (Ready ahead) seen)
    (here : state.cursor.Ahead ahead) (done : (look >>= f) state = .ok value after) : f seen state = .ok value after :=
  (bind_done (finds state here)).symm.trans done

theorem step_ok {f : Unit → Parse Expr} (here : state.cursor.Ahead (first :: others))
    (done : (advance >>= f) state = .ok value after) :
    ∃ moved : Cursor, moved.Ahead others ∧ f () { state with cursor := moved } = .ok value after := by
  obtain ⟨moved, advanced, there⟩ := Cursor.ahead_advance here
  exact ⟨moved, there, (bind_done (advance_done advanced)).symm.trans done⟩

theorem held_step_ok {f : Unit → Parse Expr} (here : state.cursor.Ahead (first :: others))
    (done : (hold settings >>= fun _ => advance >>= f) state = .ok value after) :
    ∃ ready : ParseState, ready.cursor.Ahead others ∧ f () ready = .ok value after := by
  obtain ⟨_, held, holding, done⟩ := bind_ok done
  obtain rfl := hold_ok holding
  obtain ⟨moved, there, done⟩ := step_ok (by exact here) done
  exact ⟨_, there, done⟩

theorem keyword_cons (found : keywordAhead keyword ahead) :
    ∃ lexeme others, ahead = lexeme :: others ∧ keywordAhead keyword [lexeme] := by
  cases ahead with
  | nil => cases found
  | cons lexeme others => exact ⟨lexeme, others, rfl, found⟩

theorem echoes_chain (body : Echoes limits .links levels p q) :
    Echoes limits .rule (levels + 1) (chain settings p) (chain limits q) := by
  intro state value after ahead done here
  obtain ⟨before, ran, same⟩ := chain_ok done
  obtain ⟨front, others, rfl, there, gets⟩ := body _ value before ahead ran here
  exact ⟨front, others, rfl, same ▸ there, fun fewer others' thins alike => gets_chain (gets fewer others' thins alike)⟩

theorem echoes_operand_chain (body : EchoesOperand limits .links levels p q) :
    EchoesOperand limits .rule (levels + 1) (chain settings p) (chain limits q) := by
  intro state value after ahead done here
  obtain ⟨before, ran, same⟩ := chain_ok done
  obtain ⟨first, front, others, rfl, starts, there, gets⟩ := body _ value before ahead ran here
  exact ⟨first, front, others, rfl, starts, same ▸ there, fun fewer others' thins => gets_chain (gets fewer others' thins)⟩

theorem echoes_recurse (body : EchoesOperand limits .rule levels p q) :
    EchoesOperand limits .rule (levels + 1) (recurse settings 1 p) (recurse limits 1 q) := by
  intro state value after ahead done here
  obtain ⟨before, ran, same⟩ := recurse_ok done
  obtain ⟨first, front, others, rfl, starts, there, gets⟩ := body _ value before ahead ran here
  exact ⟨first, front, others, rfl, starts, same ▸ there, fun fewer others' thins => gets_recurse (gets fewer others' thins)⟩

theorem echoes_too_deep : Echoes limits part levels (tooDeep settings) q := by
  rintro _ _ _ _ ⟨⟩

theorem echoes_operand_too_deep : EchoesOperand limits part levels (tooDeep settings) q := by
  rintro _ _ _ _ ⟨⟩

-- What follows the first operand of a conjunction sees it end before the same lexemes in both runs.
theorem echoes_conditions (operand : EchoesOperand limits .rule levels p q)
    (rest : ∀ left, Echoes limits .links levels (tail left) (tail' left)) :
    Echoes limits .links levels (p >>= tail) (q >>= tail') := by
  intro state value after ahead done here
  obtain ⟨left, between, ran, done⟩ := bind_ok done
  obtain ⟨first, front, others, rfl, starts, there, gets⟩ := operand _ left between ahead ran here
  obtain ⟨further, others, rfl, ended, gets'⟩ := rest left _ value after others done there
  refine ⟨first :: (front ++ further), others, by simp, ended, fun fewer others' thins alike => ?_⟩
  obtain ⟨fewer, rfl, kept⟩ := thins_kept thins (not_and_of_operand starts)
  obtain ⟨front', further', rfl, before, behind⟩ := thins_split kept
  rw [List.cons_append, List.append_assoc]
  exact gets_bind (gets front' _ before) (gets' further' others' behind alike)

theorem echoes_alternatives (first : Echoes limits .rule levels p q)
    (rest : ∀ left, EchoesLinks limits levels (tail left) (tail' left)) :
    Echoes limits .links levels (p >>= tail) (q >>= tail') := by
  intro state value after ahead done here
  obtain ⟨left, between, ran, done⟩ := bind_ok done
  obtain ⟨front, others, rfl, there, gets⟩ := first _ left between ahead ran here
  obtain ⟨further, others, rfl, ended, gets'⟩ := rest left _ value after others done there
  refine ⟨front ++ further, others, (List.append_assoc _ _ _).symm, ended, fun fewer others' thins alike => ?_⟩
  obtain ⟨front', further', rfl, before, behind⟩ := thins_split thins
  obtain ⟨ends, gets'⟩ := gets' further' others' behind alike
  rw [List.append_assoc]
  exact gets_bind (gets front' _ before ends) gets'

theorem gets_bracketed {closing : Lexeme} (opens : first.kind = .openParen) (closes : closing.kind = .closeParen)
    (inner : Gets limits .rule levels q (Ready (ahead ++ closing :: others)) value (Ready (closing :: others))) :
    Gets limits .rule levels (operand q) (Ready (first :: (ahead ++ closing :: others))) value (Ready others) := by
  refine gets_current fun _ cursor ready => ?_
  have kind : cursor.token.kind = first.kind := congrArg Lexeme.kind (Cursor.ahead_token ready)
  rw [if_pos (kind.trans opens)]
  refine gets_advance (fun _ _ => Cursor.ahead_advance) (gets_bind inner ?_)
  exact gets_bind (expect_gets .closeParen "')'" closes) (gets_pure value)

theorem gets_literal (literal : first.kind = .stringLiteral) :
    Gets limits .rule levels (operand q) (Ready (first :: others)) (.term (unquote first.text)) (Ready others) := by
  refine gets_current fun _ cursor ready => ?_
  have kind : cursor.token.kind = first.kind := congrArg Lexeme.kind (Cursor.ahead_token ready)
  have text : cursor.token.text = first.text := congrArg Lexeme.text (Cursor.ahead_token ready)
  rw [kind, literal, text]
  exact gets_advance (fun _ _ => Cursor.ahead_advance) (gets_pure _)

theorem echoes_operand (inner : Echoes limits .rule levels p q) : EchoesOperand limits .rule levels (operand p) (operand q) := by
  intro state value after ahead done here
  change (if state.cursor.token.kind = .openParen then _ else _ : Parse Expr) state = _ at done
  cases ahead with
  | nil =>
      rw [if_neg (by simp [Cursor.ahead_finish here]), if_neg (by simp [Cursor.ahead_finish here])] at done
      cases done
  | cons first ahead =>
      have kind : state.cursor.token.kind = first.kind := congrArg Lexeme.kind (Cursor.ahead_token here)
      have text : state.cursor.token.text = first.text := congrArg Lexeme.text (Cursor.ahead_token here)
      by_cases opens : first.kind = .openParen
      · rw [if_pos (kind.trans opens)] at done
        obtain ⟨moved, there, done⟩ := step_ok here done
        obtain ⟨tree, between, ran, done⟩ := bind_ok done
        obtain ⟨_, last, closes, done⟩ := bind_ok done
        cases done
        obtain ⟨front, others, rfl, before, gets⟩ := inner _ value between ahead ran there
        obtain ⟨found, advanced⟩ := expect_ok closes
        cases others with
        | nil => cases found.symm.trans (Cursor.ahead_finish before)
        | cons closing others =>
            have closed : closing.kind = .closeParen := (congrArg Lexeme.kind (Cursor.ahead_token before)).symm.trans found
            obtain ⟨ended, stepped, behind⟩ := Cursor.ahead_advance before
            obtain rfl := (EStateM.Result.ok.inj ((advance_done stepped).symm.trans advanced)).2
            refine ⟨first, front ++ [closing], others, by simp, ?_, behind, fun fewer others' thins => ?_⟩
            · simp [operandAhead, opens]
            · obtain ⟨front', back', rfl, inside, behind'⟩ := thins_split thins
              obtain ⟨_, rfl, none⟩ := thins_kept behind' (not_and_of_kind (by rw [closed]; decide))
              cases none
              rw [List.append_assoc]
              exact gets_bracketed opens closed (gets front' _ inside (alike_first closing others others'))
      · rw [if_neg (by rwa [kind])] at done
        by_cases literal : first.kind = .stringLiteral
        · rw [if_pos (kind.trans literal)] at done
          obtain ⟨moved, there, done⟩ := step_ok here done
          cases done
          refine ⟨first, [], ahead, rfl, by simp [operandAhead, literal], there, fun fewer others' thins => ?_⟩
          cases thins
          rw [text]
          exact gets_literal literal
        · rw [if_neg (by rwa [kind])] at done
          cases done

theorem echoes_prefixes (operands : EchoesOperand limits .rule (levels + 1) p q)
    (others : EchoesOperand limits .links levels more more') :
    EchoesOperand limits .links (levels + 1) (prefixes settings p more) (prefixes limits q more') := by
  intro state value after ahead done here
  have done := look_ok (keyword_ahead "not" ahead) here done
  cases found : keywordAhead "not" ahead with
  | true =>
      rw [found] at done
      obtain ⟨word, ahead, rfl, negates⟩ := keyword_cons found
      obtain ⟨ready, there, done⟩ := held_step_ok here done
      obtain ⟨tree, last, ran, done⟩ := bind_ok done
      cases done
      obtain ⟨first, front, behind, rfl, starts, ended, gets⟩ := others _ tree after ahead ran there
      refine ⟨word, first :: front, behind, rfl, by simp [operandAhead, negates], ended, fun fewer others' thins => ?_⟩
      obtain ⟨fewer, rfl, kept⟩ := thins_kept thins (not_and_of_operand starts)
      refine gets_look (keyword_ahead "not" _) ?_
      rw [keyword_ahead_first, negates]
      exact gets_hold (gets_advance (fun _ _ => Cursor.ahead_advance) (gets_map (gets fewer others' kept)))
  | false =>
      rw [found] at done
      obtain ⟨first, front, behind, rfl, starts, ended, gets⟩ := operands _ value after ahead done here
      refine ⟨first, front, behind, rfl, starts, ended, fun fewer others' thins => ?_⟩
      refine gets_look (keyword_ahead "not" _) ?_
      rw [keyword_ahead_first] at found
      rw [keyword_ahead_first, found]
      exact gets_of_rule (gets fewer others' thins)

theorem and_link_ends (noAnd : keywordAhead "and" ahead = false) (noOperand : operandAhead ahead = false) (left : Expr) :
    Gets limits .links levels (andLink limits q tail left) (Ready ahead) left (Ready ahead) := by
  refine gets_look (keyword_ahead "and" ahead) ?_
  rw [noAnd]
  refine gets_look (operand_ahead ahead) ?_
  rw [noOperand]
  exact gets_pure left

theorem or_link_ends (noOr : keywordAhead "or" ahead = false) (left : Expr) :
    Gets limits .links levels (orLink limits q tail left) (Ready ahead) left (Ready ahead) := by
  refine gets_look (keyword_ahead "or" ahead) ?_
  rw [noOr]
  exact gets_pure left

theorem echoes_join (operands : EchoesOperand limits .rule levels p q)
    (rest : ∀ left, Echoes limits .links levels (tail left) (tail' left)) (left : Expr) :
    EchoesJoined limits (levels + 1) (join settings p tail left) (join limits q tail' left) := by
  intro state value after ahead done here
  obtain ⟨_, held, holding, done⟩ := bind_ok done
  obtain rfl := hold_ok holding
  obtain ⟨right, between, ran, done⟩ := bind_ok done
  obtain ⟨first, front, others, rfl, starts, there, gets⟩ := operands _ right between ahead ran here
  obtain ⟨further, others, rfl, ended, gets'⟩ := rest _ _ value after others done there
  refine ⟨first, front ++ further, others, by simp, starts, ended, fun fewer others' thins alike => ?_⟩
  obtain ⟨front', further', rfl, before, behind⟩ := thins_split thins
  rw [List.append_assoc]
  exact gets_hold (gets_bind (gets front' _ before) (gets' further' others' behind alike))

theorem echoes_join_too_deep (left : Expr) :
    EchoesJoined limits levels (join settings (tooDeep settings) tail left) (join limits q tail' left) := by
  rintro state value after ahead done -
  obtain ⟨_, held, holding, done⟩ := bind_ok done
  cases done

-- An operand behind an `AND` is joined by itself where the `AND` is left out.
theorem echoes_and_link (joining : EchoesJoined limits levels (join settings p tail left) (join limits q tail' left)) :
    Echoes limits .links levels (andLink settings p tail left) (andLink limits q tail' left) := by
  have joined {first : Lexeme} {others there : List Lexeme} {value : Expr} (starts : operandAhead [first])
      (gets : Gets limits .links levels (join limits q tail' left) (Ready (first :: others)) value (Ready there)) :
      Gets limits .links levels (andLink limits q tail' left) (Ready (first :: others)) value (Ready there) := by
    refine gets_look (keyword_ahead "and" _) ?_
    rw [keyword_ahead_first, show keywordAhead "and" [first] = false from not_and_of_operand starts]
    refine gets_look (operand_ahead _) ?_
    rw [operand_ahead_first, starts]
    exact gets
  intro state value after ahead done here
  have done := look_ok (keyword_ahead "and" ahead) here done
  cases found : keywordAhead "and" ahead with
  | true =>
      rw [found] at done
      obtain ⟨word, ahead, rfl, joins⟩ := keyword_cons found
      obtain ⟨moved, there, done⟩ := step_ok here done
      obtain ⟨first, front, others, rfl, starts, ended, gets⟩ := joining _ value after ahead done there
      refine ⟨word :: first :: front, others, rfl, ended, fun fewer others' thins alike => ?_⟩
      cases thins with
      | keep _ thins =>
          obtain ⟨fewer, rfl, kept⟩ := thins_kept thins (not_and_of_operand starts)
          refine gets_look (keyword_ahead "and" _) ?_
          rw [List.cons_append, keyword_ahead_first, joins]
          exact gets_advance (fun _ _ => Cursor.ahead_advance) (gets fewer others' kept alike)
      | drop _ thins =>
          obtain ⟨fewer, rfl, kept⟩ := thins_kept thins (not_and_of_operand starts)
          exact joined starts (gets fewer others' kept alike)
  | false =>
      rw [found] at done
      have done := look_ok (operand_ahead ahead) here done
      cases operand : operandAhead ahead with
      | true =>
          rw [operand] at done
          obtain ⟨first, front, others, rfl, starts, ended, gets⟩ := joining _ value after ahead done here
          refine ⟨first :: front, others, rfl, ended, fun fewer others' thins alike => ?_⟩
          obtain ⟨fewer, rfl, kept⟩ := thins_kept thins (not_and_of_operand starts)
          exact joined starts (gets fewer others' kept alike)
      | false =>
          rw [operand] at done
          cases done
          refine ⟨[], ahead, rfl, here, fun fewer others' thins alike => ?_⟩
          cases thins
          exact and_link_ends (alike.joins.symm.trans found) (alike.operand.symm.trans operand) left

theorem echoes_or_link (operands : Echoes limits .rule levels p q)
    (rest : ∀ left, EchoesLinks limits levels (tail left) (tail' left)) (left : Expr) :
    EchoesLinks limits (levels + 1) (orLink settings p tail left) (orLink limits q tail' left) := by
  intro state value after ahead done here
  have done := look_ok (keyword_ahead "or" ahead) here done
  cases found : keywordAhead "or" ahead with
  | true =>
      rw [found] at done
      obtain ⟨word, ahead, rfl, alternative⟩ := keyword_cons found
      obtain ⟨ready, there, done⟩ := held_step_ok here done
      obtain ⟨right, between, ran, done⟩ := bind_ok done
      obtain ⟨front, others, rfl, before, gets⟩ := operands _ right between ahead ran there
      obtain ⟨further, others, rfl, ended, gets'⟩ := rest _ _ value after others done before
      refine ⟨word :: (front ++ further), others, by simp, ended, fun fewer others' thins alike => ?_⟩
      obtain ⟨fewer, rfl, kept⟩ := thins_kept thins (not_and_of_keyword alternative (by decide))
      obtain ⟨front', further', rfl, inside, behind⟩ := thins_split kept
      obtain ⟨ends, gets'⟩ := gets' further' others' behind alike
      refine ⟨alike_first word _ _, gets_look (keyword_ahead "or" _) ?_⟩
      rw [List.cons_append, keyword_ahead_first, alternative, List.append_assoc]
      exact gets_hold (gets_advance (fun _ _ => Cursor.ahead_advance) (gets_bind (gets front' _ inside ends) gets'))
  | false =>
      rw [found] at done
      cases done
      refine ⟨[], ahead, rfl, here, fun fewer others' thins alike => ?_⟩
      cases thins
      exact ⟨alike, or_link_ends (alike.alternative.symm.trans found) left⟩

theorem echoes_last_alternative (left : Expr) :
    EchoesLinks limits levels (orLink settings (tooDeep settings) tail left) (orLink limits q tail' left) := by
  intro state value after ahead done here
  have done := look_ok (keyword_ahead "or" ahead) here done
  cases found : keywordAhead "or" ahead with
  | true =>
      rw [found] at done
      obtain ⟨word, ahead, rfl, alternative⟩ := keyword_cons found
      obtain ⟨ready, there, done⟩ := held_step_ok here done
      cases done
  | false =>
      rw [found] at done
      cases done
      refine ⟨[], ahead, rfl, here, fun fewer others' thins alike => ?_⟩
      cases thins
      exact ⟨alike, or_link_ends (alike.alternative.symm.trans found) left⟩

structure Echoing (settings limits : Settings) (levels : Nat) : Prop where
  disjunction : Echoes limits .rule levels (disjunction settings levels) (disjunction limits levels)
  disjunctionTail : ∀ left, EchoesLinks limits levels (disjunctionTail settings levels left) (disjunctionTail limits levels left)
  conjunction : Echoes limits .rule levels (conjunction settings levels) (conjunction limits levels)
  conjunctionTail : ∀ left, Echoes limits .links levels (conjunctionTail settings levels left) (conjunctionTail limits levels left)
  negation : EchoesOperand limits .rule levels (negation settings levels) (negation limits levels)
  negated : EchoesOperand limits .links levels (negated settings (levels + 1)) (negated limits (levels + 1))
  primary : EchoesOperand limits .rule levels (primary settings levels) (primary limits levels)

theorem echoing_zero : Echoing settings limits 0 where
  disjunction := echoes_too_deep
  disjunctionTail := echoes_last_alternative
  conjunction := echoes_too_deep
  conjunctionTail left := echoes_and_link (echoes_join_too_deep left)
  negation := by
    rintro state value after ahead done -
    obtain ⟨before, ran, -⟩ := chain_ok done
    cases ran
  negated := by
    intro state value after ahead done here
    have done := look_ok (keyword_ahead "not" ahead) here done
    cases found : keywordAhead "not" ahead with
    | true =>
        rw [found] at done
        obtain ⟨word, ahead, rfl, -⟩ := keyword_cons found
        obtain ⟨ready, -, done⟩ := held_step_ok here done
        cases done
    | false =>
        rw [found] at done
        cases done
  primary := echoes_operand_too_deep

theorem echoing_succ (below : Echoing settings limits levels) : Echoing settings limits (levels + 1) where
  disjunction := echoes_chain (echoes_alternatives below.conjunction below.disjunctionTail)
  disjunctionTail := echoes_or_link below.conjunction below.disjunctionTail
  conjunction := echoes_chain (echoes_conditions below.negation below.conjunctionTail)
  conjunctionTail left := echoes_and_link (echoes_join below.negation below.conjunctionTail left)
  negation := echoes_operand_chain below.negated
  negated := echoes_prefixes (echoes_recurse (echoes_operand below.disjunction)) below.negated
  primary := echoes_recurse (echoes_operand below.disjunction)

theorem echoing (settings limits : Settings) (levels : Nat) : Echoing settings limits levels := by
  induction levels with
  | zero => exact echoing_zero
  | succ levels ih => exact echoing_succ ih

theorem closed_nil : Closed [] := ⟨⟨rfl, rfl⟩, rfl⟩

theorem disjunction_of_search {text : String} {parsed : ParsedOption} {cursor : Cursor}
    (accepted : parse settings .search text = .ok parsed)
    (advanced : Cursor.advance (.start text .search 0 false) = .ok () cursor) :
    ∃ tree after, disjunction settings settings.maxDepth (.fresh cursor) = .ok tree after ∧
      after.cursor.token.kind = .finish ∧ parsed = .search tree := by
  obtain ⟨_, done⟩ := parser_ok accepted
  obtain ⟨_, _, stepped, done⟩ := bind_ok done
  obtain rfl := (EStateM.Result.ok.inj ((advance_done advanced).symm.trans stepped)).2
  obtain ⟨_, _, whole, ⟨⟩⟩ := bind_ok done
  obtain ⟨_, _, ran, whole⟩ := bind_ok whole
  obtain ⟨_, _, ended, ⟨⟩⟩ := bind_ok whole
  obtain ⟨rfl, finish⟩ := expect_end_ok ended
  exact ⟨_, _, ran, finish, rfl⟩

theorem accepted_echoes {text : String} {tree : Expr} (accepted : parse settings .search text = .ok (.search tree)) :
    ∃ lexemes, Spelled .search text.toList lexemes ∧ Balanced lexemes ∧
      ∀ limits fewer others, Thins lexemes fewer → Closed others →
        Gets limits .rule settings.maxDepth (disjunction limits settings.maxDepth) (Ready (fewer ++ others)) tree
          (Ready others) := by
  obtain ⟨lexemes, spelled, balanced⟩ := accepted_spelled accepted
  have plain : (Cursor.start text .search 0 false).Plain .search := ⟨rfl, rfl⟩
  obtain ⟨moved, stepped, here⟩ := Cursor.ahead_of_spelled plain spelled
  obtain ⟨_, after, read, finish, ⟨⟩⟩ := disjunction_of_search accepted stepped
  refine ⟨lexemes, spelled, balanced, fun limits fewer others thins closed => ?_⟩
  obtain ⟨front, behind, rfl, there, gets⟩ := (echoing settings limits _).disjunction _ tree _ _ read here
  obtain rfl := Cursor.ahead_none there finish
  rw [List.append_nil] at thins
  exact gets fewer others thins (alike_closed closed_nil closed)

end Search

end QueryOptions
