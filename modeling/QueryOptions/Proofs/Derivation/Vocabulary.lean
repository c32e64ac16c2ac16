import QueryOptions.Proofs.Derivation.Sound

set_option autoImplicit false

namespace QueryOptions.Expression

variable {settings : Settings} {level : Nat} {lexeme : Lexeme} {operator : BinaryOperator}

structure Stops (settings : Settings) (level : Nat) (lexeme : Lexeme) : Prop where
  operators : ∀ tighter, level ≤ tighter → operatorAt settings tighter lexeme = none
  membership : ∀ tighter, level ≤ tighter → isMembership settings tighter lexeme = false

theorem stops_tighter {tighter : Nat} (le : level ≤ tighter) (stops : Stops settings level lexeme) :
    Stops settings tighter lexeme :=
  ⟨fun other more => stops.operators other (Nat.le_trans le more),
    fun other more => stops.membership other (Nat.le_trans le more)⟩

theorem stops_of_kind (other : lexeme.kind ≠ .identifier) : Stops settings level lexeme := by
  refine ⟨fun _ _ => operator_at_other other, fun tighter _ => ?_⟩
  cases tests : isMembership settings tighter lexeme with
  | false => rfl
  | true => exact absurd (membership_word tests) other

-- A lexeme is an operator of one level at most.
structure Unambiguous (settings : Settings) : Prop where
  operators : ∀ {level : Nat} {lexeme : Lexeme} {operator : BinaryOperator},
    operatorAt settings level lexeme = some operator →
      isMembership settings level lexeme = false ∧ Stops settings (level + 1) lexeme
  membership : ∀ {lexeme : Lexeme}, isMembership settings 2 lexeme → Stops settings 3 lexeme

theorem operator_loose (spelled : operatorAt settings level lexeme = some operator) : level < 5 := by
  by_cases loose : level < 5
  · exact loose
  · obtain ⟨more, rfl⟩ : ∃ more, level = more + 5 := ⟨level - 5, by omega⟩
    cases spelled

def operatorsAt : Nat → List (String × BinaryOperator)
  | 0 => [("or", .or)]
  | 1 => [("and", .and)]
  | 2 => BinaryOperator.comparisons
  | 3 => BinaryOperator.additions
  | 4 => BinaryOperator.multiplications
  | _ => []

def keywordsAt (level : Nat) : List String := (operatorsAt level).map Prod.fst

theorem same_word_comm (ignoreCase : Bool) (left right : String) :
    Text.sameWord ignoreCase left right = Text.sameWord ignoreCase right left := by
  simp only [Text.sameWord, Text.sameFolded, Bool.beq_comm]

theorem keyword_spelled (ignoreCase : Bool) (word : String) : Text.sameWord ignoreCase word word := by
  simp [Text.sameWord]

theorem custom_none (plain : settings.customOperators = []) (word : String) : BinaryOperator.ofCustom? settings word = none := by
  rw [BinaryOperator.ofCustom?, plain]
  rfl

theorem operator_at_listed (bare : BinaryOperator.ofCustom? settings lexeme.text = none) (level : Nat) :
    operatorAt settings level lexeme =
      if lexeme.kind = .identifier then
        BinaryOperator.ofKeyword? (operatorsAt level) settings.ignoreCase lexeme.text
      else none := by
  have single (keyword : String) (operator : BinaryOperator) :
      (if lexeme.isKeyword settings keyword then some operator else none) =
        if lexeme.kind = .identifier then
          BinaryOperator.ofKeyword? [(keyword, operator)] settings.ignoreCase lexeme.text
        else none := by
    by_cases word : lexeme.kind = .identifier
    · rw [if_pos word, Lexeme.isKeyword, word, Settings.matchesKeyword, same_word_comm]
      cases same : Text.sameWord settings.ignoreCase keyword lexeme.text <;>
        simp [BinaryOperator.ofKeyword?, same]
    · rw [if_neg word, if_neg]
      exact fun spelled => word (keyword_word spelled)
  rcases level with _ | _ | _ | _ | _ | level
  · exact single _ _
  · exact single _ _
  · rw [operatorAt, bare]
    simp only [Option.or_none]
    rfl
  · rfl
  · rfl
  · simp [operatorAt, operatorsAt, BinaryOperator.ofKeyword?]

theorem same_word_fold {ignoreCase : Bool} {left right : String} (same : Text.sameWord ignoreCase left right) :
    Text.fold left = Text.fold right := by
  rcases Bool.or_eq_true_iff.mp same with equal | folded
  · rw [eq_of_beq equal]
  · exact eq_of_beq (Bool.and_eq_true_iff.mp folded).2

theorem operator_fold (bare : BinaryOperator.ofCustom? settings lexeme.text = none)
    (spelled : operatorAt settings level lexeme = some operator) :
    ∃ keyword ∈ keywordsAt level, Text.fold keyword = Text.fold lexeme.text := by
  have word := operator_word spelled
  rw [operator_at_listed bare, if_pos word] at spelled
  obtain ⟨entry, listed, -⟩ := Option.map_eq_some_iff.mp spelled
  have found := List.find?_some listed
  exact ⟨entry.1, List.mem_map_of_mem (List.mem_of_find?_eq_some listed), same_word_fold found⟩

theorem membership_fold (tests : isMembership settings level lexeme) : Text.fold lexeme.text = Text.fold "in" :=
  same_word_fold (Bool.and_eq_true_iff.mp (Bool.and_eq_true_iff.mp tests).2).2

def apart (words others : List String) : Bool :=
  words.all fun word => others.all fun other => Text.fold word != Text.fold other

theorem ne_of_apart {words others : List String} (separate : apart words others) {word other : String}
    (listed : word ∈ words) (listed' : other ∈ others) : Text.fold word ≠ Text.fold other :=
  bne_iff_ne.mp (List.all_eq_true.mp (List.all_eq_true.mp separate word listed) other listed')

theorem keywords_apart :
    ∀ level < 5, ∀ tighter < 5, level < tighter → apart (keywordsAt level) (keywordsAt tighter) := by
  decide

theorem keywords_not_in : ∀ level < 5, apart (keywordsAt level) ["in"] := by
  decide

theorem not_membership (plain : settings.customOperators = []) (spelled : operatorAt settings level lexeme = some operator)
    (tighter : Nat) : isMembership settings tighter lexeme = false := by
  cases tests : isMembership settings tighter lexeme with
  | false => rfl
  | true =>
      obtain ⟨keyword, listed, same⟩ := operator_fold (custom_none plain _) spelled
      have separate := keywords_not_in level (operator_loose spelled)
      exact absurd (same.trans (membership_fold tests)) (ne_of_apart separate listed (List.mem_singleton_self _))

theorem unambiguous_of_plain (plain : settings.customOperators = []) : Unambiguous settings where
  operators {level lexeme operator} spelled := by
    have alone := not_membership plain spelled
    refine ⟨alone level, fun tighter more => ?_, fun tighter _ => alone tighter⟩
    cases spelled' : operatorAt settings tighter lexeme with
    | none => rfl
    | some other =>
        obtain ⟨keyword, listed, same⟩ := operator_fold (custom_none plain _) spelled
        obtain ⟨keyword', listed', same'⟩ := operator_fold (custom_none plain _) spelled'
        have separate := keywords_apart level (operator_loose spelled) tighter (operator_loose spelled') (by omega)
        exact absurd (same.trans same'.symm) (ne_of_apart separate listed listed')
  membership {lexeme} tests := by
    refine ⟨fun tighter _ => ?_, fun tighter more => ?_⟩
    · cases spelled : operatorAt settings tighter lexeme with
      | none => rfl
      | some operator => exact absurd (not_membership plain spelled 2) (by rw [tests]; decide)
    · cases tests' : isMembership settings tighter lexeme with
      | false => rfl
      | true => exact absurd (membership_level tests') (by omega)

end QueryOptions.Expression

namespace QueryOptions

open Expression

structure EndsExpression (settings : Settings) (lexeme : Lexeme) : Prop where
  stops : Stops settings 0 lexeme
  other : lexeme.kind ≠ .dot ∧ lexeme.kind ≠ .slash ∧ lexeme.kind ≠ .openParen

theorem ends_expression_of_kind {settings : Settings} {lexeme : Lexeme} {kind : TokenKind} (found : lexeme.kind = kind)
    (other : kind ≠ .identifier ∧ kind ≠ .dot ∧ kind ≠ .slash ∧ kind ≠ .openParen) : EndsExpression settings lexeme := by
  subst found
  exact ⟨stops_of_kind other.1, other.2⟩

theorem ends_expression_of_word {settings : Settings} {word : String} (bare : BinaryOperator.ofCustom? settings word = none)
    (separate : ∀ level < 5, apart (keywordsAt level) [word]) (other : Text.fold word ≠ Text.fold "in") :
    EndsExpression settings ⟨.identifier, word⟩ := by
  refine ⟨⟨fun level _ => ?_, fun level _ => ?_⟩, by simp⟩
  · cases spelled : operatorAt settings level ⟨.identifier, word⟩ with
    | none => rfl
    | some operator =>
        obtain ⟨keyword, listed, same⟩ := operator_fold bare spelled
        exact absurd same (ne_of_apart (separate level (operator_loose spelled)) listed (List.mem_singleton_self _))
  · exact Bool.eq_false_iff.mpr fun tests => other (membership_fold tests)

end QueryOptions
