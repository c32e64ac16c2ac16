import QueryOptions.Token.Expression

set_option autoImplicit false

namespace QueryOptions.Expression

-- What a scan makes of a first character and the text behind it.
inductive Branch (c : Char) (rest : List Char) : Scan → Prop where
  | mark {kind : TokenKind} (found : punctuation? c = some kind) : Branch c rest (.token kind [c] rest)
  | minus (sign : c = '-') : Branch c rest (scanMinus rest)
  | string (quotes : c = '\'' ∨ c = '"') : Branch c rest (.quoted .stringLiteral [] c (scanString c rest))
  | dollar (sign : c = '$') (alone : !(rest.head?.any Text.isIdentifierContinue)) :
      Branch c rest (.token .dollar [c] rest)
  | word (start : Text.isIdentifierStart c) (named : c = '$' → rest.head?.any Text.isIdentifierContinue) :
      Branch c rest (scanWord c rest)
  | number (digit : c.isDigit) (other : ¬ Text.isIdentifierStart c) : Branch c rest (scanDigits false (c :: rest))
  | annotated (sign : c = '@') : Branch c rest ( scanAnnotation rest)
  | foreign (unmarked : punctuation? c = none) (minus : c ≠ '-') (quotes : ¬ (c = '\'' ∨ c = '"'))
      (start : ¬ Text.isIdentifierStart c) (digit : ¬ c.isDigit) (sign : c ≠ '@') :
      Branch c rest (.fault (.invalidCharacter c 0) [] (c :: rest))

theorem branch_of_scan (c : Char) (rest : List Char) : Branch c rest (scan (c :: rest)) := by
  unfold scan
  dsimp only
  cases found : punctuation? c with
  | some kind => exact .mark found
  | none =>
      dsimp only
      by_cases minus : c = '-'
      · rw [if_pos minus]
        exact .minus minus
      rw [if_neg minus]
      by_cases quotes : c = '\'' ∨ c = '"'
      · rw [if_pos quotes]
        exact .string quotes
      rw [if_neg quotes]
      by_cases dollar : c = '$' ∧ !(rest.head?.any Text.isIdentifierContinue)
      · rw [if_pos dollar]
        exact .dollar dollar.1 dollar.2
      rw [if_neg dollar]
      by_cases start : Text.isIdentifierStart c
      · rw [if_pos start]
        refine .word start fun sign => ?_
        simpa only [sign, true_and, Bool.not_eq_true', Bool.not_eq_false] using dollar
      rw [if_neg start]
      by_cases digit : c.isDigit
      · rw [if_pos digit]
        exact .number digit start
      rw [if_neg digit]
      by_cases sign : c = '@'
      · rw [if_pos sign]
        exact .annotated sign
      · rw [if_neg sign]
        exact .foreign found minus quotes start digit sign

def marks : List Char :=
  ['(', ')', '[', ']', ',', '.', '/', ':', ';', '&', '%', '?', '*', '=', '-', '\'', '"']

def Unmarked (test : Char → Bool) : Prop :=
  ∀ c, test c → punctuation? c = none ∧ c ≠ '-' ∧ ¬ (c = '\'' ∨ c = '"')

theorem unmarked_of_marks {test : Char → Bool} (fails : marks.any test = false) : Unmarked test := by
  intro c holds
  have apart (mark : Char) (listed : mark ∈ marks) : c ≠ mark := fun same =>
    List.any_eq_false.mp fails mark listed (same ▸ holds)
  refine ⟨?_, apart '-' (by decide), ?_⟩
  · cases found : punctuation? c with
    | none => rfl
    | some kind =>
        unfold punctuation? at found
        split at found
        case h_15 => cases found
        all_goals exact absurd rfl (apart _ (by decide))
  · rintro (same | same)
    · exact apart '\'' (by decide) same
    · exact apart '"' (by decide) same

theorem start_unmarked : Unmarked Text.isIdentifierStart := unmarked_of_marks (by decide)

theorem digit_unmarked : Unmarked Char.isDigit := unmarked_of_marks (by decide)

variable {c : Char} {rest : List Char}

theorem scan_unmarked (unmarked : punctuation? c = none) (minus : c ≠ '-') (quotes : ¬ (c = '\'' ∨ c = '"'))
    (named : c = '$' → rest.head?.any Text.isIdentifierContinue) :
    scan (c :: rest) =
      if Text.isIdentifierStart c then scanWord c rest
      else if c.isDigit then scanDigits false (c :: rest)
      else if c = '@' then scanAnnotation rest
      else .fault (.invalidCharacter c 0) [] (c :: rest) := by
  have goes : ¬ (c = '$' ∧ !(rest.head?.any Text.isIdentifierContinue)) := fun alone => by
    rw [named alone.1] at alone
    cases alone.2
  unfold scan
  dsimp only
  rw [unmarked]
  dsimp only
  rw [if_neg minus, if_neg quotes, if_neg goes]

theorem scan_of_branch {found : Scan} (branch : Branch c rest found) : scan (c :: rest) = found := by
  cases branch with
  | mark found =>
      unfold scan
      dsimp only
      rw [found]
  | minus sign =>
      subst sign
      rfl
  | string quotes => rcases quotes with rfl | rfl <;> rfl
  | dollar sign alone =>
      subst sign
      exact if_pos ⟨rfl, alone⟩
  | word start named =>
      obtain ⟨unmarked, minus, quotes⟩ := start_unmarked c start
      rw [scan_unmarked unmarked minus quotes named, if_pos start]
  | number digit other =>
      obtain ⟨unmarked, minus, quotes⟩ := digit_unmarked c digit
      have named : c ≠ '$' := fun same => by
        rw [same] at digit
        cases digit
      rw [scan_unmarked unmarked minus quotes (absurd · named), if_neg other, if_pos digit]
  | annotated sign =>
      subst sign
      rfl
  | foreign unmarked minus quotes start digit sign =>
      have named : c ≠ '$' := fun same => start (by rw [same]; rfl)
      rw [scan_unmarked unmarked minus quotes (absurd · named), if_neg start, if_neg digit, if_neg sign]

end QueryOptions.Expression
