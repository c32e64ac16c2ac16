import QueryOptions.Proofs.Keyword.Keys
import QueryOptions.Proofs.Nested.Cut
import QueryOptions.Proofs.Replay.Use

set_option autoImplicit false

namespace QueryOptions

open Search (isWordChar Taken)

section

variable {c mark : Char}

theorem letter_differs (letter : c.isAlpha) (bare : mark.isAlpha = false) : c ≠ mark := by
  rintro rfl
  rw [bare] at letter
  cases letter

theorem alpha_visible (letter : c.isAlpha) : Text.isBlank c = false :=
  Expression.inner_visible Expression.continue_inner (alpha_word letter).2

theorem inside_of_class {test : Char → Bool} (inner : Expression.Inner test) (opening : test '(' = false)
    (quote : test '"' = false) (holds : test c) : isWordChar c := by
  have delimits := Expression.inner_delimits inner holds
  simp only [Expression.isDelimiter, Bool.or_eq_false_iff] at delimits
  have differs {mark : Char} (bare : test mark = false) : (c == mark) = false := beq_eq_false_iff_ne.mpr fun same => by
    rw [same, bare] at holds
    cases holds
  rw [isWordChar, delimits.2, delimits.1.2, differs opening, differs quote]
  rfl

theorem alpha_inside (letter : c.isAlpha) : isWordChar c :=
  inside_of_class Expression.continue_inner (by decide) (by decide) (alpha_word letter).2

end

-- One text has other letters than another. It may have them at the front of a word only, and behind such letters.
inductive Relettered : Bool → List Char → List Char → Prop where
  | nil {free : Bool} : Relettered free [] []
  | same {free : Bool} {text other : List Char} (c : Char) (others : Relettered (!isWordChar c) text other) :
      Relettered free (c :: text) (c :: other)
  | letter {c d : Char} {text other : List Char} (letter : c.isAlpha) (letter' : d.isAlpha)
      (others : Relettered true text other) : Relettered true (c :: text) (d :: other)

namespace Relettered

variable {free : Bool} {c quote : Char} {text other front front' rest rest' : List Char} {depth depth' : Nat}

theorem fixed (bare : c.isAlpha = false) (relettered : Relettered free (c :: text) other) :
    ∃ rest, other = c :: rest ∧ Relettered (!isWordChar c) text rest := by
  cases relettered with
  | same _ others => exact ⟨_, rfl, others⟩
  | letter letter => exact absurd letter (by rw [bare]; decide)

theorem bound (relettered : Relettered false (c :: text) other) :
    ∃ rest, other = c :: rest ∧ Relettered (!isWordChar c) text rest := by
  cases relettered with
  | same _ others => exact ⟨_, rfl, others⟩

theorem hex (digit : Text.isHexDigit c) (relettered : Relettered false (c :: text) other) :
    ∃ rest, other = c :: rest ∧ Relettered false text rest := by
  have word : isWordChar c := inside_of_class Expression.hex_digit_inner (by decide) (by decide) digit
  obtain ⟨rest, rfl, others⟩ := relettered.bound
  rw [word] at others
  exact ⟨rest, rfl, others⟩

theorem loosen (relettered : Relettered free text other) : Relettered true text other := by
  cases relettered with
  | nil => exact .nil
  | same c others => exact .same c others
  | letter letter letter' others => exact .letter letter letter' others

theorem tighten (bare : ∀ c ∈ text.head?, c.isAlpha = false) (relettered : Relettered true text other) :
    Relettered free text other := by
  cases relettered with
  | nil => exact .nil
  | same c others => exact .same c others
  | letter letter => exact absurd letter (by rw [bare _ rfl]; decide)

theorem behind_letters (letters : ∀ c ∈ front, c.isAlpha) (letters' : ∀ c ∈ front', c.isAlpha)
    (length : front.length = front'.length) (others : Relettered true rest rest') :
    Relettered true (front ++ rest) (front' ++ rest') := by
  induction front generalizing front' with
  | nil =>
      obtain rfl := List.length_eq_zero_iff.mp length.symm
      exact others
  | cons c front ih =>
      obtain ⟨d, front', rfl⟩ := List.exists_cons_of_length_eq_add_one length.symm
      obtain ⟨here, later⟩ := List.forall_mem_cons.mp letters
      obtain ⟨here', later'⟩ := List.forall_mem_cons.mp letters'
      exact .letter here here' (ih later later' (Nat.succ.inj length))

theorem behind_same (front : List Char) (others : ∀ free, Relettered free rest rest') (free : Bool) :
    Relettered free (front ++ rest) (front ++ rest') := by
  induction front generalizing free with
  | nil => exact others free
  | cons c front ih => exact .same c (ih _)

theorem behind_mark (front : List Char) (mark : isWordChar c = false) (others : Relettered true rest rest') (free : Bool) :
    Relettered free (front ++ c :: rest) (front ++ c :: rest') := by
  refine behind_same front (fun free => .same c ?_) free
  rwa [mark]

theorem behind_blanks (blank : ∀ c ∈ front, Text.isBlank c) (others : Relettered true rest rest') :
    Relettered true (front ++ rest) (front ++ rest') := by
  induction front with
  | nil => exact others
  | cons c front ih =>
      obtain ⟨here, later⟩ := List.forall_mem_cons.mp blank
      have mark : isWordChar c = false := by rw [isWordChar, here]; rfl
      refine .same c ?_
      rw [mark]
      exact ih later

theorem string (quotes : quote = '\'' ∨ quote = '"') (closed : (scanString quote text).ending = .closed)
    (relettered : Relettered free text other) :
    (scanString quote other).ending = .closed ∧ Relettered true (scanString quote text).rest (scanString quote other).rest := by
  have bare : quote.isAlpha = false := by rcases quotes with rfl | rfl <;> rfl
  fun_induction scanString quote text generalizing other free with
  | case1 => cases closed
  | case2 after ih =>
      obtain ⟨_, rfl, second⟩ := relettered.fixed bare
      obtain ⟨_, rfl, others⟩ := second.fixed bare
      rw [scan_string_doubled]
      exact ih closed others
  | case3 d after different =>
      obtain ⟨rest, rfl, others⟩ := relettered.fixed bare
      have alone : rest.head? ≠ some quote := by
        cases others.loosen with
        | same => exact fun same => different (Option.some.inj same)
        | letter letter letter' => exact fun same => letter_differs letter' bare (Option.some.inj same)
      rw [scan_string_closing alone]
      exact ⟨rfl, others.loosen⟩
  | case4 =>
      obtain ⟨rest, rfl, others⟩ := relettered.fixed bare
      cases others.loosen
      rw [scan_string_closing fun same => by cases same]
      exact ⟨rfl, .nil⟩
  | case5 => cases closed
  | case6 c different escape e after simple ih =>
      obtain ⟨rfl, -⟩ : c = '\\' ∧ quote = '"' := by simpa [startsEscape] using escape
      obtain ⟨_, rfl, second⟩ := relettered.fixed rfl
      obtain ⟨_, rfl, others⟩ := second.bound
      rw [scanString.eq_def]
      simp only [different, if_false, escape, if_true, simple]
      exact ih closed others
  | case7 c different escape h₁ h₂ h₃ h₄ after digits simple ih =>
      obtain ⟨rfl, -⟩ : c = '\\' ∧ quote = '"' := by simpa [startsEscape] using escape
      obtain ⟨first, second, third, fourth⟩ : Text.isHexDigit h₁ ∧ Text.isHexDigit h₂ ∧ Text.isHexDigit h₃ ∧
          Text.isHexDigit h₄ := by simpa using digits
      obtain ⟨_, rfl, mark⟩ := relettered.fixed rfl
      obtain ⟨_, rfl, inner⟩ := mark.bound
      obtain ⟨_, rfl, inner₁⟩ := hex first inner
      obtain ⟨_, rfl, inner₂⟩ := hex second inner₁
      obtain ⟨_, rfl, inner₃⟩ := hex third inner₂
      obtain ⟨_, rfl, others⟩ := hex fourth inner₃
      rw [scanString.eq_def]
      simp only [different, if_false, escape, if_true, simple, digits]
      exact ih closed others
  | case8 => cases closed
  | case9 => cases closed
  | case10 => cases closed
  | case11 c rest different escape ih =>
      cases relettered with
      | same _ others =>
          rw [scan_string_plain different (by simpa using escape)]
          exact ih closed others
      | @letter _ d _ _ letter letter' others =>
          have other : startsEscape quote d = false := by
            rw [startsEscape, beq_eq_false_iff_ne.mpr (letter_differs letter' rfl), Bool.false_and]
          rw [scan_string_plain (letter_differs letter' bare) other]
          exact ih closed others

theorem crosses (crosses : Crosses depth text depth' rest) (relettered : Relettered free text other) :
    ∃ rest', Crosses depth other depth' rest' ∧ Relettered true rest rest' := by
  induction crosses generalizing free other with
  | refl => exact ⟨other, .refl _ _, relettered.loosen⟩
  | plain simple _ ih =>
      cases relettered with
      | same _ others =>
          obtain ⟨rest', crosses, behind⟩ := ih others
          exact ⟨rest', .plain simple crosses, behind⟩
      | letter letter letter' others =>
          obtain ⟨rest', crosses, behind⟩ := ih others
          refine ⟨rest', .plain ?_ crosses, behind⟩
          simp [isPlain, letter_differs letter']
  | semicolon _ ih =>
      obtain ⟨_, rfl, others⟩ := relettered.fixed rfl
      obtain ⟨rest', crosses, behind⟩ := ih others
      exact ⟨rest', .semicolon crosses, behind⟩
  | opening _ ih =>
      obtain ⟨_, rfl, others⟩ := relettered.fixed rfl
      obtain ⟨rest', crosses, behind⟩ := ih others
      exact ⟨rest', .opening crosses, behind⟩
  | closing _ ih =>
      obtain ⟨_, rfl, others⟩ := relettered.fixed rfl
      obtain ⟨rest', crosses, behind⟩ := ih others
      exact ⟨rest', .closing crosses, behind⟩
  | string quotes closed _ ih =>
      obtain ⟨_, rfl, others⟩ := relettered.fixed (by rcases quotes with rfl | rfl <;> rfl)
      obtain ⟨closed', inside⟩ := string quotes closed others
      obtain ⟨rest', crosses, behind⟩ := ih inside
      exact ⟨rest', .string quotes closed' crosses, behind⟩

theorem taken_whole (whole : TakenWhole text) (relettered : Relettered true text other) : TakenWhole other := by
  obtain ⟨rest, crosses, behind⟩ := crosses (crosses_of_taken_whole whole) relettered
  cases behind
  exact taken_whole_of_crosses crosses

end Relettered

section

variable {c : Char} {text other : List Char}

theorem blank_lower (blank : Text.isBlank c) : c.toLower = c :=
  Char.toLower_eq_of_not_isUpper fun upper => by
    rw [alpha_visible (Bool.or_eq_true_iff.mpr (.inl upper))] at blank
    cases blank

theorem lower_blank (c : Char) : Text.isBlank c.toLower = Text.isBlank c := by
  by_cases letter : c.isAlpha
  · rw [alpha_visible letter, alpha_visible (by rwa [Char.isAlpha_toLower_eq_isAlpha])]
  · rw [Char.toLower_eq_of_not_isUpper fun upper => letter (Bool.or_eq_true_iff.mpr (.inl upper))]

theorem front_of_folded (folded : text.map Char.toLower = other.map Char.toLower) :
    text.takeWhile Text.isBlank = other.takeWhile Text.isBlank ∧
      (text.dropWhile Text.isBlank).map Char.toLower = (other.dropWhile Text.isBlank).map Char.toLower := by
  have blind : Text.isBlank ∘ Char.toLower = Text.isBlank := funext lower_blank
  have kept (text : List Char) : (text.takeWhile Text.isBlank).map Char.toLower = text.takeWhile Text.isBlank :=
    (List.map_congr_left fun c member => blank_lower (Expression.take_while_all _ _ c member)).trans (List.map_id _)
  have fronts := congrArg (List.takeWhile Text.isBlank) folded
  have backs := congrArg (List.dropWhile Text.isBlank) folded
  rw [List.takeWhile_map, List.takeWhile_map, blind, kept, kept] at fronts
  rw [List.dropWhile_map, List.dropWhile_map, blind] at backs
  exact ⟨fronts, backs⟩

end

theorem phrased_ends {text taken rest : List Char} (phrased : Phrased text taken rest) : ∃ inner, taken = inner ++ ['"'] := by
  induction phrased with
  | close => exact ⟨[], rfl⟩
  | @escape e _ _ _ _ _ ih =>
      obtain ⟨inner, rfl⟩ := ih
      exact ⟨'\\' :: e :: inner, rfl⟩
  | @plain c _ _ _ _ _ _ ih =>
      obtain ⟨inner, rfl⟩ := ih
      exact ⟨c :: inner, rfl⟩

section

variable {settings : Settings} {text other taken taken' rest rest' : List Char} {kind kind' : TokenKind}
variable {lexemes lexemes' : List Lexeme}

theorem operator_letters (reads : Taken text .identifier taken rest) : ∀ c ∈ taken, c.isAlpha := by
  generalize same : TokenKind.identifier = kind at reads
  cases reads with
  | opening | closing | phrase => cases same
  | @word first text =>
      have operator : Search.isOperator (String.ofList (first :: text.takeWhile isWordChar)) := by
        by_contra other
        rw [Search.termKind, if_neg other] at same
        cases same
      intro c member
      have listed : c.toLower ∈ Text.fold (String.ofList (first :: text.takeWhile isWordChar)) := by
        rw [Text.fold, String.toList_ofList]
        exact List.mem_map_of_mem member
      rw [← Char.isAlpha_toLower_eq_isAlpha]
      refine List.all_eq_true.mp ?_ _ listed
      simp only [Search.isOperator, Text.sameFolded, Bool.or_eq_true, beq_iff_eq] at operator
      rcases operator with (same | same) | same <;> rw [same] <;> decide

theorem taken_relettered (reads : Taken text kind taken rest) (reads' : Taken other kind' taken' rest')
    (same : Same settings ⟨kind, String.ofList taken⟩ ⟨kind', String.ofList taken'⟩)
    (folded : text.map Char.toLower = other.map Char.toLower)
    (behind : rest.map Char.toLower = rest'.map Char.toLower → Relettered true rest rest') : Relettered true text other := by
  rw [← Search.taken_split reads, ← Search.taken_split reads'] at folded ⊢
  rw [List.map_append, List.map_append] at folded
  rcases same_cases same with equal | ⟨word, left, right⟩
  · obtain rfl : taken = taken' := String.ofList_injective (congrArg Lexeme.text equal)
    have others := behind (List.append_cancel_left folded)
    cases reads with
    | opening => exact .same '(' others
    | closing => exact .same ')' others
    | phrase phrased =>
        obtain ⟨inner, rfl⟩ := phrased_ends phrased
        have whole := Relettered.behind_mark ('"' :: inner) (show isWordChar '"' = false from rfl) others true
        simpa using whole
    | @word first text =>
        refine Relettered.behind_same _ (fun free => others.tighten fun c head => Bool.eq_false_iff.mpr fun letter => ?_) true
        exact absurd (alpha_inside letter) (by rw [Expression.head_drop_while isWordChar text c head]; decide)
  · have folds := (fold_of_same (Bool.and_eq_true_iff.mp left).2).trans (fold_of_same (Bool.and_eq_true_iff.mp right).2).symm
    simp only [Text.fold, String.toList_ofList] at folds
    have length : taken.length = taken'.length := by simpa using congrArg List.length folds
    obtain rfl : kind = .identifier := Expression.keyword_word left
    obtain rfl : kind' = .identifier := Expression.keyword_word right
    rw [folds] at folded
    exact .behind_letters (operator_letters reads) (operator_letters reads') length (behind (List.append_cancel_left folded))

theorem relettered_of_spelled (spelled : Spelled .search text lexemes) (spelled' : Spelled .search other lexemes')
    (alike : List.Forall₂ (Same settings) lexemes lexemes') (folded : text.map Char.toLower = other.map Char.toLower) :
    Relettered true text other := by
  induction spelled generalizing other lexemes' with
  | @blank text blank =>
      cases alike
      obtain ⟨fronts, -⟩ := front_of_folded folded
      cases spelled' with
      | blank blank' =>
          rw [← List.takeWhile_append_dropWhile (p := Text.isBlank) (l := text), blank,
            ← List.takeWhile_append_dropWhile (p := Text.isBlank) (l := other), blank', fronts]
          exact .behind_blanks (Expression.take_while_all _ _) .nil
  | @lexeme text taken rest kind lexemes scans going others ih =>
      cases alike with
      | cons same alike =>
          cases spelled' with
          | lexeme scans' going' others' =>
              obtain ⟨fronts, backs⟩ := front_of_folded folded
              rw [← List.takeWhile_append_dropWhile (p := Text.isBlank) (l := text),
                ← List.takeWhile_append_dropWhile (p := Text.isBlank) (l := other), fronts]
              refine .behind_blanks (Expression.take_while_all _ _) ?_
              exact taken_relettered (Search.taken_of_scan scans going) (Search.taken_of_scan scans' going') same backs
                (ih others' alike)

end

end QueryOptions
