import Mathlib.Tactic.GCongr
import QueryOptions.Proofs.Number.Value
import QueryOptions.Proofs.Token.Local
import QueryOptions.Proofs.Token.Words

set_option autoImplicit false

namespace QueryOptions

open Expression

def TokenKind.isNumber : TokenKind → Bool
  | .integerLiteral | .int64Literal | .singleLiteral | .doubleLiteral | .decimalLiteral => true
  | _ => false

namespace Numeral

theorem few_bits_finite {bits : Nat} (few : bits < 970) : (2 : ℚ) ^ bits < 2 ^ 1024 - 2 ^ 970 := by
  rw [lt_sub_iff_add_lt]
  calc (2 : ℚ) ^ bits + 2 ^ 970 < 2 ^ 970 + 2 ^ 970 := by
        have less : (2 : ℚ) ^ bits < 2 ^ 970 := pow_lt_pow_right₀ (by norm_num) few
        gcongr
    _ = 2 ^ 971 := by rw [pow_succ 2 970, mul_two]
    _ ≤ 2 ^ 1024 := pow_le_pow_right₀ (by norm_num) (by norm_num)

section

variable {numeral : Numeral} {kind : TokenKind}

theorem finite_double_iff (written : numeral.Written) : numeral.isFinite .double ↔ |numeral.value| < 2 ^ 1024 - 2 ^ 970 :=
  (finite_iff written (by decide)).trans (by rw [BinaryFormat.double_bound])

theorem finite_single_iff (written : numeral.Written) : numeral.isFinite .single ↔ |numeral.value| < 2 ^ 128 - 2 ^ 103 :=
  (finite_iff written (by decide)).trans (by rw [BinaryFormat.single_bound])

theorem fractional_kind_real (found : numeral.fractionalKind? = some kind) :
    kind = .singleLiteral ∨ kind = .doubleLiteral ∨ kind = .decimalLiteral := by
  unfold fractionalKind? at found
  repeat' split at found
  all_goals cases found
  all_goals simp

theorem fractional_kind_isSome (written : numeral.Written) :
    numeral.fractionalKind?.isSome ↔ |numeral.value| < 2 ^ 1024 - 2 ^ 970 := by
  rw [← finite_double_iff written]
  unfold fractionalKind?
  cases read : numeral.toDecimal? with
  | none => by_cases fits : numeral.isFinite .double <;> simp [fits]
  | some decimal =>
      have small : |numeral.value| < 2 ^ 96 := to_decimal_value read ▸ decimal.abs_value_lt
      refine iff_of_true ?_ ((finite_double_iff written).mpr (small.trans (few_bits_finite (by decide))))
      dsimp only
      repeat' split
      all_goals rfl

theorem fractional_kind_number (found : numeral.fractionalKind? = some kind) :
    kind.isNumber ∧ kind ≠ .integerLiteral ∧ kind ≠ .int64Literal := by
  rcases fractional_kind_real found with rfl | rfl | rfl <;> decide

theorem kind_cases (numeral : Numeral) :
    (numeral.isIntegral ∧ numeral.fitsSigned 32 ∧ numeral.kind? = some .integerLiteral) ∨
    (¬ (numeral.isIntegral ∧ numeral.fitsSigned 32) ∧ numeral.isIntegral ∧ numeral.fitsSigned 64 ∧
      numeral.kind? = some .int64Literal) ∨
    (¬ (numeral.isIntegral ∧ numeral.fitsSigned 32) ∧ ¬ (numeral.isIntegral ∧ numeral.fitsSigned 64) ∧
      numeral.kind? = numeral.fractionalKind?) := by
  simp only [kind?, Bool.and_eq_true]
  by_cases small : numeral.isIntegral ∧ numeral.fitsSigned 32
  · exact .inl ⟨small.1, small.2, if_pos small⟩
  rw [if_neg small]
  by_cases large : numeral.isIntegral ∧ numeral.fitsSigned 64
  · exact .inr (.inl ⟨small, large.1, large.2, if_pos large⟩)
  · exact .inr (.inr ⟨small, large, if_neg large⟩)

-- The ranges of integers are far from the numbers that are not finite.
theorem finite_of_signed {bits : Nat} (few : bits - 1 < 970) (integral : numeral.isIntegral) (fits : numeral.fitsSigned bits) :
    |numeral.value| < 2 ^ 1024 - 2 ^ 970 := by
  obtain ⟨least, less⟩ := (fits_signed_iff integral bits).mp fits
  exact (abs_le.mpr ⟨least, less.le⟩).trans_lt (few_bits_finite few)

theorem kind_isSome (written : numeral.Written) : numeral.kind?.isSome ↔ |numeral.value| < 2 ^ 1024 - 2 ^ 970 := by
  rcases numeral.kind_cases with ⟨integral, fits, is⟩ | ⟨-, integral, fits, is⟩ | ⟨-, -, is⟩
  · exact iff_of_true (by simp [is]) (finite_of_signed (by decide) integral fits)
  · exact iff_of_true (by simp [is]) (finite_of_signed (by decide) integral fits)
  · rw [is]
    exact fractional_kind_isSome written

theorem kind_number (found : numeral.kind? = some kind) : kind.isNumber := by
  rcases numeral.kind_cases with ⟨-, -, is⟩ | ⟨-, -, -, is⟩ | ⟨-, -, is⟩
  · cases is.symm.trans found
    rfl
  · cases is.symm.trans found
    rfl
  · exact (fractional_kind_number (is.symm.trans found)).1

theorem kind_integer_iff (numeral : Numeral) :
    numeral.kind? = some .integerLiteral ↔ numeral.isIntegral ∧ numeral.fitsSigned 32 := by
  rcases numeral.kind_cases with ⟨digits, fits, is⟩ | ⟨wide, -, -, is⟩ | ⟨wide, -, is⟩
  · simp [is, digits, fits]
  · exact iff_of_false (by simp [is]) wide
  · exact iff_of_false (fun found => (fractional_kind_number (is.symm.trans found)).2.1 rfl) wide

theorem kind_int64_iff (numeral : Numeral) :
    numeral.kind? = some .int64Literal ↔ numeral.isIntegral ∧ ¬ numeral.fitsSigned 32 ∧ numeral.fitsSigned 64 := by
  rcases numeral.kind_cases with ⟨digits, fits, is⟩ | ⟨wide, digits, fits, is⟩ | ⟨-, wide, is⟩
  · simp [is, fits]
  · simpa [is, digits, fits] using wide
  · exact iff_of_false (fun found => (fractional_kind_number (is.symm.trans found)).2.2 rfl)
      fun fits => wide ⟨fits.1, fits.2.2⟩

-- The type by the value alone, as long as that is not too great.
theorem kind_by_value (written : numeral.Written) : ∃ kind : TokenKind, kind.isNumber ∧
    (|numeral.value| < 2 ^ 1024 - 2 ^ 970 → numeral.kind? = some kind) ∧
    (¬ |numeral.value| < 2 ^ 1024 - 2 ^ 970 → numeral.kind? = none) ∧
    (kind = .integerLiteral ↔ numeral.isIntegral ∧ -2 ^ 31 ≤ numeral.value ∧ numeral.value < 2 ^ 31) ∧
    (kind = .int64Literal ↔ numeral.isIntegral ∧ ¬ (-2 ^ 31 ≤ numeral.value ∧ numeral.value < 2 ^ 31) ∧
      -2 ^ 63 ≤ numeral.value ∧ numeral.value < 2 ^ 63) := by
  have finite := kind_isSome written
  have short := (kind_integer_iff numeral).trans (and_congr_right fun integral => fits_signed_iff integral 32)
  have long := (kind_int64_iff numeral).trans (and_congr_right fun integral =>
    and_congr (not_congr (fits_signed_iff integral 32)) (fits_signed_iff integral 64))
  cases found : numeral.kind? with
  | none =>
      rw [found] at finite short long
      refine ⟨.doubleLiteral, rfl, fun below => ?_, fun _ => rfl, ?_, ?_⟩
      · cases finite.mpr below
      · exact iff_of_false (by decide) fun fits => by cases short.mpr fits
      · exact iff_of_false (by decide) fun fits => by cases long.mpr fits
  | some kind =>
      rw [found] at finite short long
      exact ⟨kind, kind_number found, fun _ => rfl, fun above => absurd (finite.mp rfl) above,
        Option.some_inj.symm.trans short, Option.some_inj.symm.trans long⟩

end

structure Complete (numeral : Numeral) : Prop where
  written : numeral.Written
  whole : numeral.whole ≠ []
  fraction : ∀ digits ∈ numeral.fraction, digits ≠ []
  power : ∀ exponent ∈ numeral.exponent, exponent.digits ≠ []

def isComplete (numeral : Numeral) : Bool :=
  numeral.isWritten && !numeral.whole.isEmpty && numeral.fraction.all (!·.isEmpty) && numeral.exponent.all (!·.digits.isEmpty)

theorem is_complete_iff (numeral : Numeral) : numeral.isComplete ↔ numeral.Complete := by
  simp only [isComplete, Bool.and_eq_true, is_written_iff, Option.all_eq_true, Bool.not_eq_true', List.isEmpty_eq_false_iff]
  constructor
  · rintro ⟨⟨⟨written, whole⟩, fraction⟩, power⟩
    exact ⟨written, whole, fraction, power⟩
  · exact fun complete => ⟨⟨⟨complete.written, complete.whole⟩, complete.fraction⟩, complete.power⟩

instance (numeral : Numeral) : Decidable numeral.Complete :=
  decidable_of_iff _ numeral.is_complete_iff

def kindWith (numeral : Numeral) (suffix : Option Char) : Option TokenKind :=
  suffix.elim numeral.kind? fun c => numeral.suffixedKind? c

section

variable {numeral : Numeral} {suffix : Option Char} {rest : List Char}
variable (suffixes : ∀ c ∈ suffix, isSuffix c) (delimited : suffix = none → Delimited rest)
include suffixes delimited

theorem behind_number : ∀ c ∈ (suffix.toList ++ rest).head?, c.isDigit = false ∧ isMark c = false ∧ c ≠ '.' := by
  cases suffix with
  | none =>
      intro c head
      have delimits := delimited rfl c head
      refine ⟨delimiter_outside digit_inner delimits, delimiter_outside mark_outside delimits, ?_⟩
      rintro rfl
      cases delimits
  | some letter =>
      rintro c ⟨⟩
      have suffixed := suffixes letter rfl
      simp only [isSuffix, Bool.or_eq_true, beq_iff_eq] at suffixed
      rcases suffixed with ((((((rfl | rfl) | rfl) | rfl) | rfl) | rfl) | rfl) | rfl <;> decide

theorem behind_places (written : numeral.Written) :
    ∀ c ∈ ((numeral.exponent.map Exponent.text).getD [] ++ (suffix.toList ++ rest)).head?, c.isDigit = false ∧ c ≠ '.' := by
  cases found : numeral.exponent with
  | none => exact fun c head => ⟨(behind_number suffixes delimited c head).1, (behind_number suffixes delimited c head).2.2⟩
  | some exponent =>
      rintro c ⟨⟩
      have marks := written.mark exponent found
      simp only [isMark, Bool.or_eq_true, beq_iff_eq] at marks
      rcases marks with marks | marks <;> rw [marks] <;> decide

theorem behind_whole (written : numeral.Written) :
    ∀ c ∈ (tailText numeral.fraction numeral.exponent suffix ++ rest).head?, goesOn c ∨ isDelimiter c := by
  have tail := tail_head written suffixes
  cases same : tailText numeral.fraction numeral.exponent suffix with
  | nil =>
      have none : suffix = none := Option.toList_eq_nil_iff.mp (List.append_eq_nil_iff.mp (List.append_eq_nil_iff.mp same).2).2
      exact fun c head => .inr (delimited none c head)
  | cons d more => exact fun c head => .inl (tail c (same ▸ head))

theorem scan_suffix_text (numeral : Numeral) :
    scanSuffix numeral (suffix.toList ++ rest) = conclude (numeral.kindWith suffix) (numeral.text ++ suffix.toList) rest := by
  cases suffix with
  | none =>
      rw [Option.toList_none, List.nil_append, List.append_nil]
      exact scan_suffix_none numeral fun c head => delimiter_outside suffix_inner (delimited rfl c head)
  | some letter => exact if_pos (suffixes letter rfl)

theorem scan_exponent_text (complete : numeral.Complete) :
    scanExponent { numeral with exponent := none }
      ((numeral.exponent.map Exponent.text).getD [] ++ (suffix.toList ++ rest)) =
      scanSuffix numeral (suffix.toList ++ rest) := by
  have behind := behind_number suffixes delimited
  obtain ⟨negative, whole, fraction, exponent⟩ := numeral
  cases exponent with
  | none => exact scan_exponent_none _ fun c head => (behind c head).2.1
  | some exponent =>
      have written := complete.written
      simpa [Exponent.text] using scan_exponent_some ⟨negative, whole, fraction, none⟩ (written.mark exponent rfl)
        exponent.sign (written.sign exponent rfl) (complete.power exponent rfl) (written.power exponent rfl)
        fun c head => (behind c head).1

theorem scan_fraction_text (complete : numeral.Complete) :
    scanFraction { numeral with fraction := none, exponent := none }
      (tailText numeral.fraction numeral.exponent suffix ++ rest) = scanSuffix numeral (suffix.toList ++ rest) := by
  have behind := behind_places suffixes delimited complete.written
  have exponents := scan_exponent_text suffixes delimited complete
  obtain ⟨negative, whole, fraction, exponent⟩ := numeral
  rw [tailText, List.append_assoc, List.append_assoc]
  cases fraction with
  | none => exact (scan_fraction_none _ fun point => (behind '.' point).2 rfl).trans exponents
  | some digits =>
      have places := scan_fraction_some ⟨negative, whole, none, none⟩ (complete.fraction digits rfl)
        (complete.written.fraction digits rfl) fun c head => (behind c head).1
      exact places.trans exponents

theorem scan_text (complete : numeral.Complete) :
    scan numeral.negative (numeral.whole ++ (tailText numeral.fraction numeral.exponent suffix ++ rest)) =
      conclude (numeral.kindWith suffix) (numeral.text ++ suffix.toList) rest := by
  have ends : ∀ c ∈ (tailText numeral.fraction numeral.exponent suffix ++ rest).head?, c.isDigit = false := fun c head =>
    (behind_whole suffixes delimited complete.written c head).elim goes_on_no_digit (delimiter_outside digit_inner)
  rw [scan, take_while_before complete.written.whole ends, drop_while_before complete.written.whole ends]
  exact (scan_fraction_text suffixes delimited complete).trans (scan_suffix_text suffixes delimited numeral)

theorem text_decimal {c : Char} {digits : List Char} (written : numeral.Written) (whole : numeral.whole = c :: digits) :
    isBinary (numeral.whole ++ (tailText numeral.fraction numeral.exponent suffix ++ rest)) = false := by
  have behind := behind_whole suffixes delimited written
  refine Bool.eq_false_iff.mpr fun binary => ?_
  rw [whole] at binary
  obtain ⟨x, more, same, marks⟩ := binary_parts binary
  have tail : digits ++ (tailText numeral.fraction numeral.exponent suffix ++ rest) = x :: more := (List.cons.inj same).2
  have second : x.isDigit ∨ goesOn x ∨ isDelimiter x := by
    cases digits with
    | nil => exact .inr (behind x (congrArg List.head? tail))
    | cons d digits =>
        cases tail
        exact .inl (written.whole x (by simp [whole]))
  rcases marks with rfl | rfl <;> revert second <;> decide

end

end Numeral

namespace Expression

variable {numeral : Numeral} {suffix : Option Char} {rest : List Char}

theorem scan_signed {negative : Bool} {c : Char} (digit : c.isDigit) (text : List Char) :
    scan ((if negative then ['-'] else []) ++ c :: text) = scanDigits negative (c :: text) := by
  cases negative with
  | false => exact scan_of_branch (.number digit (digit_no_start digit))
  | true => exact (scan_of_branch (.minus rfl)).trans (if_pos digit)

theorem scan_number (complete : numeral.Complete) (suffixes : ∀ c ∈ suffix, Numeral.isSuffix c)
    (delimited : suffix = none → Delimited rest) (formless : formKind? (run (numeral.text ++ suffix.toList ++ rest)) = none) :
    scan (numeral.text ++ suffix.toList ++ rest) =
      Numeral.conclude (numeral.kindWith suffix) (numeral.text ++ suffix.toList) rest := by
  obtain ⟨c, digits, whole⟩ := List.exists_cons_of_ne_nil complete.whole
  have digit : c.isDigit := complete.written.whole c (whole ▸ List.mem_cons_self)
  have decimal := Numeral.text_decimal suffixes delimited complete.written whole
  have scanned := Numeral.scan_text suffixes delimited complete
  rw [Numeral.text_parts, List.append_assoc, List.append_assoc] at formless ⊢
  rw [← Numeral.text_parts, ← scanned]
  rw [whole] at decimal formless ⊢
  rw [List.cons_append, scan_signed digit, ← List.cons_append, scan_digits_other decimal, formless]

theorem number_formless (written : numeral.Written) (suffixes : ∀ c ∈ suffix, Numeral.isSuffix c) (delimited : Delimited rest) :
    formKind? (run (numeral.text ++ suffix.toList ++ rest)) = none := by
  rw [run_append _ delimited, run_all (Numeral.text_inside written suffixes)]
  exact Numeral.text_no_form written suffixes

theorem suffixed_formless {letter : Char} (written : numeral.Written) (suffixed : Numeral.isSuffix letter)
    (other : Text.isHexDigit letter = false) (rest : List Char) :
    formKind? (run (numeral.text ++ (some letter).toList ++ rest)) = none := by
  have suffixes : ∀ c ∈ some letter, Numeral.isSuffix c := fun c is => Option.some.inj is ▸ suffixed
  rw [run_inside (Numeral.text_inside written suffixes), List.append_assoc]
  exact Numeral.suffixed_no_form written suffixed other (run rest)

end Expression

namespace Cursor

variable {cursor : Cursor} {numeral : Numeral} {rest : List Char} {holds : Prop} {kind : TokenKind}

def NumberWhen (cursor : Cursor) (holds : Prop) (kind : TokenKind) (taken rest : List Char) : Prop :=
  (holds → advance cursor = .ok () (cursor.onto kind taken rest)) ∧
    (¬ holds → ∃ moved, advance cursor = .error (.invalidNumeric (String.ofList taken) cursor.offset) moved)

theorem conclude_when {found : Option TokenKind} {taken : List Char}
    (read : advance cursor = cursor.settled (Numeral.conclude found taken rest)) (accepted : holds → found = some kind)
    (refused : ¬ holds → found = none) : cursor.NumberWhen holds kind taken rest := by
  refine ⟨fun true => ?_, fun false => ?_⟩
  · rw [read, accepted true]
    rfl
  · rw [read, refused false]
    exact ⟨_, rfl⟩

theorem advance_number (complete : numeral.Complete) (dialect : cursor.dialect = .expression) {suffix : Option Char}
    (suffixes : ∀ c ∈ suffix, Numeral.isSuffix c) (delimited : suffix = none → Delimited rest)
    (formless : formKind? (run (numeral.text ++ suffix.toList ++ rest)) = none)
    (here : cursor.rest = numeral.text ++ suffix.toList ++ rest) :
    advance cursor =
      cursor.settled (Numeral.conclude (numeral.kindWith suffix) (numeral.text ++ suffix.toList) rest) := by
  have some : numeral.text ++ suffix.toList ≠ [] := by
    rw [Numeral.text_parts]
    simp [complete.whole]
  have visible : ∀ c ∈ cursor.rest.head?, Text.isBlank c = false := by
    intro c head
    rw [here, List.head?_append_of_ne_nil _ some] at head
    exact inside_visible (Numeral.text_inside complete.written suffixes c (List.mem_of_mem_head? head))
  rw [advance_visible visible, dialect, here]
  exact congrArg _ (scan_number complete suffixes delimited formless)

variable (complete : numeral.Complete) (delimited : Delimited rest) (dialect : cursor.dialect = .expression)
include complete delimited dialect

theorem number_when {suffix : Option Char} (suffixes : ∀ c ∈ suffix, Numeral.isSuffix c)
    (here : cursor.rest = numeral.text ++ suffix.toList ++ rest) (found : holds → numeral.kindWith suffix = some kind)
    (other : ¬ holds → numeral.kindWith suffix = none) :
    cursor.NumberWhen holds kind (numeral.text ++ suffix.toList) rest :=
  conclude_when (advance_number complete dialect suffixes (fun _ => delimited)
    (number_formless complete.written suffixes delimited) here) found other

theorem suffixed_when {letter : Char} {test : Bool} (suffix : Numeral.isSuffix letter)
    (here : cursor.rest = numeral.text ++ letter :: rest)
    (found : numeral.suffixedKind? letter = if test then some kind else none) (same : test ↔ holds) :
    cursor.NumberWhen holds kind (numeral.text ++ [letter]) rest := by
  have here' : cursor.rest = numeral.text ++ (some letter).toList ++ rest := by simpa using here
  refine number_when complete delimited dialect (fun c is => Option.some.inj is ▸ suffix) here' (fun true => ?_) fun false => ?_
  · exact found.trans (if_pos (same.mpr true))
  · exact found.trans (if_neg fun true => false (same.mp true))

end Cursor

-- Digits alone are integers of the fewest bits. All other numbers are accepted as long as they round to a finite double,
-- and with a letter for a type in the range of that type.
theorem number_types {cursor : Cursor} {numeral : Numeral} {rest : List Char} (complete : numeral.Complete)
    (delimited : Delimited rest) (dialect : cursor.dialect = .expression) :
    (cursor.rest = numeral.text ++ rest → ∃ kind, kind.isNumber ∧
      cursor.NumberWhen (|numeral.value| < 2 ^ 1024 - 2 ^ 970) kind numeral.text rest ∧
      (kind = .integerLiteral ↔ numeral.isIntegral ∧ -2 ^ 31 ≤ numeral.value ∧ numeral.value < 2 ^ 31) ∧
      (kind = .int64Literal ↔ numeral.isIntegral ∧ ¬ (-2 ^ 31 ≤ numeral.value ∧ numeral.value < 2 ^ 31) ∧
        -2 ^ 63 ≤ numeral.value ∧ numeral.value < 2 ^ 63)) ∧
    (∀ letter, cursor.rest = numeral.text ++ letter :: rest →
      (letter = 'L' ∨ letter = 'l' →
        cursor.NumberWhen (numeral.isIntegral ∧ -2 ^ 63 ≤ numeral.value ∧ numeral.value < 2 ^ 63) .int64Literal
          (numeral.text ++ [letter]) rest) ∧
      (letter = 'D' ∨ letter = 'd' →
        cursor.NumberWhen (|numeral.value| < 2 ^ 1024 - 2 ^ 970) .doubleLiteral (numeral.text ++ [letter]) rest) ∧
      (letter = 'F' ∨ letter = 'f' →
        cursor.NumberWhen (|numeral.value| < 2 ^ 128 - 2 ^ 103) .singleLiteral (numeral.text ++ [letter]) rest)) ∧
    (numeral.StaysWithin .double ↔ |numeral.value| < 2 ^ 1024 - 2 ^ 970) ∧
    (numeral.StaysWithin .single ↔ |numeral.value| < 2 ^ 128 - 2 ^ 103) := by
  have written := complete.written
  refine ⟨fun here => ?_, fun letter here => ⟨fun long => ?_, fun double => ?_, fun single => ?_⟩, ?_, ?_⟩
  · have here' : cursor.rest = numeral.text ++ (none : Option Char).toList ++ rest := by simpa using here
    obtain ⟨kind, number, found, other, classes⟩ := Numeral.kind_by_value written
    have read := Cursor.number_when complete delimited dialect (by simp) here' found other
    rw [Option.toList_none, List.append_nil] at read
    exact ⟨kind, number, read, classes⟩
  · have fits : (numeral.isIntegral && numeral.fitsSigned 64) ↔
        numeral.isIntegral ∧ -2 ^ 63 ≤ numeral.value ∧ numeral.value < 2 ^ 63 := by
      rw [Bool.and_eq_true]
      exact and_congr_right fun integral => Numeral.fits_signed_iff integral 64
    rcases long with rfl | rfl <;> exact Cursor.suffixed_when complete delimited dialect rfl here rfl fits
  · have finite := Numeral.finite_double_iff written
    rcases double with rfl | rfl <;> exact Cursor.suffixed_when complete delimited dialect rfl here rfl finite
  · have finite := Numeral.finite_single_iff written
    rcases single with rfl | rfl <;> exact Cursor.suffixed_when complete delimited dialect rfl here rfl finite
  · rw [← BinaryFormat.double_bound]
    exact Numeral.stays_within_iff (by decide) (by decide) (by decide)
  · rw [← BinaryFormat.single_bound]
    exact Numeral.stays_within_iff (by decide) (by decide) (by decide)

theorem numbers_near_the_bounds :
    let long : Numeral := ⟨true, "9223372036854775808".toList, none, none⟩
    let great : Numeral := ⟨false, ['3'], some "4028236".toList, some ⟨'E', some '+', ['3', '8']⟩⟩
    long.Complete ∧ great.Complete ∧ Delimited [')'] ∧
      Cursor.advance ⟨long.text ++ [')'], 7, .unread 7, .expression, true⟩ =
        .ok () ⟨[')'], 27, ⟨.int64Literal, "-9223372036854775808", 7⟩, .expression, true⟩ ∧
      Cursor.advance ⟨long.text ++ ['L', ')'], 7, .unread 7, .expression, true⟩ =
        .ok () ⟨[')'], 28, ⟨.int64Literal, "-9223372036854775808L", 7⟩, .expression, true⟩ ∧
      ∃ moved, Cursor.advance ⟨great.text ++ ['f', ')'], 7, .unread 7, .expression, true⟩ =
        .error (.invalidNumeric "3.4028236E+38f" 7) moved := by
  intro long great
  have delimited : Delimited [')'] := delimited_mark rfl []
  have long_complete : long.Complete :=
    ⟨⟨List.all_eq_true.mp rfl, by simp [long], by simp [long], by simp [long], by simp [long]⟩, by decide, by simp [long],
      by simp [long]⟩
  have great_complete : great.Complete :=
    ⟨⟨List.all_eq_true.mp rfl, by simp [great], by simp [great]; decide, by simp [great], by simp [great]⟩, by decide,
      by simp [great], by simp [great]⟩
  have long_value : long.value = -2 ^ 63 := by
    rw [Numeral.value_integral rfl, show long.toInt = -9223372036854775808 by decide]
    norm_num
  have finite : |long.value| < 2 ^ 1024 - 2 ^ 970 := by
    rw [long_value, abs_neg, abs_of_pos (by positivity)]
    exact Numeral.few_bits_finite (by decide)
  have fits : -2 ^ 63 ≤ long.value ∧ long.value < 2 ^ 63 := by
    rw [long_value]
    norm_num
  have wide : ¬ (-2 ^ 31 ≤ long.value ∧ long.value < 2 ^ 31) := by
    rw [long_value]
    norm_num
  have past : ¬ |great.value| < 2 ^ 128 - 2 ^ 103 := by
    rw [Numeral.abs_value, show great.coefficient = 34028236 by decide, show great.power - great.places = 31 by decide]
    norm_num
  let plain : Cursor := ⟨long.text ++ [')'], 7, .unread 7, .expression, true⟩
  let suffixed : Cursor := ⟨long.text ++ ['L', ')'], 7, .unread 7, .expression, true⟩
  let single : Cursor := ⟨great.text ++ ['f', ')'], 7, .unread 7, .expression, true⟩
  obtain ⟨kind, -, accepted, -, is⟩ := (number_types long_complete delimited (show plain.dialect = .expression from rfl)).1 rfl
  have read := (number_types long_complete delimited (show suffixed.dialect = .expression from rfl)).2.1 'L' rfl
  have refused := (number_types great_complete delimited (show single.dialect = .expression from rfl)).2.1 'f' rfl
  obtain rfl := is.mpr ⟨rfl, wide, fits⟩
  have accepted' := accepted.1 finite
  have read' := (read.1 (.inl rfl)).1 ⟨rfl, fits⟩
  rw [Cursor.onto, show String.ofList long.text = "-9223372036854775808" by decide,
    show Text.byteLength long.text = 20 by decide] at accepted'
  rw [Cursor.onto, show String.ofList (long.text ++ ['L']) = "-9223372036854775808L" by decide,
    show Text.byteLength (long.text ++ ['L']) = 21 by decide] at read'
  exact ⟨long_complete, great_complete, delimited, accepted', read', (refused.2.2 (.inr rfl)).2 past⟩

end QueryOptions
