import QueryOptions.Proofs.Number.Decimal
import QueryOptions.Proofs.Number.Shortest
import QueryOptions.Proofs.Token.Alone
import QueryOptions.Proofs.Token.Numeric

set_option autoImplicit false

namespace QueryOptions

open Expression

-- Some float is written as the number.
def BinaryFormat.Written (format : BinaryFormat) (x : ℚ) : Prop := ∃ float, format.Writes float x

namespace Numeral

variable {numeral : Numeral} {rest : List Char} {kind : TokenKind}

theorem integral_decimal (written : numeral.Written) (integral : numeral.isIntegral) (small : |numeral.value| < 2 ^ 96) :
    ∃ decimal, numeral.toDecimal? = some decimal ∧ |decimal.value| = |numeral.value| := by
  have whole := value_integral integral
  simp only [isIntegral, Bool.and_eq_true, Option.isNone_iff_eq_none] at integral
  have represented : Representable numeral.value := by
    refine ⟨numeral.toInt, 0, ?_, Nat.zero_le _, by rw [whole, pow_zero, div_one]⟩
    rw [whole] at small
    exact_mod_cast small
  have fits := fits_of_plain written integral.2 (by simp [integral.1]) represented
  obtain ⟨decimal, read⟩ := Option.isSome_iff_exists.mp (to_decimal_isSome.mpr ⟨represented, fits⟩)
  exact ⟨decimal, read, by rw [to_decimal_value read]⟩

-- What is left of the types is tried from the least precise on.
theorem long_kind (written : numeral.Written) (integral : numeral.isIntegral)
    (wide : ¬ (-2 ^ 63 ≤ numeral.value ∧ numeral.value < 2 ^ 63)) (small : |numeral.value| < 2 ^ 96) :
    ∃ decimal : Decimal, |decimal.value| = |numeral.value| ∧ decimal.coefficient ≠ 0 ∧
      numeral.kind? = some (if decimal.survives .single then .singleLiteral
        else if decimal.survives .double then .doubleLiteral else .decimalLiteral) := by
  obtain ⟨decimal, read, same⟩ := integral_decimal written integral small
  refine ⟨decimal, same, fun zero => wide ?_, ?_⟩
  · have none : numeral.value = 0 := by
      rw [← abs_eq_zero, ← same, Decimal.abs_value, zero, Nat.cast_zero, zero_div]
    rw [none]
    norm_num
  · have long : ¬ numeral.fitsSigned 64 := fun fits => wide ((fits_signed_iff integral 64).mp fits)
    rcases numeral.kind_cases with ⟨_, fits, -⟩ | ⟨-, _, fits, -⟩ | ⟨-, -, is⟩
    · obtain ⟨least, less⟩ := (fits_signed_iff integral 32).mp fits
      exact absurd ⟨le_trans (by norm_num) least, less.trans (by norm_num)⟩ wide
    · exact absurd fits long
    · rw [is, fractionalKind?, read]
      dsimp only
      split
      · rfl
      · split <;> rfl

theorem text_alone (complete : numeral.Complete) (is : numeral.kind? = some kind) (number : kind.isNumber) :
    Alone .expression ⟨kind, String.ofList numeral.text⟩ := by
  have plain : ∀ c ∈ (none : Option Char), isSuffix c := by simp
  have scans := scan_number complete plain (fun _ => delimited_nil) (number_formless complete.written plain delimited_nil)
  have inside := text_inside complete.written plain
  rw [Option.toList_none, List.append_nil] at inside
  rw [Option.toList_none, List.append_nil, List.append_nil, show numeral.kindWith none = some kind from is] at scans
  have visible : ∀ c ∈ numeral.text.head?, Text.isBlank c = false := fun c head =>
    inside_visible (inside c (List.mem_of_mem_head? head))
  have all := drop_while_before (List.forall_mem_nil _) visible
  rw [List.nil_append] at all
  have scans' : Dialect.expression.scan (numeral.text.dropWhile Text.isBlank) = .token kind numeral.text [] := by
    rw [all]
    exact scans
  exact alone_of_scan scans' (by rintro rfl; cases number)

end Numeral

theorem Cursor.advance_plain {cursor : Cursor} {numeral : Numeral} {rest : List Char} {kind : TokenKind}
    (complete : numeral.Complete) (is : numeral.kind? = some kind) (dialect : cursor.dialect = .expression)
    (delimited : Delimited rest) (here : cursor.rest = numeral.text ++ rest) :
    advance cursor = .ok () (cursor.onto kind numeral.text rest) := by
  have here' : cursor.rest = numeral.text ++ (none : Option Char).toList ++ rest := by simpa using here
  have taken : cursor.NumberWhen True kind (numeral.text ++ (none : Option Char).toList) rest :=
    number_when complete delimited dialect (by simp) here' (fun _ => is) fun fails => absurd trivial fails
  rw [Option.toList_none, List.append_nil] at taken
  exact taken.1 trivial

-- The digits of an integer that is past 64 bits but not past those of a decimal are of the same type in every text. It is
-- a single where one is written as the integer, else a double on the same terms, and else a decimal.
theorem long_integers {numeral : Numeral} (complete : numeral.Complete) (integral : numeral.isIntegral)
    (wide : ¬ (-2 ^ 63 ≤ numeral.value ∧ numeral.value < 2 ^ 63)) (small : |numeral.value| < 2 ^ 96) :
    ∃ kind,
      (∀ cursor rest, cursor.dialect = .expression → Delimited rest → cursor.rest = numeral.text ++ rest →
        Cursor.advance cursor = .ok () (cursor.onto kind numeral.text rest)) ∧
      (∀ text offset tokens, tokenize text .expression offset = .ok tokens →
        ∀ token ∈ tokens, token.text = String.ofList numeral.text → token.kind = kind) ∧
      (kind = .singleLiteral ↔ BinaryFormat.single.Written |numeral.value|) ∧
      (kind = .doubleLiteral ↔
        ¬ BinaryFormat.single.Written |numeral.value| ∧ BinaryFormat.double.Written |numeral.value|) ∧
      (kind = .decimalLiteral ↔
        ¬ BinaryFormat.single.Written |numeral.value| ∧ ¬ BinaryFormat.double.Written |numeral.value|) ∧
      (kind = .singleLiteral → HasDigits 9 |numeral.value|) ∧
      (kind ≠ .decimalLiteral → HasDigits 17 |numeral.value|) ∧
      ∀ (digits : Nat) (power : Int), |numeral.value| = digits * 10 ^ power →
        (digits < 2 ^ 23 → kind = .singleLiteral) ∧ (digits < 2 ^ 52 → kind ≠ .decimalLiteral) := by
  have written := complete.written
  obtain ⟨decimal, same, some, is⟩ := Numeral.long_kind written integral wide small
  have single : decimal.survives .single ↔ BinaryFormat.single.Written |numeral.value| :=
    same ▸ Decimal.survives_iff (by decide) (by decide) some
  have double : decimal.survives .double ↔ BinaryFormat.double.Written |numeral.value| :=
    same ▸ Decimal.survives_iff (by decide) (by decide) some
  have few : decimal.survives .single → HasDigits 9 |numeral.value| := fun survives =>
    same ▸ Decimal.survivor_few (by decide) (by decide) some survives 8 (by decide)
  have few' : decimal.survives .double → HasDigits 17 |numeral.value| := fun survives =>
    same ▸ Decimal.survivor_few (by decide) (by decide) some survives 16 (by decide)
  have many (digits : Nat) (power : Int) (whole : |numeral.value| = digits * 10 ^ power) :
      (digits < 2 ^ 23 → decimal.survives .single) ∧ (digits < 2 ^ 52 → decimal.survives .double) :=
    ⟨Decimal.survives_of_few .single (by decide) (by decide) some (same.trans whole),
      Decimal.survives_of_few .double (by decide) (by decide) some (same.trans whole)⟩
  generalize found : (if decimal.survives .single then TokenKind.singleLiteral
    else if decimal.survives .double then .doubleLiteral else .decimalLiteral) = kind at is
  have number := Numeral.kind_number is
  refine ⟨kind, fun _ _ => Cursor.advance_plain complete is, fun text offset tokens read token member alike => ?_, ?_⟩
  · have start : (Cursor.start text .expression offset false).Plain .expression := ⟨rfl, rfl⟩
    have spelled := Cursor.spelled_of_tokens start (Nat.lt_succ_self _) read
    have alone := spelled_alone spelled token.lexeme (List.mem_map_of_mem member)
    have alone' := Numeral.text_alone complete is number
    rw [Alone, ← alike] at alone'
    cases alone.symm.trans alone'
    rfl
  · rw [← single, ← double, ← found]
    have wider : HasDigits 9 |numeral.value| → HasDigits 17 |numeral.value| := has_more_digits (by decide)
    by_cases short : decimal.survives .single
    · rw [if_pos short]
      exact ⟨by simp [short], by simp [short], by simp [short], fun _ => few short, fun _ => wider (few short),
        fun _ _ _ => ⟨fun _ => rfl, nofun⟩⟩
    · rw [if_neg short]
      by_cases long : decimal.survives .double
      · rw [if_pos long]
        exact ⟨by simp [short], by simp [short, long], by simp [long], nofun, fun _ => few' long,
          fun digits power whole => ⟨fun less => absurd ((many digits power whole).1 less) short, nofun⟩⟩
      · rw [if_neg long]
        exact ⟨by simp [short], by simp [long], by simp [short, long], nofun, fun other => absurd rfl other,
          fun digits power whole => ⟨fun less => absurd ((many digits power whole).1 less) short,
            fun less => absurd ((many digits power whole).2 less) long⟩⟩

theorem long_integers_of_types :
    let round : Numeral := ⟨true, "20000000000000000000".toList, none, none⟩
    let tenfold : Numeral := ⟨false, "92233720368547758070".toList, none, none⟩
    round.Complete ∧ tenfold.Complete ∧ Delimited [')'] ∧
      (∃ moved, Cursor.advance ⟨round.text ++ [')'], 7, .unread 7, .expression, false⟩ = .ok () moved ∧
        moved.token = ⟨.singleLiteral, "-20000000000000000000", 7⟩) ∧
      BinaryFormat.single.Written |round.value| ∧
      (∀ text offset tokens, tokenize text .expression offset = .ok tokens →
        ∀ token ∈ tokens, token.text = "92233720368547758070" → token.kind = .decimalLiteral) ∧
      ¬ BinaryFormat.single.Written |tenfold.value| ∧ ¬ BinaryFormat.double.Written |tenfold.value| := by
  intro round tenfold
  have round_complete : round.Complete := by decide
  have tenfold_complete : tenfold.Complete := by decide
  have round_value : round.value = -(2 * 10 ^ 19) := by
    rw [Numeral.value_integral rfl, show round.toInt = -(2 * 10 ^ 19) by decide]
    norm_num
  have tenfold_value : tenfold.value = 92233720368547758070 := by
    rw [Numeral.value_integral rfl, show tenfold.toInt = 92233720368547758070 by decide]
    norm_num
  have delimited : Delimited [')'] := delimited_mark rfl []
  obtain ⟨kind, taken, -, single, -, -, -, -, few⟩ :=
    long_integers round_complete rfl (by rw [round_value]; norm_num) (by rw [round_value]; norm_num)
  obtain rfl : kind = .singleLiteral := (few 2 19 (by rw [round_value]; norm_num)).1 (by decide)
  obtain ⟨kind, -, each, -, -, decimal, -⟩ :=
    long_integers tenfold_complete rfl (by rw [tenfold_value]; norm_num) (by rw [tenfold_value]; norm_num)
  have is : tenfold.kind? = some .decimalLiteral := by decide +kernel
  obtain rfl := each _ _ _ (Numeral.text_alone tenfold_complete is rfl) _ List.mem_cons_self rfl
  obtain ⟨other, other'⟩ := decimal.mp rfl
  rw [show String.ofList tenfold.text = "92233720368547758070" by decide] at each
  have text : String.ofList round.text = "-20000000000000000000" := by decide
  exact ⟨round_complete, tenfold_complete, delimited, ⟨_, taken _ [')'] rfl delimited rfl, by rw [Cursor.onto, text]⟩,
    single.mp rfl, each, other, other'⟩

-- Ten to the power of 19 is what the single nearest to it is written as.
theorem long_integer_as_single :
    let numeral : Numeral := ⟨false, "10000000000000000000".toList, none, none⟩
    numeral.Complete ∧ numeral.isIntegral ∧ ¬ (-2 ^ 63 ≤ numeral.value ∧ numeral.value < 2 ^ 63) ∧
      |numeral.value| < 2 ^ 96 ∧ Delimited [] ∧
      Cursor.advance ⟨numeral.text, 0, .unread 0, .expression, false⟩ =
        .ok () ⟨[], 20, ⟨.singleLiteral, "10000000000000000000", 0⟩, .expression, false⟩ := by
  intro numeral
  have complete : numeral.Complete := by decide
  have value : numeral.value = 10 ^ 19 := by
    rw [Numeral.value_integral rfl, show numeral.toInt = 10 ^ 19 by decide]
    norm_num
  have is : numeral.kind? = some .singleLiteral := by decide +kernel
  let start : Cursor := ⟨numeral.text, 0, .unread 0, .expression, false⟩
  have taken : Cursor.advance start = _ :=
    Cursor.advance_plain complete is rfl delimited_nil (List.append_nil _).symm
  rw [Cursor.onto, show String.ofList numeral.text = "10000000000000000000" by decide,
    show Text.byteLength numeral.text = 20 by decide] at taken
  refine ⟨complete, rfl, ?_, ?_, delimited_nil, taken⟩
  · rw [value]
    norm_num
  · rw [value]
    norm_num

end QueryOptions
