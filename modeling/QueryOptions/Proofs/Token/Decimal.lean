import QueryOptions.Proofs.Number.Decimal
import QueryOptions.Proofs.Token.Numeric

set_option autoImplicit false

namespace QueryOptions

open Expression

variable {cursor : Cursor} {numeral : Numeral} {letter : Char} {rest : List Char}

theorem decimal_letter_suffixed (decimal : letter = 'M' ∨ letter = 'm') :
    Numeral.isSuffix letter ∧ Text.isHexDigit letter = false := by
  rcases decimal with rfl | rfl <;> decide

theorem Numeral.decimal_kind (numeral : Numeral) (decimal : letter = 'M' ∨ letter = 'm') :
    numeral.suffixedKind? letter = if numeral.toDecimal?.isSome then some .decimalLiteral else none :=
  if_pos decimal

theorem Cursor.advance_decimal (complete : numeral.Complete) (dialect : cursor.dialect = .expression)
    (decimal : letter = 'M' ∨ letter = 'm') (here : cursor.rest = numeral.text ++ letter :: rest) :
    Cursor.advance cursor =
      cursor.settled (Numeral.conclude (numeral.suffixedKind? letter) (numeral.text ++ [letter]) rest) := by
  obtain ⟨suffixed, other⟩ := decimal_letter_suffixed decimal
  have here' : cursor.rest = numeral.text ++ (some letter).toList ++ rest := by simpa using here
  exact Cursor.advance_number complete dialect (fun c is => Option.some.inj is ▸ suffixed) nofun
    (suffixed_formless complete.written suffixed other rest) here'

-- A number is a decimal with the letter for it where a decimal has its value and its digits fit as they are written.
-- Zeros at the end of its fraction only add to these digits, and without such zeros those of a plain number fit.
theorem decimal_literals (complete : numeral.Complete) (dialect : cursor.dialect = .expression)
    (decimal : letter = 'M' ∨ letter = 'm') (here : cursor.rest = numeral.text ++ letter :: rest) :
    cursor.NumberWhen (Representable numeral.value ∧ numeral.FitsDecimal) .decimalLiteral (numeral.text ++ [letter]) rest ∧
    (∀ zeros, (numeral.withZeros zeros).value = numeral.value ∧
      ((numeral.withZeros zeros).FitsDecimal → numeral.FitsDecimal)) ∧
    (numeral.exponent = none → (∀ digits ∈ numeral.fraction, digits.getLast? ≠ some '0') →
      Representable numeral.value → numeral.FitsDecimal) := by
  refine ⟨?_, fun zeros => ⟨numeral.with_zeros_value zeros, Numeral.fits_without_zeros⟩,
    Numeral.fits_of_plain complete.written⟩
  have read := Cursor.advance_decimal complete dialect decimal here
  rw [numeral.decimal_kind decimal] at read
  refine Cursor.conclude_when read (fun holds => ?_) fun fails => ?_
  · exact if_pos (Numeral.to_decimal_isSome.mpr holds)
  · exact if_neg fun found => fails (Numeral.to_decimal_isSome.mp found)

-- All places taken before three of them are given back, with a name behind the letter; and the greatest decimal with a
-- place that it does not need.
theorem decimals_with_zeros :
    let long : Numeral := ⟨true, ['1'], some ('5' :: List.replicate 27 '0'), some ⟨'e', none, ['3']⟩⟩
    let great : Numeral := ⟨false, "79228162514264337593543950335".toList, some ['0'], none⟩
    long.Complete ∧ great.Complete ∧ long.FitsDecimal ∧ ¬ great.FitsDecimal ∧
      (∃ moved, Cursor.advance ⟨long.text ++ 'M' :: "ax".toList, 7, .unread 7, .expression, false⟩ = .ok () moved ∧
        moved.token = ⟨.decimalLiteral, "-1.5000000000000000000000000000e3M", 7⟩) ∧
      ∃ moved, Cursor.advance ⟨great.text ++ 'm' :: [], 7, .unread 7, .expression, false⟩ =
        .error (.invalidNumeric "79228162514264337593543950335.0m" 7) moved := by
  intro long great
  have long_complete : long.Complete := by decide
  have great_complete : great.Complete := by decide
  have fits : long.FitsDecimal := ⟨⟨by decide, by decide⟩, by decide, by decide, fun _ below => absurd below (by decide)⟩
  have past : ¬ great.FitsDecimal := fun fits => absurd fits.digits (by decide)
  have value : long.value = -1500 := by
    rw [Numeral.value_eq, show long.coefficient = 15 * 10 ^ 27 by decide, show long.power - long.places = -25 by decide]
    norm_num [signOf, long]
  let first : Cursor := ⟨long.text ++ 'M' :: "ax".toList, 7, .unread 7, .expression, false⟩
  let second : Cursor := ⟨great.text ++ 'm' :: [], 7, .unread 7, .expression, false⟩
  have accepted := (decimal_literals long_complete (show first.dialect = .expression from rfl) (.inl rfl) rfl).1.1
  have refused := (decimal_literals great_complete (show second.dialect = .expression from rfl) (.inr rfl) rfl).1.2
  refine ⟨long_complete, great_complete, fits, past, ⟨_, accepted ⟨⟨-1500, 0, by decide, by decide, ?_⟩, fits⟩, rfl⟩,
    refused fun holds => past holds.2⟩
  rw [value]
  norm_num

theorem decimal_refused_for_zeros :
    let fits : Numeral := ⟨false, ['1'], some (List.replicate 28 '0'), none⟩
    let surplus : Numeral := fits.withZeros 1
    surplus.Complete ∧ surplus.value = fits.value ∧ Representable surplus.value ∧
      (∃ moved, Cursor.advance ⟨fits.text ++ ['M'], 0, .unread 0, .expression, false⟩ = .ok () moved ∧
        moved.token = ⟨.decimalLiteral, "1.0000000000000000000000000000M", 0⟩) ∧
      ∃ moved, Cursor.advance ⟨surplus.text ++ ['M'], 0, .unread 0, .expression, false⟩ =
        .error (.invalidNumeric "1.00000000000000000000000000000M" 0) moved := by
  intro fits surplus
  have complete : surplus.Complete := by decide
  have complete' : fits.Complete := by decide
  have value : surplus.value = fits.value := fits.with_zeros_value 1
  have one : fits.value = 1 := by
    rw [Numeral.value_eq, show fits.coefficient = 10 ^ 28 by decide, show fits.power - fits.places = -28 by decide]
    norm_num [signOf, fits]
  let first : Cursor := ⟨fits.text ++ ['M'], 0, .unread 0, .expression, false⟩
  let second : Cursor := ⟨surplus.text ++ ['M'], 0, .unread 0, .expression, false⟩
  have accepted : Cursor.advance first = _ := Cursor.advance_decimal complete' rfl (.inl rfl) rfl
  have refused : Cursor.advance second = _ := Cursor.advance_decimal complete rfl (.inl rfl) rfl
  rw [show fits.suffixedKind? 'M' = some .decimalLiteral by decide +kernel] at accepted
  rw [show surplus.suffixedKind? 'M' = none by decide +kernel] at refused
  have text : String.ofList (fits.text ++ ['M']) = "1.0000000000000000000000000000M" := by decide
  have text' : String.ofList (surplus.text ++ ['M']) = "1.00000000000000000000000000000M" := by decide
  rw [← text, ← text']
  refine ⟨complete, value, ⟨1, 0, by decide, by decide, ?_⟩, ⟨_, accepted, rfl⟩, ⟨_, refused⟩⟩
  rw [value, one]
  norm_num

end QueryOptions
