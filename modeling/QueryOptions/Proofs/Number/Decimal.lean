import QueryOptions.Proofs.Number.Value

set_option autoImplicit false

namespace QueryOptions

namespace Decimal

variable {decimal : Decimal}

theorem coefficient_le (decimal : Decimal) : (decimal.coefficient : ℚ) ≤ 2 ^ 96 - 1 := by
  have fits : decimal.coefficient + 1 ≤ 2 ^ 96 := decimal.coefficient_lt
  rw [le_sub_iff_add_le]
  exact_mod_cast fits

theorem abs_value_le (decimal : Decimal) : |decimal.value| ≤ 2 ^ 96 - 1 := by
  rw [abs_value]
  exact (div_le_self (Nat.cast_nonneg _) (one_le_pow₀ (by norm_num))).trans decimal.coefficient_le

theorem of_parts_isSome (negative : Bool) {coefficient scale : Nat} :
    (ofParts? negative coefficient scale).isSome ↔ coefficient < 2 ^ 96 ∧ scale ≤ 28 := by
  unfold ofParts?
  split
  · rename_i fits
    exact iff_of_true rfl fits
  · rename_i fails
    exact iff_of_false (by simp) fails

theorem times_ten_isSome (decimal : Decimal) : decimal.timesTen?.isSome ↔ |decimal.value| * 10 ≤ 2 ^ 96 - 1 := by
  rw [abs_value]
  unfold timesTen?
  cases places : decimal.scale with
  | zero =>
      rw [of_parts_isSome, pow_zero, div_one, le_sub_iff_add_le]
      refine (and_iff_left (Nat.zero_le _)).trans (Nat.succ_le_iff.symm.trans ?_)
      rw [Nat.mul_comm]
      exact_mod_cast Iff.rfl
  | succ scale =>
      have fits := decimal.scale_le
      refine iff_of_true ((of_parts_isSome _).mpr ⟨decimal.coefficient_lt, by omega⟩) ?_
      have moved : (decimal.coefficient / 10 ^ (scale + 1) : ℚ) * 10 = decimal.coefficient / 10 ^ scale := by
        rw [pow_succ]
        field_simp
      rw [moved]
      exact (div_le_self (Nat.cast_nonneg _) (one_le_pow₀ (by norm_num))).trans decimal.coefficient_le

theorem raise_isSome (decimal : Decimal) (power : Nat) :
    (decimal.raise? power).isSome ↔ |decimal.value| * 10 ^ power ≤ 2 ^ 96 - 1 := by
  induction power generalizing decimal with
  | zero => exact iff_of_true rfl (by simpa using decimal.abs_value_le)
  | succ power ih =>
      have once := decimal.times_ten_isSome
      have split : |decimal.value| * 10 ^ (power + 1) = |decimal.value| * 10 * 10 ^ power := by ring
      unfold raise?
      cases product : decimal.timesTen? with
      | none =>
          rw [product] at once
          refine iff_of_false (by simp) fun below => ?_
          have least : |decimal.value| * 10 ≤ |decimal.value| * 10 * 10 ^ power :=
            le_mul_of_one_le_right (by positivity) (one_le_pow₀ (by norm_num))
          cases once.mpr (least.trans (split ▸ below))
      | some further =>
          rw [Option.bind_some, ih, times_ten_value product, abs_mul, split, mul_comm |decimal.value|]
          norm_num

theorem lower_isSome (decimal : Decimal) (power : Nat) : (decimal.lower? power).isSome ↔ decimal.scale + power ≤ 28 :=
  (of_parts_isSome _).trans (and_iff_right decimal.coefficient_lt)

-- The least decimal but zero has 28 places, so 57 powers of ten make it 29 digits long.
theorem raise_past_max {power : Nat} (some : decimal.coefficient ≠ 0) (past : maxPower < power) :
    decimal.raise? power = none := by
  rw [← Option.not_isSome_iff_eq_none, raise_isSome, not_le, abs_value]
  have one : (1 : ℚ) ≤ decimal.coefficient := by exact_mod_cast Nat.pos_of_ne_zero some
  have more : maxPower + 1 - 28 ≤ power - decimal.scale := by
    have fits := decimal.scale_le
    omega
  have within : decimal.scale ≤ power := by
    have fits := decimal.scale_le
    unfold maxPower at past
    omega
  calc (2 : ℚ) ^ 96 - 1 < 10 ^ (maxPower + 1 - 28) := by norm_num [maxPower]
    _ ≤ 10 ^ (power - decimal.scale) := pow_le_pow_right₀ (by norm_num) more
    _ = 1 / 10 ^ decimal.scale * 10 ^ power := by
      rw [pow_sub₀ _ (by norm_num) within]
      ring
    _ ≤ decimal.coefficient / 10 ^ decimal.scale * 10 ^ power := by gcongr

end Decimal

-- An integer of 96 bits over a power of ten of at most 28.
def Representable (value : ℚ) : Prop :=
  ∃ (coefficient : Int) (scale : Nat), |coefficient| < 2 ^ 96 ∧ scale ≤ 28 ∧ value = coefficient / 10 ^ scale

theorem Decimal.representable (decimal : Decimal) : Representable decimal.value := by
  have limit := decimal.coefficient_lt
  have fits : |(decimal.coefficient : Int)| < 2 ^ 96 := by
    rw [Nat.abs_cast]
    exact_mod_cast limit
  refine ⟨if decimal.negative then -decimal.coefficient else decimal.coefficient, decimal.scale, ?_, decimal.scale_le, ?_⟩
  · split
    · rwa [abs_neg]
    · exact fits
  · unfold value signOf
    split <;> simp

theorem representable_parts {value : ℚ} (represented : Representable value) :
    ∃ coefficient scale : Nat, coefficient < 2 ^ 96 ∧ scale ≤ 28 ∧ |value| = coefficient / 10 ^ scale := by
  obtain ⟨coefficient, scale, few, places, rfl⟩ := represented
  refine ⟨coefficient.natAbs, scale, ?_, places, ?_⟩
  · rw [Int.abs_eq_natAbs] at few
    exact_mod_cast few
  · rw [abs_div, abs_of_pos (by positivity : (0 : ℚ) < 10 ^ scale), Nat.cast_natAbs, Int.cast_abs]

theorem representable_le {value : ℚ} (represented : Representable value) : |value| ≤ 2 ^ 96 - 1 := by
  obtain ⟨coefficient, scale, few, -, same⟩ := representable_parts represented
  have most : (coefficient : ℚ) ≤ 2 ^ 96 - 1 := by
    rw [le_sub_iff_add_le]
    exact_mod_cast few
  rw [same]
  exact (div_le_self (Nat.cast_nonneg _) (one_le_pow₀ (by norm_num))).trans most

namespace Numeral

variable {numeral : Numeral} {mantissa decimal : Decimal}

def PowerFits (numeral : Numeral) : Prop := -2 ^ 31 ≤ numeral.power ∧ numeral.power < 2 ^ 31

theorem to_decimal_of_mantissa (fits : numeral.PowerFits)
    (read : Decimal.ofParts? numeral.negative numeral.coefficient numeral.places = some mantissa) :
    numeral.toDecimal? =
      if numeral.coefficient = 0 then some mantissa
      else match numeral.power with
        | .ofNat up => mantissa.raise? up
        | .negSucc down => mantissa.lower? (down + 1) := by
  have digits : mantissa.coefficient = numeral.coefficient := (Decimal.of_parts_value read).2.1
  have fits' : -(twoPow 31 : Int) ≤ numeral.power ∧ numeral.power < twoPow 31 := fits
  unfold toDecimal?
  rw [if_pos fits', read, Option.bind_some, digits]
  by_cases zero : numeral.coefficient = 0
  · rw [if_pos zero, if_pos zero]
  · rw [if_neg zero, if_neg zero]
    cases numeral.power with
    | negSucc down => rfl
    | ofNat up =>
        dsimp only
        split
        · rfl
        · rename_i past
          exact (Decimal.raise_past_max (digits ▸ zero) (Nat.lt_of_not_le past)).symm

theorem mantissa_of_to_decimal (read : numeral.toDecimal? = some decimal) :
    numeral.PowerFits ∧
      ∃ mantissa, Decimal.ofParts? numeral.negative numeral.coefficient numeral.places = some mantissa := by
  unfold toDecimal? at read
  split at read
  · rename_i fits
    obtain ⟨mantissa, parts, -⟩ := Option.bind_eq_some_iff.mp read
    exact ⟨fits, mantissa, parts⟩
  · cases read

theorem mantissa_abs_value (read : Decimal.ofParts? numeral.negative numeral.coefficient numeral.places = some mantissa) :
    |mantissa.value| * 10 ^ numeral.power = |numeral.value| := by
  obtain ⟨-, digits, scale⟩ := Decimal.of_parts_value read
  rw [Decimal.abs_value, abs_value, digits, scale, zpow_sub₀ (by norm_num), zpow_natCast]
  ring

section

variable (fits : numeral.PowerFits) (some : numeral.coefficient ≠ 0)
variable (read : Decimal.ofParts? numeral.negative numeral.coefficient numeral.places = .some mantissa)
include fits some read

theorem to_decimal_raised (raised : 0 ≤ numeral.power) : numeral.toDecimal?.isSome ↔ |numeral.value| ≤ 2 ^ 96 - 1 := by
  have whole := mantissa_abs_value read
  rw [to_decimal_of_mantissa fits read, if_neg some, ← whole]
  cases power : numeral.power with
  | negSucc down => exact absurd raised (by rw [power]; exact Int.not_le.mpr (Int.negSucc_lt_zero down))
  | ofNat up =>
      rw [Int.ofNat_eq_natCast, zpow_natCast]
      exact mantissa.raise_isSome up

theorem to_decimal_lowered (lowered : numeral.power < 0) :
    numeral.toDecimal?.isSome ↔ numeral.places + |numeral.power| ≤ 28 := by
  have scale : mantissa.scale = numeral.places := (Decimal.of_parts_value read).2.2
  rw [to_decimal_of_mantissa fits read, if_neg some, abs_of_neg lowered]
  cases power : numeral.power with
  | ofNat up => exact absurd lowered (by rw [power]; exact Int.not_lt.mpr (Int.natCast_nonneg up))
  | negSucc down =>
      refine (mantissa.lower_isSome (down + 1)).trans ?_
      rw [scale, Int.neg_negSucc]
      exact_mod_cast Iff.rfl

end

-- The digits as they are written stay within the limits of a decimal, with the places that a negative power of ten adds
-- to theirs.
structure FitsDecimal (numeral : Numeral) : Prop where
  power : numeral.PowerFits
  digits : numeral.coefficient < 2 ^ 96
  places : numeral.places ≤ 28
  lowered : numeral.coefficient ≠ 0 → numeral.power < 0 → numeral.places + |numeral.power| ≤ 28

theorem to_decimal_isSome : numeral.toDecimal?.isSome ↔ Representable numeral.value ∧ numeral.FitsDecimal := by
  constructor
  · intro found
    obtain ⟨decimal, read⟩ := Option.isSome_iff_exists.mp found
    obtain ⟨fits, mantissa, parts⟩ := mantissa_of_to_decimal read
    obtain ⟨digits, places⟩ := (Decimal.of_parts_isSome _).mp (Option.isSome_of_eq_some parts)
    refine ⟨to_decimal_value read ▸ decimal.representable, fits, digits, places, fun some lowered => ?_⟩
    exact (to_decimal_lowered fits some parts lowered).mp found
  · rintro ⟨represented, fits, digits, places, lowered⟩
    obtain ⟨mantissa, parts⟩ := Option.isSome_iff_exists.mp
      ((Decimal.of_parts_isSome numeral.negative).mpr ⟨digits, places⟩)
    by_cases zero : numeral.coefficient = 0
    · rw [to_decimal_of_mantissa fits parts, if_pos zero]
      rfl
    · rcases lt_or_ge numeral.power 0 with below | raised
      · exact (to_decimal_lowered fits zero parts below).mpr (lowered zero below)
      · exact (to_decimal_raised fits zero parts raised).mpr (representable_le represented)

-- The numeral with zeros added to its fraction.
def withZeros (zeros : Nat) (numeral : Numeral) : Numeral :=
  { numeral with fraction := some (numeral.fraction.getD [] ++ List.replicate zeros '0') }

theorem zeros_value (zeros : Nat) : digitsValue (List.replicate zeros '0') = 0 := by
  induction zeros with
  | zero => rfl
  | succ zeros ih =>
      rw [List.replicate_succ', digits_value_concat, ih]
      rfl

theorem with_zeros_coefficient (zeros : Nat) (numeral : Numeral) :
    (numeral.withZeros zeros).coefficient = numeral.coefficient * 10 ^ zeros := by
  have digits : (numeral.withZeros zeros).digits = numeral.digits ++ List.replicate zeros '0' :=
    (List.append_assoc _ _ _).symm
  rw [coefficient, digits, digits_value_append, zeros_value, List.length_replicate, Nat.add_zero, coefficient]

theorem with_zeros_places (zeros : Nat) (numeral : Numeral) :
    (numeral.withZeros zeros).places = numeral.places + zeros :=
  List.length_append.trans (congrArg _ List.length_replicate)

theorem with_zeros_value (zeros : Nat) (numeral : Numeral) : (numeral.withZeros zeros).value = numeral.value := by
  rw [value_eq, value_eq, with_zeros_coefficient, with_zeros_places]
  change signOf numeral.negative * _ * 10 ^ (numeral.power - _) = _
  rw [Nat.cast_add, ← sub_sub, zpow_sub₀ (by norm_num) _ (zeros : Int), zpow_natCast]
  push_cast
  field_simp

theorem fits_without_zeros {zeros : Nat} (fits : (numeral.withZeros zeros).FitsDecimal) : numeral.FitsDecimal := by
  have digits := fits.digits
  have places := fits.places
  have lowered := fits.lowered
  rw [with_zeros_coefficient] at digits lowered
  rw [with_zeros_places] at places lowered
  refine ⟨fits.power, (Nat.le_mul_of_pos_right _ (by positivity)).trans_lt digits, by omega, fun some below => ?_⟩
  have most : (numeral.places + zeros : Nat) + |numeral.power| ≤ 28 := lowered (by positivity) below
  omega

theorem last_digit (front : List Char) {digit : Char} (decimal : digit.isDigit) (other : digit ≠ '0') :
    digitsValue (front ++ [digit]) % 10 ≠ 0 := by
  have few := digit_value_lt decimal
  have some : digit.toNat ≠ '0'.toNat := fun same => other (Char.toNat_inj.mp same)
  simp only [Char.isDigit, Bool.and_eq_true, decide_eq_true_eq] at decimal
  have least : '0'.toNat ≤ digit.toNat := decimal.1
  rw [digits_value_concat]
  omega

theorem places_of_plain (written : numeral.Written) (last : ∀ digits ∈ numeral.fraction, digits.getLast? ≠ some '0')
    {coefficient scale : Nat} (same : numeral.coefficient * 10 ^ scale = coefficient * 10 ^ numeral.places) :
    numeral.places ≤ scale := by
  by_contra more
  obtain ⟨further, surplus⟩ := Nat.exists_eq_add_of_lt (Nat.lt_of_not_le more)
  have tens : numeral.coefficient = coefficient * 10 ^ further * 10 := by
    rw [surplus, Nat.add_assoc, Nat.add_comm scale, Nat.pow_add, ← Nat.mul_assoc] at same
    exact (Nat.eq_of_mul_eq_mul_right (Nat.pow_pos (by decide)) same).trans (by ring)
  cases found : numeral.fraction with
  | none =>
      rw [places, found] at more
      exact more (Nat.zero_le _)
  | some digits =>
      rcases List.eq_nil_or_concat digits with rfl | ⟨front, digit, rfl⟩
      · rw [places, found] at more
        exact more (Nat.zero_le _)
      · have decimal := written.fraction _ found digit (by simp)
        have other : digit ≠ '0' := fun zero => last _ found (by simp [zero])
        have digits : numeral.digits = numeral.whole ++ front ++ [digit] := by
          rw [Numeral.digits, found, List.append_assoc, ← List.concat_eq_append]
          rfl
        refine last_digit (numeral.whole ++ front) decimal other ?_
        rw [← digits, ← Numeral.coefficient, tens, Nat.mul_mod_left]

theorem fits_of_plain (written : numeral.Written) (plain : numeral.exponent = none)
    (last : ∀ digits ∈ numeral.fraction, digits.getLast? ≠ some '0') (represented : Representable numeral.value) :
    numeral.FitsDecimal := by
  obtain ⟨coefficient, scale, few, most, same⟩ := representable_parts represented
  have power : numeral.power = 0 := by
    rw [Numeral.power, plain]
    rfl
  have whole : numeral.coefficient * 10 ^ scale = coefficient * 10 ^ numeral.places := by
    rw [abs_value, power, zero_sub, zpow_neg, zpow_natCast, ← div_eq_mul_inv, div_eq_div_iff (by positivity) (by positivity)] at same
    exact_mod_cast same
  have within := places_of_plain written last whole
  refine ⟨?_, ?_, within.trans most, fun _ below => absurd below (by rw [power]; decide)⟩
  · rw [PowerFits, power]
    decide
  · calc numeral.coefficient ≤ numeral.coefficient * 10 ^ (scale - numeral.places) := Nat.le_mul_of_pos_right _ (by positivity)
      _ = coefficient := by
        rw [← Nat.sub_add_cancel within, Nat.pow_add, ← Nat.mul_assoc] at whole
        exact Nat.eq_of_mul_eq_mul_right (by positivity) whole
      _ < 2 ^ 96 := few

end Numeral

-- Where the digits fit a decimal, so that they can be read at the places they have, the number is read exactly or not at
-- all: zero always, with a power of ten up to the greatest decimal, over one as far as the places go.
theorem numerals_as_decimals {numeral : Numeral} {mantissa : Decimal} (fits : numeral.PowerFits)
    (read : Decimal.ofParts? numeral.negative numeral.coefficient numeral.places = some mantissa) :
    (∀ decimal, numeral.toDecimal? = some decimal →
      decimal.value = signOf numeral.negative * numeral.coefficient * 10 ^ (numeral.power - numeral.places)) ∧
    (numeral.coefficient = 0 → numeral.toDecimal?.isSome) ∧
    (numeral.coefficient ≠ 0 → 0 ≤ numeral.power →
      (numeral.toDecimal?.isSome ↔ (numeral.coefficient * 10 ^ (numeral.power - numeral.places) : ℚ) ≤ 2 ^ 96 - 1) ∧
        ∀ power > Decimal.maxPower, mantissa.raise? power = none) ∧
    (numeral.coefficient ≠ 0 → numeral.power < 0 →
      (numeral.toDecimal?.isSome ↔ numeral.places + |numeral.power| ≤ 28)) := by
  refine ⟨fun decimal found => ?_, fun zero => ?_, fun some raised => ⟨?_, fun power past => ?_⟩, fun some lowered => ?_⟩
  · rw [Numeral.to_decimal_value found, Numeral.value_eq]
  · rw [Numeral.to_decimal_of_mantissa fits read, if_pos zero]
    rfl
  · rw [← Numeral.abs_value]
    exact Numeral.to_decimal_raised fits some read raised
  · have digits : mantissa.coefficient = numeral.coefficient := (Decimal.of_parts_value read).2.1
    exact Decimal.raise_past_max (digits ▸ some) past
  · exact Numeral.to_decimal_lowered fits some read lowered

-- The greatest decimal with all of its digits behind the point, and the least one that is read with a negative power of
-- the digits 150.
theorem decimals_at_the_limits :
    let great : Numeral := ⟨true, ['7'], some "9228162514264337593543950335".toList, some ⟨'e', some '+', ['2', '8']⟩⟩
    let past : Numeral := { great with exponent := some ⟨'e', some '+', ['2', '9']⟩ }
    let small : Numeral := ⟨false, ['1', '5'], some ['0'], some ⟨'E', some '-', ['2', '7']⟩⟩
    let least : Numeral := { small with exponent := some ⟨'E', some '-', ['2', '8']⟩ }
    great.PowerFits ∧ past.PowerFits ∧ small.PowerFits ∧ least.PowerFits ∧
      (∃ mantissa, Decimal.ofParts? great.negative great.coefficient great.places = some mantissa) ∧
      (∃ mantissa, Decimal.ofParts? small.negative small.coefficient small.places = some mantissa) ∧
      great.toDecimal?.isSome ∧ ¬ past.toDecimal?.isSome ∧ small.toDecimal?.isSome ∧ ¬ least.toDecimal?.isSome := by
  intro great past small least
  have digits : Decimal.ofParts? great.negative great.coefficient great.places = some ⟨true, 2 ^ 96 - 1, 28, by decide, by decide⟩ :=
    rfl
  have digits' : Decimal.ofParts? small.negative small.coefficient small.places = some ⟨false, 150, 1, by decide, by decide⟩ :=
    rfl
  have whole : (great.coefficient : ℚ) = 2 ^ 96 - 1 := by
    rw [show great.coefficient = 2 ^ 96 - 1 by decide]
    norm_num
  have powers : great.PowerFits ∧ past.PowerFits ∧ small.PowerFits ∧ least.PowerFits := by
    refine ⟨?_, ?_, ?_, ?_⟩ <;> exact ⟨by decide, by decide⟩
  obtain ⟨fits, fits', few, few'⟩ := powers
  have exact := ((numerals_as_decimals fits digits).2.2.1 (by decide) (by decide)).1
  have exact' := ((numerals_as_decimals fits' digits).2.2.1 (by decide) (by decide)).1
  have places := (numerals_as_decimals few digits').2.2.2 (by decide) (by decide)
  have places' := (numerals_as_decimals few' digits').2.2.2 (by decide) (by decide)
  rw [whole, show great.power - great.places = 0 by decide, zpow_zero, mul_one] at exact
  rw [show past.coefficient = great.coefficient from rfl, whole, show past.power - past.places = 1 by decide] at exact'
  exact ⟨fits, fits', few, few', ⟨_, digits⟩, ⟨_, digits'⟩, exact.mpr le_rfl, fun found => absurd (exact'.mp found) (by norm_num),
    places.mpr (by decide), fun found => absurd (places'.mp found) (by decide)⟩

end QueryOptions
