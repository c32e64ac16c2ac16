import QueryOptions.Proofs.Number.Rounding
import QueryOptions.Proofs.Token.Number

set_option autoImplicit false

namespace QueryOptions

theorem ten_pow_eq (exponent : Nat) : tenPow exponent = 10 ^ exponent := rfl

theorem digits_value_concat (digits : List Char) (digit : Char) :
    digitsValue (digits ++ [digit]) = 10 * digitsValue digits + (digit.toNat - '0'.toNat) := by
  simp [digitsValue]

theorem digits_value_append (front back : List Char) :
    digitsValue (front ++ back) = digitsValue front * 10 ^ back.length + digitsValue back := by
  induction back using List.reverseRecOn with
  | nil => simp [digitsValue]
  | append_singleton back digit ih =>
      rw [← List.append_assoc, digits_value_concat, ih, digits_value_concat, List.length_append, List.length_singleton]
      ring

theorem digit_value_lt {digit : Char} (decimal : digit.isDigit) : digit.toNat - '0'.toNat < 10 := by
  simp only [Char.isDigit, Bool.and_eq_true, decide_eq_true_eq] at decimal
  have least : digit.toNat ≤ 57 := decimal.2
  have zero : '0'.toNat = 48 := rfl
  omega

theorem digits_value_lt {digits : List Char} (all : ∀ c ∈ digits, c.isDigit) : digitsValue digits < 10 ^ digits.length := by
  induction digits using List.reverseRecOn with
  | nil => decide
  | append_singleton digits digit ih =>
      obtain ⟨front, last⟩ := List.forall_mem_append.mp all
      have less := digit_value_lt (last digit List.mem_cons_self)
      have few := ih front
      rw [digits_value_concat, List.length_append, List.length_singleton, Nat.pow_succ]
      omega

def signOf (negative : Bool) : ℚ := if negative then -1 else 1

@[simp]
theorem abs_sign_of (negative : Bool) : |signOf negative| = 1 := by cases negative <;> simp [signOf]

namespace Numeral

def value (numeral : Numeral) : ℚ :=
  signOf numeral.negative *
    (digitsValue numeral.whole + digitsValue (numeral.fraction.getD []) / 10 ^ numeral.places) * 10 ^ numeral.power

variable {numeral : Numeral}

theorem value_eq (numeral : Numeral) :
    numeral.value = signOf numeral.negative * numeral.coefficient * 10 ^ (numeral.power - numeral.places) := by
  have digits : (numeral.coefficient : ℚ) =
      digitsValue numeral.whole * 10 ^ numeral.places + digitsValue (numeral.fraction.getD []) := by
    rw [coefficient, Numeral.digits, digits_value_append, places]
    push_cast
    rfl
  rw [value, digits, zpow_sub₀ (by norm_num), zpow_natCast]
  field_simp

theorem abs_value (numeral : Numeral) : |numeral.value| = numeral.coefficient * 10 ^ (numeral.power - numeral.places) := by
  have positive : (0 : ℚ) < 10 ^ (numeral.power - numeral.places) := zpow_pos (by norm_num) _
  rw [value_eq, abs_mul, abs_mul, abs_sign_of, one_mul, Nat.abs_cast, abs_of_pos positive]

theorem value_integral (integral : numeral.isIntegral) : numeral.value = numeral.toInt := by
  simp only [isIntegral, Bool.and_eq_true, Option.isNone_iff_eq_none] at integral
  rw [value_eq, power, places, integral.1, integral.2, toInt]
  cases numeral.negative <;> simp [signOf]

theorem digits_decimal (written : numeral.Written) : ∀ c ∈ numeral.digits, c.isDigit := by
  refine List.forall_mem_append.mpr ⟨written.whole, ?_⟩
  cases found : numeral.fraction with
  | none => exact List.forall_mem_nil _
  | some digits => exact written.fraction digits found

theorem abs_below_iff (written : numeral.Written) {bound : Nat} (positive : 0 < bound) :
    numeral.absBelow bound ↔ |numeral.value| < bound := by
  rw [abs_value, absBelow]
  cases power : numeral.power - numeral.places with
  | ofNat up =>
      have whole : (numeral.coefficient * 10 ^ Int.ofNat up : ℚ) = ((numeral.coefficient * 10 ^ up : Nat) : ℚ) := by
        push_cast
        rw [Int.ofNat_eq_natCast, zpow_natCast]
      rw [whole, Nat.cast_lt]
      simp only [Bool.or_eq_true, beq_iff_eq, Bool.and_eq_true, decide_eq_true_eq]
      rw [ten_pow_eq]
      by_cases zero : numeral.coefficient = 0
      · simp [zero, positive]
      · refine ⟨fun below => (below.resolve_left zero).2, fun below => .inr ⟨?_, below⟩⟩
        rw [Nat.le_log2 positive.ne']
        calc 2 ^ up ≤ 10 ^ up := Nat.pow_le_pow_left (by decide) up
          _ ≤ numeral.coefficient * 10 ^ up := Nat.le_mul_of_pos_left _ (Nat.pos_of_ne_zero zero)
          _ ≤ bound := below.le
  | negSucc down =>
      have part : (numeral.coefficient * 10 ^ Int.negSucc down : ℚ) = numeral.coefficient / ((10 ^ (down + 1) : Nat) : ℚ) := by
        push_cast
        rw [zpow_negSucc, div_eq_mul_inv]
      rw [part, div_lt_iff₀ (by positivity), ← Nat.cast_mul, Nat.cast_lt]
      simp only [Bool.or_eq_true, decide_eq_true_eq]
      rw [ten_pow_eq]
      refine or_iff_right_of_imp fun short => ?_
      calc numeral.coefficient < 10 ^ numeral.digits.length := digits_value_lt (digits_decimal written)
        _ ≤ 10 ^ (down + 1) := Nat.pow_le_pow_right (by decide) short
        _ ≤ bound * 10 ^ (down + 1) := Nat.le_mul_of_pos_left _ positive

def StaysWithin (format : BinaryFormat) (numeral : Numeral) : Prop :=
  ∀ numerator denominator : Nat, 0 < numerator → 0 < denominator → |numeral.value| = numerator / denominator →
    (format.nearest numerator denominator).exponent ≤ format.maxExponent

variable {format : BinaryFormat}

theorem finite_iff (written : numeral.Written) (precise : 0 < format.precision) :
    numeral.isFinite format ↔ |numeral.value| < format.overflowBound :=
  abs_below_iff written (format.overflow_bound_pos precise)

theorem stays_within_iff (precise : 0 < format.precision) (ascending : format.minExponent ≤ format.maxExponent)
    (raised : 0 < format.maxExponent) : numeral.StaysWithin format ↔ |numeral.value| < format.overflowBound := by
  refine ⟨fun within => ?_, fun below numerator denominator some positive same => ?_⟩
  · by_cases zero : numeral.value = 0
    · simpa [zero] using format.overflow_bound_pos precise
    · have some : 0 < |numeral.value|.num := Rat.num_pos.mpr (abs_pos.mpr zero)
      have same : |numeral.value| = (|numeral.value|.num.natAbs : Nat) / (|numeral.value|.den : Nat) := by
        rw [Nat.cast_natAbs, abs_of_pos some, Rat.num_div_den]
      have rounded := within _ _ (Int.natAbs_pos.mpr some.ne') |numeral.value|.den_pos same
      rwa [BinaryFormat.nearest_within_iff precise ascending raised (Int.natAbs_pos.mpr some.ne') (Rat.den_pos _),
        ← same] at rounded
  · rw [BinaryFormat.nearest_within_iff precise ascending raised some positive, ← same]
    exact below

theorem fits_signed_iff (integral : numeral.isIntegral) (bits : Nat) :
    numeral.fitsSigned bits ↔ -2 ^ (bits - 1) ≤ numeral.value ∧ numeral.value < 2 ^ (bits - 1) := by
  rw [value_integral integral, fitsSigned, Bool.and_eq_true, decide_eq_true_eq, decide_eq_true_eq, two_pow_eq]
  norm_cast

end Numeral

namespace Decimal

def value (decimal : Decimal) : ℚ :=
  signOf decimal.negative * decimal.coefficient / 10 ^ decimal.scale

variable {decimal decimal' : Decimal}

theorem abs_value (decimal : Decimal) : |decimal.value| = decimal.coefficient / 10 ^ decimal.scale := by
  rw [value, abs_div, abs_mul, abs_sign_of, one_mul, Nat.abs_cast, abs_of_pos (by positivity : (0 : ℚ) < 10 ^ decimal.scale)]

theorem abs_value_lt (decimal : Decimal) : |decimal.value| < 2 ^ 96 := by
  have fits : (decimal.coefficient : ℚ) < 2 ^ 96 := by exact_mod_cast decimal.coefficient_lt
  rw [abs_value]
  exact (div_le_self (by positivity) (one_le_pow₀ (by norm_num))).trans_lt fits

theorem of_parts_value {negative : Bool} {coefficient scale : Nat} (read : ofParts? negative coefficient scale = some decimal) :
    decimal.negative = negative ∧ decimal.coefficient = coefficient ∧ decimal.scale = scale := by
  unfold ofParts? at read
  split at read <;> cases read
  exact ⟨rfl, rfl, rfl⟩

theorem times_ten_value (read : decimal.timesTen? = some decimal') : decimal'.value = 10 * decimal.value := by
  unfold timesTen? at read
  split at read
  · rename_i none
    obtain ⟨negative, digits, scale⟩ := of_parts_value read
    rw [value, value, negative, digits, scale, none]
    push_cast
    ring
  · rename_i scale more
    obtain ⟨negative, digits, scale⟩ := of_parts_value read
    rw [value, value, negative, digits, scale, more, pow_succ]
    field_simp

theorem raise_value {power : Nat} (read : decimal.raise? power = some decimal') :
    decimal'.value = decimal.value * 10 ^ power := by
  induction power generalizing decimal with
  | zero =>
      cases read
      simp
  | succ power ih =>
      obtain ⟨further, once, others⟩ := Option.bind_eq_some_iff.mp read
      rw [ih others, times_ten_value once]
      ring

theorem lower_value {power : Nat} (read : decimal.lower? power = some decimal') :
    decimal'.value = decimal.value / 10 ^ power := by
  obtain ⟨negative, digits, scale⟩ := of_parts_value read
  rw [value, value, negative, digits, scale, pow_add]
  field_simp

end Decimal

theorem Numeral.to_decimal_value {numeral : Numeral} {decimal : Decimal} (read : numeral.toDecimal? = some decimal) :
    decimal.value = numeral.value := by
  unfold toDecimal? at read
  split at read
  · obtain ⟨mantissa, parts, moved⟩ := Option.bind_eq_some_iff.mp read
    obtain ⟨negative, digits, scale⟩ := Decimal.of_parts_value parts
    have whole : numeral.value = mantissa.value * 10 ^ numeral.power := by
      rw [value_eq, Decimal.value, negative, digits, scale, zpow_sub₀ (by norm_num), zpow_natCast]
      ring
    rw [whole]
    split at moved
    · rename_i zero
      cases moved
      simp [Decimal.value, zero]
    · split at moved
      · rename_i up power
        split at moved
        · rw [Decimal.raise_value moved, power, Int.ofNat_eq_natCast, zpow_natCast]
        · cases moved
      · rename_i down power
        rw [Decimal.lower_value moved, power, zpow_negSucc, div_eq_mul_inv]
  · cases read

end QueryOptions
