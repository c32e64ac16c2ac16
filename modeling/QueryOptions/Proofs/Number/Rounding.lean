import Mathlib.Algebra.Order.Field.Power
import Mathlib.Data.Rat.Cast.Order
import Mathlib.Tactic.FieldSimp
import Mathlib.Tactic.GCongr
import Mathlib.Tactic.NormNum
import Mathlib.Tactic.Positivity
import Mathlib.Tactic.Ring
import QueryOptions.Number.Binary

set_option autoImplicit false

namespace QueryOptions

theorem two_pow_eq (exponent : Nat) : twoPow exponent = 2 ^ exponent := rfl

variable {numerator denominator most : Nat}

-- A fraction over a power of two, which may be less than one.
def scaled (exponent : Int) (numerator denominator : Nat) : Nat × Nat :=
  match exponent with
  | .ofNat up => (numerator, denominator * 2 ^ up)
  | .negSucc down => (numerator * 2 ^ (down + 1), denominator)

theorem scaled_pos (exponent : Int) (numerator : Nat) (positive : 0 < denominator) : 0 < (scaled exponent numerator denominator).2 := by
  cases exponent with
  | ofNat up => exact Nat.mul_pos positive (Nat.two_pow_pos up)
  | negSucc down => exact positive

theorem scaled_value (exponent : Int) (numerator denominator : Nat) :
    ((scaled exponent numerator denominator).1 : ℚ) / (scaled exponent numerator denominator).2 =
      numerator / denominator / 2 ^ exponent := by
  cases exponent with
  | ofNat up =>
      simp only [scaled, Int.ofNat_eq_natCast, zpow_natCast]
      push_cast
      rw [div_div]
  | negSucc down =>
      simp only [scaled, zpow_negSucc]
      push_cast
      rw [div_inv_eq_mul, div_mul_eq_mul_div]

theorem scaled_reaches (exponent : Int) (numerator : Nat) (positive : 0 < denominator) :
    (scaled exponent numerator denominator).2 ≤ (scaled exponent numerator denominator).1 ↔
      (2 : ℚ) ^ exponent ≤ numerator / denominator := by
  have below : (0 : ℚ) < (scaled exponent numerator denominator).2 := Nat.cast_pos.mpr (scaled_pos exponent numerator positive)
  rw [← one_le_div₀ (zpow_pos (by norm_num : (0 : ℚ) < 2) exponent), ← scaled_value, one_le_div₀ below, Nat.cast_le]

theorem floor_log2_eq (numerator denominator : Nat) :
    let estimate : Int := (numerator.log2 : Int) - denominator.log2
    floorLog2 numerator denominator =
      if (scaled estimate numerator denominator).2 ≤ (scaled estimate numerator denominator).1 then estimate
      else estimate - 1 := by
  unfold floorLog2
  dsimp only
  cases (numerator.log2 : Int) - denominator.log2 <;> exact if_congr decide_eq_true_iff rfl rfl

theorem floor_log2_bounds (some : 0 < numerator) (positive : 0 < denominator) :
    (2 : ℚ) ^ floorLog2 numerator denominator ≤ numerator / denominator ∧
      (numerator : ℚ) / denominator < 2 ^ (floorLog2 numerator denominator + 1) := by
  have least : (2 : ℚ) ^ numerator.log2 ≤ numerator := by exact_mod_cast Nat.log2_self_le some.ne'
  have above : (numerator : ℚ) < 2 ^ (numerator.log2 + 1) := by exact_mod_cast Nat.lt_log2_self
  have least' : (2 : ℚ) ^ denominator.log2 ≤ denominator := by exact_mod_cast Nat.log2_self_le positive.ne'
  have above' : (denominator : ℚ) < 2 ^ (denominator.log2 + 1) := by exact_mod_cast Nat.lt_log2_self
  have positive' : (0 : ℚ) < denominator := Nat.cast_pos.mpr positive
  have reaches := scaled_reaches ((numerator.log2 : Int) - denominator.log2) numerator positive
  rw [floor_log2_eq]
  generalize same : (numerator.log2 : Int) - denominator.log2 = estimate at reaches ⊢
  by_cases reached : (scaled estimate numerator denominator).2 ≤ (scaled estimate numerator denominator).1
  · rw [if_pos reached]
    refine ⟨reaches.mp reached, (div_lt_iff₀ positive').mpr ?_⟩
    calc (numerator : ℚ) < 2 ^ (numerator.log2 + 1) := above
      _ = 2 ^ (estimate + 1) * 2 ^ denominator.log2 := by
        rw [← zpow_natCast, ← zpow_natCast, ← zpow_add₀ two_ne_zero]
        congr 1
        omega
      _ ≤ 2 ^ (estimate + 1) * denominator := by gcongr
  · rw [if_neg reached, sub_add_cancel]
    refine ⟨(le_div_iff₀ positive').mpr ?_, lt_of_not_ge fun reaches' => reached (reaches.mpr reaches')⟩
    calc (2 : ℚ) ^ (estimate - 1) * denominator ≤ 2 ^ (estimate - 1) * 2 ^ (denominator.log2 + 1) := by gcongr
      _ = 2 ^ numerator.log2 := by
        rw [← zpow_natCast, ← zpow_natCast, ← zpow_add₀ two_ne_zero]
        congr 1
        omega
      _ ≤ numerator := least

theorem half_even_le_iff (positive : 0 < denominator) (odd : most % 2 = 1) :
    divHalfEven numerator denominator ≤ most ↔ 2 * numerator < (2 * most + 1) * denominator := by
  have split := Nat.div_add_mod numerator denominator
  have part := Nat.mod_lt numerator positive
  have twice : (2 * most + 1) * denominator = 2 * (denominator * most) + denominator := by ring
  unfold divHalfEven
  dsimp only
  generalize numerator / denominator = quotient at split ⊢
  generalize numerator % denominator = left at split part ⊢
  rw [twice]
  rcases Nat.lt_trichotomy quotient most with less | rfl | more
  · have products := Nat.mul_le_mul_left denominator (Nat.succ_le_of_lt less)
    rw [Nat.mul_succ] at products
    split <;> omega
  · split <;> omega
  · have products := Nat.mul_le_mul_left denominator (Nat.succ_le_of_lt more)
    rw [Nat.mul_succ] at products
    split <;> omega

theorem half_even_le (positive : 0 < denominator) (less : numerator < most * denominator) :
    divHalfEven numerator denominator ≤ most := by
  have quotient : numerator / denominator < most := (Nat.div_lt_iff_lt_mul positive).mpr less
  unfold divHalfEven
  dsimp only
  split <;> omega

theorem half_even_bounds (numerator : Nat) (positive : 0 < denominator) :
    let rounded := divHalfEven numerator denominator
    2 * (rounded * denominator) ≤ 2 * numerator + denominator ∧ 2 * numerator ≤ 2 * (rounded * denominator) + denominator ∧
      (2 * (rounded * denominator) = 2 * numerator + denominator ∨ 2 * numerator = 2 * (rounded * denominator) + denominator →
        rounded % 2 = 0) := by
  have split := Nat.div_add_mod numerator denominator
  have part := Nat.mod_lt numerator positive
  unfold divHalfEven
  dsimp only
  rw [Nat.mul_comm denominator] at split
  generalize numerator / denominator = quotient at split ⊢
  generalize numerator % denominator = left at split part ⊢
  split
  · omega
  · simp only [Nat.add_one_mul]
    omega

namespace BinaryFormat

variable {format : BinaryFormat}

theorem overflow_bound_cast (format : BinaryFormat) :
    (format.overflowBound : ℚ) = 2 ^ (format.precision + format.maxExponent) - 2 ^ (format.maxExponent - 1) := by
  have less : 2 ^ (format.maxExponent - 1) ≤ 2 ^ (format.precision + format.maxExponent) :=
    Nat.pow_le_pow_right (by decide) (by omega)
  rw [overflowBound, two_pow_eq, two_pow_eq, Nat.cast_sub less]
  push_cast
  rfl

theorem single_bound : (single.overflowBound : ℚ) = 2 ^ 128 - 2 ^ 103 := overflow_bound_cast single

theorem double_bound : (double.overflowBound : ℚ) = 2 ^ 1024 - 2 ^ 970 := overflow_bound_cast double

theorem overflow_bound_pos (format : BinaryFormat) (precise : 0 < format.precision) : 0 < format.overflowBound :=
  Nat.sub_pos_of_lt (Nat.pow_lt_pow_right (by decide) (by omega))

theorem nearest_eq (format : BinaryFormat) (numerator denominator : Nat) :
    let exponent := max format.minExponent (floorLog2 numerator denominator - (format.precision - 1))
    let fraction := scaled exponent numerator denominator
    format.nearest numerator denominator =
      if divHalfEven fraction.1 fraction.2 = 2 ^ format.precision then ⟨2 ^ (format.precision - 1), exponent + 1⟩
      else ⟨divHalfEven fraction.1 fraction.2, exponent⟩ := by
  unfold nearest
  dsimp only
  cases max format.minExponent (floorLog2 numerator denominator - (format.precision - 1)) <;> rfl

theorem nearest_exponent (format : BinaryFormat) (numerator denominator : Nat) :
    let exponent := max format.minExponent (floorLog2 numerator denominator - (format.precision - 1))
    let fraction := scaled exponent numerator denominator
    (format.nearest numerator denominator).exponent =
      if divHalfEven fraction.1 fraction.2 = 2 ^ format.precision then exponent + 1 else exponent := by
  dsimp only
  rw [nearest_eq]
  exact apply_ite BinaryFloat.exponent _ _ _

-- The significand is rounded up to the next power of two from half a unit below that on. Half a unit itself goes there
-- because the significand below is odd.
theorem carries_iff (precise : 0 < format.precision) {exponent : Int} (positive : 0 < denominator)
    (above : (numerator : ℚ) / denominator < 2 ^ (exponent + format.precision)) :
    let fraction := scaled exponent numerator denominator
    divHalfEven fraction.1 fraction.2 = 2 ^ format.precision ↔
      (2 : ℚ) ^ (exponent + format.precision) - 2 ^ (exponent - 1) ≤ numerator / denominator := by
  have value := scaled_value exponent numerator denominator
  have positive' := scaled_pos exponent numerator positive
  dsimp only
  generalize (scaled exponent numerator denominator).1 = upper at value ⊢
  generalize (scaled exponent numerator denominator).2 = lower at value positive' ⊢
  have unit : (0 : ℚ) < 2 ^ exponent := zpow_pos (by norm_num) exponent
  have lower_pos : (0 : ℚ) < lower := Nat.cast_pos.mpr positive'
  have whole : (numerator : ℚ) / denominator = upper / lower * 2 ^ exponent := by
    rw [value, div_mul_cancel₀ _ unit.ne']
  have small : upper < 2 ^ format.precision * lower := by
    rw [whole, add_comm, zpow_add₀ two_ne_zero, mul_lt_mul_iff_of_pos_right unit, div_lt_iff₀ lower_pos, zpow_natCast] at above
    exact_mod_cast above
  have bounded := half_even_le positive' small
  have top : 0 < 2 ^ format.precision := Nat.two_pow_pos format.precision
  have odd : (2 ^ format.precision - 1) % 2 = 1 := by
    have even : 2 ^ format.precision % 2 = 0 := Nat.two_pow_mod_two_eq_zero.mpr precise
    omega
  have least : divHalfEven upper lower = 2 ^ format.precision ↔ ¬ divHalfEven upper lower ≤ 2 ^ format.precision - 1 := by omega
  have half : (2 : ℚ) ^ (exponent + format.precision) - 2 ^ (exponent - 1) =
      (2 * 2 ^ format.precision - 1) / 2 * 2 ^ exponent := by
    rw [zpow_add₀ two_ne_zero, zpow_sub_one₀ two_ne_zero, zpow_natCast]
    ring
  have units : ((2 * (2 ^ format.precision - 1) + 1 : Nat) : ℚ) = 2 * 2 ^ format.precision - 1 := by
    rw [Nat.cast_add, Nat.cast_mul, Nat.cast_sub top]
    push_cast
    ring
  rw [least, half_even_le_iff positive' odd, not_lt, half, whole, mul_le_mul_iff_of_pos_right unit,
    div_le_div_iff₀ two_pos lower_pos, ← units, mul_comm (upper : ℚ)]
  exact_mod_cast Iff.rfl

theorem nearest_within_iff (precise : 0 < format.precision) (ascending : format.minExponent ≤ format.maxExponent)
    (raised : 0 < format.maxExponent) (some : 0 < numerator) (positive : 0 < denominator) :
    (format.nearest numerator denominator).exponent ≤ format.maxExponent ↔
      (numerator : ℚ) / denominator < format.overflowBound := by
  have bound : (format.overflowBound : ℚ) =
      2 ^ (format.maxExponent + format.precision : Int) - 2 ^ (format.maxExponent - 1 : Int) := by
    rw [overflow_bound_cast, ← zpow_natCast, ← zpow_natCast]
    congr 2 <;> omega
  rw [bound]
  have nearest := format.nearest_exponent numerator denominator
  obtain ⟨least, above⟩ := floor_log2_bounds some positive
  generalize floorLog2 numerator denominator = power at nearest least above
  dsimp only at nearest
  generalize same : max format.minExponent (power - (format.precision - 1)) = exponent at nearest
  have below : (numerator : ℚ) / denominator < 2 ^ (exponent + format.precision) :=
    above.trans_le (zpow_le_zpow_right₀ (by norm_num) (by omega))
  have carries := carries_iff precise positive below
  dsimp only at carries
  rcases lt_trichotomy exponent format.maxExponent with less | rfl | more
  · have result : (format.nearest numerator denominator).exponent ≤ format.maxExponent := by
      rw [nearest]
      split <;> omega
    refine iff_of_true result (below.trans_le (le_sub_iff_add_le.mpr ?_))
    calc (2 : ℚ) ^ (exponent + format.precision) + 2 ^ (format.maxExponent - 1 : Int) ≤
          2 ^ (format.maxExponent + format.precision - 1 : Int) + 2 ^ (format.maxExponent + format.precision - 1 : Int) :=
        add_le_add (zpow_le_zpow_right₀ (by norm_num) (by omega)) (zpow_le_zpow_right₀ (by norm_num) (by omega))
      _ = 2 ^ (format.maxExponent + format.precision : Int) := by
        rw [← two_mul, ← zpow_one_add₀ two_ne_zero]
        congr 1
        omega
  · rw [nearest, ← not_le, ← carries]
    split
    · rename_i carry
      exact iff_of_false (by omega) (not_not.mpr carry)
    · rename_i same
      exact iff_of_true le_rfl same
  · have result : ¬ (format.nearest numerator denominator).exponent ≤ format.maxExponent := by
      rw [nearest]
      split <;> omega
    refine iff_of_false result (not_lt.mpr ?_)
    calc (2 : ℚ) ^ (format.maxExponent + format.precision : Int) - 2 ^ (format.maxExponent - 1 : Int) ≤
          2 ^ (format.maxExponent + format.precision : Int) := sub_le_self _ (by positivity)
      _ ≤ 2 ^ power := zpow_le_zpow_right₀ (by norm_num) (by omega)
      _ ≤ numerator / denominator := least

end BinaryFormat

end QueryOptions
