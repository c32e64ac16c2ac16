import Mathlib.Tactic.Linarith
import QueryOptions.Number.Shortest
import QueryOptions.Proofs.Number.Rounding

set_option autoImplicit false

namespace QueryOptions

namespace BinaryFloat

def value (float : BinaryFloat) : ℚ := float.significand * 2 ^ float.exponent

end BinaryFloat

namespace BinaryFormat

-- The floats of a format, and those past its greatest exponent. All bits are used but by those of the least one.
structure Holds (format : BinaryFormat) (float : BinaryFloat) : Prop where
  few : float.significand < 2 ^ format.precision
  least : format.minExponent ≤ float.exponent
  full : format.minExponent < float.exponent → 2 ^ (format.precision - 1) ≤ float.significand

-- No float is nearer to the number than the one it rounds to, and if another is as near that one is even.
structure Rounds (format : BinaryFormat) (x : ℚ) (float : BinaryFloat) : Prop where
  holds : format.Holds float
  near : ∀ other, format.Holds other → |x - float.value| ≤ |x - other.value|
  tie : ∀ other, format.Holds other → |x - float.value| = |x - other.value| → other = float ∨ float.significand % 2 = 0

def Narrow (format : BinaryFormat) (float : BinaryFloat) : Prop :=
  float.significand = 2 ^ (format.precision - 1) ∧ format.minExponent < float.exponent

instance (format : BinaryFormat) (float : BinaryFloat) : Decidable (format.Narrow float) :=
  inferInstanceAs (Decidable (_ ∧ _))

def above (float : BinaryFloat) : ℚ := 2 ^ (float.exponent - 1)

def below (format : BinaryFormat) (float : BinaryFloat) : ℚ :=
  if format.Narrow float then 2 ^ (float.exponent - 2) else 2 ^ (float.exponent - 1)

variable {format : BinaryFormat} {float other : BinaryFloat} {x : ℚ}

theorem two_above (float : BinaryFloat) : 2 * above float = 2 ^ float.exponent := by
  rw [above, ← zpow_one_add₀ two_ne_zero]
  congr 1
  omega

theorem two_pow_pred (precise : 0 < format.precision) : 2 ^ format.precision = 2 * 2 ^ (format.precision - 1) := by
  rw [← Nat.pow_succ']
  congr 1
  omega

theorem above_pos (float : BinaryFloat) : 0 < above float := zpow_pos two_pos _

theorem below_pos (format : BinaryFormat) (float : BinaryFloat) : 0 < format.below float := by
  unfold below
  split <;> exact zpow_pos two_pos _

-- A float of a higher exponent is a multiple of the unit of a lower one.
theorem value_at_lower {exponent : Int} (lower : exponent ≤ float.exponent) :
    ∃ units : Nat, float.value = units * 2 ^ exponent := by
  obtain ⟨up, raised⟩ := Int.le.dest lower
  refine ⟨float.significand * 2 ^ up, ?_⟩
  rw [BinaryFloat.value, ← raised, zpow_add₀ two_ne_zero, zpow_natCast]
  push_cast
  ring

theorem value_below (holds : format.Holds float) (held : format.Holds other) (precise : 0 < format.precision)
    (lower : other.exponent < float.exponent) : other.value + above float ≤ 2 ^ (format.precision - 1) * 2 ^ float.exponent ∧
      2 ^ (format.precision - 1) * 2 ^ float.exponent ≤ float.value := by
  constructor
  · have digits : (other.significand : ℚ) + 1 ≤ 2 ^ format.precision := by exact_mod_cast held.few
    have unit : (2 : ℚ) ^ other.exponent ≤ above float := zpow_le_zpow_right₀ (by norm_num) (by omega)
    have bits : (2 : ℚ) ^ format.precision = 2 * 2 ^ (format.precision - 1) := by exact_mod_cast two_pow_pred precise
    calc other.value + above float ≤ other.significand * above float + above float := by
          gcongr
          exact mul_le_mul_of_nonneg_left unit (Nat.cast_nonneg _)
      _ = (other.significand + 1) * above float := by ring
      _ ≤ 2 ^ format.precision * above float := mul_le_mul_of_nonneg_right digits (above_pos float).le
      _ = 2 ^ (format.precision - 1) * 2 ^ float.exponent := by rw [bits, ← two_above]; ring
  · have full : (2 : ℚ) ^ (format.precision - 1) ≤ float.significand := by
      exact_mod_cast holds.full (held.least.trans_lt lower)
    exact mul_le_mul_of_nonneg_right full (zpow_pos two_pos _).le

theorem gap_above (holds : format.Holds float) (held : format.Holds other) (precise : 0 < format.precision)
    (more : float.value < other.value) : float.value + 2 * above float ≤ other.value := by
  by_cases lower : other.exponent < float.exponent
  · obtain ⟨front, back⟩ := value_below holds held precise lower
    have some := above_pos float
    linarith
  · obtain ⟨units, same⟩ := value_at_lower (not_lt.mp lower)
    have unit : (0 : ℚ) < 2 ^ float.exponent := zpow_pos two_pos _
    rw [same, BinaryFloat.value, mul_lt_mul_iff_of_pos_right unit] at more
    have next : (float.significand : ℚ) + 1 ≤ units := by exact_mod_cast more
    rw [same, two_above, BinaryFloat.value, ← add_one_mul]
    exact mul_le_mul_of_nonneg_right next unit.le

theorem below_le (format : BinaryFormat) (float : BinaryFloat) : format.below float ≤ above float := by
  unfold below above
  split
  · exact zpow_le_zpow_right₀ (by norm_num) (by omega)
  · exact le_rfl

theorem two_below (narrow : format.Narrow float) : 2 * format.below float = above float := by
  rw [below, if_pos narrow, above, ← zpow_one_add₀ two_ne_zero]
  congr 1
  omega

theorem below_of_wide (wide : ¬ format.Narrow float) : format.below float = above float := if_neg wide

theorem gap_below (holds : format.Holds float) (held : format.Holds other) (precise : 0 < format.precision)
    (less : other.value < float.value) : other.value + 2 * format.below float ≤ float.value := by
  have unit : (0 : ℚ) < 2 ^ float.exponent := zpow_pos two_pos _
  by_cases lower : other.exponent < float.exponent
  · obtain ⟨front, back⟩ := value_below holds held precise lower
    by_cases narrow : format.Narrow float
    · rw [two_below narrow]
      exact front.trans back
    · have more : 2 ^ (format.precision - 1) < float.significand :=
        lt_of_le_of_ne (holds.full (held.least.trans_lt lower)) fun same => narrow ⟨same.symm, held.least.trans_lt lower⟩
      have next : (2 : ℚ) ^ (format.precision - 1) + 1 ≤ float.significand := by exact_mod_cast more
      have whole := mul_le_mul_of_nonneg_right next unit.le
      have some := above_pos float
      rw [below_of_wide narrow, two_above]
      change other.value + 2 ^ float.exponent ≤ float.significand * 2 ^ float.exponent
      linarith
  · obtain ⟨units, same⟩ := value_at_lower (not_lt.mp lower)
    rw [same, BinaryFloat.value, mul_lt_mul_iff_of_pos_right unit] at less
    have next : (units : ℚ) + 1 ≤ float.significand := by exact_mod_cast less
    have whole := mul_le_mul_of_nonneg_right next unit.le
    have half := format.below_le float
    have twice := two_above float
    rw [same, BinaryFloat.value]
    linarith

theorem holds_injective (holds : format.Holds float) (held : format.Holds other) (precise : 0 < format.precision)
    (same : other.value = float.value) : other = float := by
  have apart {float other : BinaryFloat} (holds : format.Holds float) (held : format.Holds other)
      (same : other.value = float.value) : ¬ other.exponent < float.exponent := fun lower => by
    obtain ⟨front, back⟩ := value_below holds held precise lower
    have some := above_pos float
    linarith
  have exponents : other.exponent = float.exponent :=
    le_antisymm (not_lt.mp (apart held holds same.symm)) (not_lt.mp (apart holds held same))
  obtain ⟨significand, exponent⟩ := float
  obtain ⟨significand', exponent'⟩ := other
  cases exponents
  obtain rfl : significand' = significand := Nat.cast_inj.mp ((mul_left_inj' (zpow_pos two_pos exponent).ne').mp same)
  rfl

theorem half_bits_even (precise : 1 < format.precision) : 2 ^ (format.precision - 1) % 2 = 0 :=
  Nat.two_pow_mod_two_eq_zero.mpr (Nat.sub_pos_of_lt precise)

-- Of two floats next to each other one is odd.
theorem next_above (holds : format.Holds float) (precise : 1 < format.precision) :
    ∃ other, format.Holds other ∧ other.value = float.value + 2 * above float ∧
      other.significand % 2 ≠ float.significand % 2 := by
  rw [two_above]
  by_cases last : float.significand + 1 < 2 ^ format.precision
  · refine ⟨⟨float.significand + 1, float.exponent⟩, ⟨last, holds.least, fun raised => ?_⟩, ?_, ?_⟩
    · exact (holds.full raised).trans (Nat.le_succ _)
    · simp only [BinaryFloat.value]
      push_cast
      ring
    · dsimp only
      omega
  · have bits := two_pow_pred (Nat.zero_lt_of_lt precise)
    have even := half_bits_even precise
    have few := holds.few
    refine ⟨⟨2 ^ (format.precision - 1), float.exponent + 1⟩, ⟨?_, ?_, fun _ => le_rfl⟩, ?_, ?_⟩
    · exact Nat.pow_lt_pow_right (by decide) (by omega)
    · exact holds.least.trans (Int.le_add_one le_rfl)
    · have digits : (float.significand : ℚ) + 1 = 2 * 2 ^ (format.precision - 1) := by
        exact_mod_cast (by omega : float.significand + 1 = 2 * 2 ^ (format.precision - 1))
      simp only [BinaryFloat.value]
      rw [zpow_add_one₀ two_ne_zero, ← add_one_mul, digits]
      push_cast
      ring
    · dsimp only
      omega

theorem next_below (holds : format.Holds float) (some : 0 < float.significand) (precise : 0 < format.precision) :
    ∃ other, format.Holds other ∧ other.value = float.value - 2 * format.below float := by
  by_cases narrow : format.Narrow float
  · have bits := two_pow_pred precise
    refine ⟨⟨2 ^ format.precision - 1, float.exponent - 1⟩, ⟨?_, Int.le_sub_one_of_lt narrow.2, fun _ => ?_⟩, ?_⟩
    · exact Nat.sub_lt (Nat.two_pow_pos _) Nat.one_pos
    · have least := Nat.two_pow_pos (format.precision - 1)
      dsimp only
      omega
    · have digits : ((2 ^ format.precision - 1 : Nat) : ℚ) = 2 * 2 ^ (format.precision - 1) - 1 := by
        rw [Nat.cast_sub Nat.one_le_two_pow, bits]
        push_cast
        rfl
      rw [two_below narrow, above, BinaryFloat.value, BinaryFloat.value, narrow.1, digits, zpow_sub_one₀ two_ne_zero]
      push_cast
      ring
  · refine ⟨⟨float.significand - 1, float.exponent⟩, ⟨(Nat.sub_le _ _).trans_lt holds.few, holds.least, fun raised => ?_⟩, ?_⟩
    · have more : 2 ^ (format.precision - 1) ≠ float.significand := fun same => narrow ⟨same.symm, raised⟩
      have full := holds.full raised
      dsimp only
      omega
    · rw [below_of_wide narrow, two_above, BinaryFloat.value, BinaryFloat.value, Nat.cast_sub some]
      push_cast
      ring

end BinaryFormat

-- The ends are in the interval only where it is closed.
@[mk_iff]
structure RoundingInterval.Contains (interval : RoundingInterval) (x : ℚ) : Prop where
  low : interval.low / interval.denominator ≤ x
  high : x ≤ interval.high / interval.denominator
  ends : x = interval.low / interval.denominator ∨ x = interval.high / interval.denominator → interval.closed

namespace BinaryFormat

variable {format : BinaryFormat} {float other : BinaryFloat} {x : ℚ}

theorem interval_scale (format : BinaryFormat) (float : BinaryFloat) :
    let interval := format.interval float
    let low := 4 * float.significand - (if format.Narrow float then 1 else 2)
    0 < interval.denominator ∧ interval.closed = (float.significand % 2 == 0) ∧
      (interval.low / interval.denominator : ℚ) = (low : Nat) * 2 ^ (float.exponent - 2) ∧
      (interval.middle / interval.denominator : ℚ) = (4 * float.significand : Nat) * 2 ^ (float.exponent - 2) ∧
      (interval.high / interval.denominator : ℚ) = (4 * float.significand + 2 : Nat) * 2 ^ (float.exponent - 2) := by
  unfold interval
  dsimp only
  cases float.exponent - 2 with
  | ofNat up =>
      have whole (units : Nat) : ((units * twoPow up : Nat) / (1 : Nat) : ℚ) = units * 2 ^ Int.ofNat up := by
        rw [two_pow_eq, Int.ofNat_eq_natCast, zpow_natCast]
        push_cast
        rw [div_one]
      exact ⟨Nat.one_pos, rfl, whole _, whole _, whole _⟩
  | negSucc down =>
      have part (units : Nat) : (units / (twoPow (down + 1) : Nat) : ℚ) = units * 2 ^ Int.negSucc down := by
        rw [two_pow_eq, Nat.cast_pow, zpow_negSucc, div_eq_mul_inv]
        rfl
      exact ⟨Nat.two_pow_pos _, rfl, part _, part _, part _⟩

theorem interval_ends (format : BinaryFormat) (float : BinaryFloat) (some : 0 < float.significand) :
    let interval := format.interval float
    (interval.low / interval.denominator : ℚ) = float.value - format.below float ∧
      (interval.middle / interval.denominator : ℚ) = float.value ∧
      (interval.high / interval.denominator : ℚ) = float.value + above float := by
  obtain ⟨-, -, low, middle, high⟩ := format.interval_scale float
  have unit : (2 : ℚ) ^ float.exponent = 4 * 2 ^ (float.exponent - 2) := by
    rw [show (4 : ℚ) = 2 ^ (2 : Int) by norm_num, ← zpow_add₀ two_ne_zero]
    congr 1
    omega
  have half : above float = 2 * 2 ^ (float.exponent - 2) := by
    have twice := two_above float
    linarith
  dsimp only at low middle high ⊢
  refine ⟨?_, ?_, ?_⟩
  · rw [low, BinaryFloat.value, unit, below, ← above, half]
    split <;> rw [Nat.cast_sub (by omega)] <;> push_cast <;> ring
  · rw [middle, BinaryFloat.value, unit]
    push_cast
    ring
  · rw [high, BinaryFloat.value, unit, half]
    push_cast
    ring

theorem near_under {v w u : ℚ} (some : 0 < u) (under : x ≤ v + u) (apart : v + 2 * u ≤ w) :
    |x - v| ≤ |x - w| ∧ (|x - v| = |x - w| → x = v + u) := by
  have least : w - x ≤ |x - w| := by
    rw [abs_sub_comm]
    exact le_abs_self _
  rcases abs_cases (x - v) with ⟨is, _⟩ | ⟨is, _⟩
  · exact ⟨by linarith, fun same => by linarith⟩
  · exact ⟨by linarith, fun same => by linarith⟩

theorem near_over {v w u : ℚ} (some : 0 < u) (past : v - u ≤ x) (apart : w + 2 * u ≤ v) :
    |x - v| ≤ |x - w| ∧ (|x - v| = |x - w| → x = v - u) := by
  have least : x - w ≤ |x - w| := le_abs_self _
  rcases abs_cases (x - v) with ⟨is, _⟩ | ⟨is, _⟩
  · exact ⟨by linarith, fun same => by linarith⟩
  · exact ⟨by linarith, fun same => by linarith⟩

theorem under_of_near {v u : ℚ} (some : 0 < u) (near : |x - v| ≤ |x - (v + 2 * u)|) : x ≤ v + u := by
  by_contra past
  have nearer : |x - (v + 2 * u)| < x - v := abs_lt.mpr ⟨by linarith, by linarith⟩
  linarith [le_abs_self (x - v)]

theorem over_of_near {v u : ℚ} (some : 0 < u) (near : |x - v| ≤ |x - (v - 2 * u)|) : v - u ≤ x := by
  by_contra past
  have nearer : |x - (v - 2 * u)| < v - x := abs_lt.mpr ⟨by linarith, by linarith⟩
  linarith [neg_abs_le (x - v)]

theorem contains_iff (format : BinaryFormat) (some : 0 < float.significand) :
    (format.interval float).Contains x ↔
      float.value - format.below float ≤ x ∧ x ≤ float.value + above float ∧
        (x = float.value - format.below float ∨ x = float.value + above float → float.significand % 2 = 0) := by
  obtain ⟨low, -, high⟩ := format.interval_ends float some
  obtain ⟨-, closed, -⟩ := format.interval_scale float
  rw [RoundingInterval.contains_iff, low, high, closed, beq_iff_eq]

theorem rounds_under (rounds : format.Rounds x float) (precise : 1 < format.precision) : x ≤ float.value + above float := by
  obtain ⟨next, held, value, -⟩ := next_above rounds.holds precise
  exact under_of_near (above_pos float) (value ▸ rounds.near next held)

theorem rounds_unique (rounds : format.Rounds x float) (rounds' : format.Rounds x other) (precise : 1 < format.precision) :
    float = other := by
  have apart {float other : BinaryFloat} (rounds : format.Rounds x float) (rounds' : format.Rounds x other) :
      ¬ float.value < other.value := fun less => by
    have same : |x - float.value| = |x - other.value| :=
      le_antisymm (rounds.near other rounds'.holds) (rounds'.near float rounds.holds)
    have different : other ≠ float := fun same => by rw [same] at less; exact lt_irrefl _ less
    have even := (rounds.tie other rounds'.holds same).resolve_left different
    have even' := (rounds'.tie float rounds.holds same.symm).resolve_left different.symm
    obtain ⟨next, held, value, odd⟩ := next_above rounds.holds precise
    have under := rounds_under rounds precise
    have gap := gap_above rounds.holds rounds'.holds (Nat.zero_lt_of_lt precise) less
    have middle : 2 * x = float.value + other.value := by
      rcases abs_eq_abs.mp same with same | same <;> linarith
    have is : next = other := holds_injective rounds'.holds held (Nat.zero_lt_of_lt precise) (by linarith)
    exact odd (by rw [is, even, even'])
  exact holds_injective rounds'.holds rounds.holds (Nat.zero_lt_of_lt precise)
    (le_antisymm (not_lt.mp (apart rounds' rounds)) (not_lt.mp (apart rounds rounds')))

theorem rounds_iff_contains (holds : format.Holds float) (precise : 1 < format.precision) (some : 0 < float.significand) :
    format.Rounds x float ↔ (format.interval float).Contains x := by
  have precise' := Nat.zero_lt_of_lt precise
  have up := above_pos float
  have down := format.below_pos float
  rw [contains_iff format some]
  constructor
  · intro rounds
    obtain ⟨next, held, value, -⟩ := next_above holds precise
    obtain ⟨last, held', value'⟩ := next_below holds some precise'
    have near' := rounds.near last held'
    have other : next ≠ float := fun same => by rw [same] at value; linarith
    have other' : last ≠ float := fun same => by rw [same] at value'; linarith
    refine ⟨over_of_near down (value' ▸ near'), rounds_under rounds precise, ?_⟩
    rintro (rfl | rfl)
    · refine (rounds.tie last held' ?_).resolve_left other'
      rw [value', sub_sub_cancel_left, abs_neg, show float.value - format.below float -
        (float.value - 2 * format.below float) = format.below float by ring]
    · refine (rounds.tie next held ?_).resolve_left other
      rw [value, add_sub_cancel_left, show float.value + above float - (float.value + 2 * above float) = -above float by ring,
        abs_neg]
  · rintro ⟨low, high, ends⟩
    have each (other : BinaryFloat) (held : format.Holds other) : |x - float.value| ≤ |x - other.value| ∧
        (|x - float.value| = |x - other.value| → other = float ∨ float.significand % 2 = 0) := by
      rcases lt_trichotomy other.value float.value with less | same | more
      · obtain ⟨near, tie⟩ := near_over down low (gap_below holds held precise' less)
        exact ⟨near, fun same => .inr (ends (.inl (tie same)))⟩
      · exact ⟨by rw [same], fun _ => .inl (holds_injective holds held precise' same)⟩
      · obtain ⟨near, tie⟩ := near_under up high (gap_above holds held precise' more)
        exact ⟨near, fun same => .inr (ends (.inr (tie same)))⟩
    exact ⟨holds, fun other held => (each other held).1, fun other held => (each other held).2⟩

theorem half_even_near (numerator : Nat) {denominator : Nat} (positive : 0 < denominator) :
    let rounded : ℚ := divHalfEven numerator denominator
    rounded - 1 / 2 ≤ numerator / denominator ∧ (numerator : ℚ) / denominator ≤ rounded + 1 / 2 ∧
      ((numerator : ℚ) / denominator = rounded - 1 / 2 ∨ (numerator : ℚ) / denominator = rounded + 1 / 2 →
        divHalfEven numerator denominator % 2 = 0) := by
  obtain ⟨least, most, ends⟩ := half_even_bounds numerator positive
  have some : (0 : ℚ) < denominator := Nat.cast_pos.mpr positive
  dsimp only at least most ends ⊢
  generalize divHalfEven numerator denominator = rounded at least most ends ⊢
  have least' : 2 * ((rounded : ℚ) * denominator) ≤ 2 * numerator + denominator := by exact_mod_cast least
  have most' : 2 * (numerator : ℚ) ≤ 2 * (rounded * denominator) + denominator := by exact_mod_cast most
  refine ⟨?_, ?_, fun half => ends ?_⟩
  · rw [le_div_iff₀ some]
    linarith
  · rw [div_le_iff₀ some]
    linarith
  · rw [div_eq_iff some.ne', div_eq_iff some.ne'] at half
    have same : 2 * ((rounded : ℚ) * denominator) = 2 * numerator + denominator ∨
        2 * (numerator : ℚ) = 2 * (rounded * denominator) + denominator :=
      half.imp (fun same => by linarith) fun same => by linarith
    exact_mod_cast same

theorem full_pos (full : 2 ^ (format.precision - 1) ≤ float.significand) : 0 < float.significand :=
  (Nat.two_pow_pos _).trans_le full

section

variable {exponent : Int} (precise : 1 < format.precision) (least : format.minExponent ≤ exponent)
include precise least

theorem rounds_of_near {significand : Nat} (full : 2 ^ (format.precision - 1) ≤ significand)
    (few : significand < 2 ^ format.precision) (reached : 2 ^ (format.precision - 1) * 2 ^ exponent ≤ x)
    (low : (significand - 1 / 2) * 2 ^ exponent ≤ x) (high : x ≤ (significand + 1 / 2) * 2 ^ exponent)
    (ends : x = (significand - 1 / 2) * 2 ^ exponent ∨ x = (significand + 1 / 2) * 2 ^ exponent → significand % 2 = 0) :
    format.Rounds x ⟨significand, exponent⟩ := by
  have some := (Nat.two_pow_pos (format.precision - 1)).trans_le full
  have holds : format.Holds ⟨significand, exponent⟩ := ⟨few, least, fun _ => full⟩
  have half : above ⟨significand, exponent⟩ = 1 / 2 * 2 ^ exponent := by
    have twice := two_above ⟨significand, exponent⟩
    linarith
  rw [sub_mul] at low ends
  rw [add_mul] at high ends
  rw [rounds_iff_contains holds precise some, contains_iff format some, half, BinaryFloat.value]
  by_cases narrow : format.Narrow ⟨significand, exponent⟩
  · have digits : (significand : ℚ) = 2 ^ (format.precision - 1) := by exact_mod_cast narrow.1
    have even : significand % 2 = 0 := (congrArg (· % 2) narrow.1).trans (half_bits_even precise)
    refine ⟨?_, high, fun _ => even⟩
    rw [digits]
    linarith [format.below_pos ⟨significand, exponent⟩]
  · rw [below_of_wide narrow, half]
    exact ⟨low, high, ends⟩

theorem rounds_of_carry (low : (2 ^ format.precision - 1 / 2) * 2 ^ exponent ≤ x)
    (high : x < 2 ^ format.precision * 2 ^ exponent) : format.Rounds x ⟨2 ^ (format.precision - 1), exponent + 1⟩ := by
  have some := Nat.two_pow_pos (format.precision - 1)
  have narrow : format.Narrow ⟨2 ^ (format.precision - 1), exponent + 1⟩ := ⟨rfl, Int.lt_add_one_of_le least⟩
  have holds : format.Holds ⟨2 ^ (format.precision - 1), exponent + 1⟩ :=
    ⟨Nat.pow_lt_pow_right (by decide) (by omega), narrow.2.le, fun _ => le_rfl⟩
  have value : BinaryFloat.value ⟨2 ^ (format.precision - 1), exponent + 1⟩ = 2 ^ format.precision * 2 ^ exponent := by
    have bits : (2 : ℚ) ^ format.precision = 2 * 2 ^ (format.precision - 1) := by exact_mod_cast two_pow_pred (by omega)
    rw [BinaryFloat.value, zpow_add_one₀ two_ne_zero, bits]
    push_cast
    ring
  have unit : above ⟨2 ^ (format.precision - 1), exponent + 1⟩ = 2 ^ exponent := by rw [above, add_sub_cancel_right]
  have half := two_below narrow
  rw [sub_mul] at low
  rw [rounds_iff_contains holds precise some, contains_iff format some, value]
  rw [unit] at half ⊢
  refine ⟨by linarith, by linarith [above_pos ⟨0, exponent + 1⟩], fun _ => half_bits_even precise⟩

end

theorem nearest_rounds {numerator denominator : Nat} (precise : 1 < format.precision) (some : 0 < numerator)
    (positive : 0 < denominator)
    (normal : (2 : ℚ) ^ (format.minExponent + (format.precision - 1)) ≤ numerator / denominator) :
    format.Rounds (numerator / denominator) (format.nearest numerator denominator) ∧
      2 ^ (format.precision - 1) ≤ (format.nearest numerator denominator).significand := by
  obtain ⟨reached, above⟩ := floor_log2_bounds some positive
  have raised : format.minExponent + (format.precision - 1) < floorLog2 numerator denominator + 1 :=
    (zpow_lt_zpow_iff_right₀ (by norm_num : (1 : ℚ) < 2)).mp (normal.trans_lt above)
  have least : format.minExponent ≤ floorLog2 numerator denominator - (format.precision - 1) := by omega
  rw [nearest_eq, max_eq_right least]
  generalize same : floorLog2 numerator denominator - (format.precision - 1) = exponent at least ⊢
  have unit : (0 : ℚ) < 2 ^ exponent := zpow_pos two_pos _
  have reached' : (2 : ℚ) ^ (format.precision - 1) * 2 ^ exponent ≤ numerator / denominator := by
    rwa [← zpow_natCast, ← zpow_add₀ two_ne_zero, show ((format.precision - 1 : Nat) : Int) + exponent =
      floorLog2 numerator denominator by omega]
  have above' : (numerator : ℚ) / denominator < 2 ^ format.precision * 2 ^ exponent := by
    rwa [← zpow_natCast, ← zpow_add₀ two_ne_zero, show (format.precision : Int) + exponent =
      floorLog2 numerator denominator + 1 by omega]
  obtain ⟨low, high, ends⟩ := half_even_near (scaled exponent numerator denominator).1 (scaled_pos exponent numerator positive)
  rw [scaled_value] at low high ends
  rw [le_div_iff₀ unit] at low
  rw [div_le_iff₀ unit] at high
  rw [div_eq_iff unit.ne', div_eq_iff unit.ne'] at ends
  generalize divHalfEven (scaled exponent numerator denominator).1 (scaled exponent numerator denominator).2 = significand
    at low high ends ⊢
  have full : 2 ^ (format.precision - 1) ≤ significand := by
    have within : (2 : ℚ) ^ (format.precision - 1) < significand + 1 := by
      have part := le_of_mul_le_mul_right (reached'.trans high) unit
      linarith
    exact Nat.lt_succ_iff.mp (by exact_mod_cast within)
  have few : significand ≤ 2 ^ format.precision := by
    have within : (significand : ℚ) < 2 ^ format.precision + 1 := by
      have part := lt_of_mul_lt_mul_right (low.trans_lt above') unit.le
      linarith
    exact Nat.lt_succ_iff.mp (by exact_mod_cast within)
  split
  · rename_i carry
    rw [carry] at low
    push_cast at low
    exact ⟨rounds_of_carry precise least low above', le_rfl⟩
  · rename_i fits
    exact ⟨rounds_of_near precise least full (lt_of_le_of_ne few fits) reached' low high ends, full⟩

end BinaryFormat

end QueryOptions
