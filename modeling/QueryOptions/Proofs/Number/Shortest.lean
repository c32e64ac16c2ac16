import Mathlib.Data.Nat.Cast.Order.Field
import Mathlib.Data.Nat.Log
import QueryOptions.Proofs.Number.Nearest
import QueryOptions.Proofs.Number.Value

set_option autoImplicit false

namespace QueryOptions

-- A number that is written with so many digits, and zeros in front of them or behind them.
def HasDigits (count : Nat) (x : ℚ) : Prop := ∃ (digits : Nat) (power : Int), digits < 10 ^ count ∧ x = digits * 10 ^ power

theorem has_more_digits {count more : Nat} {x : ℚ} (least : count ≤ more) (few : HasDigits count x) : HasDigits more x := by
  obtain ⟨digits, power, less, same⟩ := few
  exact ⟨digits, power, less.trans_le (Nat.pow_le_pow_right (by decide) least), same⟩

-- What a float is written as: of the numbers that round to it one with the fewest digits, and of those the nearest one.
-- The greater one of two as near is taken.
structure BinaryFormat.Writes (format : BinaryFormat) (float : BinaryFloat) (x : ℚ) : Prop where
  reads : format.Rounds x float
  fewest : ∀ y count, format.Rounds y float → HasDigits count y → HasDigits count x
  nearest : ∀ y, format.Rounds y float → (∀ count, HasDigits count x → HasDigits count y) →
    |x - float.value| ≤ |y - float.value| ∧ (|x - float.value| = |y - float.value| → y ≤ x)

namespace RoundingInterval

variable {interval : RoundingInterval} {x y z : ℚ} {power : Int}

def center (interval : RoundingInterval) : ℚ := interval.middle / interval.denominator

structure Proper (interval : RoundingInterval) : Prop where
  positive : 0 < interval.denominator
  low : 0 < interval.low
  middle : interval.low < interval.middle
  high : interval.middle < interval.high

theorem contains_between (least : interval.Contains x) (most : interval.Contains y) (low : x ≤ z) (high : z ≤ y) :
    interval.Contains z := by
  refine ⟨least.low.trans low, high.trans most.high, ?_⟩
  rintro (rfl | rfl)
  · exact least.ends (.inl (le_antisymm low least.low))
  · exact most.ends (.inr (le_antisymm most.high high))

theorem contains_inner (low : interval.low / interval.denominator < x) (high : x < interval.high / interval.denominator) :
    interval.Contains x := by
  refine ⟨low.le, high.le, ?_⟩
  rintro (same | same)
  · exact absurd same low.ne'
  · exact absurd same high.ne

section

variable (proper : interval.Proper)
include proper

theorem center_inner :
    (interval.low / interval.denominator : ℚ) < interval.center ∧ interval.center < interval.high / interval.denominator := by
  have positive : (0 : ℚ) < interval.denominator := Nat.cast_pos.mpr proper.positive
  exact ⟨div_lt_div_of_pos_right (Nat.cast_lt.mpr proper.middle) positive,
    div_lt_div_of_pos_right (Nat.cast_lt.mpr proper.high) positive⟩

theorem contains_center : interval.Contains interval.center :=
  contains_inner (center_inner proper).1 (center_inner proper).2

theorem contained_pos (inside : interval.Contains x) : 0 < x := by
  refine lt_of_lt_of_le ?_ inside.low
  exact div_pos (Nat.cast_pos.mpr proper.low) (Nat.cast_pos.mpr proper.positive)

end

-- Whether a multiple of a unit is inside, where one is as many units as the denominator is stretched.
def inside (interval : RoundingInterval) (stretch unit multiplier : Nat) : Bool :=
  if interval.closed then
    decide (interval.low * stretch ≤ multiplier * unit) && decide (multiplier * unit ≤ interval.high * stretch)
  else
    decide (interval.low * stretch < multiplier * unit) && decide (multiplier * unit < interval.high * stretch)

def nearestInside? (interval : RoundingInterval) (stretch unit : Nat) : Option Nat :=
  let below := interval.middle * stretch / unit
  match interval.inside stretch unit below, interval.inside stretch unit (below + 1) with
  | true, true => if 2 * (interval.middle * stretch % unit) < unit then some below else some (below + 1)
  | true, false => some below
  | false, true => some (below + 1)
  | false, false => none

structure Gridded (interval : RoundingInterval) (power : Int) (stretch unit : Nat) : Prop where
  stretch_pos : 0 < stretch
  unit_pos : 0 < unit
  value : (unit : ℚ) = 10 ^ power * (stretch * interval.denominator)

theorem on_grid_eq (interval : RoundingInterval) (positive : 0 < interval.denominator) (power : Int) :
    ∃ stretch unit, interval.Gridded power stretch unit ∧ interval.onGrid? power = interval.nearestInside? stretch unit := by
  cases power with
  | ofNat up =>
      refine ⟨1, 10 ^ up * interval.denominator, ⟨Nat.one_pos, by positivity, ?_⟩, rfl⟩
      rw [Int.ofNat_eq_natCast, zpow_natCast]
      push_cast
      ring
  | negSucc down =>
      refine ⟨10 ^ (down + 1), interval.denominator, ⟨by positivity, positive, ?_⟩, rfl⟩
      rw [zpow_negSucc]
      push_cast
      field_simp

section

variable {stretch unit : Nat} (gridded : interval.Gridded power stretch unit) (positive : 0 < interval.denominator)
include gridded positive

theorem whole_pos : (0 : ℚ) < (stretch * interval.denominator : Nat) :=
  Nat.cast_pos.mpr (Nat.mul_pos gridded.stretch_pos positive)

theorem multiple_over_whole (multiplier : Nat) :
    (multiplier * 10 ^ power : ℚ) = (multiplier * unit : Nat) / (stretch * interval.denominator : Nat) := by
  rw [eq_div_iff (whole_pos gridded positive).ne']
  push_cast
  rw [gridded.value, mul_assoc]

omit positive in
theorem numerator_over_whole (numerator : Nat) :
    (numerator / interval.denominator : ℚ) = (numerator * stretch : Nat) / (stretch * interval.denominator : Nat) := by
  have some : (0 : ℚ) < stretch := Nat.cast_pos.mpr gridded.stretch_pos
  push_cast
  rw [mul_comm (numerator : ℚ), mul_div_mul_left _ _ some.ne']

theorem inside_iff (multiplier : Nat) : interval.inside stretch unit multiplier ↔ interval.Contains (multiplier * 10 ^ power) := by
  have whole := whole_pos gridded positive
  rw [contains_iff, numerator_over_whole gridded, numerator_over_whole gridded, multiple_over_whole gridded positive,
    div_le_div_iff_of_pos_right whole, div_le_div_iff_of_pos_right whole, div_left_inj' whole.ne', div_left_inj' whole.ne',
    Nat.cast_le, Nat.cast_le, Nat.cast_inj, Nat.cast_inj, inside]
  cases interval.closed with
  | true => simp
  | false =>
      simp only [Bool.false_eq_true, if_false, Bool.and_eq_true, decide_eq_true_eq, imp_false, not_or]
      omega

theorem center_between :
    let below := interval.middle * stretch / unit
    (below * 10 ^ power : ℚ) ≤ interval.center ∧ interval.center < (below + 1 : Nat) * 10 ^ power ∧
      (2 * (interval.middle * stretch % unit) < unit ↔
        interval.center - below * 10 ^ power < (below + 1 : Nat) * 10 ^ power - interval.center) := by
  have whole := whole_pos gridded positive
  have split := Nat.div_add_mod (interval.middle * stretch) unit
  have part := Nat.mod_lt (interval.middle * stretch) gridded.unit_pos
  rw [Nat.mul_comm unit] at split
  dsimp only
  rw [center, numerator_over_whole gridded, multiple_over_whole gridded positive, multiple_over_whole gridded positive,
    ← sub_div, ← sub_div, div_le_div_iff_of_pos_right whole, div_lt_div_iff_of_pos_right whole,
    div_lt_div_iff_of_pos_right whole, sub_lt_sub_iff, Nat.cast_le, Nat.cast_lt, Nat.add_one_mul]
  generalize interval.middle * stretch / unit * unit = front at split ⊢
  refine ⟨by omega, by omega, ?_⟩
  have same : 2 * (interval.middle * stretch % unit) < unit ↔
      interval.middle * stretch + interval.middle * stretch < front + unit + front := by omega
  rw [same]
  exact_mod_cast Iff.rfl

end

structure NearestMultiple (interval : RoundingInterval) (power : Int) (multiplier : Nat) : Prop where
  contained : interval.Contains (multiplier * 10 ^ power)
  nearest : ∀ other : Nat, interval.Contains (other * 10 ^ power) →
    |multiplier * 10 ^ power - interval.center| ≤ |other * 10 ^ power - interval.center| ∧
      (|multiplier * 10 ^ power - interval.center| = |other * 10 ^ power - interval.center| → other ≤ multiplier)

theorem multiple_le {front back : Nat} (power : Int) (less : front ≤ back) :
    (front * 10 ^ power : ℚ) ≤ back * 10 ^ power :=
  mul_le_mul_of_nonneg_right (Nat.cast_le.mpr less) (zpow_pos (by norm_num) power).le

section

variable {below : Nat} (proper : interval.Proper) (low : (below * 10 ^ power : ℚ) ≤ interval.center)
variable (high : interval.center < (below + 1 : Nat) * 10 ^ power)
include proper low high

omit high in
theorem contains_below {other : Nat} (inside : interval.Contains (other * 10 ^ power)) (less : other ≤ below) :
    interval.Contains (below * 10 ^ power) :=
  contains_between inside (contains_center proper) (multiple_le power less) low

omit low in
theorem contains_above {other : Nat} (inside : interval.Contains (other * 10 ^ power)) (more : below + 1 ≤ other) :
    interval.Contains ((below + 1 : Nat) * 10 ^ power) :=
  contains_between (contains_center proper) inside high.le (multiple_le power more)

theorem nearest_below (inside : interval.Contains (below * 10 ^ power))
    (nearer : interval.Contains ((below + 1 : Nat) * 10 ^ power) →
      interval.center - below * 10 ^ power < (below + 1 : Nat) * 10 ^ power - interval.center) :
    interval.NearestMultiple power below := by
  refine ⟨inside, fun other contained => ?_⟩
  rw [abs_of_nonpos (sub_nonpos.mpr low), neg_sub]
  rcases Nat.lt_or_ge below other with more | less
  · have past := multiple_le power more
    have first := nearer (contains_above proper high contained more)
    rw [abs_of_pos (sub_pos.mpr (high.trans_le past))]
    exact ⟨by linarith, fun same => by linarith⟩
  · have under := multiple_le power less
    rw [abs_of_nonpos (sub_nonpos.mpr (under.trans low)), neg_sub]
    exact ⟨by linarith, fun _ => less⟩

theorem nearest_above (inside : interval.Contains ((below + 1 : Nat) * 10 ^ power))
    (nearer : interval.Contains (below * 10 ^ power) →
      (below + 1 : Nat) * 10 ^ power - interval.center ≤ interval.center - below * 10 ^ power) :
    interval.NearestMultiple power (below + 1) := by
  refine ⟨inside, fun other contained => ?_⟩
  rw [abs_of_pos (sub_pos.mpr high)]
  rcases Nat.lt_or_ge below other with more | less
  · have past := multiple_le power more
    rw [abs_of_pos (sub_pos.mpr (high.trans_le past))]
    refine ⟨by linarith, fun same => ?_⟩
    have digits := (mul_left_inj' (zpow_pos (by norm_num : (0 : ℚ) < 10) power).ne').mp (sub_left_inj.mp same)
    exact (Nat.cast_inj.mp digits).ge
  · have under := multiple_le power less
    have first := nearer (contains_below proper low contained less)
    rw [abs_of_nonpos (sub_nonpos.mpr (under.trans low)), neg_sub]
    exact ⟨by linarith, fun _ => less.trans (Nat.le_succ below)⟩

end

section

variable (proper : interval.Proper)
include proper

theorem on_grid_cases (power : Int) :
    (∀ multiplier, interval.onGrid? power = some multiplier → interval.NearestMultiple power multiplier) ∧
      (interval.onGrid? power = none → ∀ multiplier : Nat, ¬ interval.Contains (multiplier * 10 ^ power)) := by
  obtain ⟨stretch, unit, gridded, same⟩ := interval.on_grid_eq proper.positive power
  obtain ⟨low, high, nearer⟩ := center_between gridded proper.positive
  rw [same, nearestInside?]
  generalize interval.middle * stretch / unit = below at low high nearer ⊢
  have down := inside_iff gridded proper.positive below
  have up := inside_iff gridded proper.positive (below + 1)
  cases inside : interval.inside stretch unit below <;> cases inside' : interval.inside stretch unit (below + 1) <;>
    rw [inside] at down <;> rw [inside'] at up
  case false.false =>
    refine ⟨nofun, fun _ multiplier contained => ?_⟩
    rcases Nat.lt_or_ge below multiplier with more | less
    · exact absurd (up.mpr (contains_above proper high contained more)) nofun
    · exact absurd (down.mpr (contains_below proper low contained less)) nofun
  case false.true =>
    refine ⟨fun multiplier found => ?_, nofun⟩
    cases found
    exact nearest_above proper low high (up.mp rfl) fun contained => absurd (down.mpr contained) nofun
  case true.false =>
    refine ⟨fun multiplier found => ?_, nofun⟩
    cases found
    exact nearest_below proper low high (down.mp rfl) fun contained => absurd (up.mpr contained) nofun
  case true.true =>
    dsimp only
    split
    · rename_i first
      refine ⟨fun multiplier found => ?_, nofun⟩
      cases found
      exact nearest_below proper low high (down.mp rfl) fun _ => nearer.mp first
    · rename_i second
      refine ⟨fun multiplier found => ?_, nofun⟩
      cases found
      exact nearest_above proper low high (up.mp rfl) fun _ => not_lt.mp fun first => second (nearer.mpr first)

end

theorem search_cases (interval : RoundingInterval) (grids : Nat) (power : Int) :
    (∀ digits found, interval.search grids power = some (digits, found) → interval.onGrid? found = some digits ∧
      ∀ tried, found < tried → tried ≤ power → interval.onGrid? tried = none) ∧
    (interval.search grids power = none → ∀ tried, power - grids < tried → tried ≤ power → interval.onGrid? tried = none) := by
  induction grids generalizing power with
  | zero => exact ⟨nofun, fun _ tried above under => by omega⟩
  | succ grids ih =>
      unfold search
      cases here : interval.onGrid? power with
      | some multiplier =>
          refine ⟨fun digits found same => ?_, nofun⟩
          cases same
          exact ⟨here, fun tried above under => by omega⟩
      | none =>
          obtain ⟨found, failed⟩ := ih (power - 1)
          have further (tried : Int) (under : tried ≤ power) (others : tried ≤ power - 1 → interval.onGrid? tried = none) :
              interval.onGrid? tried = none := by
            rcases under.lt_or_eq with less | rfl
            · exact others (Int.le_sub_one_of_lt less)
            · exact here
          refine ⟨fun digits power' same => ?_, fun none tried above under => ?_⟩
          · obtain ⟨hit, misses⟩ := found digits power' same
            exact ⟨hit, fun tried above under => further tried under (misses tried above)⟩
          · exact further tried under (failed none tried (by push_cast at above; omega))

theorem quotient_bounds {numerator denominator : Nat} (some : 0 < numerator / denominator) :
    let length := (Nat.toDigits 10 (numerator / denominator)).length
    (10 : ℚ) ^ (length - 1 : Int) ≤ numerator / denominator ∧ (numerator / denominator : ℚ) < 10 ^ (length : Int) := by
  have positive : 0 < denominator := Nat.pos_of_ne_zero fun zero => by simp [zero] at some
  have positive' : (0 : ℚ) < denominator := Nat.cast_pos.mpr positive
  have length : 0 < (Nat.toDigits 10 (numerator / denominator)).length := Nat.length_toDigits_pos
  have above := (Nat.length_toDigits_le_iff (n := numerator / denominator) (b := 10) (by decide) length).mp le_rfl
  have least : 10 ^ ((Nat.toDigits 10 (numerator / denominator)).length - 1) ≤ numerator / denominator := by
    rcases Nat.lt_or_ge 1 (Nat.toDigits 10 (numerator / denominator)).length with more | single
    · have longer := Nat.length_toDigits_le_iff (n := numerator / denominator) (b := 10) (by decide) (Nat.sub_pos_of_lt more)
      exact Nat.not_lt.mp (longer.not.mp (by omega))
    · rw [Nat.sub_eq_zero_of_le single]
      exact some
  dsimp only
  generalize (Nat.toDigits 10 (numerator / denominator)).length = count at length above least ⊢
  rw [zpow_natCast, show (count - 1 : Int) = ((count - 1 : Nat) : Int) by omega, zpow_natCast]
  constructor
  · calc (10 : ℚ) ^ (count - 1) ≤ (numerator / denominator : Nat) := by exact_mod_cast least
      _ ≤ numerator / denominator := Nat.cast_div_le
  · rw [div_lt_iff₀ positive']
    have whole := (Nat.div_lt_iff_lt_mul positive).mp above
    exact_mod_cast whole

theorem start_power_bounds (proper : interval.Proper) :
    (10 : ℚ) ^ (interval.startPower - 2) ≤ interval.high / interval.denominator ∧
      (interval.high / interval.denominator : ℚ) < 10 ^ interval.startPower := by
  have positive := proper.positive
  have some : 0 < interval.high := (Nat.zero_lt_of_lt proper.middle).trans proper.high
  unfold startPower
  split
  · rename_i whole
    obtain ⟨least, above⟩ := quotient_bounds (Nat.div_pos whole positive)
    exact ⟨(zpow_le_zpow_right₀ (by norm_num) (by omega)).trans least, above⟩
  · rename_i part
    obtain ⟨least, above⟩ := quotient_bounds (Nat.div_pos (Nat.not_le.mp part).le some)
    generalize (Nat.toDigits 10 (interval.denominator / interval.high)).length = count at least above ⊢
    have inverse : (interval.high / interval.denominator : ℚ) = (interval.denominator / interval.high : ℚ)⁻¹ := (inv_div _ _).symm
    have some' : (0 : ℚ) < interval.denominator / interval.high := by positivity
    rw [inverse]
    constructor
    · rw [show (2 - count - 2 : Int) = -count by omega, zpow_neg]
      exact (inv_le_inv₀ (by positivity) some').mpr above.le
    · calc (interval.denominator / interval.high : ℚ)⁻¹ ≤ ((10 : ℚ) ^ (count - 1 : Int))⁻¹ :=
            (inv_le_inv₀ some' (by positivity)).mpr least
        _ = 10 ^ (1 - count : Int) := by rw [← zpow_neg, neg_sub]
        _ < 10 ^ (2 - count : Int) := zpow_lt_zpow_right₀ (by norm_num) (by omega)

theorem misses_from_start (proper : interval.Proper) (past : interval.startPower ≤ power) (multiplier : Nat) :
    ¬ interval.Contains (multiplier * 10 ^ power) := by
  intro inside
  have positive := contained_pos proper inside
  have some : (1 : ℚ) ≤ multiplier := by
    have digits : (0 : ℚ) < multiplier := pos_of_mul_pos_left positive (zpow_pos (by norm_num) power).le
    exact_mod_cast digits
  refine absurd inside.high (not_le.mpr ?_)
  calc (interval.high / interval.denominator : ℚ) < 10 ^ interval.startPower := (start_power_bounds proper).2
    _ ≤ 10 ^ power := zpow_le_zpow_right₀ (by norm_num) past
    _ ≤ multiplier * 10 ^ power := le_mul_of_one_le_left (by positivity) some

theorem grid_meets (proper : interval.Proper) (power : Int)
    (fine : interval.low / interval.denominator + 10 ^ power < (interval.high / interval.denominator : ℚ)) :
    ∃ multiplier : Nat, interval.Contains (multiplier * 10 ^ power) := by
  obtain ⟨stretch, unit, gridded, -⟩ := interval.on_grid_eq proper.positive power
  obtain ⟨low, high, -⟩ := center_between gridded proper.positive
  obtain ⟨least, most⟩ := center_inner proper
  generalize interval.middle * stretch / unit = below at low high
  by_cases inner : (interval.low / interval.denominator : ℚ) < below * 10 ^ power
  · exact ⟨below, contains_inner inner (low.trans_lt most)⟩
  · refine ⟨below + 1, contains_inner (least.trans high) ?_⟩
    push_cast
    linarith

structure Coarsest (interval : RoundingInterval) (power : Int) (multiplier : Nat) : Prop where
  hit : interval.NearestMultiple power multiplier
  misses : ∀ coarser, power < coarser → ∀ other : Nat, ¬ interval.Contains (other * 10 ^ coarser)

section

variable {digits other count : Nat} {power' : Int} (coarsest : interval.Coarsest power digits)
include coarsest

-- A power of ten above a number in the interval and below the digits found is on one of the grids from theirs on.
theorem no_power_between (between : Int) (inside : interval.Contains x) (less : x < 10 ^ between)
    (more : (10 : ℚ) ^ between ≤ digits * 10 ^ power) : between ≤ power := by
  by_contra coarser
  refine coarsest.misses between (not_le.mp coarser) 1 ?_
  rw [Nat.cast_one, one_mul]
  exact contains_between inside coarsest.hit.contained less.le more

theorem coarsest_few (proper : interval.Proper) (inside : interval.Contains (other * 10 ^ power')) (few : other < 10 ^ count) : digits < 10 ^ count := by
  by_contra more
  have finer : power' ≤ power := not_lt.mp fun coarser => coarsest.misses power' coarser other inside
  have bound := no_power_between coarsest (count + power) inside ?_ ?_
  · obtain rfl : count = 0 := by omega
    obtain rfl : other = 0 := by simpa using few
    simpa using contained_pos proper inside
  · have digits' : (other : ℚ) < 10 ^ (count : Int) := by exact_mod_cast few
    calc (other * 10 ^ power' : ℚ) < 10 ^ (count : Int) * 10 ^ power' := by gcongr
      _ ≤ 10 ^ (count : Int) * 10 ^ power := by gcongr; norm_num
      _ = 10 ^ (count + power : Int) := (zpow_add₀ (by norm_num) _ _).symm
  · have digits' : (10 : ℚ) ^ (count : Int) ≤ digits := by exact_mod_cast not_lt.mp more
    rw [zpow_add₀ (by norm_num)]
    gcongr

-- A number on a finer grid that has no more digits would be less than nine tenths of the one found.
theorem coarsest_level (inside : interval.Contains (other * 10 ^ power')) (least : 10 ^ count ≤ digits)
    (few : other < 10 ^ (count + 1)) (close : 9 * (digits * 10 ^ power) < 10 * (other * 10 ^ power' : ℚ)) : power' = power := by
  refine le_antisymm (not_lt.mp fun coarser => coarsest.misses power' coarser other inside) (not_lt.mp fun finer => ?_)
  have step : (10 : ℚ) * 10 ^ power' ≤ 10 ^ power := by
    rw [← zpow_one_add₀ (by norm_num)]
    exact zpow_le_zpow_right₀ (by norm_num) (by omega)
  have bound := no_power_between coarsest (count + power) inside ?_ ?_
  · obtain rfl : count = 0 := by omega
    have digit : (other : ℚ) ≤ 9 := by exact_mod_cast Nat.lt_succ_iff.mp few
    have some : (1 : ℚ) ≤ digits := by exact_mod_cast least
    have under := mul_le_mul_of_nonneg_right digit (zpow_pos (by norm_num : (0 : ℚ) < 10) power').le
    have more := mul_le_mul_of_nonneg_right some (zpow_pos (by norm_num : (0 : ℚ) < 10) power).le
    linarith
  · have digits' : (other : ℚ) < 10 ^ (count + 1) := by exact_mod_cast few
    calc (other * 10 ^ power' : ℚ) < 10 ^ (count + 1) * 10 ^ power' := by gcongr
      _ = 10 ^ (count : Int) * (10 * 10 ^ power') := by rw [pow_succ, zpow_natCast, mul_assoc]
      _ ≤ 10 ^ (count : Int) * 10 ^ power := by gcongr
      _ = 10 ^ (count + power : Int) := (zpow_add₀ (by norm_num) _ _).symm
  · have digits' : (10 : ℚ) ^ (count : Int) ≤ digits := by exact_mod_cast least
    rw [zpow_add₀ (by norm_num)]
    gcongr

end

theorem search_coarsest (proper : interval.Proper) (power : Int) {grids : Nat} (enough : interval.startPower - grids < power)
    (fine : interval.low / interval.denominator + 10 ^ power < (interval.high / interval.denominator : ℚ)) :
    ∃ digits found, interval.search grids interval.startPower = some (digits, found) ∧ interval.Coarsest found digits := by
  obtain ⟨taken, failed⟩ := interval.search_cases grids interval.startPower
  obtain ⟨multiplier, inside⟩ := grid_meets proper power fine
  have tried : power ≤ interval.startPower := by
    by_contra past
    exact misses_from_start proper (not_le.mp past).le multiplier inside
  cases result : interval.search grids interval.startPower with
  | none => exact absurd inside ((on_grid_cases proper power).2 (failed result power enough tried) multiplier)
  | some found =>
      obtain ⟨digits, found⟩ := found
      obtain ⟨hit, misses⟩ := taken digits found result
      refine ⟨digits, found, rfl, (on_grid_cases proper found).1 digits hit, fun coarser above => ?_⟩
      rcases Int.le_total coarser interval.startPower with under | past
      · exact (on_grid_cases proper coarser).2 (misses coarser above under)
      · exact misses_from_start proper past

end RoundingInterval

namespace BinaryFormat

variable {format : BinaryFormat} {float : BinaryFloat} {x : ℚ}

theorem interval_proper (format : BinaryFormat) (some : 0 < float.significand) : (format.interval float).Proper := by
  unfold interval
  dsimp only
  cases float.exponent - 2 with
  | ofNat up =>
      have unit : 0 < twoPow up := Nat.two_pow_pos up
      refine ⟨Nat.one_pos, Nat.mul_pos ?_ unit, Nat.mul_lt_mul_of_pos_right ?_ unit, Nat.mul_lt_mul_of_pos_right ?_ unit⟩
      · split <;> omega
      · split <;> omega
      · omega
  | negSucc down =>
      refine ⟨Nat.two_pow_pos _, ?_, ?_, ?_⟩
      · dsimp only
        split <;> omega
      · dsimp only
        split <;> omega
      · dsimp only
        omega

theorem shortest_coarsest (holds : format.Holds float) (precise : 0 < format.precision) (some : 0 < float.significand) :
    ∃ digits power, format.shortest float = .some (digits, power) ∧ (format.interval float).Coarsest power digits := by
  have proper := format.interval_proper some
  obtain ⟨low, -, high⟩ := format.interval_ends float some
  obtain ⟨least, -⟩ := RoundingInterval.start_power_bounds proper
  refine RoundingInterval.search_coarsest proper ((format.interval float).startPower - 2 - format.precision)
    (by push_cast; omega) ?_
  have up := above_pos float
  have digits : (float.significand : ℚ) + 1 ≤ 2 ^ format.precision := by exact_mod_cast holds.few
  have most : float.value + above float ≤ 2 ^ format.precision * (2 * above float) := by
    rw [BinaryFloat.value, ← two_above]
    nlinarith
  have five : (2 : ℚ) < 5 ^ format.precision := by
    calc (2 : ℚ) < 5 ^ 1 := by norm_num
      _ ≤ 5 ^ format.precision := pow_le_pow_right₀ (by norm_num) precise
  rw [high] at least
  rw [low, high]
  suffices few : 10 ^ ((format.interval float).startPower - 2 - format.precision) < above float by
    linarith [format.below_pos float]
  generalize (format.interval float).startPower - 2 = power at least ⊢
  calc (10 : ℚ) ^ (power - format.precision) = 10 ^ power / 10 ^ format.precision := by
        rw [zpow_sub₀ (by norm_num), zpow_natCast]
    _ ≤ 2 ^ format.precision * (2 * above float) / 10 ^ format.precision := by
        gcongr
        exact least.trans most
    _ = above float * (2 / 5 ^ format.precision) := by
        rw [show (10 : ℚ) = 2 * 5 by norm_num, mul_pow]
        field_simp
    _ < above float := mul_lt_of_lt_one_right up ((div_lt_one (by positivity)).mpr five)

theorem writes_unique {y : ℚ} (writes : format.Writes float x) (writes' : format.Writes float y) : x = y := by
  obtain ⟨near, tie⟩ := writes.nearest y writes'.reads fun count => writes'.fewest x count writes.reads
  obtain ⟨near', tie'⟩ := writes'.nearest x writes.reads fun count => writes.fewest y count writes'.reads
  have same := le_antisymm near near'
  exact le_antisymm (tie' same.symm) (tie same)

section

variable (precise : 4 < format.precision) (full : 2 ^ (format.precision - 1) ≤ float.significand)
include precise full

theorem rounding_close {y : ℚ} (rounds : format.Rounds x float) (rounds' : format.Rounds y float) : 9 * x < 10 * y := by
  have some := full_pos full
  have inside := (rounds_iff_contains rounds.holds (by omega) some).mp rounds
  have inside' := (rounds_iff_contains rounds.holds (by omega) some).mp rounds'
  obtain ⟨-, high, -⟩ := (contains_iff format some).mp inside
  obtain ⟨low, -, -⟩ := (contains_iff format some).mp inside'
  have bits : (16 : ℚ) ≤ float.significand := by
    have many : 2 ^ 4 ≤ float.significand := (Nat.pow_le_pow_right (by decide) (by omega)).trans full
    exact_mod_cast many
  have value : float.value = float.significand * (2 * above float) := by rw [two_above, BinaryFloat.value]
  have wide := mul_le_mul_of_nonneg_right bits (above_pos float).le
  have narrow := format.below_le float
  have up := above_pos float
  linarith

theorem shortest_writes (holds : format.Holds float) :
    ∃ digits power, format.shortest float = some (digits, power) ∧ format.Writes float (digits * 10 ^ power) ∧
      (format.interval float).Coarsest power digits := by
  have some := full_pos full
  have proper := format.interval_proper some
  have is (y : ℚ) := rounds_iff_contains (x := y) holds (by omega) some
  obtain ⟨digits, power, found, coarsest⟩ := shortest_coarsest holds (by omega) some
  have reads := (is _).mpr coarsest.hit.contained
  have positive : 0 < digits := by
    have more := RoundingInterval.contained_pos proper coarsest.hit.contained
    exact_mod_cast pos_of_mul_pos_left more (zpow_pos (by norm_num) power).le
  refine ⟨digits, power, found, ⟨reads, ?_, ?_⟩, coarsest⟩
  · rintro _ count rounds ⟨other, power', few, rfl⟩
    exact ⟨digits, power, RoundingInterval.coarsest_few coarsest proper ((is _).mp rounds) few, rfl⟩
  · intro y rounds fewest
    have least : 10 ^ Nat.log 10 digits ≤ digits := Nat.pow_log_le_self 10 positive.ne'
    have most : digits < 10 ^ (Nat.log 10 digits + 1) := Nat.lt_pow_succ_log_self (by decide) digits
    obtain ⟨other, power', few, rfl⟩ := fewest _ ⟨digits, power, most, rfl⟩
    have inside := (is _).mp rounds
    obtain rfl := RoundingInterval.coarsest_level coarsest inside least few (rounding_close precise full reads rounds)
    have center : (format.interval float).center = float.value := (format.interval_ends float some).2.1
    obtain ⟨near, tie⟩ := coarsest.hit.nearest other inside
    rw [center] at near tie
    exact ⟨near, fun same => RoundingInterval.multiple_le power' (tie same)⟩

theorem writes_of_few {digits : Nat} {power : Int} (rounds : format.Rounds (digits * 10 ^ power) float)
    (few : digits < 2 ^ (format.precision - 1)) : format.Writes float (digits * 10 ^ power) := by
  have some := full_pos full
  have is (y : ℚ) := rounds_iff_contains (x := y) rounds.holds (by omega) some
  obtain ⟨shortest, power', -, writes, coarsest⟩ := shortest_writes precise full rounds.holds
  have inside := (is _).mp rounds
  have coarser : power ≤ power' := not_lt.mp fun finer => coarsest.misses power finer digits inside
  obtain ⟨low, high, -⟩ := (contains_iff format some).mp inside
  obtain ⟨low', high', -⟩ := (contains_iff format some).mp coarsest.hit.contained
  have narrow := format.below_le float
  have up := above_pos float
  have unit : (0 : ℚ) < 10 ^ power := zpow_pos (by norm_num) power
  have apart : 2 * above float < 10 ^ power := by
    by_contra wide
    have fewer : (digits : ℚ) + 1 ≤ float.significand := by exact_mod_cast few.trans_le full
    have most := mul_le_mul_of_nonneg_left (not_lt.mp wide) (Nat.cast_nonneg (α := ℚ) digits)
    have least := mul_le_mul_of_nonneg_right fewer (by linarith : 0 ≤ 2 * above float)
    have value : float.value = float.significand * (2 * above float) := by rw [two_above, BinaryFloat.value]
    linarith
  obtain ⟨raised, rfl⟩ := Int.le.dest coarser
  have whole : (shortest * 10 ^ (power + raised) : ℚ) = (shortest * 10 ^ raised : Nat) * 10 ^ power := by
    rw [zpow_add₀ (by norm_num), zpow_natCast]
    push_cast
    ring
  rw [whole] at low' high' writes
  generalize shortest * 10 ^ raised = other at low' high' writes
  have alone {front back : Nat} (least : float.value - format.below float ≤ front * 10 ^ power)
      (most : back * 10 ^ power ≤ float.value + above float) : back ≤ front := not_lt.mp fun less => by
    have next := RoundingInterval.multiple_le power (Nat.succ_le_of_lt less)
    push_cast at next
    linarith
  rwa [Nat.le_antisymm (alone low high') (alone low' high)] at writes

theorem writes_few (writes : format.Writes float x) {count : Nat} (enough : 2 ^ format.precision + 1 < 10 ^ count) :
    HasDigits (count + 1) x := by
  have some := full_pos full
  obtain ⟨digits, power, -, writes', coarsest⟩ := shortest_writes precise full writes.reads.holds
  refine ⟨digits, power, ?_, writes_unique writes writes'⟩
  by_contra many
  obtain ⟨low, -, high⟩ := format.interval_ends float some
  have inside := (rounds_iff_contains writes.reads.holds (by omega) some).mp writes'.reads
  obtain ⟨-, most, -⟩ := (contains_iff format some).mp inside
  have up := above_pos float
  have fine : (10 : ℚ) ^ (power + 1) < above float + format.below float := by
    have enough' : (2 : ℚ) ^ format.precision + 1 < 10 ^ count := by exact_mod_cast enough
    have step : (10 : ℚ) ^ count * 10 ^ (power + 1) ≤ (2 * float.significand + 1) * above float := by
      have many' : (10 : ℚ) ^ (count + 1) ≤ digits := by exact_mod_cast not_lt.mp many
      calc (10 : ℚ) ^ count * 10 ^ (power + 1) = 10 ^ (count + 1) * 10 ^ power := by
            rw [zpow_add_one₀ (by norm_num), pow_succ]
            ring
        _ ≤ digits * 10 ^ power := by gcongr
        _ ≤ float.value + above float := most
        _ = (2 * float.significand + 1) * above float := by
            rw [BinaryFloat.value, ← two_above]
            ring
    by_cases narrow : format.Narrow float
    · have bits : (2 : ℚ) * float.significand = 2 ^ format.precision := by
        exact_mod_cast (congrArg (2 * ·) narrow.1).trans (two_pow_pred (by omega)).symm
      have less : (10 : ℚ) ^ (power + 1) < above float := by
        refine lt_of_mul_lt_mul_left (step.trans_lt ?_) (by positivity : (0 : ℚ) ≤ 10 ^ count)
        rw [bits]
        exact mul_lt_mul_of_pos_right enough' up
      linarith [format.below_pos float]
    · have bits : (float.significand : ℚ) < 2 ^ format.precision := by exact_mod_cast writes.reads.holds.few
      rw [below_of_wide narrow]
      refine lt_of_mul_lt_mul_left (step.trans_lt ?_) (by positivity : (0 : ℚ) ≤ 10 ^ count)
      rw [← two_mul, ← mul_assoc]
      exact mul_lt_mul_of_pos_right (by linarith) up
  obtain ⟨multiplier, hit⟩ := RoundingInterval.grid_meets (format.interval_proper some) (power + 1)
    (by rw [low, high]; linarith)
  exact coarsest.misses (power + 1) (Int.lt_succ power) multiplier hit

end

end BinaryFormat

namespace Decimal

variable {format : BinaryFormat} {decimal : Decimal}

theorem has_abs_iff (decimal : Decimal) (digits : Nat) (power : Int) :
    decimal.hasAbs digits power ↔ |decimal.value| = digits * 10 ^ power := by
  rw [abs_value, div_eq_iff (by positivity)]
  unfold hasAbs
  cases power with
  | ofNat up =>
      rw [beq_iff_eq, eq_comm, Int.ofNat_eq_natCast, zpow_natCast]
      exact_mod_cast Iff.rfl
  | negSucc down =>
      rw [beq_iff_eq, eq_comm, zpow_negSucc, mul_right_comm, ← div_eq_mul_inv, eq_div_iff (by positivity)]
      exact_mod_cast Iff.rfl

theorem rounds_to_nearest (precise : 1 < format.precision) (least : format.minExponent + (format.precision - 1) ≤ -94)
    (some : decimal.coefficient ≠ 0) :
    format.Rounds |decimal.value| (format.nearest decimal.coefficient (tenPow decimal.scale)) ∧
      2 ^ (format.precision - 1) ≤ (format.nearest decimal.coefficient (tenPow decimal.scale)).significand := by
  have value : |decimal.value| = decimal.coefficient / (tenPow decimal.scale : Nat) := by
    rw [abs_value, ten_pow_eq, Nat.cast_pow]
    rfl
  rw [value]
  refine format.nearest_rounds precise (Nat.pos_of_ne_zero some) (Nat.pow_pos (by decide)) ?_
  have one : (1 : ℚ) ≤ decimal.coefficient := by exact_mod_cast Nat.pos_of_ne_zero some
  rw [← value, abs_value]
  calc (2 : ℚ) ^ (format.minExponent + (format.precision - 1)) ≤ 2 ^ (-94 : Int) := zpow_le_zpow_right₀ (by norm_num) least
    _ ≤ 1 / 10 ^ 28 := by norm_num
    _ ≤ decimal.coefficient / 10 ^ decimal.scale := by
      gcongr
      · norm_num
      · exact decimal.scale_le

theorem survives_iff (precise : 4 < format.precision) (least : format.minExponent + (format.precision - 1) ≤ -94)
    (some : decimal.coefficient ≠ 0) : decimal.survives format ↔ ∃ float, format.Writes float |decimal.value| := by
  obtain ⟨rounds, full⟩ := rounds_to_nearest (by omega) least some
  unfold survives
  rw [Bool.or_eq_true, beq_iff_eq, or_iff_right some]
  generalize format.nearest decimal.coefficient (tenPow decimal.scale) = float at rounds full ⊢
  obtain ⟨digits, power, found, writes, -⟩ := BinaryFormat.shortest_writes precise full rounds.holds
  rw [found]
  dsimp only
  rw [has_abs_iff]
  constructor
  · intro same
    exact ⟨float, same ▸ writes⟩
  · rintro ⟨other, written⟩
    obtain rfl := BinaryFormat.rounds_unique written.reads rounds (by omega)
    exact BinaryFormat.writes_unique written writes

theorem survives_of_few (format : BinaryFormat) (precise : 4 < format.precision)
    (least : format.minExponent + (format.precision - 1) ≤ -94) (some : decimal.coefficient ≠ 0) {digits : Nat}
    {power : Int} (same : |decimal.value| = digits * 10 ^ power) (few : digits < 2 ^ (format.precision - 1)) :
    decimal.survives format := by
  obtain ⟨rounds, full⟩ := rounds_to_nearest (by omega) least some
  rw [survives_iff precise least some]
  rw [same] at rounds ⊢
  exact ⟨_, BinaryFormat.writes_of_few precise full rounds few⟩

theorem survivor_few (precise : 4 < format.precision) (least : format.minExponent + (format.precision - 1) ≤ -94)
    (some : decimal.coefficient ≠ 0) (survives : decimal.survives format) (count : Nat)
    (enough : 2 ^ format.precision + 1 < 10 ^ count) : HasDigits (count + 1) |decimal.value| := by
  obtain ⟨rounds, full⟩ := rounds_to_nearest (by omega) least some
  obtain ⟨float, writes⟩ := (survives_iff precise least some).mp survives
  obtain rfl := BinaryFormat.rounds_unique writes.reads rounds (by omega)
  exact BinaryFormat.writes_few precise full writes enough

end Decimal

end QueryOptions
