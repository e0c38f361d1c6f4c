import ComponentTree.Decimal.Shortest
import Mathlib.Algebra.Order.Field.Power
import Mathlib.Data.Rat.Cast.Order
import Mathlib.Tactic.FieldSimp
import Mathlib.Tactic.Linarith
import Mathlib.Tactic.NormNum
import Mathlib.Tactic.Positivity
import Mathlib.Tactic.Ring

/-!
The reals that round to a floating-point number, and the decimal that is chosen among them. Numbers
are compared as rationals here: `Binary64.magnitude` and `Digits.value`.

* `Binary64.Rounds` — a rational rounds to the magnitude of a number: it lies within half a unit of
  it, a quarter below a power of two, and on the border only if the mantissa is even.
* `Rounds.unique` — a rational rounds to one magnitude at most. Two intervals meet in one point at
  most, and of two numbers next to each other one has an odd mantissa.
* `rounds_shortest` — the shortest decimal of a number rounds to it.
-/

namespace ComponentTree

/-! ### Powers -/

theorem cast_twoPow (n : Nat) : (twoPow n : ℚ) = 2 ^ n := by
  simp [twoPow]

theorem cast_tenPow (n : Nat) : (tenPow n : ℚ) = 10 ^ n := by
  simp [tenPow]

/-- A power with an exponent of either sign, as a ratio of two powers. -/
theorem pow_toNat_div (b : ℚ) (e : Int) : b ^ e.toNat / b ^ (-e).toNat = b ^ e := by
  cases e with
  | ofNat n => simp
  | negSucc n => simp [Int.neg_negSucc, zpow_negSucc]

namespace Decimal.Digits

/-- The value of a decimal. -/
def value (d : Digits) : ℚ :=
  d.digits * 10 ^ d.exponent

theorem ratio_eq_value (d : Digits) : (d.ratio.1 : ℚ) / d.ratio.2 = d.value := by
  rw [value, ← pow_toNat_div, ratio]
  push_cast [cast_tenPow]
  ring

theorem ratio_pos (d : Digits) : 0 < d.ratio.2 :=
  tenPow_pos _

end Decimal.Digits

namespace Binary64

/-! ### Rounding to a magnitude -/

variable {x y : Binary64} {q : ℚ}

/-- The number without its sign. -/
def magnitude (x : Binary64) : ℚ :=
  x.mantissa * 2 ^ x.exponent

/-- How far below a magnitude the reals that round to it reach, in its unit. -/
def reach (x : Binary64) : ℚ :=
  if x.mantissa = twoPow 52 ∧ x.exponent ≠ -1074 then 1 / 4 else 1 / 2

/-- The least real that is not below all those that round to the magnitude. -/
def low (x : Binary64) : ℚ :=
  (x.mantissa - x.reach) * 2 ^ x.exponent

/-- The greatest one that is not above them. -/
def high (x : Binary64) : ℚ :=
  (x.mantissa + 1 / 2) * 2 ^ x.exponent

/-- A rational rounds to the magnitude of a number. -/
structure Rounds (x : Binary64) (q : ℚ) : Prop where
  low_le : x.low ≤ q
  le_high : q ≤ x.high
  /-- Ties go to the even mantissa. -/
  inside : x.mantissa % 2 = 1 → x.low < q ∧ q < x.high

theorem unit_pos (x : Binary64) : (0 : ℚ) < 2 ^ x.exponent := by
  positivity

theorem reach_cases (x : Binary64) : x.reach = 1 / 4 ∨ x.reach = 1 / 2 := by
  unfold reach
  split
  · exact .inl rfl
  · exact .inr rfl

theorem rounds_magnitude (x : Binary64) : x.Rounds x.magnitude := by
  have unit := x.unit_pos
  have below : x.low < x.magnitude := by
    have positive : 0 < x.reach := by rcases x.reach_cases with h | h <;> rw [h] <;> norm_num
    exact mul_lt_mul_of_pos_right (by linarith) unit
  have above : x.magnitude < x.high := mul_lt_mul_of_pos_right (by linarith) unit
  exact ⟨below.le, above.le, fun _ => ⟨below, above⟩⟩

/-- Nothing that rounds to a number other than zero is zero. -/
theorem Rounds.pos (rounds : x.Rounds q) (nonzero : x.mantissa ≠ 0) : 0 < q := by
  have one : (1 : ℚ) ≤ x.mantissa := by exact_mod_cast Nat.one_le_iff_ne_zero.mpr nonzero
  have low : 0 < x.low := by
    refine mul_pos ?_ x.unit_pos
    rcases x.reach_cases with h | h <;> rw [h] <;> linarith
  exact low.trans_le rounds.low_le

/-! ### Different magnitudes -/

/-- Of two numbers in one unit, what rounds to the lesser lies below what rounds to the greater. -/
theorem Rounds.not_lt_mantissa (hx : x.Rounds q) (hy : y.Rounds q)
    (same : x.exponent = y.exponent) : ¬x.mantissa < y.mantissa := by
  intro less
  have unit := y.unit_pos
  have reach : y.reach ≤ 1 / 2 := by rcases y.reach_cases with h | h <;> norm_num [h]
  have high : x.high = (x.mantissa + 1 / 2) * 2 ^ y.exponent := by rw [Binary64.high, same]
  rcases Nat.lt_or_eq_of_le (Nat.succ_le_of_lt less) with far | near
  · -- There is a number in between.
    have far : (x.mantissa : ℚ) + 2 ≤ y.mantissa := by exact_mod_cast far
    have apart : x.high < y.low := by
      rw [high]
      exact mul_lt_mul_of_pos_right (by linarith) unit
    linarith [hx.le_high, hy.low_le]
  · -- The two are neighbours, so one of them is odd.
    have near' : (x.mantissa : ℚ) + 1 = y.mantissa := by exact_mod_cast near
    have meet : x.high ≤ y.low := by
      rw [high]
      exact mul_le_mul_of_nonneg_right (by linarith) unit.le
    rcases Nat.mod_two_eq_zero_or_one x.mantissa with even | odd
    · have odd : y.mantissa % 2 = 1 := by omega
      linarith [hx.le_high, (hy.inside odd).1]
    · linarith [(hx.inside odd).2, hy.low_le]

/-- What rounds to a number in a lesser unit lies below what rounds to one in a greater unit. -/
theorem Rounds.not_lt_exponent (hx : x.Rounds q) (hy : y.Rounds q) :
    ¬x.exponent < y.exponent := by
  intro less
  have unit := x.unit_pos
  obtain ⟨bounded, -, -, -⟩ := x.canonical
  obtain ⟨-, least, -, full⟩ := y.canonical
  obtain ⟨-, leastX, -, -⟩ := x.canonical
  have full : twoPow 52 ≤ y.mantissa := full.resolve_right (by omega)
  have fullQ : (2 : ℚ) ^ 52 ≤ y.mantissa := by
    rw [← cast_twoPow]
    exact_mod_cast full
  -- The border is the same as if the greater number were the least one in the next unit.
  have border : (2 ^ 53 - 1 / 2 : ℚ) * 2 ^ x.exponent ≤ y.low := by
    have coefficient : (2 ^ 52 - 1 / 4 : ℚ) ≤ y.mantissa - y.reach := by
      unfold reach
      split
      · linarith
      · next other =>
        have above : twoPow 52 < y.mantissa := by
          refine lt_of_le_of_ne full fun h => other ⟨h.symm, ?_⟩
          omega
        have aboveQ : (2 : ℚ) ^ 52 + 1 ≤ y.mantissa := by
          rw [← cast_twoPow]
          exact_mod_cast above
        linarith
    have doubled : (2 : ℚ) ^ (x.exponent + 1) ≤ 2 ^ y.exponent :=
      zpow_le_zpow_right₀ (by norm_num) (by omega)
    calc (2 ^ 53 - 1 / 2 : ℚ) * 2 ^ x.exponent
      _ = (2 ^ 52 - 1 / 4) * 2 ^ (x.exponent + 1) := by
        rw [zpow_add_one₀ (by norm_num)]
        ring
      _ ≤ (2 ^ 52 - 1 / 4) * 2 ^ y.exponent := mul_le_mul_of_nonneg_left doubled (by norm_num)
      _ ≤ y.low := mul_le_mul_of_nonneg_right coefficient y.unit_pos.le
  rcases Nat.lt_or_eq_of_le (Nat.le_sub_one_of_lt bounded) with lower | last
  · have lowerQ : (x.mantissa : ℚ) + 2 ≤ 2 ^ 53 := by
      rw [← cast_twoPow]
      have : x.mantissa + 2 ≤ twoPow 53 := by omega
      exact_mod_cast this
    have below : x.high < (2 ^ 53 - 1 / 2) * 2 ^ x.exponent :=
      mul_lt_mul_of_pos_right (by linarith) unit
    linarith [hx.le_high, hy.low_le]
  · -- The last mantissa of a unit is odd.
    have odd : x.mantissa % 2 = 1 := by rw [last]; decide
    have lastQ : (x.mantissa : ℚ) + 1 = 2 ^ 53 := by
      rw [last]
      norm_num [twoPow]
    have border' : x.high = (2 ^ 53 - 1 / 2) * 2 ^ x.exponent := by
      rw [high, ← lastQ]
      ring
    linarith [(hx.inside odd).2, hy.low_le]

/-- **A rational rounds to one magnitude at most.** -/
theorem Rounds.unique (hx : x.Rounds q) (hy : y.Rounds q) :
    x.mantissa = y.mantissa ∧ x.exponent = y.exponent := by
  have exponent : x.exponent = y.exponent :=
    le_antisymm (not_lt.mp (hy.not_lt_exponent hx)) (not_lt.mp (hx.not_lt_exponent hy))
  have mantissa : x.mantissa = y.mantissa :=
    le_antisymm (not_lt.mp (hy.not_lt_mantissa hx exponent.symm))
      (not_lt.mp (hx.not_lt_mantissa hy exponent))
  exact ⟨mantissa, exponent⟩

end Binary64

/-! ### The shortest decimal -/

namespace Decimal

open Binary64

variable {x : Binary64}

theorem interval_low (nonzero : x.mantissa ≠ 0) :
    ((Interval.ofBinary64 x).low : ℚ) / (Interval.ofBinary64 x).den = x.low := by
  have one : 1 ≤ x.mantissa := Nat.one_le_iff_ne_zero.mpr nonzero
  rw [Binary64.low, ← pow_toNat_div 2 x.exponent, reach,
    Interval.ofBinary64]
  split
  · push_cast [cast_twoPow, Nat.cast_sub (show 1 ≤ 4 * x.mantissa by omega)]
    field_simp
  · push_cast [cast_twoPow, Nat.cast_sub (show 2 ≤ 4 * x.mantissa by omega)]
    field_simp
    ring

theorem interval_high :
    ((Interval.ofBinary64 x).high : ℚ) / (Interval.ofBinary64 x).den = x.high := by
  rw [Binary64.high, ← pow_toNat_div 2 x.exponent, Interval.ofBinary64]
  push_cast [cast_twoPow]
  field_simp
  ring

/-- What is in the interval of a number rounds to it. -/
theorem rounds_of_contains (nonzero : x.mantissa ≠ 0) {num den : Nat} (pos : 0 < den)
    (contained : (Interval.ofBinary64 x).contains num den = true) : x.Rounds (num / den) := by
  have denPos : (0 : ℚ) < den := by exact_mod_cast pos
  have unitPos : (0 : ℚ) < (Interval.ofBinary64 x).den := by
    have : 0 < (Interval.ofBinary64 x).den := Nat.mul_pos (by decide) (twoPow_pos _)
    exact_mod_cast this
  have closed : (Interval.ofBinary64 x).closed = decide (x.mantissa % 2 = 0) := rfl
  rw [Interval.contains, closed] at contained
  by_cases even : x.mantissa % 2 = 0
  · have low : x.low ≤ num / den := by
      rw [← interval_low nonzero, div_le_div_iff₀ unitPos denPos]
      simp only [even, decide_true, if_true, Bool.and_eq_true, decide_eq_true_eq] at contained
      exact_mod_cast contained.1
    have high : num / den ≤ x.high := by
      rw [← interval_high, div_le_div_iff₀ denPos unitPos]
      simp only [even, decide_true, if_true, Bool.and_eq_true, decide_eq_true_eq] at contained
      exact_mod_cast contained.2
    exact ⟨low, high, fun odd => absurd odd (by omega)⟩
  · have low : x.low < num / den := by
      rw [← interval_low nonzero, div_lt_div_iff₀ unitPos denPos]
      simp only [even, decide_false, Bool.false_eq_true, if_false, Bool.and_eq_true,
        decide_eq_true_eq] at contained
      exact_mod_cast contained.1
    have high : num / den < x.high := by
      rw [← interval_high, div_lt_div_iff₀ denPos unitPos]
      simp only [even, decide_false, Bool.false_eq_true, if_false, Bool.and_eq_true,
        decide_eq_true_eq] at contained
      exact_mod_cast contained.2
    exact ⟨low.le, high.le, fun _ => ⟨low, high⟩⟩

/-- What is found on a grid is in the interval. -/
theorem contains_of_nearestOnGrid {range : Interval} {num den : Nat} {exponent : Int} {d : Digits}
    (found : nearestOnGrid range num den exponent = some d) :
    range.contains d.ratio.1 d.ratio.2 = true := by
  simp only [nearestOnGrid] at found
  split at found <;> split at found
  · next held => rwa [← Option.some.inj found]
  · split at found
    · next held => rwa [← Option.some.inj found]
    · exact nomatch found
  · next held => rwa [← Option.some.inj found]
  · split at found
    · next held => rwa [← Option.some.inj found]
    · exact nomatch found

/-- What the grids from the coarsest to the finest come to: a point in the interval, or else the
point of the finest grid right below the ratio. -/
theorem firstOnGrids_cases (range : Interval) (num den : Nat) (finest : Int) (steps : Nat) :
    range.contains (firstOnGrids range num den finest steps).ratio.1
        (firstOnGrids range num den finest steps).ratio.2 = true ∨
      firstOnGrids range num den finest steps
        = ⟨num * tenPow (-finest).toNat / (den * tenPow finest.toNat), finest⟩ := by
  induction steps with
  | zero => exact .inr rfl
  | succ steps ih =>
    rw [firstOnGrids]
    split
    · next hit => exact .inl (contains_of_nearestOnGrid hit)
    · exact ih

/-- The finest grid holds the magnitude itself. -/
theorem value_finest (x : Binary64) :
    Digits.value
        ⟨x.ratio.1 * tenPow (-min x.exponent 0).toNat
          / (x.ratio.2 * tenPow (min x.exponent 0).toNat), min x.exponent 0⟩
      = x.magnitude := by
  rcases le_total 0 x.exponent with whole | fraction
  · obtain ⟨n, hn⟩ := Int.eq_ofNat_of_zero_le whole
    simp [Digits.value, magnitude, Binary64.ratio, hn, twoPow, tenPow]
  · obtain ⟨n, hn⟩ := Int.eq_ofNat_of_zero_le (neg_nonneg.mpr fraction)
    have hx : x.exponent = -(n : Int) := by omega
    have num : x.ratio.1 = x.mantissa := by simp [Binary64.ratio, hx, twoPow]
    have den : x.ratio.2 = twoPow n := by simp [Binary64.ratio, hx]
    have ten : tenPow n = 5 ^ n * twoPow n := by
      rw [tenPow, twoPow, Nat.pow_eq, Nat.pow_eq, ← Nat.mul_pow]
    have digits : x.mantissa * tenPow n / (twoPow n * tenPow 0) = x.mantissa * 5 ^ n := by
      rw [ten, ← Nat.mul_assoc, show tenPow 0 = 1 from rfl, Nat.mul_one,
        Nat.mul_div_cancel _ (twoPow_pos n)]
    have least : min x.exponent 0 = -(n : Int) := by omega
    rw [num, den, least, neg_neg, Int.toNat_natCast, show (-(n : Int)).toNat = 0 by omega, digits,
      Digits.value, magnitude, hx]
    push_cast
    rw [mul_assoc, zpow_neg, zpow_neg, zpow_natCast, zpow_natCast,
      show (10 : ℚ) = 5 * 2 by norm_num, mul_pow]
    field_simp

/-- **The shortest decimal rounds back**, to the magnitude that it was chosen for. -/
theorem rounds_shortest (nonzero : x.mantissa ≠ 0) : x.Rounds (shortest x).value := by
  rcases firstOnGrids_cases (Interval.ofBinary64 x) x.ratio.1 x.ratio.2 (min x.exponent 0)
      (((Nat.toDigits 10 (x.ratio.1 / x.ratio.2)).length : Int) - min x.exponent 0).toNat
    with contained | finest
  · have rounds := rounds_of_contains nonzero (Digits.ratio_pos _) contained
    rwa [Digits.ratio_eq_value] at rounds
  · have value := congrArg Digits.value finest
    rw [value_finest] at value
    exact value ▸ x.rounds_magnitude

end Decimal

end ComponentTree
