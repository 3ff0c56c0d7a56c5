import TextScan.Proofs.Floating.Nearest

/-! The arithmetic of a format on amounts: what sums and products of its numbers come to, and how far
from the exact amount. -/
namespace TextScan.Floating
namespace Format
variable {format : Format} {number left right : Number} {exact amount leftAmount rightAmount : ℚ}

theorem roundScaled_yields (regular : format.Regular) (significand : Nat) (exponent : Int) :
    format.Yields (format.roundScaled false significand exponent) (significand * 2 ^ exponent) := by
  have yields := round_yields regular (significand * Nat.pow 2 exponent.toNat)
    (Nat.pow_pos (by omega) : 0 < Nat.pow 2 (-exponent).toNat)
  simp only [Nat.pow_eq, Nat.cast_mul, Nat.cast_pow, Nat.cast_ofNat] at yields
  rwa [pow_toNat_eq, ← mul_assoc, mul_div_assoc, div_self (by positivity), mul_one] at yields

theorem ofNat_yields (regular : format.Regular) (value : Nat) :
    format.Yields (format.ofNat value) value := by
  have yields := round_yields regular value (by omega : 0 < 1)
  rwa [Nat.cast_one, div_one] at yields

/-- A product is rounded once, the exact one being a natural number times a power of two. -/
theorem mul_yields (regular : format.Regular) (isLeft : format.Represents left leftAmount)
    (isRight : format.Represents right rightAmount) :
    format.Yields (format.mul left right) (leftAmount * rightAmount) := by
  obtain ⟨significand, exponent, rfl, rfl, -⟩ := isLeft
  obtain ⟨significand', exponent', rfl, rfl, -⟩ := isRight
  have yields := roundScaled_yields regular (significand * significand') (exponent + exponent')
  rw [zpow_add₀ (by norm_num), Nat.cast_mul, mul_mul_mul_comm] at yields
  exact yields

theorem add_finite (format : Format) (significand significand' : Nat) (exponent exponent' : Int) :
    format.add (.finite false significand exponent) (.finite false significand' exponent') =
      format.roundScaled false
        (significand * Nat.pow 2 (exponent - min exponent exponent').toNat +
          significand' * Nat.pow 2 (exponent' - min exponent exponent').toNat)
        (min exponent exponent') := by
  have sum (value : Nat) (unit : Int) : (if (value : Int) = 0 then format.zero (false && false) else
      format.roundScaled (decide ((value : Int) < 0)) (value : Int).natAbs unit) =
        format.roundScaled false value unit := by
    split_ifs with none
    · obtain rfl : value = 0 := by omega
      simp [roundScaled, round]
    · rw [decide_eq_false (by omega), Int.natAbs_natCast]
  exact sum _ _

/-- To add a zero that has the other sign is to round once more, and zero stays positive. -/
theorem add_negative_zero (format : Format) (significand : Nat) (exponent exponent' : Int) :
    format.add (.finite false significand exponent) (.finite true 0 exponent') =
      format.roundScaled false (significand * Nat.pow 2 (exponent - min exponent exponent').toNat)
        (min exponent exponent') := by
  have sum (value weight : Nat) (unit : Int) :
      (if (value : Int) + -(0 * weight : Nat) = 0 then format.zero (false && true) else
        format.roundScaled (decide ((value : Int) + -(0 * weight : Nat) < 0))
          ((value : Int) + -(0 * weight : Nat)).natAbs unit) = format.roundScaled false value unit := by
    rw [Nat.zero_mul, Nat.cast_zero, neg_zero, add_zero]
    split_ifs with none
    · obtain rfl : value = 0 := by omega
      simp [roundScaled, round]
    · rw [decide_eq_false (by omega), Int.natAbs_natCast]
  exact sum _ _ _

/-- A sum is rounded once, the smaller of the two units being one for both. -/
theorem add_yields (regular : format.Regular) (isLeft : format.Represents left leftAmount)
    (isRight : format.Represents right rightAmount) :
    format.Yields (format.add left right) (leftAmount + rightAmount) := by
  obtain ⟨significand, exponent, rfl, rfl, -⟩ := isLeft
  obtain ⟨significand', exponent', rfl, rfl, -⟩ := isRight
  have yields := roundScaled_yields regular
    (significand * Nat.pow 2 (exponent - min exponent exponent').toNat +
      significand' * Nat.pow 2 (exponent' - min exponent exponent').toNat) (min exponent exponent')
  have raised (size : Int) (least : min exponent exponent' ≤ size) :
      (2 : ℚ) ^ (size - min exponent exponent').toNat * 2 ^ min exponent exponent' = 2 ^ size := by
    rw [← zpow_natCast, ← zpow_add₀ (by norm_num)]
    congr 1
    omega
  rw [add_finite]
  simpa only [Nat.pow_eq, Nat.cast_add, Nat.cast_mul, Nat.cast_pow, Nat.cast_ofNat, add_mul, mul_assoc,
    raised _ (min_le_left _ _), raised _ (min_le_right _ _)] using yields

section Representable

theorem Represents.unique (is : format.Represents number leftAmount)
    (also : format.Represents number rightAmount) : leftAmount = rightAmount := by
  obtain ⟨significand, exponent, rfl, rfl, -⟩ := is
  obtain ⟨_, _, same, rfl, -⟩ := also
  cases same
  rfl

theorem Represents.nonneg (is : format.Represents number amount) : 0 ≤ amount := by
  obtain ⟨significand, exponent, rfl, rfl, -⟩ := is
  positivity

theorem Represents.isZero_iff (is : format.Represents number amount) :
    number.isZero = true ↔ amount = 0 := by
  obtain ⟨significand, exponent, rfl, rfl, -⟩ := is
  simp [Number.isZero, zpow_ne_zero]

theorem Represents.le_largest (is : format.Represents number amount) : amount ≤ format.largest := by
  obtain ⟨significand, exponent, rfl, rfl, below, -, within⟩ := is
  have most : (significand : ℚ) ≤ 2 ^ format.precision - 1 := by
    rw [le_sub_iff_add_le]
    exact_mod_cast below
  have raised : (2 : ℚ) ^ exponent ≤ 2 ^ format.greatestExponent :=
    zpow_le_zpow_right₀ (by norm_num) within
  unfold largest
  gcongr
  exact le_trans (by positivity) most

theorem add_infinite (is : format.Represents number amount) :
    format.add (.infinite false) number = .infinite false := by
  obtain ⟨_, _, rfl, -⟩ := is
  rfl

theorem mul_infinite (is : format.Represents number amount) (nonzero : amount ≠ 0) :
    format.mul (.infinite false) number = .infinite false := by
  obtain ⟨significand, exponent, rfl, rfl, -⟩ := is
  have some : significand ≠ 0 := by
    rintro rfl
    simp at nonzero
  simp [mul, some]

end Representable

/-- A whole number of the smallest units there are. -/
def OnGrid (format : Format) (amount : ℚ) : Prop :=
  ∃ units : Nat, amount = units * 2 ^ format.leastExponent

theorem onGrid_of_le {exponent : Int} (least : format.leastExponent ≤ exponent) (units : Nat) :
    format.OnGrid (units * 2 ^ exponent) := by
  refine ⟨units * 2 ^ (exponent - format.leastExponent).toNat, ?_⟩
  rw [Nat.cast_mul, Nat.cast_pow, Nat.cast_ofNat, mul_assoc, ← zpow_natCast, ← zpow_add₀ (by norm_num)]
  congr 2
  omega

theorem Represents.onGrid (is : format.Represents number amount) : format.OnGrid amount := by
  obtain ⟨significand, exponent, rfl, rfl, -, least, -⟩ := is
  exact onGrid_of_le least significand

theorem Regular.onGrid_natCast (regular : format.Regular) (value : Nat) : format.OnGrid value := by
  simpa using onGrid_of_le regular.least_le value

theorem OnGrid.add (left : format.OnGrid leftAmount) (right : format.OnGrid rightAmount) :
    format.OnGrid (leftAmount + rightAmount) := by
  obtain ⟨units, rfl⟩ := left
  obtain ⟨units', rfl⟩ := right
  exact ⟨units + units', by push_cast; ring⟩

theorem OnGrid.natCast_mul (on : format.OnGrid amount) (value : Nat) : format.OnGrid (value * amount) := by
  obtain ⟨units, rfl⟩ := on
  exact ⟨value * units, by push_cast; ring⟩

theorem OnGrid.least_le (on : format.OnGrid amount) (nonzero : amount ≠ 0) :
    2 ^ format.leastExponent ≤ amount := by
  obtain ⟨units, rfl⟩ := on
  have some : 1 ≤ units := Nat.one_le_iff_ne_zero.mpr (by rintro rfl; simp at nonzero)
  exact le_mul_of_one_le_left (by positivity) (by exact_mod_cast some)

/-- The most by which rounding changes an amount on the grid, in proportion to it. -/
def slack (format : Format) : ℚ :=
  1 / 2 ^ format.precision

namespace Rounds

theorem eq_of_whole (rounds : format.Rounds exact amount) (units : Nat)
    (whole : exact = units * format.unit exact) : amount = exact := by
  obtain ⟨steps, same⟩ := rounds.whole
  have size := format.unit_pos exact
  have near := rounds.near
  have apart : amount - exact = ((steps : Int) - units : Int) * format.unit exact := by
    rw [same]
    nth_rewrite 2 [whole]
    push_cast
    ring
  rw [apart, abs_mul, abs_of_pos size] at near
  have less : |(((steps : Int) - units : Int) : ℚ)| < 1 := by
    by_contra more
    have := mul_le_mul_of_nonneg_right (not_lt.mp more) size.le
    linarith
  have none : ((steps : Int) - units : Int) = 0 := Int.abs_lt_one_iff.mp (by exact_mod_cast less)
  rwa [none, Int.cast_zero, zero_mul, sub_eq_zero] at apart

theorem half_unit_le {exact : ℚ} (positive : 0 < exact)
    (above : format.leastExponent < format.unitExponent exact) :
    format.unit exact / 2 ≤ exact * format.slack := by
  have reached := format.unit_le positive above
  rw [slack, mul_one_div, div_le_div_iff₀ (by norm_num) (by positivity), two_pow_precision]
  linarith

/-- An amount on the grid changes in proportion: where units no longer shrink, it is a whole number of
them and stays. -/
theorem near_of_onGrid (rounds : format.Rounds exact amount) (on : format.OnGrid exact) :
    |amount - exact| ≤ exact * format.slack := by
  obtain ⟨units, whole⟩ := on
  have stays (same : amount = exact) : |amount - exact| ≤ exact * format.slack := by
    rw [same, sub_self, abs_zero, whole]
    unfold slack
    positivity
  rcases (format.leastExponent_le exact).eq_or_lt with least | above
  · exact stays (rounds.eq_of_whole units (by rwa [unit, ← least]))
  · rcases units.eq_zero_or_pos with rfl | some
    · exact stays (rounds.eq_of_whole 0 (by simpa using whole))
    · refine rounds.near.trans (half_unit_le ?_ above)
      rw [whole]
      positivity

theorem lower (rounds : format.Rounds exact amount) (on : format.OnGrid exact) :
    exact * (1 - format.slack) ≤ amount := by
  have near := abs_le.mp (rounds.near_of_onGrid on)
  linarith

theorem upper (rounds : format.Rounds exact amount) (on : format.OnGrid exact) :
    amount ≤ exact * (1 + format.slack) := by
  have near := abs_le.mp (rounds.near_of_onGrid on)
  linarith

/-- Natural numbers are rounded to natural numbers, units below one leaving them as they are. -/
theorem natural {value : Nat} (rounds : format.Rounds value amount) : ∃ total : Nat, amount = total := by
  obtain ⟨steps, same⟩ := rounds.whole
  rcases le_total 0 (format.unitExponent value) with up | down
  · obtain ⟨size, exponent⟩ := Int.eq_ofNat_of_zero_le up
    refine ⟨steps * 2 ^ size, ?_⟩
    rw [same, unit, exponent]
    simp
  · obtain ⟨size, exponent⟩ := Int.exists_eq_neg_ofNat down
    refine ⟨value, rounds.eq_of_whole (value * 2 ^ size) ?_⟩
    rw [unit, exponent]
    simp

/-- An amount of at least the smallest unit does not vanish. -/
theorem pos_of_le (rounds : format.Rounds exact amount) (precise : 0 < format.precision)
    (least : 2 ^ format.leastExponent ≤ exact) : 0 < amount := by
  have positive : 0 < exact := lt_of_lt_of_le (by positivity) least
  have unit_le : format.unit exact ≤ exact := by
    rcases (format.leastExponent_le exact).eq_or_lt with same | above
    · rwa [unit, ← same]
    · refine le_trans ?_ (format.unit_le positive above)
      have size := format.unit_pos exact
      have factor : (1 : ℚ) ≤ 2 ^ (format.precision - 1 : Int) := one_le_zpow₀ (by norm_num) (by omega)
      exact le_mul_of_one_le_left size.le factor
  have near := abs_le.mp rounds.near
  linarith

/-- An amount of less than half the smallest unit vanishes. -/
theorem eq_zero_of_lt (rounds : format.Rounds exact amount) (precise : 0 < format.precision)
    (positive : 0 < exact) (small : 2 * exact < 2 ^ format.leastExponent) : amount = 0 := by
  have below := (Int.lt_zpow_iff_log_lt (by norm_num : 1 < 2) positive).mp
    (by linarith : exact < 2 ^ format.leastExponent)
  have unit : format.unit exact = 2 ^ format.leastExponent := by
    rw [unit, unitExponent, max_eq_left (by omega)]
  obtain ⟨units, whole⟩ := rounds.whole
  have near := abs_le.mp rounds.near
  rw [unit] at whole near
  have few : (units : ℚ) < 1 := by
    by_contra more
    have step := le_mul_of_one_le_left (by positivity : (0 : ℚ) ≤ 2 ^ format.leastExponent) (not_lt.mp more)
    linarith
  have none : units = 0 := Nat.lt_one_iff.mp (by exact_mod_cast few)
  rw [whole, none, Nat.cast_zero, zero_mul]

end Rounds

theorem slack_pos (format : Format) : 0 < format.slack := by
  unfold slack
  positivity

theorem overflow_pos (format : Format) : 0 < format.overflow := by
  have above : (1 : ℚ) ≤ 2 ^ format.precision := one_le_pow₀ (by norm_num)
  unfold overflow
  have : (0 : ℚ) < 2 ^ format.greatestExponent := by positivity
  exact mul_pos (by linarith) this

theorem Regular.largest_pos (regular : format.Regular) : 0 < format.largest := by
  have above : (1 : ℚ) < 2 ^ format.precision := one_lt_pow₀ (by norm_num) regular.positive.ne'
  exact mul_pos (by linarith) (by positivity)

theorem Regular.slack_le (regular : format.Regular) : format.slack ≤ 1 / 256 := by
  have size : (2 : ℚ) ^ 8 ≤ 2 ^ format.precision := pow_le_pow_right₀ (by norm_num) regular.precise
  unfold slack
  gcongr
  linarith

theorem Rounds.close (rounds : format.Rounds exact amount) (regular : format.Regular)
    (on : format.OnGrid exact) : exact * (255 / 256) ≤ amount ∧ amount ≤ exact * (257 / 256) := by
  have near := abs_le.mp (rounds.near_of_onGrid on)
  obtain ⟨units, whole⟩ := on
  have positive : 0 ≤ exact := by
    rw [whole]
    positivity
  have tight := mul_le_mul_of_nonneg_left regular.slack_le positive
  constructor <;> linarith

theorem Rounds.ne_zero_of_lt (rounds : format.Rounds exact amount) (regular : format.Regular)
    (large : 2 ^ format.leastExponent < 2 * exact) : amount ≠ 0 := by
  rintro rfl
  have least : (0 : ℚ) < 2 ^ format.leastExponent := by positivity
  have near := abs_le.mp rounds.near
  rcases (format.leastExponent_le exact).eq_or_lt with same | above
  · rw [unit, ← same] at near
    linarith
  · have half := half_unit_le (by linarith) above
    have tight := mul_le_mul_of_nonneg_left regular.slack_le (by linarith : 0 ≤ exact)
    linarith

theorem Yields.represents (yields : format.Yields number exact) (below : exact < format.overflow) :
    ∃ amount, format.Represents number amount ∧ format.Rounds exact amount := by
  obtain finite | ⟨-, beyond⟩ := yields
  · exact finite
  · exact absurd beyond (not_le.mpr below)

theorem Yields.zero (yields : format.Yields number 0) (regular : format.Regular) :
    format.Represents number 0 := by
  obtain ⟨amount, is, rounds⟩ := yields.represents format.overflow_pos
  have on : format.OnGrid 0 := by simpa using regular.onGrid_natCast 0
  obtain ⟨-, none⟩ := rounds.close regular on
  rw [zero_mul] at none
  rwa [le_antisymm none is.nonneg] at is

theorem Regular.lt_overflow (regular : format.Regular) {value : Nat} (small : value < 2 ^ format.precision) :
    (value : ℚ) < format.overflow := by
  have most : (value : ℚ) + 1 ≤ 2 ^ format.precision := by exact_mod_cast small
  have raised : (1 : ℚ) ≤ 2 ^ format.greatestExponent := one_le_zpow₀ (by norm_num) regular.le_greatest
  have above : (1 : ℚ) ≤ 2 ^ format.precision := one_le_pow₀ (by norm_num)
  unfold overflow
  nlinarith

theorem Regular.largest_eq (regular : format.Regular) :
    format.largest = ((2 ^ format.precision - 1) * 2 ^ format.greatestExponent.toNat : Nat) := by
  obtain ⟨size, exponent⟩ := Int.eq_ofNat_of_zero_le regular.le_greatest
  rw [largest, exponent, Int.toNat_natCast, zpow_natCast]
  push_cast [Nat.one_le_two_pow]
  rfl

theorem Regular.leastExponent_eq (regular : format.Regular) :
    (2 : ℚ) ^ format.leastExponent * (2 ^ (-format.leastExponent).toNat : Nat) = 1 := by
  obtain ⟨size, exponent⟩ := Int.exists_eq_neg_ofNat regular.least_le
  simp [exponent]

theorem Regular.least_le_leastNormal (regular : format.Regular) :
    128 * 2 ^ format.leastExponent ≤ format.leastNormal := by
  have size : (2 : ℚ) ^ (7 : Int) ≤ 2 ^ (format.precision - 1 : Int) :=
    zpow_le_zpow_right₀ (by norm_num) (by have := regular.precise; omega)
  norm_num at size
  rw [leastNormal, zpow_add₀ (by norm_num), mul_comm]
  gcongr

theorem largest_lt_overflow (format : Format) : format.largest < format.overflow := by
  unfold largest overflow
  gcongr
  norm_num

/-- Natural numbers of as many bits as a significand are numbers of the format. -/
theorem Regular.represents_ofNat (regular : format.Regular) {value : Nat}
    (small : value < 2 ^ format.precision) : format.Represents (format.ofNat value) value := by
  obtain ⟨amount, is, rounds⟩ := (ofNat_yields regular value).represents (regular.lt_overflow small)
  have exponent : format.unitExponent value ≤ 0 := by
    rcases value.eq_zero_or_pos with rfl | some
    · have := regular.precise
      have := regular.least_le
      simp [unitExponent]
      omega
    · have below : ((value : Nat) : ℚ) < 2 ^ (format.precision : Int) := by exact_mod_cast small
      have := (Int.lt_zpow_iff_log_lt (by norm_num : 1 < 2) (by exact_mod_cast some)).mp below
      have := regular.least_le
      unfold unitExponent
      omega
  obtain ⟨size, same⟩ := Int.exists_eq_neg_ofNat exponent
  rwa [rounds.eq_of_whole (value * 2 ^ size) (by rw [unit, same]; simp)] at is

end Format
end TextScan.Floating
