import TextScan.Proofs.Floating.Amounts

/-! How near the powers of ten of a format are to the exact ones, those that are not nearest as well, and
from which place on they vanish. -/
namespace TextScan.Floating
namespace Format
variable {format : Format} {number : Number} {exact amount : ℚ} {exponent : Int}

/-- A number next to an exact amount on either side, or infinite where that lies beyond the largest. -/
def WithinUnit (format : Format) (number : Number) (exact : ℚ) : Prop :=
  (∃ amount, format.Represents number amount ∧ |amount - exact| ≤ format.unit exact) ∨
    (number = .infinite false ∧ format.largest < exact)

theorem Yields.withinUnit (yields : format.Yields number exact) : format.WithinUnit number exact := by
  obtain ⟨amount, is, rounds⟩ | ⟨endless, beyond⟩ := yields
  · have size := format.unit_pos exact
    exact .inl ⟨amount, is, rounds.near.trans (by linarith)⟩
  · exact .inr ⟨endless, format.largest_lt_overflow.trans_le beyond⟩

theorem WithinUnit.represents (within : format.WithinUnit number exact) (fits : exact ≤ format.largest) :
    ∃ amount, format.Represents number amount ∧ |amount - exact| ≤ format.unit exact := by
  obtain near | ⟨-, beyond⟩ := within
  · exact near
  · exact absurd beyond (not_lt.mpr fits)

theorem zpow_le_unit (format : Format) (least : exponent ≤ format.unitExponent exact) :
    2 ^ exponent ≤ format.unit exact :=
  zpow_le_zpow_right₀ (by norm_num) least

/-- A unit is small in proportion to its amounts, but for the smallest unit there is. -/
theorem unit_le_add (regular : format.Regular) (positive : 0 < exact) :
    format.unit exact ≤ exact / 128 + 2 ^ format.leastExponent := by
  rcases (format.leastExponent_le exact).eq_or_lt with least | above
  · rw [unit, ← least]
    linarith
  · have half := Rounds.half_unit_le positive above
    have tight := mul_le_mul_of_nonneg_left regular.slack_le positive.le
    have least : (0 : ℚ) < 2 ^ format.leastExponent := by positivity
    linarith

/-- A whole number of the format that is off by at most the weight of its last place. -/
structure Beside (format : Format) (significand place value : Nat) : Prop where
  small : significand < Nat.pow 2 format.precision
  least : format.leastExponent ≤ place
  greatest : place ≤ format.greatestExponent
  size : Nat.pow 2 place * Nat.pow 2 (format.precision - 1) ≤ value
  low : value ≤ (significand + 1) * Nat.pow 2 place
  high : significand * Nat.pow 2 place ≤ value + Nat.pow 2 place

theorem Beside.withinUnit {significand place value : Nat} (beside : format.Beside significand place value)
    (positive : 0 < format.precision) : format.WithinUnit (.finite false significand place) value := by
  obtain ⟨small, least, greatest, size, low, high⟩ := beside
  simp only [Nat.pow_eq] at size low high
  have some : (0 : ℚ) < value := by
    exact_mod_cast lt_of_lt_of_le (Nat.mul_pos (Nat.two_pow_pos _) (Nat.two_pow_pos _)) size
  have reached : (place : Int) ≤ format.unitExponent value := by
    have logarithm : ((place + (format.precision - 1) : Nat) : Int) ≤ Int.log 2 (value : ℚ) := by
      rw [← Int.zpow_le_iff_le_log (by norm_num : 1 < 2) some, zpow_natCast, pow_add]
      exact_mod_cast size
    refine le_max_of_le_right ?_
    omega
  refine .inl ⟨_, ⟨significand, place, rfl, rfl, small, least, greatest⟩,
    le_trans ?_ (format.zpow_le_unit reached)⟩
  have above : (value : ℚ) ≤ (significand + 1) * 2 ^ place := by exact_mod_cast low
  have below : (significand : ℚ) * 2 ^ place ≤ value + 2 ^ place := by exact_mod_cast high
  rw [zpow_natCast, abs_le]
  constructor <;> linarith

theorem Beside.power {significand place power : Nat} (beside : format.Beside significand place (Nat.pow 10 power))
    (positive : 0 < format.precision) :
    format.WithinUnit (.finite false significand place) (10 ^ (power : Int)) := by
  have within := beside.withinUnit positive
  rwa [Nat.pow_eq, Nat.cast_pow, ← zpow_natCast] at within

theorem ten_zpow_eq (exponent : Int) :
    (10 : ℚ) ^ exponent = (Nat.pow 10 exponent.toNat : Nat) / (Nat.pow 10 (-exponent).toNat : Nat) := by
  obtain ⟨size, rfl | rfl⟩ := exponent.eq_nat_or_neg <;> simp

theorem powerOfTen_withinUnit (regular : format.Regular) (exponent : Int) :
    format.WithinUnit (format.powerOfTen exponent) (10 ^ exponent) := by
  unfold powerOfTen
  split_ifs with beyond below
  · refine .inr ⟨rfl, ?_⟩
    have positive := regular.le_greatest
    calc format.largest < 2 ^ format.precision * 2 ^ format.greatestExponent := by
          unfold largest
          gcongr
          linarith
      _ = 2 ^ (format.greatestExponent + format.precision) := by
          rw [zpow_add₀ (by norm_num), zpow_natCast, mul_comm]
      _ ≤ 2 ^ exponent := zpow_le_zpow_right₀ (by norm_num) beyond.le
      _ ≤ 10 ^ exponent := zpow_le_zpow_left₀ (by omega) (by norm_num) (by norm_num)
  · refine .inl ⟨0, represents_zero regular.ordered, ?_⟩
    have negative := regular.least_le
    have smaller : (10 : ℚ) ^ exponent ≤ 2 ^ exponent := by
      have up : (2 : ℚ) ^ (-exponent) ≤ 10 ^ (-exponent) :=
        zpow_le_zpow_left₀ (by omega) (by norm_num) (by norm_num)
      rwa [zpow_neg, zpow_neg, inv_le_inv₀ (by positivity) (by positivity)] at up
    rw [zero_sub, abs_neg, abs_of_pos (by positivity)]
    exact smaller.trans (format.zpow_le_unit ((by omega : exponent ≤ format.leastExponent).trans
      (format.leastExponent_le _)))
  · rw [ten_zpow_eq]
    exact (round_yields regular _ (Nat.pow_pos (by omega))).withinUnit

theorem Regular.least_eq_inv (regular : format.Regular) :
    (2 : ℚ) ^ format.leastExponent = 1 / (Nat.pow 2 (-format.leastExponent).toNat : Nat) :=
  eq_one_div_of_mul_eq_one_left regular.leastExponent_eq

/-- A quotient of one vanishes as soon as it is less than half the smallest unit. -/
theorem round_one_isZero (regular : format.Regular) {denominator : Nat} (positive : 0 < denominator) :
    (denominator < 2 * Nat.pow 2 (-format.leastExponent).toNat →
      (format.round false 1 denominator).isZero = false) ∧
    (2 * Nat.pow 2 (-format.leastExponent).toNat < denominator →
      (format.round false 1 denominator).isZero = true) := by
  have size : (0 : ℚ) < denominator := by exact_mod_cast positive
  have room : (0 : ℚ) < (Nat.pow 2 (-format.leastExponent).toNat : Nat) := by
    exact_mod_cast Nat.two_pow_pos _
  have one : ((1 : Nat) : ℚ) / denominator < format.overflow := by
    refine lt_of_le_of_lt ?_ (regular.lt_overflow (Nat.one_lt_two_pow regular.positive.ne'))
    exact div_le_self (by norm_num) (by exact_mod_cast positive)
  obtain ⟨amount, is, rounds⟩ := (round_yields regular 1 positive).represents one
  constructor
  · intro below
    have below : (denominator : ℚ) < 2 * (Nat.pow 2 (-format.leastExponent).toNat : Nat) := by
      exact_mod_cast below
    refine Bool.eq_false_iff.mpr (mt is.isZero_iff.mp (rounds.ne_zero_of_lt regular ?_))
    rw [regular.least_eq_inv, ← mul_div_assoc, div_lt_div_iff₀ room size]
    push_cast at below ⊢
    linarith
  · intro above
    have above : 2 * (Nat.pow 2 (-format.leastExponent).toNat : Nat) < (denominator : ℚ) := by
      exact_mod_cast above
    refine is.isZero_iff.mpr (rounds.eq_zero_of_lt regular.positive (by positivity) ?_)
    rw [regular.least_eq_inv, ← mul_div_assoc, div_lt_div_iff₀ size room]
    push_cast at above ⊢
    linarith

/-- The places at which a power of ten vanishes, from the last one at which it does not. -/
theorem powerOfTen_isZero_iff (regular : format.Regular) {last : Nat}
    (before : Nat.pow 10 last < 2 * Nat.pow 2 (-format.leastExponent).toNat)
    (after : 2 * Nat.pow 2 (-format.leastExponent).toNat < Nat.pow 10 (last + 1)) (places : Nat) :
    (format.powerOfTen (-(places : Int))).isZero = false ↔ places ≤ last := by
  have greatest := regular.le_greatest
  have least := regular.least_le
  obtain ⟨kept, lost⟩ := round_one_isZero regular (Nat.pow_pos (by omega) : 0 < Nat.pow 10 places)
  have power : format.powerOfTen (-(places : Int)) =
      if -(places : Int) < format.leastExponent - 1 then format.zero false
      else format.round false 1 (Nat.pow 10 places) := by
    rw [powerOfTen, if_neg (by omega), neg_neg, Int.toNat_natCast, Int.toNat_of_nonpos (by omega)]
  rw [power]
  constructor
  · intro some
    by_contra more
    have beyond := after.trans_le (Nat.pow_le_pow_right (by omega) (by omega : last + 1 ≤ places))
    split_ifs at some
    · cases some
    · cases some.symm.trans (lost beyond)
  · intro within
    have below := (Nat.pow_le_pow_right (by omega : 0 < 10) within).trans_lt before
    rw [if_neg]
    · exact kept below
    · intro tiny
      have grown : 2 ^ ((-format.leastExponent).toNat + 1) ≤ 10 ^ places :=
        (Nat.pow_le_pow_right (by omega) (by omega)).trans (Nat.pow_le_pow_left (by omega) places)
      rw [pow_succ, mul_comm] at grown
      exact absurd below (not_lt.mpr grown)

end Format
end TextScan.Floating
