import TextScan.Floating.Rounding
import Mathlib.Data.Int.Log
import Mathlib.Data.Rat.Floor
import Mathlib.Algebra.Order.Field.Power
import Mathlib.Tactic.FieldSimp
import Mathlib.Tactic.Linarith
import Mathlib.Tactic.Positivity
import Mathlib.Tactic.Ring

/-! What an operation of a format keeps of its exact result. Amounts are rational and not negative: a
sum, a product or a quotient becomes a whole number of units next to it, or infinite beyond the
largest number. -/
namespace TextScan.Floating

theorem pow_toNat_eq (exponent : Int) :
    (2 : ℚ) ^ exponent.toNat = 2 ^ exponent * 2 ^ (-exponent).toNat := by
  obtain ⟨size, rfl | rfl⟩ := exponent.eq_nat_or_neg
  · simp
  · simp

theorem nearestEven_near (numerator : Nat) {denominator : Nat} (positive : 0 < denominator) :
    |(nearestEven numerator denominator : ℚ) - numerator / denominator| ≤ 1 / 2 := by
  have whole : (denominator : ℚ) * (numerator / denominator : Nat) + (numerator % denominator : Nat) = numerator := by
    exact_mod_cast Nat.div_add_mod numerator denominator
  have below : numerator % denominator < denominator := Nat.mod_lt _ positive
  have size : (0 : ℚ) < denominator := by exact_mod_cast positive
  have apart : (numerator : ℚ) / denominator =
      (numerator / denominator : Nat) + ((numerator % denominator : Nat) : ℚ) / denominator := by
    rw [← whole]
    field_simp
  rw [apart, abs_le]
  unfold nearestEven
  dsimp only
  split_ifs with down
  · have half : 2 * ((numerator % denominator : Nat) : ℚ) ≤ denominator := by
      exact_mod_cast (by omega : 2 * (numerator % denominator) ≤ denominator)
    have part : ((numerator % denominator : Nat) : ℚ) / denominator ≤ 1 / 2 := by
      rw [div_le_div_iff₀ size (by norm_num)]
      linarith
    have least : 0 ≤ ((numerator % denominator : Nat) : ℚ) / denominator := by positivity
    constructor <;> linarith
  · have half : (denominator : ℚ) ≤ 2 * ((numerator % denominator : Nat) : ℚ) := by
      exact_mod_cast (by omega : denominator ≤ 2 * (numerator % denominator))
    have part : 1 / 2 ≤ ((numerator % denominator : Nat) : ℚ) / denominator := by
      rw [div_le_div_iff₀ (by norm_num) size]
      linarith
    have most : ((numerator % denominator : Nat) : ℚ) / denominator ≤ 1 := by
      rw [div_le_one size]
      exact_mod_cast below.le
    push_cast
    constructor <;> linarith

theorem scaleDown_ratio (numerator denominator : Nat) (exponent : Int) :
    ((scaleDown numerator denominator exponent).1 : ℚ) / (scaleDown numerator denominator exponent).2 =
      numerator / denominator / 2 ^ exponent := by
  have up : (0 : ℚ) < 2 ^ exponent := by positivity
  have down : (0 : ℚ) < 2 ^ (-exponent).toNat := by positivity
  simp only [scaleDown, Nat.pow_eq, Nat.cast_mul, Nat.cast_pow, Nat.cast_ofNat, pow_toNat_eq exponent]
  rw [← mul_assoc, mul_div_mul_right _ _ down.ne', div_div]

theorem scaleDown_positive (numerator : Nat) {denominator : Nat} (positive : 0 < denominator) (exponent : Int) :
    0 < (scaleDown numerator denominator exponent).2 :=
  Nat.mul_pos positive (Nat.pow_pos (by omega))

/-- In units of a power of two, rounding is off by at most half a unit. -/
theorem nearestEven_scaleDown (numerator : Nat) {denominator : Nat} (positive : 0 < denominator)
    (exponent : Int) :
    |(nearestEven (scaleDown numerator denominator exponent).1
        (scaleDown numerator denominator exponent).2 : ℚ) * 2 ^ exponent - numerator / denominator| ≤
      2 ^ exponent / 2 := by
  have near := nearestEven_near (scaleDown numerator denominator exponent).1
    (scaleDown_positive numerator positive exponent)
  have size : (0 : ℚ) < 2 ^ exponent := by positivity
  have scaled := mul_le_mul_of_nonneg_right near size.le
  rwa [scaleDown_ratio, ← abs_of_pos size, ← abs_mul, abs_of_pos size, sub_mul,
    div_mul_cancel₀ _ size.ne', one_div_mul_eq_div] at scaled

/-- The difference of the bit lengths is the binary logarithm of a fraction or one more, and comparing the
two sides decides which. -/
theorem magnitude_eq {numerator denominator : Nat} (some : 0 < numerator) (positive : 0 < denominator) :
    magnitude numerator denominator = Int.log 2 ((numerator : ℚ) / denominator) := by
  have above : (0 : ℚ) < denominator := by exact_mod_cast positive
  have ratio : (0 : ℚ) < numerator / denominator := div_pos (by exact_mod_cast some) above
  have bounds (value : Nat) (nonzero : 0 < value) :
      (2 : ℚ) ^ (value.log2 : Int) ≤ value ∧ (value : ℚ) < 2 ^ ((value.log2 : Int) + 1) := by
    have low := Nat.log2_self_le nonzero.ne'
    have high := Nat.lt_log2_self (n := value)
    rw [← Nat.cast_succ]
    simp only [zpow_natCast]
    exact ⟨by exact_mod_cast low, by exact_mod_cast high⟩
  obtain ⟨low, high⟩ := bounds numerator some
  obtain ⟨low', high'⟩ := bounds denominator positive
  have upper : (numerator : ℚ) / denominator < 2 ^ ((numerator.log2 : Int) - denominator.log2 + 1) := by
    rw [div_lt_iff₀ above]
    refine high.trans_le ?_
    calc (2 : ℚ) ^ ((numerator.log2 : Int) + 1)
        = 2 ^ ((numerator.log2 : Int) - denominator.log2 + 1) * 2 ^ (denominator.log2 : Int) := by
          rw [← zpow_add₀ (by norm_num)]; congr 1; ring
      _ ≤ _ := by gcongr
  have lower : (2 : ℚ) ^ ((numerator.log2 : Int) - denominator.log2 - 1) ≤ numerator / denominator := by
    rw [le_div_iff₀ above]
    refine le_trans ?_ low
    calc (2 : ℚ) ^ ((numerator.log2 : Int) - denominator.log2 - 1) * denominator
        ≤ 2 ^ ((numerator.log2 : Int) - denominator.log2 - 1) * 2 ^ ((denominator.log2 : Int) + 1) := by
          gcongr
      _ = _ := by rw [← zpow_add₀ (by norm_num)]; congr 1; ring
  have fits := scaleDown_ratio numerator denominator (numerator.log2 - denominator.log2)
  have divisor := scaleDown_positive numerator positive (numerator.log2 - denominator.log2)
  have reaches := (Int.lt_zpow_iff_log_lt (by norm_num : 1 < 2) ratio).mp upper
  have atLeast := (Int.zpow_le_iff_le_log (by norm_num : 1 < 2) ratio).mp lower
  have decides : (scaleDown numerator denominator (numerator.log2 - denominator.log2)).2 ≤
      (scaleDown numerator denominator (numerator.log2 - denominator.log2)).1 ↔
        (numerator.log2 : Int) - denominator.log2 ≤ Int.log 2 ((numerator : ℚ) / denominator) := by
    rw [← Int.zpow_le_iff_le_log (by norm_num : 1 < 2) ratio, Nat.cast_ofNat,
      ← one_le_div (by positivity : (0 : ℚ) < 2 ^ ((numerator.log2 : Int) - denominator.log2)), ← fits,
      one_le_div (by exact_mod_cast divisor), Nat.cast_le]
  unfold magnitude
  dsimp only
  split_ifs with reached
  · have := decides.mp reached
    omega
  · have := mt decides.mpr reached
    omega

namespace Format

/-- A significand of at least a byte, and units on either side of one. -/
structure Regular (format : Format) : Prop where
  precise : 8 ≤ format.precision
  least_le : format.leastExponent ≤ 0
  le_greatest : 0 ≤ format.greatestExponent

theorem double_regular : double.Regular := by
  constructor <;> decide

theorem single_regular : single.Regular := by
  constructor <;> decide

theorem Regular.ordered {format : Format} (regular : format.Regular) :
    format.leastExponent ≤ format.greatestExponent :=
  regular.least_le.trans regular.le_greatest

theorem Regular.positive {format : Format} (regular : format.Regular) : 0 < format.precision :=
  Nat.lt_of_lt_of_le (by omega) regular.precise

variable {format : Format} {number : Number} {exact amount : ℚ}

/-- The weight of the last place of the numbers next to an amount. -/
def unitExponent (format : Format) (amount : ℚ) : Int :=
  max format.leastExponent (Int.log 2 amount - (format.precision - 1))

def unit (format : Format) (amount : ℚ) : ℚ :=
  2 ^ format.unitExponent amount

def leastNormal (format : Format) : ℚ :=
  2 ^ (format.leastExponent + (format.precision - 1))

def largest (format : Format) : ℚ :=
  (2 ^ format.precision - 1) * 2 ^ format.greatestExponent

/-- Halfway from the largest number to the power of two that would follow it. -/
def overflow (format : Format) : ℚ :=
  (2 ^ format.precision - 1 / 2) * 2 ^ format.greatestExponent

/-- A number of the format that is neither negative nor infinite, and its amount. -/
def Represents (format : Format) (number : Number) (amount : ℚ) : Prop :=
  ∃ significand exponent, number = .finite false significand exponent ∧
    amount = significand * 2 ^ exponent ∧ significand < Nat.pow 2 format.precision ∧
    format.leastExponent ≤ exponent ∧ exponent ≤ format.greatestExponent

/-- A whole number of units that is next to an exact amount. -/
structure Rounds (format : Format) (exact amount : ℚ) : Prop where
  whole : ∃ units : Nat, amount = units * format.unit exact
  near : |amount - exact| ≤ format.unit exact / 2

/-- What an operation of the format makes of its exact result. -/
def Yields (format : Format) (number : Number) (exact : ℚ) : Prop :=
  (∃ amount, format.Represents number amount ∧ format.Rounds exact amount) ∨
    (number = .infinite false ∧ format.overflow ≤ exact)

theorem unit_pos (format : Format) (amount : ℚ) : 0 < format.unit amount := by
  unfold unit
  positivity

theorem leastExponent_le (format : Format) (amount : ℚ) : format.leastExponent ≤ format.unitExponent amount :=
  le_max_left _ _

theorem lt_unit (format : Format) (amount : ℚ) :
    amount < 2 ^ format.precision * format.unit amount := by
  refine (Int.lt_zpow_succ_log_self (by norm_num : 1 < 2) amount).trans_le ?_
  rw [unit, ← zpow_natCast, ← zpow_add₀ (by norm_num)]
  refine zpow_le_zpow_right₀ (by norm_num) ?_
  have := le_max_right format.leastExponent (Int.log 2 amount - (format.precision - 1))
  unfold unitExponent
  omega

theorem unit_le (format : Format) {amount : ℚ} (positive : 0 < amount)
    (above : format.leastExponent < format.unitExponent amount) :
    2 ^ (format.precision - 1 : Int) * format.unit amount ≤ amount := by
  refine le_trans ?_ (Int.zpow_log_le_self (by norm_num : 1 < 2) positive)
  rw [unit, ← zpow_add₀ (by norm_num)]
  refine zpow_le_zpow_right₀ (by norm_num) ?_
  unfold unitExponent at above ⊢
  omega

theorem two_pow_precision (format : Format) :
    (2 : ℚ) ^ format.precision = 2 ^ (format.precision - 1 : Int) * 2 := by
  rw [← zpow_add_one₀ (by norm_num), ← zpow_natCast]
  congr 1
  ring

/-- An amount whose unit is larger than any of the format is beyond its overflow. -/
theorem overflow_le (ordered : format.leastExponent ≤ format.greatestExponent) (positive : 0 < exact)
    (beyond : format.greatestExponent < format.unitExponent exact) : format.overflow ≤ exact := by
  have reached := format.unit_le positive (ordered.trans_lt beyond)
  have larger : (2 : ℚ) * 2 ^ format.greatestExponent ≤ format.unit exact := by
    rw [unit, ← zpow_one_add₀ (by norm_num)]
    exact zpow_le_zpow_right₀ (by norm_num) (by omega)
  have size : (0 : ℚ) < 2 ^ (format.precision - 1 : Int) := by positivity
  have step : (0 : ℚ) < 2 ^ format.greatestExponent := by positivity
  calc format.overflow
      ≤ 2 ^ (format.precision - 1 : Int) * (2 * 2 ^ format.greatestExponent) := by
        rw [overflow, two_pow_precision]
        linarith
    _ ≤ 2 ^ (format.precision - 1 : Int) * format.unit exact := by gcongr
    _ ≤ exact := reached

theorem two_leadingOne (precise : 0 < format.precision) :
    2 * format.leadingOne = Nat.pow 2 format.precision := by
  rw [leadingOne, Nat.pow_eq, Nat.pow_eq, ← pow_succ']
  congr 1
  omega

/-- A significand rounded up to the next power of two is written with the unit after it, and what then
leaves the format is infinite. -/
theorem pack_yields (precise : 0 < format.precision) (ordered : format.leastExponent ≤ format.greatestExponent)
    {significand : Nat} (positive : 0 < exact)
    (near : |significand * format.unit exact - exact| ≤ format.unit exact / 2) :
    format.Yields (format.pack false significand (format.unitExponent exact)) exact := by
  have size := format.unit_pos exact
  have least := format.leastExponent_le exact
  have rounds : format.Rounds exact (significand * format.unit exact) := ⟨⟨significand, rfl⟩, near⟩
  have top := two_leadingOne precise
  have leading : 0 < format.leadingOne := Nat.pow_pos (by omega)
  rw [abs_le] at near
  unfold pack
  by_cases fits : significand < 2 * format.leadingOne
  · rw [if_pos fits]
    dsimp only
    split_ifs with within
    · exact .inl ⟨_, ⟨significand, _, rfl, rfl, by omega, least, within⟩, rounds⟩
    · exact .inr ⟨rfl, overflow_le ordered positive (by omega)⟩
  · have most : (significand : ℚ) < Nat.pow 2 format.precision + 1 := by
      have below := format.lt_unit exact
      by_contra more
      have := mul_le_mul_of_nonneg_right (not_lt.mp more) size.le
      simp only [Nat.pow_eq, Nat.cast_pow, Nat.cast_ofNat] at this
      linarith
    have carried : significand = Nat.pow 2 format.precision := by
      have : significand < Nat.pow 2 format.precision + 1 := by exact_mod_cast most
      omega
    rw [if_neg fits]
    dsimp only
    split_ifs with within
    · refine .inl ⟨_, ⟨format.leadingOne, _, rfl, ?_, by omega, by omega, within⟩, rounds⟩
      rw [carried, ← top, zpow_add_one₀ (by norm_num), unit]
      push_cast
      ring
    · refine .inr ⟨rfl, ?_⟩
      have reached : (2 : ℚ) ^ format.greatestExponent ≤ format.unit exact :=
        zpow_le_zpow_right₀ (by norm_num) (by omega)
      have above : (1 : ℚ) ≤ 2 ^ format.precision := one_le_pow₀ (by norm_num)
      calc format.overflow
          ≤ (2 ^ format.precision - 1 / 2) * format.unit exact := by
            unfold overflow
            gcongr
            linarith
        _ = significand * format.unit exact - format.unit exact / 2 := by
            rw [carried]
            push_cast [Nat.pow_eq]
            ring
        _ ≤ exact := by linarith

theorem rounds_zero (format : Format) : format.Rounds 0 0 :=
  ⟨⟨0, by simp⟩, by simpa using (div_pos (format.unit_pos 0) (by norm_num : (0 : ℚ) < 2)).le⟩

theorem represents_zero (least : format.leastExponent ≤ format.greatestExponent) :
    format.Represents (format.zero false) 0 :=
  ⟨0, format.leastExponent, rfl, by simp, Nat.pow_pos (by omega), le_rfl, least⟩

/-- A quotient is rounded to the number next to it, or to infinity from the overflow on. -/
theorem round_yields (regular : format.Regular) (numerator : Nat) {denominator : Nat}
    (positive : 0 < denominator) :
    format.Yields (format.round false numerator denominator) ((numerator : ℚ) / denominator) := by
  unfold round
  split_ifs with none
  · rw [none, Nat.cast_zero, zero_div]
    exact .inl ⟨0, represents_zero regular.ordered, format.rounds_zero⟩
  · have some : 0 < numerator := Nat.pos_of_ne_zero none
    have amount : (0 : ℚ) < (numerator : ℚ) / denominator :=
      div_pos (by exact_mod_cast some) (by exact_mod_cast positive)
    rw [magnitude_eq some positive]
    exact pack_yields regular.positive regular.ordered amount (nearestEven_scaleDown numerator positive _)

end Format
end TextScan.Floating
