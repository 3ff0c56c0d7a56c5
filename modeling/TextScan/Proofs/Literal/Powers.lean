import TextScan.Proofs.Floating.PowersOfTen
import TextScan.Proofs.Literal.Nearness

/-! The powers of ten that literals are scaled by: near the exact ones, and for the exponents that a literal
may carry neither zero nor infinite. -/
namespace TextScan.Literal.FloatType
open Floating Decimal
variable {type : FloatType} {exponent : Int} {fraction : List Nat}

/-- The power of ten that puts the counted digits of a fraction into place. -/
def place (type : FloatType) (fraction : List Nat) : Number :=
  type.powerOfTen (-((countedDigits type.fractionDigits fraction).length : Int))

theorem addFraction_eq (standard : type.Standard) (small : ∀ digit ∈ fraction, digit < 10) (whole : Number) :
    type.addFraction whole (Fraction.ofDigits type fraction) =
      if numeral 10 (countedDigits type.fractionDigits fraction) = 0 then whole
      else type.format.add whole (type.format.mul
        (type.ofDigits (countedDigits type.fractionDigits fraction)) (type.place fraction)) := by
  have counted : ∀ digit ∈ countedDigits type.fractionDigits fraction, digit < 10 :=
    fun digit member => small digit (mem_of_mem_countedDigits member)
  rw [Fraction.ofDigits_eq standard.regular standard.keeps small]
  exact if_congr (isZero_ofDigits standard.regular counted) rfl rfl

/-- Powers of ten next to the exact ones, infinite only beyond the largest number. -/
def NearPowers (type : FloatType) : Prop :=
  ∀ exponent, type.format.WithinUnit (type.powerOfTen exponent) (10 ^ exponent)

theorem nearPowers_single : single.NearPowers :=
  Format.powerOfTen_withinUnit Format.single_regular

theorem beside_23 : Format.double.Beside 0x152d02c7e14af7 24 (Nat.pow 10 23) := by
  constructor <;> decide +kernel

theorem beside_210 : Format.double.Beside 0x18557f31326bbc 645 (Nat.pow 10 210) := by
  constructor <;> decide +kernel

/-- But for two the powers of doubles are the nearest numbers, and those two are one step above. -/
theorem nearPowers_double : double.NearPowers := by
  intro exponent
  change Format.double.WithinUnit (Format.double.raisedPowerOfTen [23, 210] exponent) _
  unfold Format.raisedPowerOfTen
  dsimp only
  split_ifs with raised
  · obtain rfl | rfl : exponent = 23 ∨ exponent = 210 := by simpa using raised
    · have above : Format.double.above (Format.double.powerOfTen 23) =
          .finite false 0x152d02c7e14af7 (24 : Nat) := by decide +kernel
      rw [above]
      exact beside_23.power Format.double_regular.positive
    · have above : Format.double.above (Format.double.powerOfTen 210) =
          .finite false 0x18557f31326bbc (645 : Nat) := by decide +kernel
      rw [above]
      exact beside_210.power Format.double_regular.positive
  · exact Format.powerOfTen_withinUnit Format.double_regular exponent

theorem place_double (fraction : List Nat) : double.place fraction =
    Format.double.powerOfTen (-((countedDigits double.fractionDigits fraction).length : Int)) := by
  rw [place]
  exact if_neg (by simp; omega)

theorem place_double_isZero_iff (fraction : List Nat) : (double.place fraction).isZero = false ↔
    (countedDigits double.fractionDigits fraction).length ≤ 323 := by
  rw [place_double]
  exact Format.powerOfTen_isZero_iff Format.double_regular (by decide +kernel) (by decide +kernel) _

theorem place_single_isZero_iff (fraction : List Nat) : (single.place fraction).isZero = false ↔
    (countedDigits single.fractionDigits fraction).length ≤ 45 :=
  Format.powerOfTen_isZero_iff Format.single_regular (by decide +kernel) (by decide +kernel) _

/-- Powers that are finite and not below zero up to one, and finite and above zero for the exponents that
literals carry. Up to one they may be zero, of either sign. -/
structure UsablePowers (type : FloatType) : Prop where
  finite : ∀ exponent ≤ 0, ∃ negative significand place,
    type.powerOfTen exponent = .finite negative significand place ∧ (negative = true → significand = 0)
  nonzero : ∀ exponent : Int, exponent.natAbs ≤ type.greatestExponent10 →
    ∃ significand place, type.powerOfTen exponent = .finite false significand place ∧ significand ≠ 0

theorem one_le_ten_zpow_mul {limit : Nat} (within : exponent.natAbs ≤ limit) :
    1 ≤ (10 : ℚ) ^ exponent * 10 ^ limit := by
  rw [← zpow_natCast, ← zpow_add₀ (by norm_num)]
  exact one_le_zpow₀ (by norm_num) (by omega)

theorem Standard.ten_zpow_le_largest (standard : type.Standard)
    (within : exponent ≤ type.greatestExponent10) : (10 : ℚ) ^ exponent ≤ type.format.largest := by
  refine (zpow_le_zpow_right₀ (by norm_num) within).trans ?_
  rw [standard.regular.largest_eq, zpow_natCast]
  exact_mod_cast standard.roomy.greatest

theorem Standard.least_le_ten_zpow (standard : type.Standard)
    (within : exponent.natAbs ≤ type.greatestExponent10) :
    16 * (2 : ℚ) ^ type.format.leastExponent ≤ 10 ^ exponent := by
  have room : (16 * 10 ^ type.greatestExponent10 : ℚ) ≤ (2 ^ (-type.format.leastExponent).toNat : Nat) := by
    exact_mod_cast standard.roomy.least
  have step : (0 : ℚ) < 2 ^ type.format.leastExponent := by positivity
  have scaled := mul_le_mul_of_nonneg_left room step.le
  rw [standard.regular.leastExponent_eq] at scaled
  refine le_of_mul_le_mul_right (a := 10 ^ type.greatestExponent10) ?_ (by positivity)
  linarith [one_le_ten_zpow_mul within]

/-- For the exponents of literals, near powers are off by at most an eighth. -/
theorem NearPowers.near_of_le (near : type.NearPowers) (standard : type.Standard)
    (within : exponent.natAbs ≤ type.greatestExponent10) :
    ∃ amount, type.format.Represents (type.powerOfTen exponent) amount ∧
      10 ^ exponent * (7 / 8) ≤ amount ∧ amount ≤ 10 ^ exponent * (9 / 8) := by
  have positive : (0 : ℚ) < 10 ^ exponent := by positivity
  have least := standard.least_le_ten_zpow within
  have unit := Format.unit_le_add standard.regular positive
  obtain ⟨amount, is, close⟩ := (near exponent).represents (standard.ten_zpow_le_largest (by omega))
  rw [abs_le] at close
  exact ⟨amount, is, by linarith, by linarith⟩

/-- Near powers are usable: the exact ones stay far from zero and from the overflow for the exponents of
literals, and below one they only vanish. -/
theorem NearPowers.usable (near : type.NearPowers) (standard : type.Standard) : type.UsablePowers := by
  constructor
  · intro exponent down
    obtain ⟨_, ⟨significand, place, is, -⟩, -⟩ :=
      (near exponent).represents (standard.ten_zpow_le_largest (by omega))
    exact ⟨false, significand, place, is, nofun⟩
  · intro exponent within
    obtain ⟨amount, ⟨significand, place, is, rfl, -⟩, low, -⟩ := near.near_of_le standard within
    refine ⟨significand, place, is, ?_⟩
    rintro rfl
    have positive : (0 : ℚ) < 10 ^ exponent := by positivity
    rw [Nat.cast_zero, zero_mul] at low
    linarith

end TextScan.Literal.FloatType
