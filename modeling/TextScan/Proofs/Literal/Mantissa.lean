import TextScan.Proofs.Literal.Powers

/-! What the whole digits and the counted digits of a fraction come to together, before the exponent: near
the exact sum, unless the whole digits overflow or the power of ten under the fraction vanishes. -/
namespace TextScan.Literal
open Floating

namespace Decimal
variable {limit : Nat} {digits : List Nat}

/-- The exact amount of a literal, without its sign. -/
def amount (literal : Decimal) : ℚ :=
  (numeral 10 literal.whole + numeral 10 literal.fraction / 10 ^ literal.fraction.length) *
    10 ^ literal.exponent

/-- What the counted digits of a fraction stand for. -/
def share (limit : Nat) (fraction : List Nat) : ℚ :=
  numeral 10 (countedDigits limit fraction) / 10 ^ (countedDigits limit fraction).length

/-- The exact amount but for the exponent, and but for digits of the fraction that do not count. -/
def mantissa (limit : Nat) (literal : Decimal) : ℚ :=
  numeral 10 literal.whole + share limit literal.fraction

theorem exists_uncounted (limit : Nat) (digits : List Nat) :
    ∃ rest, digits = countedDigits limit digits ++ rest := by
  refine ⟨(digits.dropWhile (· = 0)).drop limit, ?_⟩
  rw [countedDigits, List.append_assoc, List.take_append_drop, List.takeWhile_append_dropWhile]

theorem numeral_countedDigits_eq_zero_iff (keeps : 0 < limit) (digits : List Nat) :
    numeral 10 (countedDigits limit digits) = 0 ↔ numeral 10 digits = 0 := by
  have first := ne_zero_of_head?_dropWhile digits
  rw [← numeral_dropWhile, (takeWhile_countedDigits limit digits).2, ← numeral_dropWhile 10 digits]
  obtain ⟨limit, rfl⟩ := Nat.exists_eq_succ_of_ne_zero keeps.ne'
  cases same : digits.dropWhile (· = 0) with
  | nil => rfl
  | cons digit rest =>
    rw [same] at first
    have nonzero := first digit rfl
    simp [numeral_cons, nonzero]

theorem share_nonneg (limit : Nat) (digits : List Nat) : 0 ≤ share limit digits := by
  unfold share
  positivity

theorem share_lt_one (limit : Nat) (small : ∀ digit ∈ digits, digit < 10) : share limit digits < 1 := by
  rw [share, div_lt_one (by positivity)]
  exact_mod_cast numeral_lt (fun digit member => small digit (mem_of_mem_countedDigits member)) (by omega)

/-- The digits of a fraction that count make up at least half of it. -/
theorem share_bounds (keeps : 0 < limit) (small : ∀ digit ∈ digits, digit < 10) :
    share limit digits ≤ numeral 10 digits / 10 ^ digits.length ∧
      numeral 10 digits / 10 ^ digits.length ≤ 2 * share limit digits := by
  obtain ⟨rest, split⟩ := exists_uncounted limit digits
  have zero := numeral_countedDigits_eq_zero_iff keeps digits
  unfold share
  generalize countedDigits limit digits = counted at split zero
  subst split
  have below := numeral_lt (fun digit member => small digit (List.mem_append_right _ member)) (by omega)
  rw [numeral_append] at zero ⊢
  have tail : numeral 10 rest ≤ numeral 10 counted * 10 ^ rest.length := by
    rcases (numeral 10 counted).eq_zero_or_pos with none | some
    · have := zero.mp none
      omega
    · exact below.le.trans (Nat.le_mul_of_pos_left _ some)
  have tail : (numeral 10 rest : ℚ) ≤ numeral 10 counted * 10 ^ rest.length := by exact_mod_cast tail
  have least : (0 : ℚ) ≤ numeral 10 rest := Nat.cast_nonneg _
  have split : (((numeral 10 counted * 10 ^ rest.length + numeral 10 rest : Nat) : ℚ)) /
      10 ^ (counted ++ rest).length =
        (numeral 10 counted + numeral 10 rest / 10 ^ rest.length) / 10 ^ counted.length := by
    rw [List.length_append, pow_add]
    push_cast
    field_simp
  have part : (numeral 10 rest : ℚ) / 10 ^ rest.length ≤ numeral 10 counted := by
    rwa [div_le_iff₀ (by positivity)]
  rw [split, ← mul_div_assoc]
  constructor
  · gcongr
    exact le_add_of_nonneg_right (by positivity)
  · gcongr
    linarith

theorem mantissa_bounds (keeps : 0 < limit) {literal : Decimal}
    (small : ∀ digit ∈ literal.fraction, digit < 10) :
    literal.mantissa limit * 10 ^ literal.exponent ≤ literal.amount ∧
      literal.amount ≤ 2 * (literal.mantissa limit * 10 ^ literal.exponent) := by
  obtain ⟨low, high⟩ := share_bounds keeps small
  have power : (0 : ℚ) < 10 ^ literal.exponent := by positivity
  have whole : (0 : ℚ) ≤ numeral 10 literal.whole := Nat.cast_nonneg _
  rw [mantissa, amount, ← mul_assoc]
  constructor
  · gcongr
  · gcongr
    linarith

end Decimal

namespace FloatType
open Decimal
variable {type : FloatType} {digits : List Nat} {literal : Decimal} {amount : ℚ}

theorem Standard.spare (standard : type.Standard) :
    type.format.largest + 2 ≤ type.format.overflow := by
  have step : (2 : ℚ) ^ (2 : Int) ≤ 2 ^ type.format.greatestExponent :=
    zpow_le_zpow_right₀ (by norm_num) standard.roomy.spare
  unfold Format.largest Format.overflow
  norm_num at step
  linarith

/-- What a power of ten that is off by the least unit adds to a fraction. -/
def excess (type : FloatType) (fraction : List Nat) : ℚ :=
  numeral 10 (countedDigits type.fractionDigits fraction) * 2 ^ type.format.leastExponent

theorem excess_nonneg (type : FloatType) (fraction : List Nat) : 0 ≤ type.excess fraction := by
  unfold excess
  positivity

theorem Standard.excess_le (standard : type.Standard) (small : ∀ digit ∈ digits, digit < 10) :
    16 * type.excess digits ≤ 1 := by
  have least := standard.least_le_ten_zpow (by omega : (-(type.greatestExponent10 : Int)).natAbs ≤ _)
  have counted : (numeral 10 (countedDigits type.fractionDigits digits) : ℚ) ≤
      10 ^ type.greatestExponent10 := by
    exact_mod_cast (numeral_countedDigits_lt small).le.trans
      (Nat.pow_le_pow_right (by omega) standard.roomy.fewer)
  calc 16 * type.excess digits = numeral 10 (countedDigits type.fractionDigits digits) *
          (16 * (2 : ℚ) ^ type.format.leastExponent) := by
        rw [excess]
        ring
    _ ≤ 10 ^ type.greatestExponent10 * 10 ^ (-(type.greatestExponent10 : Int)) := by gcongr
    _ = 1 := by
        rw [zpow_neg, zpow_natCast, mul_inv_cancel₀ (by positivity)]

theorem NearPowers.near_place (near : type.NearPowers) (standard : type.Standard) (fraction : List Nat) :
    ∃ power, type.format.Represents (type.place fraction) power ∧
      power ≤ 129 / 128 * (10 ^ (countedDigits type.fractionDigits fraction).length)⁻¹ +
        2 ^ type.format.leastExponent ∧
      ((type.place fraction).isZero = false →
        127 / 256 * (10 ^ (countedDigits type.fractionDigits fraction).length)⁻¹ ≤ power) := by
  obtain ⟨power, is, close⟩ := (near _).represents (standard.ten_zpow_le_largest
    (by omega : -((countedDigits type.fractionDigits fraction).length : Int) ≤ _))
  have positive : (0 : ℚ) < (10 ^ (countedDigits type.fractionDigits fraction).length)⁻¹ := by positivity
  have unit := Format.unit_le_add standard.regular positive
  rw [zpow_neg, zpow_natCast, abs_le] at close
  refine ⟨power, is, by linarith, fun some => ?_⟩
  have least := is.onGrid.least_le (mt is.isZero_iff.mpr (by simpa [place] using some))
  linarith

theorem NearPowers.placed_fraction (near : type.NearPowers) (standard : type.Standard)
    (small : ∀ digit ∈ digits, digit < 10) :
    ∃ part, type.format.Represents (type.format.mul
        (type.ofDigits (countedDigits type.fractionDigits digits)) (type.place digits)) part ∧
      part ≤ 21 / 20 * (share type.fractionDigits digits + type.excess digits) ∧
      ((type.place digits).isZero = false → 9 / 20 * share type.fractionDigits digits ≤ part) := by
  have regular := standard.regular
  have tiny := standard.excess_le small
  have below := share_lt_one type.fractionDigits small
  have nonneg := share_nonneg type.fractionDigits digits
  have extra := type.excess_nonneg digits
  have apart : share type.fractionDigits digits = numeral 10 (countedDigits type.fractionDigits digits) *
      (10 ^ (countedDigits type.fractionDigits digits).length)⁻¹ := div_eq_mul_inv _ _
  obtain ⟨total, is, low, high⟩ := near_counted standard small
  obtain ⟨power, isPower, most, least⟩ := near.near_place standard digits
  have upper : total * power ≤ 25 / 24 * (share type.fractionDigits digits + type.excess digits) := by
    have product := mul_le_mul high most isPower.nonneg (by positivity)
    rw [apart] at nonneg ⊢
    rw [excess] at extra ⊢
    linarith
  obtain ⟨part, isPart, rounds⟩ := (Format.mul_yields regular is isPower).represents
    (by linarith [standard.spare, regular.largest_pos])
  obtain ⟨least', most'⟩ := rounds.close regular (isPower.onGrid.natCast_mul total)
  refine ⟨part, isPart, by linarith, fun some => ?_⟩
  have product := mul_le_mul low (least some) (by positivity) total.cast_nonneg
  rw [apart] at nonneg ⊢
  linarith

/-- Whole digits and fraction together. They are not lost unless the whole digits are all zero and the power
of ten under the fraction is zero as well. -/
theorem NearPowers.addFraction_close (near : type.NearPowers) (standard : type.Standard)
    (whole : ∀ digit ∈ literal.whole, digit < 10) (fraction : ∀ digit ∈ literal.fraction, digit < 10)
    (is : type.format.Represents (type.ofDigits literal.whole) amount) :
    ∃ sum, type.format.Represents (type.addFraction (type.ofDigits literal.whole)
        (Fraction.ofDigits type literal.fraction)) sum ∧
      sum ≤ 17 / 16 * (literal.mantissa type.fractionDigits + type.excess literal.fraction) ∧
      ((numeral 10 literal.whole = 0 → (type.place literal.fraction).isZero = false) →
        2 / 5 * literal.mantissa type.fractionDigits ≤ sum) := by
  have regular := standard.regular
  have tiny := standard.excess_le fraction
  have below := share_lt_one type.fractionDigits fraction
  have nonneg := share_nonneg type.fractionDigits literal.fraction
  have extra := type.excess_nonneg literal.fraction
  have natural : (0 : ℚ) ≤ numeral 10 literal.whole := Nat.cast_nonneg _
  obtain ⟨low, high⟩ := near_whole standard whole is
  obtain ⟨part, isPart, most, least⟩ := near.placed_fraction standard fraction
  rw [addFraction_eq standard fraction, mantissa]
  split_ifs with none
  · have empty : share type.fractionDigits literal.fraction = 0 := by
      rw [share, none, Nat.cast_zero, zero_div]
    exact ⟨amount, is, by linarith, fun _ => by linarith⟩
  · obtain ⟨sum, isSum, rounds⟩ := (Format.add_yields regular is isPart).represents
      (by linarith [standard.spare, is.le_largest])
    obtain ⟨low', high'⟩ := rounds.close regular (is.onGrid.add isPart.onGrid)
    refine ⟨sum, isSum, by linarith, fun kept => ?_⟩
    rcases (numeral 10 literal.whole).eq_zero_or_pos with zero | some
    · have := least (kept zero)
      rw [zero, Nat.cast_zero] at low ⊢
      linarith
    · -- Whole digits outweigh any fraction, so that it may vanish beside them.
      have one : (1 : ℚ) ≤ numeral 10 literal.whole := by exact_mod_cast some
      linarith [isPart.nonneg]

end FloatType
end TextScan.Literal
