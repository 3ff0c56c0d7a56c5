import TextScan.Proofs.Literal.Counters
import TextScan.Proofs.Literal.Powers

/-! No literal of digits comes to NaN, and no value is negative before its sign is put on it: a fraction
stays finite, and the power of ten that an exponent names is neither zero nor infinite. -/
namespace TextScan
namespace Floating

/-- Neither NaN nor negative: positive zero is such a number, and so is positive infinity. -/
inductive Number.Nonneg : Number → Prop
  | infinite : Nonneg (.infinite false)
  | finite (significand : Nat) (exponent : Int) : Nonneg (.finite false significand exponent)

variable {format : Format} {left right number : Number} {significand : Nat} {exponent : Int}

theorem Format.pack_nonneg (format : Format) (significand : Nat) (exponent : Int) :
    (format.pack false significand exponent).Nonneg := by
  unfold Format.pack
  dsimp only
  split_ifs
  · exact .finite _ _
  · exact .infinite
  · exact .finite _ _
  · exact .infinite

theorem Format.roundScaled_nonneg (format : Format) (significand : Nat) (exponent : Int) :
    (format.roundScaled false significand exponent).Nonneg := by
  unfold Format.roundScaled Format.round
  split_ifs
  · exact .finite _ _
  · exact format.pack_nonneg _ _

theorem Number.Nonneg.add (isLeft : left.Nonneg) (isRight : right.Nonneg) : (format.add left right).Nonneg := by
  cases isLeft with
  | infinite => cases isRight <;> exact .infinite
  | finite =>
    cases isRight with
    | infinite => exact .infinite
    | finite =>
      rw [Format.add_finite]
      exact format.roundScaled_nonneg _ _

/-- A fraction times a power that is not below zero, and that is no more than zero if its sign is set. -/
theorem Number.Nonneg.add_mul_finite (isLeft : left.Nonneg) {negative : Bool} {place : Int}
    (power : Nat) (sign : negative = true → power = 0) :
    (format.add left (format.mul (.finite false significand exponent) (.finite negative power place))).Nonneg := by
  cases negative with
  | false => exact isLeft.add (format.roundScaled_nonneg _ _)
  | true =>
    obtain rfl := sign rfl
    have product : format.mul (.finite false significand exponent) (.finite true 0 place) =
        format.zero true := by
      rw [Format.mul, Nat.mul_zero, Format.roundScaled, Nat.zero_mul]
      rfl
    rw [product]
    cases isLeft with
    | infinite => exact .infinite
    | finite =>
      rw [Format.zero, Format.add_negative_zero]
      exact format.roundScaled_nonneg _ _

theorem Number.Nonneg.mul (isLeft : left.Nonneg) (some : significand ≠ 0) :
    (format.mul left (.finite false significand exponent)).Nonneg := by
  cases isLeft with
  | infinite =>
    rw [Format.mul, if_neg some]
    exact .infinite
  | finite => exact format.roundScaled_nonneg _ _

theorem Number.Nonneg.sign (nonneg : number.Nonneg) :
    number ≠ .nan ∧ number.isNegative = false ∧ number.neg ≠ .nan ∧ number.neg.isNegative = true := by
  cases nonneg <;> simp [Number.isNegative, Number.neg]

end Floating

namespace Literal.FloatType
open Floating Decimal
variable {type : FloatType} {digits : List Nat} {literal : Decimal} {exact roundings : Nat} {value : Number}

theorem Near.nonneg (near : type.Near roundings value exact) : value.Nonneg := by
  obtain ⟨_, ⟨_, _, rfl, -⟩, -⟩ | ⟨rfl, -⟩ := near
  · exact .finite _ _
  · exact .infinite

/-- Whole digits may be infinite, but the fraction is finite and the last power neither zero nor infinite:
infinity meets no zero, and nothing is taken away. -/
theorem unsigned_nonneg (standard : type.Standard) (usable : type.UsablePowers)
    (whole : ∀ digit ∈ literal.whole, digit < 10) (fraction : ∀ digit ∈ literal.fraction, digit < 10)
    (exponent : literal.exponent.natAbs ≤ type.greatestExponent10) : (type.unsigned literal).Nonneg := by
  have started := (near_ofDigits standard.regular whole).nonneg
  have joined : (type.addFraction (type.ofDigits literal.whole)
      (Fraction.ofDigits type literal.fraction)).Nonneg := by
    obtain ⟨_, ⟨_, _, is, -⟩, -⟩ := near_counted standard fraction
    obtain ⟨_, _, _, power, sign⟩ := usable.finite
      (-((countedDigits type.fractionDigits literal.fraction).length : Int)) (by omega)
    rw [addFraction_eq standard fraction, is, place, power]
    split_ifs
    · exact started
    · exact started.add_mul_finite _ sign
  obtain ⟨significand, place, power, some⟩ := usable.nonzero literal.exponent exponent
  rw [unsigned, scale, power]
  split_ifs
  · exact joined
  · exact joined.mul some

theorem words_nan_and_sign : ∀ word ∈ words,
    (word.2 = .nan ↔ word.1 = nanWord) ∧ (word.2.isNegative = true ↔ word.1.head? = some 0x2d) := by
  decide +kernel

theorem Spells.ne_nanWord {limit : Nat} {text : Bytes} (spells : Spells limit text literal) :
    text ≠ nanWord := by
  rintro rfl
  have starts := (spells_iff.mp spells).startsWithDigit
  cases (words_start (nanWord, .nan) (by simp [words])).symm.trans starts

theorem ofDecimal_nan_and_sign (nonneg : (type.unsigned literal).Nonneg) :
    type.ofDecimal literal ≠ .nan ∧ ((type.ofDecimal literal).isNegative = true ↔ literal.sign = .negative) := by
  obtain ⟨number, positive, opposite, negative⟩ := nonneg.sign
  rw [ofDecimal_eq]
  split_ifs with minus
  · exact ⟨opposite, by simp [negative, minus]⟩
  · exact ⟨number, by simp [positive, minus]⟩

/-- Only the word for it gives NaN, and exactly the texts that begin with a minus give a number with the sign
bit set, whatever powers of ten a type has, so long as they are usable: finite and not below zero up to one,
and finite and above zero for the exponents of literals. A text of fewer than two to the thirty-first bytes is
read so with its counters held in machine words as well. The powers of both types are usable. -/
theorem read?_nan_iff_and_isNegative_iff :
    (∀ type : FloatType, type.Standard → type.UsablePowers → ∀ text value, type.read? text = some value →
      (value = .nan ↔ text = nanWord) ∧ (value.isNegative = true ↔ text.head? = some 0x2d) ∧
        (text.length < 2147483648 → Counted.read type text = .ok (some value))) ∧
    double.UsablePowers ∧ single.UsablePowers := by
  refine ⟨fun type standard usable text value read => ?_, nearPowers_double.usable standard_double,
    nearPowers_single.usable standard_single⟩
  have held : text.length < 2147483648 → Counted.read type text = .ok (some value) := fun short =>
    (Counted.read_eq_ok_iff standard read).mpr fun overlong => absurd overlong.length_le (by omega)
  obtain word | ⟨literal, spells, rfl⟩ := read?_eq_some_iff.mp read
  · obtain ⟨nan, sign⟩ := words_nan_and_sign _ word
    exact ⟨nan, sign, held⟩
  · obtain ⟨number, sign⟩ := ofDecimal_nan_and_sign
      (unsigned_nonneg standard usable spells.whole_lt spells.fraction_lt spells.exponent_le)
    refine ⟨iff_of_false number (Spells.ne_nanWord spells), ?_, held⟩
    rw [sign, spells.negative_iff]

/-- Whole digits that overflow, a fraction whose power of ten is zero, and a small exponent. -/
theorem read?_nan_iff_and_isNegative_iff_overflowing :
    let text := Bytes.ofAscii ['-', '1'] ++ (List.replicate 400 0x30 ++
      (0x2e :: List.replicate 330 0x30 ++ Bytes.ofAscii ['1', 'e', '-', '3', '0', '8']))
    double.Standard ∧ double.UsablePowers ∧
      ∃ value, double.read? text = some value ∧ Counted.read double text = .ok (some value) ∧
        value ≠ .nan ∧ value.isNegative = true := by
  intro text
  obtain ⟨every, usable, -⟩ := read?_nan_iff_and_isNegative_iff
  have accepted : (double.read? text).isSome = true := by decide +kernel
  obtain ⟨value, read⟩ := Option.isSome_iff_exists.mp accepted
  obtain ⟨nan, sign, held⟩ := every double standard_double usable text value read
  exact ⟨standard_double, usable, value, read, held (by decide +kernel), mt nan.mp (by decide +kernel),
    sign.mpr (by decide +kernel)⟩

end Literal.FloatType
end TextScan
