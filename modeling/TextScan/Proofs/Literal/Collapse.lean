import TextScan.Proofs.Literal.Counters
import TextScan.Proofs.Literal.Mantissa

/-! Which literals of an ordinary amount come to a number that is neither zero nor infinite. Nothing is lost
to an exponent; what is lost is lost before it counts, to too many whole digits or too many places. -/
namespace TextScan
namespace Floating

def Number.isFinite : Number → Bool
  | .finite .. => true
  | _ => false

/-- Neither zero nor infinite nor NaN. -/
def Number.Ordinary (number : Number) : Prop :=
  number.isFinite = true ∧ number.isZero = false

@[simp] theorem Number.ordinary_neg (number : Number) : number.neg.Ordinary ↔ number.Ordinary := by
  cases number <;> exact .rfl

namespace Format
variable {format : Format} {number : Number} {exact amount : ℚ}

theorem Represents.isFinite (is : format.Represents number amount) : number.isFinite = true := by
  obtain ⟨_, _, rfl, -⟩ := is
  rfl

theorem Represents.ordinary_iff (is : format.Represents number amount) : number.Ordinary ↔ amount ≠ 0 := by
  rw [Number.Ordinary, is.isFinite, ne_eq, ← is.isZero_iff, Bool.not_eq_true]
  exact and_iff_right rfl

end Format
end Floating

namespace Literal.FloatType
open Floating Decimal
variable {type : FloatType} {literal : Decimal} {digits : List Nat} {sum amount : ℚ} {value : Number}

theorem represents_of_isFinite (standard : type.Standard) (small : ∀ digit ∈ digits, digit < 10)
    (finite : (type.ofDigits digits).isFinite = true) :
    ∃ amount, type.format.Represents (type.ofDigits digits) amount := by
  obtain ⟨total, is, -⟩ | ⟨endless, -⟩ := near_ofDigits standard.regular small
  · exact ⟨total, is⟩
  · rw [endless] at finite
    cases finite

/-- The exponent counts last and loses nothing of an ordinary amount. -/
theorem NearPowers.scale_ordinary (near : type.NearPowers) (standard : type.Standard) {exponent : Int}
    (within : exponent.natAbs ≤ type.greatestExponent10) (is : type.format.Represents value sum)
    (least : 3 * 2 ^ type.format.leastExponent ≤ sum * 10 ^ exponent)
    (most : sum * 10 ^ exponent ≤ 3 / 4 * type.format.largest) :
    (type.scale value exponent).Ordinary := by
  have regular := standard.regular
  have step : (0 : ℚ) < 2 ^ type.format.leastExponent := by positivity
  unfold scale
  split_ifs with none
  · rw [none, zpow_zero, mul_one] at least
    exact is.ordinary_iff.mpr (by linarith)
  · obtain ⟨power, isPower, low, high⟩ := near.near_of_le standard within
    have scaledLow := mul_le_mul_of_nonneg_left low is.nonneg
    have scaledHigh := mul_le_mul_of_nonneg_left high is.nonneg
    obtain ⟨result, isResult, rounds⟩ := (Format.mul_yields regular is isPower).represents
      (by linarith [type.format.largest_lt_overflow, regular.largest_pos])
    exact isResult.ordinary_iff.mpr (rounds.pos_of_le regular.positive (by linarith)).ne'

/-- Unless whole digits overflow or the place of a fraction vanishes, the sum stays in proportion to what
the literal amounts to without its exponent. -/
theorem NearPowers.unsigned_ordinary (near : type.NearPowers) (standard : type.Standard)
    (whole : ∀ digit ∈ literal.whole, digit < 10) (fraction : ∀ digit ∈ literal.fraction, digit < 10)
    (exponent : literal.exponent.natAbs ≤ type.greatestExponent10)
    (low : type.format.leastNormal ≤ literal.amount) (high : literal.amount ≤ type.format.largest / 2)
    (finite : (type.ofDigits literal.whole).isFinite = true)
    (kept : numeral 10 literal.whole = 0 → (type.place literal.fraction).isZero = false) :
    (type.unsigned literal).Ordinary := by
  obtain ⟨amount, is⟩ := represents_of_isFinite standard whole finite
  obtain ⟨sum, isSum, most, least⟩ := near.addFraction_close standard whole fraction is
  obtain ⟨below, above⟩ := mantissa_bounds standard.keeps fraction
  have power : (0 : ℚ) < 10 ^ literal.exponent := by positivity
  have tiny := mul_le_mul_of_nonneg_right (standard.excess_le fraction) power.le
  have fits := standard.ten_zpow_le_largest (by omega : literal.exponent ≤ _)
  have normal := standard.regular.least_le_leastNormal
  have scaledMost := mul_le_mul_of_nonneg_right most power.le
  have scaledLeast := mul_le_mul_of_nonneg_right (least kept) power.le
  exact near.scale_ordinary standard exponent isSum (by linarith) (by linarith)

theorem NearPowers.unsigned_infinite (near : type.NearPowers) (standard : type.Standard)
    (fraction : ∀ digit ∈ literal.fraction, digit < 10)
    (exponent : literal.exponent.natAbs ≤ type.greatestExponent10)
    (endless : type.ofDigits literal.whole = .infinite false) :
    type.unsigned literal = .infinite false := by
  obtain ⟨part, isPart, -⟩ := near.placed_fraction standard fraction
  obtain ⟨power, isPower, low, -⟩ := near.near_of_le standard exponent
  have some : (0 : ℚ) < 10 ^ literal.exponent := by positivity
  have joined : type.addFraction (.infinite false) (Fraction.ofDigits type literal.fraction) =
      .infinite false := by
    rw [addFraction_eq standard fraction, Format.add_infinite isPart, ite_self]
  rw [unsigned, endless, joined, scale]
  split_ifs
  · rfl
  · exact Format.mul_infinite isPower (by linarith)

/-- A fraction that is put into place by zero is lost, and zero stays zero. -/
theorem NearPowers.unsigned_zero (near : type.NearPowers) (standard : type.Standard)
    (fraction : ∀ digit ∈ literal.fraction, digit < 10)
    (exponent : literal.exponent.natAbs ≤ type.greatestExponent10)
    (whole : type.format.Represents (type.ofDigits literal.whole) 0)
    (lost : (type.place literal.fraction).isZero = true) :
    type.format.Represents (type.unsigned literal) 0 := by
  have regular := standard.regular
  obtain ⟨total, is, -⟩ := near_counted standard fraction
  obtain ⟨place, isPlace, -⟩ := near.near_place standard literal.fraction
  obtain ⟨power, isPower, -⟩ := near.near_of_le standard exponent
  rw [isPlace.isZero_iff.mp lost] at isPlace
  have joined : type.format.Represents (type.addFraction (type.ofDigits literal.whole)
      (Fraction.ofDigits type literal.fraction)) 0 := by
    have part := Format.mul_yields regular is isPlace
    rw [mul_zero] at part
    have sum := Format.add_yields regular whole (part.zero regular)
    rw [add_zero] at sum
    rw [addFraction_eq standard fraction]
    split_ifs
    · exact whole
    · exact sum.zero regular
  have product := Format.mul_yields regular joined isPower
  rw [zero_mul] at product
  rw [unsigned, scale]
  split_ifs
  · exact joined
  · exact product.zero regular

theorem ofDecimal_ordinary_iff : (type.ofDecimal literal).Ordinary ↔ (type.unsigned literal).Ordinary := by
  rw [ofDecimal_eq]
  split_ifs
  · exact Number.ordinary_neg _
  · rfl

theorem NearPowers.unsigned_ordinary_iff (near : type.NearPowers) (standard : type.Standard)
    (whole : ∀ digit ∈ literal.whole, digit < 10) (fraction : ∀ digit ∈ literal.fraction, digit < 10)
    (exponent : literal.exponent.natAbs ≤ type.greatestExponent10)
    (low : type.format.leastNormal ≤ literal.amount) (high : literal.amount ≤ type.format.largest / 2) :
    (type.unsigned literal).Ordinary ↔ (type.ofDigits literal.whole).isFinite = true ∧
      (numeral 10 literal.whole = 0 → (type.place literal.fraction).isZero = false) := by
  constructor
  · rintro ⟨finite, nonzero⟩
    obtain ⟨total, is, -, most⟩ | ⟨endless, -⟩ := near_ofDigits standard.regular whole
    · refine ⟨is.isFinite, fun none => Bool.eq_false_iff.mpr fun lost => ?_⟩
      have empty : total = 0 := by
        rw [none, Nat.cast_zero, zero_mul] at most
        exact_mod_cast le_antisymm most total.cast_nonneg
      rw [empty, Nat.cast_zero] at is
      have vanishes := (near.unsigned_zero standard fraction exponent is lost).isZero_iff.mpr rfl
      cases nonzero.symm.trans vanishes
    · rw [near.unsigned_infinite standard fraction exponent endless] at finite
      cases finite
  · rintro ⟨finite, kept⟩
    exact near.unsigned_ordinary standard whole fraction exponent low high finite kept

/-- Whatever near powers of ten a type has, a literal of an ordinary amount comes to an ordinary number if
and only if its whole digits alone stay finite, which they do up to half the largest number, and, where they
are all zero, the power of ten that counts the places of its fraction is not zero. Only a text that is
overlong does not come to it, for its counter of those places. The powers of both types are near, and those
that are zero are known. -/
theorem read?_ordinary_iff :
    (∀ type : FloatType, type.Standard → type.NearPowers → ∀ text literal,
      Spells type.greatestExponent10 text literal → type.format.leastNormal ≤ literal.amount →
      literal.amount ≤ type.format.largest / 2 →
      (∃ value, type.read? text = some value ∧
        (Counted.read type text = .ok (some value) ↔ ¬Counted.Overlong type text) ∧
        (value.Ordinary ↔ (type.ofDigits literal.whole).isFinite = true ∧
          (numeral 10 literal.whole = 0 → (type.place literal.fraction).isZero = false))) ∧
      (numeral 10 literal.whole ≤ type.format.largest / 2 →
        (type.ofDigits literal.whole).isFinite = true)) ∧
    double.NearPowers ∧ (∀ fraction, (double.place fraction).isZero = false ↔
      (countedDigits double.fractionDigits fraction).length ≤ 323) ∧
    single.NearPowers ∧ (∀ fraction, (single.place fraction).isZero = false ↔
      (countedDigits single.fractionDigits fraction).length ≤ 45) := by
  refine ⟨fun type standard near text literal spells low high => ⟨?_, fun small => ?_⟩,
    nearPowers_double, place_double_isZero_iff, nearPowers_single, place_single_isZero_iff⟩
  · have reads : type.read? text = some (type.ofDecimal literal) :=
      read?_eq_some_iff.mpr (.inr ⟨literal, spells, rfl⟩)
    refine ⟨_, reads, Counted.read_eq_ok_iff standard reads, ?_⟩
    rw [ofDecimal_ordinary_iff]
    exact near.unsigned_ordinary_iff standard spells.whole_lt spells.fraction_lt spells.exponent_le low high
  · obtain ⟨amount, is⟩ := whole_finite standard spells.whole_lt small
    exact is.isFinite

theorem numeral_trailing (zeros : Nat) : numeral 10 (1 :: List.replicate zeros 0) = 10 ^ zeros := by
  rw [numeral_cons, numeral_eq_zero_iff.mpr (by simp), List.length_replicate, one_mul, Nat.add_zero]

theorem amount_trailing (zeros : Nat) (exponent : Int) :
    (⟨.positive, 1 :: List.replicate zeros 0, [], exponent⟩ : Decimal).amount = 10 ^ (zeros + exponent) := by
  have empty : numeral 10 [] = 0 := rfl
  simp only [amount, numeral_trailing, empty]
  rw [zpow_add₀ (by norm_num), zpow_natCast]
  push_cast
  ring

theorem amount_leading (zeros : Nat) (exponent : Int) :
    (⟨.positive, [0], List.replicate zeros 0 ++ [1], exponent⟩ : Decimal).amount =
      10 ^ (exponent - (zeros + 1 : Nat)) := by
  have none : numeral 10 (List.replicate zeros 0) = 0 := numeral_eq_zero_iff.mpr (by simp)
  have empty : numeral 10 [0] = 0 := rfl
  simp only [amount, numeral_append_singleton, none, empty, List.length_append, List.length_replicate,
    List.length_singleton]
  rw [zpow_sub₀ (by norm_num), zpow_natCast]
  push_cast
  ring

theorem ten_zpow_ordinary {exponent : Int} (within : exponent.natAbs ≤ 20) :
    double.format.leastNormal ≤ 10 ^ exponent ∧ 10 ^ exponent ≤ double.format.largest / 2 := by
  constructor
  · calc double.format.leastNormal ≤ (2 : ℚ) ^ (-100 : Int) :=
          zpow_le_zpow_right₀ (by norm_num) (by decide)
      _ ≤ 10 ^ (-20 : Int) := by norm_num
      _ ≤ 10 ^ exponent := zpow_le_zpow_right₀ (by norm_num) (by omega)
  · have large : (2 : ℚ) ^ (100 : Int) ≤ 2 ^ double.format.greatestExponent :=
      zpow_le_zpow_right₀ (by norm_num) (by decide)
    have most : double.format.largest = (2 ^ 53 - 1) * 2 ^ double.format.greatestExponent := rfl
    calc (10 : ℚ) ^ exponent ≤ 10 ^ (20 : Int) := zpow_le_zpow_right₀ (by norm_num) (by omega)
      _ ≤ 2 ^ (100 : Int) := by norm_num
      _ ≤ double.format.largest / 2 := by rw [most]; linarith

/-- A fraction of as many places as a power of ten can count, brought back by its exponent. -/
theorem read?_ordinary_iff_last_place :
    let text := Bytes.ofAscii ['0', '.'] ++ (List.replicate 322 0x30 ++ Bytes.ofAscii ['1', 'e', '3', '0', '8'])
    let literal : Decimal := ⟨.positive, [0], List.replicate 322 0 ++ [1], 308⟩
    double.Standard ∧ double.NearPowers ∧ Spells 308 text literal ∧
      double.format.leastNormal ≤ literal.amount ∧ literal.amount ≤ double.format.largest / 2 ∧
      ∃ value, double.read? text = some value ∧ Counted.read double text = .ok (some value) ∧
        value.Ordinary := by
  intro text literal
  have spells : Spells 308 text literal :=
    spells_iff.mpr ((readBody?_eq_some_iff (by decide +kernel)).mp (by decide +kernel))
  have small : literal.amount = 10 ^ (-15 : Int) := amount_leading 322 308
  obtain ⟨low, high⟩ := ten_zpow_ordinary (by decide : (-15 : Int).natAbs ≤ 20)
  rw [← small] at low high
  obtain ⟨every, near, kept, -⟩ := read?_ordinary_iff
  obtain ⟨⟨value, read, counted, ordinary⟩, finite⟩ :=
    every double standard_double near text literal spells low high
  have places : (countedDigits double.fractionDigits literal.fraction).length ≤ 323 := by decide +kernel
  have none : (numeral 10 literal.whole : ℚ) ≤ double.format.largest / 2 := by
    rw [show numeral 10 literal.whole = 0 from rfl, Nat.cast_zero]
    exact div_nonneg standard_double.regular.largest_pos.le (by norm_num)
  have short : ¬Counted.Overlong double text := fun overlong => absurd overlong.length_le (by decide +kernel)
  exact ⟨standard_double, near, spells, low, high, value, read, counted.mpr short,
    ordinary.mpr ⟨finite none, fun _ => (kept _).mpr places⟩⟩

/-- Ten, spelled with too many whole digits, and a small fraction, with too many places. -/
theorem read?_not_ordinary :
    let long := Bytes.ofAscii ['1'] ++ (List.replicate 309 0x30 ++ Bytes.ofAscii ['e', '-', '3', '0', '8'])
    let longLiteral : Decimal := ⟨.positive, 1 :: List.replicate 309 0, [], -308⟩
    let deep := Bytes.ofAscii ['0', '.'] ++ (List.replicate 323 0x30 ++ Bytes.ofAscii ['1', 'e', '3', '0', '8'])
    let deepLiteral : Decimal := ⟨.positive, [0], List.replicate 323 0 ++ [1], 308⟩
    (Spells 308 long longLiteral ∧ double.format.leastNormal ≤ longLiteral.amount ∧
      longLiteral.amount ≤ double.format.largest / 2 ∧ double.read? long = some (.infinite false)) ∧
    (Spells 308 deep deepLiteral ∧ double.format.leastNormal ≤ deepLiteral.amount ∧
      deepLiteral.amount ≤ double.format.largest / 2 ∧ double.read? deep = some double.zero) := by
  intro long longLiteral deep deepLiteral
  have longSpells : Spells 308 long longLiteral :=
    spells_iff.mpr ((readBody?_eq_some_iff (by decide +kernel)).mp (by decide +kernel))
  have deepSpells : Spells 308 deep deepLiteral :=
    spells_iff.mpr ((readBody?_eq_some_iff (by decide +kernel)).mp (by decide +kernel))
  have ten : longLiteral.amount = 10 ^ (1 : Int) := amount_trailing 309 (-308)
  have small : deepLiteral.amount = 10 ^ (-16 : Int) := amount_leading 323 308
  have endless : double.ofDigits longLiteral.whole = .infinite false := by
    refine ofDigits_eq_infinite standard_double longSpells.whole_lt ?_
    have beyond : ((2 ^ Format.double.precision - 1) * 2 ^ Format.double.greatestExponent.toNat : Nat) * 32 <
        10 ^ 309 * 31 := by decide +kernel
    have beyond : double.format.largest * 32 < ((10 ^ 309 : Nat) : ℚ) * 31 := by
      rw [double, Format.double_regular.largest_eq]
      exact_mod_cast beyond
    rw [numeral_trailing]
    linarith
  have read : double.read? long = some (.infinite false) :=
    read?_eq_some_iff.mpr (.inr ⟨longLiteral, longSpells, (ofDecimal_eq _ _).trans ((if_neg (by decide)).trans
      (nearPowers_double.unsigned_infinite standard_double longSpells.fraction_lt (by decide) endless))⟩)
  rw [ten, small]
  exact ⟨⟨longSpells, (ten_zpow_ordinary (by decide)).1, (ten_zpow_ordinary (by decide)).2, read⟩,
    deepSpells, (ten_zpow_ordinary (by decide)).1, (ten_zpow_ordinary (by decide)).2, by decide +kernel⟩

end Literal.FloatType
end TextScan
