import TextScan.Literal.Decimal
import TextScan.Proofs.Floating.Amounts
import TextScan.Proofs.Literal.Grammar

/-! Digits pushed one after another onto a floating-point number stay near the number that they stand
for: each digit costs two roundings, and what has become infinite remains so. -/
namespace TextScan.Literal
open TextScan.Floating

theorem numeral_append_singleton (base : Nat) (digits : List Nat) (digit : Nat) :
    numeral base (digits ++ [digit]) = numeral base digits * base + digit := by
  simp only [numeral, List.reverse_append, List.reverse_singleton, List.singleton_append,
    Nat.ofDigits_cons]
  ring

theorem numeral_eq_zero_iff {digits : List Nat} :
    numeral 10 digits = 0 ↔ ∀ digit ∈ digits, digit = 0 := by
  induction digits using List.reverseRecOn with
  | nil => simp [numeral]
  | append_singleton digits digit before =>
    rw [numeral_append_singleton, Nat.add_eq_zero_iff, Nat.mul_eq_zero, before]
    simp [or_imp, forall_and]

namespace FloatType

/-- Two types that differ at most in their powers of ten. -/
structure SameSizes (left right : FloatType) : Prop where
  format : left.format = right.format
  greatestExponent10 : left.greatestExponent10 = right.greatestExponent10
  fractionDigits : left.fractionDigits = right.fractionDigits

def Standard (type : FloatType) : Prop :=
  type.SameSizes .double ∨ type.SameSizes .single

theorem standard_double : double.Standard :=
  .inl ⟨rfl, rfl, rfl⟩

theorem standard_single : single.Standard :=
  .inr ⟨rfl, rfl, rfl⟩

theorem Standard.regular {type : FloatType} (standard : type.Standard) : type.format.Regular := by
  obtain ⟨format, -⟩ | ⟨format, -⟩ := standard
  · exact format ▸ Format.double_regular
  · exact format ▸ Format.single_regular

theorem Standard.keeps {type : FloatType} (standard : type.Standard) : 0 < type.fractionDigits := by
  obtain ⟨-, -, fractionDigits⟩ | ⟨-, -, fractionDigits⟩ := standard <;> rw [fractionDigits] <;> decide

variable {type : FloatType} {digits : List Nat} {digit exact roundings : Nat} {value : Number}

theorem ofDigits_append_singleton (type : FloatType) (digits : List Nat) (digit : Nat) :
    type.ofDigits (digits ++ [digit]) = type.pushDigit (type.ofDigits digits) digit := by
  simp [ofDigits]

theorem represents_ten (regular : type.format.Regular) :
    type.format.Represents type.ten (10 : Nat) :=
  regular.represents_ofNat (lt_of_lt_of_le (by norm_num) (Nat.pow_le_pow_right (by omega) regular.precise))

theorem represents_ofDigit (regular : type.format.Regular) (small : digit < 10) :
    type.format.Represents (type.ofDigit digit) digit :=
  regular.represents_ofNat
    (lt_of_lt_of_le (small.trans (by norm_num)) (Nat.pow_le_pow_right (by omega) regular.precise))

/-- The least and the most that some roundings leave of an amount, in proportion to it. -/
def shrink (type : FloatType) (roundings : Nat) : ℚ :=
  (1 - type.format.slack) ^ roundings

def growth (type : FloatType) (roundings : Nat) : ℚ :=
  (1 + type.format.slack) ^ roundings

/-- What is left of a natural number after some roundings: a natural number near it, or infinity where
it is too large. -/
def Near (type : FloatType) (roundings : Nat) (value : Number) (exact : Nat) : Prop :=
  (∃ total : Nat, type.format.Represents value total ∧ exact * type.shrink roundings ≤ total ∧
      total ≤ exact * type.growth roundings) ∨
    (value = .infinite false ∧ type.format.overflow ≤ exact * type.growth roundings)

theorem one_le_growth (type : FloatType) (roundings : Nat) : 1 ≤ type.growth roundings :=
  one_le_pow₀ (by linarith [type.format.slack_pos])

theorem growth_le_succ (type : FloatType) (roundings : Nat) :
    type.growth roundings ≤ type.growth (roundings + 1) :=
  pow_le_pow_right₀ (by linarith [type.format.slack_pos]) (by omega)

theorem shrink_le_one (regular : type.format.Regular) (roundings : Nat) : type.shrink roundings ≤ 1 :=
  pow_le_one₀ (by linarith [regular.slack_le]) (by linarith [type.format.slack_pos])

theorem shrink_pos (regular : type.format.Regular) (roundings : Nat) : 0 < type.shrink roundings :=
  pow_pos (by linarith [regular.slack_le]) roundings

theorem near_infinite {larger : Nat} (more : exact ≤ larger)
    (beyond : type.format.overflow ≤ exact * type.growth roundings) :
    type.Near (roundings + 1) (.infinite false) larger := by
  have grown := type.growth_le_succ roundings
  have least := type.one_le_growth roundings
  have wider : (exact : ℚ) ≤ larger := by exact_mod_cast more
  refine .inr ⟨rfl, beyond.trans ?_⟩
  gcongr

theorem near_of_yields (regular : type.format.Regular) {total : Nat} (yields : type.format.Yields value total)
    (low : exact * type.shrink roundings ≤ total) (high : total ≤ exact * type.growth roundings) :
    type.Near (roundings + 1) value exact := by
  have slack := type.format.slack_pos
  have tight := regular.slack_le
  obtain ⟨amount, is, rounds⟩ | ⟨endless, beyond⟩ := yields
  · obtain ⟨rounded, rfl⟩ := rounds.natural
    refine .inl ⟨rounded, is, ?_, ?_⟩
    · calc exact * type.shrink (roundings + 1)
          = exact * type.shrink roundings * (1 - type.format.slack) := by
            rw [shrink, shrink, pow_succ, mul_assoc]
        _ ≤ total * (1 - type.format.slack) := by
            gcongr
            linarith
        _ ≤ rounded := rounds.lower (regular.onGrid_natCast total)
    · calc (rounded : ℚ)
          ≤ total * (1 + type.format.slack) := rounds.upper (regular.onGrid_natCast total)
        _ ≤ exact * type.growth roundings * (1 + type.format.slack) := by gcongr
        _ = exact * type.growth (roundings + 1) := by rw [growth, growth, pow_succ, mul_assoc]
  · rw [endless]
    exact near_infinite le_rfl (beyond.trans high)

theorem Near.mul_ten (regular : type.format.Regular) (near : type.Near roundings value exact) :
    type.Near (roundings + 1) (type.format.mul value type.ten) (exact * 10) := by
  obtain ⟨total, is, low, high⟩ | ⟨rfl, beyond⟩ := near
  · have yields := Format.mul_yields regular is (represents_ten regular)
    rw [← Nat.cast_mul] at yields
    refine near_of_yields regular yields ?_ ?_ <;> push_cast <;> linarith
  · rw [Format.mul_infinite (represents_ten regular) (by norm_num)]
    exact near_infinite (by omega) beyond

theorem Near.add_digit (regular : type.format.Regular) (small : digit < 10)
    (near : type.Near roundings value exact) :
    type.Near (roundings + 1) (type.format.add value (type.ofDigit digit)) (exact + digit) := by
  have isDigit := represents_ofDigit regular small
  obtain ⟨total, is, low, high⟩ | ⟨rfl, beyond⟩ := near
  · have yields := Format.add_yields regular is isDigit
    rw [← Nat.cast_add] at yields
    have less := mul_le_mul_of_nonneg_left (shrink_le_one regular roundings)
      (Nat.cast_nonneg digit : (0 : ℚ) ≤ digit)
    have more := mul_le_mul_of_nonneg_left (type.one_le_growth roundings)
      (Nat.cast_nonneg digit : (0 : ℚ) ≤ digit)
    refine near_of_yields regular yields ?_ ?_ <;> push_cast <;> linarith
  · rw [Format.add_infinite isDigit]
    exact near_infinite (by omega) beyond

theorem Near.pushDigit (regular : type.format.Regular) (small : digit < 10)
    (near : type.Near roundings value exact) :
    type.Near (roundings + 2) (type.pushDigit value digit) (exact * 10 + digit) :=
  (near.mul_ten regular).add_digit regular small

/-- Each digit costs two roundings, that of the product and that of the sum. -/
theorem near_ofDigits (regular : type.format.Regular) (small : ∀ digit ∈ digits, digit < 10) :
    type.Near (2 * digits.length) (type.ofDigits digits) (numeral 10 digits) := by
  induction digits using List.reverseRecOn with
  | nil =>
    have none := Format.represents_zero regular.ordered
    exact .inl ⟨0, by rwa [Nat.cast_zero], by simp [numeral], by simp [numeral]⟩
  | append_singleton digits digit before =>
    have near := before fun digit member => small digit (List.mem_append_left _ member)
    rw [ofDigits_append_singleton, numeral_append_singleton, List.length_append]
    exact near.pushDigit regular (small digit (by simp))

/-- Digits come to zero only where the number they stand for is zero. -/
theorem isZero_ofDigits (regular : type.format.Regular) (small : ∀ digit ∈ digits, digit < 10) :
    (type.ofDigits digits).isZero = true ↔ numeral 10 digits = 0 := by
  have keeps := shrink_pos regular (2 * digits.length)
  obtain ⟨total, is, low, high⟩ | ⟨endless, beyond⟩ := near_ofDigits regular small
  · rw [is.isZero_iff, Nat.cast_eq_zero]
    constructor
    · rintro rfl
      have none : (numeral 10 digits : ℚ) ≤ 0 := nonpos_of_mul_nonpos_left (by simpa using low) keeps
      exact Nat.le_zero.mp (by exact_mod_cast none)
    · intro none
      rw [none, Nat.cast_zero, zero_mul] at high
      exact_mod_cast le_antisymm high (Nat.cast_nonneg total)
  · rw [endless]
    have some : numeral 10 digits ≠ 0 := by
      intro none
      rw [none, Nat.cast_zero, zero_mul] at beyond
      exact absurd beyond (not_le.mpr type.format.overflow_pos)
    simp [Number.isZero, some]

end FloatType
end TextScan.Literal
