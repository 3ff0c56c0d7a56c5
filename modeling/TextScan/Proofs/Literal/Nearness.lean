import TextScan.Proofs.Literal.NormalForm

/-! In double and single precision the digits of a literal come to a number near the exact one, off by less
than a thirtieth, wherever they come to a finite number: a finite number has too few digits for more. -/
namespace TextScan.Literal
open TextScan.Floating

theorem numeral_cons (base digit : Nat) (digits : List Nat) :
    numeral base (digit :: digits) = digit * base ^ digits.length + numeral base digits := by
  rw [← readOnto_zero, readOnto_cons, readOnto_eq, Nat.zero_mul, Nat.zero_add]

theorem numeral_append (base : Nat) (front back : List Nat) :
    numeral base (front ++ back) = numeral base front * base ^ back.length + numeral base back := by
  simp only [numeral, List.reverse_append, Nat.ofDigits_append, List.length_reverse]
  ring

theorem numeral_dropWhile (base : Nat) (digits : List Nat) :
    numeral base (digits.dropWhile (· = 0)) = numeral base digits := by
  induction digits with
  | nil => rfl
  | cons digit digits rest =>
    rw [List.dropWhile_cons]
    split_ifs with zero
    · obtain rfl : digit = 0 := by simpa using zero
      rw [rest, numeral_cons, Nat.zero_mul, Nat.zero_add]
    · rfl

/-- Digits without leading zeros stand for a number of as many digits. -/
theorem pow_length_le {digits : List Nat} (first : ∀ digit ∈ digits.head?, digit ≠ 0) (some : digits ≠ []) :
    10 ^ digits.length ≤ 10 * numeral 10 digits := by
  cases digits with
  | nil => exact absurd rfl some
  | cons digit digits =>
    have nonzero := first digit rfl
    rw [numeral_cons, List.length_cons, pow_succ, mul_comm]
    refine Nat.mul_le_mul_left 10 (Nat.le_add_right_of_le ?_)
    exact Nat.le_mul_of_pos_left _ (Nat.pos_of_ne_zero nonzero)

namespace FloatType
open Decimal

/-- The room that a type leaves for literals: for the digits of finite numbers and of fractions, and between
the powers of ten that exponents name and the bounds of the format. -/
structure Roomy (format : Format) (greatestExponent10 fractionDigits : Nat) : Prop where
  digits : 64 * ((format.greatestExponent.toNat + format.precision + 4) / 3) ≤ 2 ^ format.precision
  fraction : 64 * fractionDigits ≤ 2 ^ format.precision
  counted : 2 * 10 ^ fractionDigits ≤ (2 ^ format.precision - 1) * 2 ^ format.greatestExponent.toNat
  greatest : 10 ^ greatestExponent10 ≤ (2 ^ format.precision - 1) * 2 ^ format.greatestExponent.toNat
  least : 16 * 10 ^ greatestExponent10 ≤ 2 ^ (-format.leastExponent).toNat
  fewer : fractionDigits ≤ greatestExponent10
  spare : 2 ≤ format.greatestExponent

theorem roomy_double : Roomy .double 308 20 := by
  constructor <;> decide +kernel

theorem roomy_single : Roomy .single 38 10 := by
  constructor <;> decide +kernel

theorem Standard.roomy {type : FloatType} (standard : type.Standard) :
    Roomy type.format type.greatestExponent10 type.fractionDigits := by
  obtain ⟨format, limit, digits⟩ | ⟨format, limit, digits⟩ := standard <;> rw [format, limit, digits]
  · exact roomy_double
  · exact roomy_single

variable {type : FloatType} {digits : List Nat} {exact roundings : Nat} {value : Number} {amount : ℚ}

theorem le_shrink (regular : type.format.Regular) (few : 32 * roundings ≤ 2 ^ type.format.precision) :
    31 / 32 ≤ type.shrink roundings := by
  have bernoulli := one_add_mul_le_pow (by linarith [regular.slack_le] : -2 ≤ -type.format.slack) roundings
  have size : (32 : ℚ) * roundings ≤ 2 ^ type.format.precision := by exact_mod_cast few
  have small : roundings * type.format.slack ≤ 1 / 32 := by
    rw [Format.slack, mul_one_div, div_le_div_iff₀ (by positivity) (by norm_num)]
    linarith
  rw [shrink, sub_eq_add_neg]
  linarith

theorem growth_le (regular : type.format.Regular) (few : 32 * roundings ≤ 2 ^ type.format.precision) :
    type.growth roundings ≤ 32 / 31 := by
  have low := le_shrink regular few
  have slack := type.format.slack_pos
  have both : type.growth roundings * type.shrink roundings ≤ 1 := by
    rw [growth, shrink, ← mul_pow]
    exact pow_le_one₀ (by nlinarith [regular.slack_le]) (by nlinarith)
  have some := type.one_le_growth roundings
  rw [le_div_iff₀ (by norm_num)]
  nlinarith

theorem Standard.few_digits (standard : type.Standard) {count : Nat}
    (fits : (8 : ℚ) ^ count ≤ 10 * type.format.largest) : 64 * count ≤ 2 ^ type.format.precision := by
  have room := standard.roomy.digits
  have few : count ≤ (type.format.greatestExponent.toNat + type.format.precision + 4) / 3 := by
    by_contra more
    have most : (2 ^ type.format.precision - 1) * 2 ^ type.format.greatestExponent.toNat <
        2 ^ (type.format.greatestExponent.toNat + type.format.precision) := by
      rw [Nat.add_comm, pow_add]
      exact Nat.mul_lt_mul_of_pos_right (Nat.sub_lt (Nat.two_pow_pos _) (by omega)) (Nat.two_pow_pos _)
    have grown : 2 ^ (type.format.greatestExponent.toNat + type.format.precision + 4) ≤ 8 ^ count := by
      rw [show 8 = 2 ^ 3 from rfl, ← pow_mul]
      exact Nat.pow_le_pow_right (by omega) (by omega)
    rw [standard.regular.largest_eq] at fits
    have fits : 8 ^ count ≤ 10 * ((2 ^ type.format.precision - 1) * 2 ^ type.format.greatestExponent.toNat) := by
      exact_mod_cast fits
    rw [pow_add] at grown
    omega
  omega

/-- Zeros in front cost no rounding, for zero stays exact. -/
theorem near_significant (regular : type.format.Regular) (small : ∀ digit ∈ digits, digit < 10) :
    type.Near (2 * (digits.dropWhile (· = 0)).length) (type.ofDigits digits) (numeral 10 digits) := by
  have near := near_ofDigits regular fun digit member =>
    small digit ((List.dropWhile_sublist (· = 0)).subset member)
  rwa [ofDigits_dropWhile regular, numeral_dropWhile] at near

theorem Near.close (regular : type.format.Regular) (few : 32 * roundings ≤ 2 ^ type.format.precision)
    (near : type.Near roundings value exact) :
    (∃ total : Nat, type.format.Represents value total ∧ exact * (31 / 32) ≤ (total : ℚ) ∧
        total ≤ exact * (32 / 31 : ℚ)) ∨
      (value = .infinite false ∧ type.format.overflow ≤ exact * (32 / 31)) := by
  have low := mul_le_mul_of_nonneg_left (le_shrink regular few) (Nat.cast_nonneg exact)
  have high := mul_le_mul_of_nonneg_left (growth_le regular few) (Nat.cast_nonneg exact)
  obtain ⟨total, is, least, most⟩ | ⟨endless, beyond⟩ := near
  · exact .inl ⟨total, is, low.trans least, most.trans high⟩
  · exact .inr ⟨endless, beyond.trans high⟩

theorem le_shrink_twice (regular : type.format.Regular) (count : Nat) :
    (4 / 5) ^ count ≤ type.shrink (2 * count) := by
  rw [shrink, pow_mul]
  refine pow_le_pow_left₀ (by norm_num) ?_ count
  have tight := regular.slack_le
  nlinarith [type.format.slack_pos]

/-- The two roundings of a digit cost less than a fifth of the ten that it brings. -/
theorem eight_pow_le (regular : type.format.Regular) (first : ∀ digit ∈ digits.head?, digit ≠ 0)
    (some : digits ≠ []) (low : numeral 10 digits * type.shrink (2 * digits.length) ≤ amount) :
    8 ^ digits.length ≤ 10 * amount := by
  have size : (10 : ℚ) ^ digits.length ≤ 10 * numeral 10 digits := by
    exact_mod_cast pow_length_le first some
  calc (8 : ℚ) ^ digits.length = 10 ^ digits.length * (4 / 5) ^ digits.length := by
        rw [← mul_pow]
        norm_num
    _ ≤ 10 * numeral 10 digits * type.shrink (2 * digits.length) := by
        gcongr
        exact le_shrink_twice regular digits.length
    _ ≤ 10 * amount := by linarith

theorem Standard.few_significant (standard : type.Standard) (digits : List Nat)
    (fits : digits.dropWhile (· = 0) ≠ [] →
      (8 : ℚ) ^ (digits.dropWhile (· = 0)).length ≤ 10 * type.format.largest) :
    64 * (digits.dropWhile (· = 0)).length ≤ 2 ^ type.format.precision := by
  by_cases none : digits.dropWhile (· = 0) = []
  · simp [none]
  · exact standard.few_digits (fits none)

theorem not_represents_infinite (is : type.format.Represents (.infinite false) amount) : False := by
  obtain ⟨_, _, same, -⟩ := is
  cases same

/-- What digits come to, where that is finite. -/
theorem near_whole (standard : type.Standard) (small : ∀ digit ∈ digits, digit < 10)
    (is : type.format.Represents (type.ofDigits digits) amount) :
    numeral 10 digits * (31 / 32) ≤ amount ∧ amount ≤ numeral 10 digits * (32 / 31) := by
  have regular := standard.regular
  have near := near_significant regular small
  -- Digits that come to a number at most the largest are few, and their roundings cost little.
  have few := standard.few_significant digits fun some => by
    obtain ⟨total, also, low, -⟩ | ⟨endless, -⟩ := near
    · rw [← numeral_dropWhile] at low
      have grown := eight_pow_le regular (ne_zero_of_head?_dropWhile digits) some low
      linarith [also.le_largest]
    · exact (not_represents_infinite (endless ▸ is)).elim
  obtain ⟨total, also, low, high⟩ | ⟨endless, -⟩ := near.close regular (by omega)
  · rw [is.unique also]
    exact ⟨low, high⟩
  · exact (not_represents_infinite (endless ▸ is)).elim

theorem ofDigits_eq_infinite (standard : type.Standard) (small : ∀ digit ∈ digits, digit < 10)
    (beyond : type.format.largest < numeral 10 digits * (31 / 32)) : type.ofDigits digits = .infinite false := by
  obtain ⟨total, is, -⟩ | ⟨endless, -⟩ := near_ofDigits standard.regular small
  · exact absurd ((near_whole standard small is).1.trans is.le_largest) (not_le.mpr beyond)
  · exact endless

theorem whole_finite (standard : type.Standard) (small : ∀ digit ∈ digits, digit < 10)
    (within : numeral 10 digits ≤ type.format.largest / 2) :
    ∃ amount, type.format.Represents (type.ofDigits digits) amount := by
  have regular := standard.regular
  have positive := regular.largest_pos
  have few := standard.few_significant digits fun some => by
    have size := pow_length_le (ne_zero_of_head?_dropWhile digits) some
    rw [numeral_dropWhile] at size
    calc (8 : ℚ) ^ (digits.dropWhile (· = 0)).length
        ≤ 10 ^ (digits.dropWhile (· = 0)).length := by gcongr; norm_num
      _ ≤ 10 * numeral 10 digits := by exact_mod_cast size
      _ ≤ 10 * type.format.largest := by linarith
  obtain ⟨total, is, -⟩ | ⟨-, beyond⟩ := (near_significant regular small).close regular (by omega)
  · exact ⟨total, is⟩
  · linarith [type.format.largest_lt_overflow]

theorem numeral_countedDigits_lt {limit : Nat} (small : ∀ digit ∈ digits, digit < 10) :
    numeral 10 (countedDigits limit digits) < 10 ^ limit := by
  rw [← numeral_dropWhile, (takeWhile_countedDigits limit digits).2]
  refine (numeral_lt (fun digit member => small digit ?_) (by omega)).trans_le
    (Nat.pow_le_pow_right (by omega) (List.length_take_le _ _))
  exact (List.dropWhile_sublist _).subset (List.mem_of_mem_take member)

/-- What the counted digits of a fraction come to, however many zeros lead. -/
theorem near_counted (standard : type.Standard) (small : ∀ digit ∈ digits, digit < 10) :
    ∃ total : Nat, type.format.Represents (type.ofDigits (countedDigits type.fractionDigits digits)) total ∧
      numeral 10 (countedDigits type.fractionDigits digits) * (31 / 32) ≤ (total : ℚ) ∧
      (total : ℚ) ≤ numeral 10 (countedDigits type.fractionDigits digits) * (32 / 31) := by
  have regular := standard.regular
  have counted : ∀ digit ∈ countedDigits type.fractionDigits digits, digit < 10 :=
    fun digit member => small digit (mem_of_mem_countedDigits member)
  have near := near_significant regular counted
  have kept := List.length_take_le type.fractionDigits (digits.dropWhile (· = 0))
  have room := standard.roomy.fraction
  rw [(takeWhile_countedDigits type.fractionDigits digits).2] at near
  obtain finite | ⟨-, beyond⟩ := near.close regular (by omega)
  · exact finite
  · have below : ((2 * 10 ^ type.fractionDigits : Nat) : ℚ) ≤ type.format.largest := by
      rw [regular.largest_eq]
      exact_mod_cast standard.roomy.counted
    have size : ((numeral 10 (countedDigits type.fractionDigits digits) : Nat) : ℚ) ≤
        (10 ^ type.fractionDigits : Nat) := by
      exact_mod_cast (numeral_countedDigits_lt small).le
    push_cast at below size
    linarith [type.format.largest_lt_overflow]

end FloatType
end TextScan.Literal
