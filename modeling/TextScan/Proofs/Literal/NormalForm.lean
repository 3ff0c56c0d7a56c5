import TextScan.Proofs.Literal.Accumulation
import TextScan.Proofs.Literal.Decimal
import Mathlib.Data.List.TakeWhile

/-! The value of a decimal literal depends on little of its spelling: the digits of the whole part
after its zeros, those digits of the fraction that count, and the exponent. -/
namespace TextScan.Literal
open TextScan.Floating

namespace Decimal

/-- The digits of a fraction up to as many as the limit from the first one on that is not zero. -/
def countedDigits (limit : Nat) (fraction : List Nat) : List Nat :=
  fraction.takeWhile (· = 0) ++ (fraction.dropWhile (· = 0)).take limit

/-- A literal without the digits that say nothing. A fraction of zeros says nothing at all. -/
def normalForm (limit : Nat) (literal : Decimal) : Decimal :=
  { sign := literal.sign
    whole := literal.whole.dropWhile (· = 0)
    fraction :=
      if literal.fraction.all (· = 0) then [] else countedDigits limit literal.fraction
    exponent := literal.exponent }

theorem eq_zero_of_mem_takeWhile (digits : List Nat) :
    ∀ digit ∈ digits.takeWhile (· = 0), digit = 0 := by
  intro digit member
  simpa using List.mem_takeWhile_imp member

theorem ne_zero_of_head?_dropWhile (digits : List Nat) :
    ∀ digit ∈ (digits.dropWhile (· = 0)).head?, digit ≠ 0 := by
  intro digit first
  have passes := List.head?_dropWhile_not (· = 0) digits
  rw [Option.mem_def.mp first] at passes
  simpa using passes

theorem mem_of_mem_countedDigits {limit : Nat} {digits : List Nat} {digit : Nat}
    (counted : digit ∈ countedDigits limit digits) : digit ∈ digits := by
  obtain zero | after := List.mem_append.mp counted
  · exact (List.takeWhile_sublist _).subset zero
  · exact (List.dropWhile_sublist _).subset (List.mem_of_mem_take after)

theorem takeWhile_countedDigits (limit : Nat) (digits : List Nat) :
    (countedDigits limit digits).takeWhile (· = 0) = digits.takeWhile (· = 0) ∧
      (countedDigits limit digits).dropWhile (· = 0) = (digits.dropWhile (· = 0)).take limit := by
  have zeros := eq_zero_of_mem_takeWhile digits
  have first := ne_zero_of_head?_dropWhile digits
  have counted : ((digits.dropWhile (· = 0)).take limit).takeWhile (· = 0) = [] ∧
      ((digits.dropWhile (· = 0)).take limit).dropWhile (· = 0) =
        (digits.dropWhile (· = 0)).take limit := by
    cases limit <;> cases rest : digits.dropWhile (· = 0) <;> simp_all
  rw [countedDigits, List.takeWhile_append_of_pos (by simpa using zeros),
    List.dropWhile_append_of_pos (by simpa using zeros), counted.1, counted.2, List.append_nil]
  exact ⟨rfl, rfl⟩

theorem countedDigits_idem (limit : Nat) (digits : List Nat) :
    countedDigits limit (countedDigits limit digits) = countedDigits limit digits := by
  obtain ⟨zeros, counted⟩ := takeWhile_countedDigits limit digits
  rw [countedDigits, zeros, counted, List.take_take, min_self, countedDigits]

end Decimal

namespace FloatType
open Decimal
variable {type : FloatType} {digits prior : List Nat} {digit : Nat}

theorem pushDigit_zero (regular : type.format.Regular) : type.pushDigit type.zero 0 = type.zero := by
  obtain ⟨significand, exponent, ten, -⟩ := represents_ten regular
  have product : type.format.mul type.zero type.ten = type.zero := by
    rw [ten]
    simp [zero, Format.zero, Format.mul, Format.roundScaled, Format.round]
  have none : type.ofDigit 0 = type.zero := by simp [ofDigit, zero, Format.ofNat, Format.round]
  rw [pushDigit, product, none, zero, Format.zero, Format.add_finite]
  simp [Format.roundScaled, Format.round, Format.zero]

theorem ofDigits_dropWhile (regular : type.format.Regular) (digits : List Nat) :
    type.ofDigits (digits.dropWhile (· = 0)) = type.ofDigits digits := by
  induction digits with
  | nil => rfl
  | cons digit digits rest =>
    rw [List.dropWhile_cons]
    split_ifs with zero
    · obtain rfl : digit = 0 := by simpa using zero
      rw [rest, ofDigits, ofDigits, List.foldl_cons, pushDigit_zero regular]
    · rfl

namespace Fraction

/-- A fraction under way that has taken in all of some digits. -/
def holding (type : FloatType) (digits : List Nat) (significant : Nat) : Fraction :=
  ⟨type.ofDigits digits, digits.length, significant⟩

theorem push_holding {significant : Nat} (room : significant < type.fractionDigits) :
    push type (holding type prior significant) digit =
      holding type (prior ++ [digit])
        (if (type.ofDigits (prior ++ [digit])).isZero then significant else significant + 1) := by
  rw [push, holding, if_pos room, ← ofDigits_append_singleton, holding, List.length_append,
    List.length_singleton]

theorem foldl_push_full {fraction : Fraction} (full : type.fractionDigits ≤ fraction.significant)
    (digits : List Nat) : digits.foldl (push type) fraction = fraction := by
  induction digits with
  | nil => rfl
  | cons digit digits rest => rw [List.foldl_cons, push, if_neg (by omega), rest]

theorem foldl_push_zeros (regular : type.format.Regular) (keeps : 0 < type.fractionDigits)
    (zeros : ∀ digit ∈ digits, digit = 0) (none : numeral 10 prior = 0)
    (small : ∀ digit ∈ prior, digit < 10) :
    digits.foldl (push type) (holding type prior 0) = holding type (prior ++ digits) 0 := by
  induction digits generalizing prior with
  | nil => rw [List.foldl_nil, List.append_nil]
  | cons digit digits rest =>
    obtain rfl : digit = 0 := zeros digit (by simp)
    have more : ∀ digit ∈ prior ++ [0], digit < 10 :=
      List.forall_mem_append.mpr ⟨small, by simp⟩
    have still : numeral 10 (prior ++ [0]) = 0 := by rw [numeral_append_singleton, none]
    rw [List.foldl_cons, push_holding keeps, if_pos ((isZero_ofDigits regular more).mpr still),
      rest (fun digit member => zeros digit (List.mem_cons_of_mem _ member)) still more,
      List.append_assoc, List.singleton_append]

theorem foldl_push_counted (regular : type.format.Regular) {significant : Nat}
    (within : significant ≤ type.fractionDigits) (small : ∀ digit ∈ prior, digit < 10)
    (smaller : ∀ digit ∈ digits, digit < 10)
    (some : numeral 10 prior ≠ 0 ∨ ∀ digit ∈ digits.head?, digit ≠ 0) :
    digits.foldl (push type) (holding type prior significant) =
      holding type (prior ++ digits.take (type.fractionDigits - significant))
        (min type.fractionDigits (significant + digits.length)) := by
  induction digits generalizing prior significant with
  | nil => simp [within]
  | cons digit digits rest =>
    rw [List.forall_mem_cons] at smaller
    rcases within.lt_or_eq with room | full
    · have more : ∀ other ∈ prior ++ [digit], other < 10 :=
        List.forall_mem_append.mpr ⟨small, List.forall_mem_singleton.mpr smaller.1⟩
      have counts : numeral 10 (prior ++ [digit]) ≠ 0 := by
        rw [numeral_append_singleton]
        rcases some with before | first
        · omega
        · have := first digit rfl
          omega
      rw [List.foldl_cons, push_holding room, if_neg (mt (isZero_ofDigits regular more).mp counts),
        rest room more smaller.2 (.inl counts), List.append_assoc, List.singleton_append]
      congr 2
      · rw [← List.take_succ_cons]
        congr 1
        omega
      · rw [List.length_cons]
        omega
    · rw [foldl_push_full full.ge]
      simp [full]

/-- A fraction takes in its counted digits and no others. -/
theorem ofDigits_eq (regular : type.format.Regular) (keeps : 0 < type.fractionDigits)
    (small : ∀ digit ∈ digits, digit < 10) :
    ofDigits type digits = holding type (countedDigits type.fractionDigits digits)
      (min type.fractionDigits (digits.dropWhile (· = 0)).length) := by
  have leading := foldl_push_zeros regular keeps (eq_zero_of_mem_takeWhile digits) (rfl : numeral 10 [] = 0) (by simp)
  have counted := foldl_push_counted regular (Nat.zero_le type.fractionDigits)
    (fun digit member => by have := eq_zero_of_mem_takeWhile digits digit member; omega)
    (fun digit member => small digit ((List.dropWhile_sublist _).subset member))
    (.inr (ne_zero_of_head?_dropWhile digits))
  rw [ofDigits]
  nth_rewrite 1 [← List.takeWhile_append_dropWhile (p := (· = 0)) (l := digits)]
  rw [List.foldl_append]
  change List.foldl _ (List.foldl _ (holding type [] 0) _) _ = _
  rw [leading, List.nil_append, counted, Nat.sub_zero, Nat.zero_add, countedDigits]

end Fraction

variable {literal : Decimal}

theorem addFraction_normalForm (regular : type.format.Regular) (keeps : 0 < type.fractionDigits)
    (small : ∀ digit ∈ literal.fraction, digit < 10) (whole : Number) :
    type.addFraction whole (Fraction.ofDigits type (literal.normalForm type.fractionDigits).fraction) =
      type.addFraction whole (Fraction.ofDigits type literal.fraction) := by
  have counted : ∀ digit ∈ countedDigits type.fractionDigits literal.fraction, digit < 10 :=
    fun digit member => small digit (mem_of_mem_countedDigits member)
  rw [normalForm]
  dsimp only
  split_ifs with zeros
  · have none : numeral 10 (countedDigits type.fractionDigits literal.fraction) = 0 := by
      rw [numeral_eq_zero_iff]
      intro digit member
      simpa using List.all_eq_true.mp zeros digit (mem_of_mem_countedDigits member)
    have isZero := (isZero_ofDigits regular counted).mpr none
    rw [Fraction.ofDigits_eq regular keeps small, addFraction, addFraction, Fraction.holding, if_pos isZero]
    exact if_pos (by simp [Fraction.ofDigits, zero, Format.zero, Number.isZero])
  · rw [Fraction.ofDigits_eq regular keeps small, Fraction.ofDigits_eq regular keeps counted,
      countedDigits_idem]
    rfl

/-- The value of a literal before its sign is put on it. -/
def unsigned (type : FloatType) (literal : Decimal) : Number :=
  type.scale (type.addFraction (type.ofDigits literal.whole) (Fraction.ofDigits type literal.fraction))
    literal.exponent

theorem ofDecimal_eq (type : FloatType) (literal : Decimal) :
    type.ofDecimal literal =
      if literal.sign = .negative then (type.unsigned literal).neg else type.unsigned literal := by
  rw [ofDecimal]
  cases literal.sign <;> rfl

theorem unsigned_normalForm (regular : type.format.Regular) (keeps : 0 < type.fractionDigits)
    (small : ∀ digit ∈ literal.fraction, digit < 10) :
    type.unsigned (literal.normalForm type.fractionDigits) = type.unsigned literal := by
  rw [unsigned, addFraction_normalForm regular keeps small, unsigned]
  simp only [normalForm, ofDigits_dropWhile regular]

theorem unsigned_congr (standard : type.Standard) {left right : Decimal}
    (leftSmall : ∀ digit ∈ left.fraction, digit < 10) (rightSmall : ∀ digit ∈ right.fraction, digit < 10)
    (whole : (left.normalForm type.fractionDigits).whole = (right.normalForm type.fractionDigits).whole)
    (fraction : (left.normalForm type.fractionDigits).fraction =
      (right.normalForm type.fractionDigits).fraction)
    (exponent : left.exponent = right.exponent) : type.unsigned left = type.unsigned right := by
  rw [← unsigned_normalForm standard.regular standard.keeps leftSmall,
    ← unsigned_normalForm standard.regular standard.keeps rightSmall, unsigned, unsigned, whole, fraction]
  exact congrArg _ exponent

theorem neg_neg (value : Number) : value.neg.neg = value := by
  cases value <;> simp [Number.neg]

/-- An accepted text that begins with a digit after its sign spells one decimal. Two texts whose decimals
have the same normal form, but for the sign, have the same value if both begin with a minus or neither
does, and values that are each other's negation if not. -/
theorem read?_agree_of_normalForm (type : FloatType) (standard : type.Standard) :
    (∀ text, (type.read? text).isSome →
      ((splitSign text).2.head?.map Bytes.isDigit).getD false = true →
        ∃! literal, Spells type.greatestExponent10 text literal) ∧
    ∀ left right leftLiteral rightLiteral, Spells type.greatestExponent10 left leftLiteral →
      Spells type.greatestExponent10 right rightLiteral →
      (leftLiteral.normalForm type.fractionDigits).whole =
        (rightLiteral.normalForm type.fractionDigits).whole →
      (leftLiteral.normalForm type.fractionDigits).fraction =
        (rightLiteral.normalForm type.fractionDigits).fraction →
      leftLiteral.exponent = rightLiteral.exponent →
      ∃ value, type.read? left = some value ∧ type.read? right =
        some (if left.head? = some 0x2d ↔ right.head? = some 0x2d then value else value.neg) := by
  constructor
  · intro text accepted starts
    obtain ⟨value, read⟩ := Option.isSome_iff_exists.mp accepted
    obtain word | ⟨literal, spells, -⟩ := read?_eq_some_iff.mp read
    · cases (words_start _ word).symm.trans starts
    · exact ⟨literal, spells, fun other also => also.unique spells⟩
  · intro left right leftLiteral rightLiteral leftSpells rightSpells whole fraction exponent
    have same := unsigned_congr standard leftSpells.fraction_lt rightSpells.fraction_lt whole fraction exponent
    refine ⟨_, read?_eq_some_iff.mpr (.inr ⟨_, leftSpells, rfl⟩),
      read?_eq_some_iff.mpr (.inr ⟨_, rightSpells, ?_⟩)⟩
    simp only [← leftSpells.negative_iff, ← rightSpells.negative_iff, ofDecimal_eq, same]
    by_cases leftMinus : leftLiteral.sign = .negative <;>
      by_cases rightMinus : rightLiteral.sign = .negative <;>
      simp [leftMinus, rightMinus, neg_neg]

/-- Leading zeros, underscores, digits beyond the twentieth, a capital mark and a minus. -/
theorem read?_agree_of_normalForm_respelled :
    let left := Bytes.ofAscii ['-', '0', '7', '_', '0', '.', '0', '2', '5', '_', '0', '0', '0', '0', '0', '0', '0', '0', '0',
      '0', '0', '0', '0', '0', '0', '0', '0', '0', '9', '9', 'E', '+', '0', '3']
    let right := Bytes.ofAscii ['7', '0', '.', '0', '2', '5', '0', '0', '0', '0', '0', '0', '0', '0', '0', '0', '0', '0', '0',
      '0', '0', '0', '0', '0', '0', '1', 'e', '3']
    let leftLiteral : Decimal := ⟨.negative, [0, 7, 0],
      [0, 2, 5, 0, 0, 0, 0, 0, 0, 0, 0, 0, 0, 0, 0, 0, 0, 0, 0, 0, 0, 9, 9], 3⟩
    let rightLiteral : Decimal := ⟨.positive, [7, 0],
      [0, 2, 5, 0, 0, 0, 0, 0, 0, 0, 0, 0, 0, 0, 0, 0, 0, 0, 0, 0, 0, 0, 1], 3⟩
    double.Standard ∧ Spells 308 left leftLiteral ∧ Spells 308 right rightLiteral ∧
      ∃ value, double.read? left = some value ∧ double.read? right = some value.neg := by
  intro left right leftLiteral rightLiteral
  have leftSpells : Spells 308 left leftLiteral :=
    spells_iff.mpr ((readBody?_eq_some_iff (by decide +kernel)).mp (by decide +kernel))
  have rightSpells : Spells 308 right rightLiteral :=
    spells_iff.mpr ((readBody?_eq_some_iff (by decide +kernel)).mp (by decide +kernel))
  refine ⟨standard_double, leftSpells, rightSpells, ?_⟩
  have agree := (read?_agree_of_normalForm double standard_double).2 left right leftLiteral rightLiteral
    leftSpells rightSpells (by decide +kernel) (by decide +kernel) rfl
  obtain ⟨value, readLeft, readRight⟩ := agree
  exact ⟨value, readLeft, readRight.trans (congrArg some (if_neg (by decide +kernel)))⟩

end FloatType
end TextScan.Literal
