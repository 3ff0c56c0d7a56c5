import TextScan.Literal.Bounded
import TextScan.Proofs.Literal.Grammar
import Mathlib.Algebra.Order.Ring.Nat
import Mathlib.Tactic.Linarith

/-! A digit goes onto a value of an integer type exactly when the longer number still fits, and
none of the steps that find this out leaves the type. -/
namespace TextScan.Literal
namespace IntegerType

/-- The greatest magnitude a type holds on a side of zero. -/
def bound (type : IntegerType) : Sign → Nat
  | .positive => type.greatest.toNat
  | .negative => (-type.least).toNat

variable {type : IntegerType} {sign : Sign} {base digit magnitude : Nat}

theorem greatest_eq_bound (type : IntegerType) : type.greatest = type.bound .positive := by
  have half : 0 < Nat.pow 2 (type.bits - 1) := Nat.pow_pos (by omega)
  have all : 0 < Nat.pow 2 type.bits := Nat.pow_pos (by omega)
  simp only [bound, greatest]
  split <;> omega

theorem least_eq_bound (type : IntegerType) : type.least = -(type.bound .negative : Int) := by
  have half : 0 < Nat.pow 2 (type.bits - 1) := Nat.pow_pos (by omega)
  simp only [bound, least]
  split <;> omega

theorem holds_apply_iff : type.Holds (sign.apply magnitude) ↔ magnitude ≤ type.bound sign := by
  simp only [Holds, greatest_eq_bound, least_eq_bound]
  cases sign <;> simp only [Sign.apply] <;> omega

theorem bound_negative_unsigned (unsigned : type.signed = false) : type.bound .negative = 0 := by
  simp [bound, least, unsigned]

theorem bound_negative_signed (signed : type.signed = true) :
    type.bound .negative = type.bound .positive + 1 := by
  have half : 0 < Nat.pow 2 (type.bits - 1) := Nat.pow_pos (by omega)
  simp only [bound, least, greatest, signed, if_true]
  omega

/-- A digit can be appended within a limit to what is below the quotient by the base, and at the quotient if
the digit is at most the remainder. -/
theorem append_le_iff (magnitude limit : Nat) (below : digit < base) :
    magnitude * base + digit ≤ limit ↔
      magnitude < limit / base ∨ (magnitude = limit / base ∧ digit ≤ limit % base) := by
  have split := Nat.div_add_mod' limit base
  have remainder : limit % base < base := Nat.mod_lt _ (by omega)
  rcases lt_trichotomy magnitude (limit / base) with less | same | more
  · have := Nat.mul_le_mul_right base (Nat.succ_le_of_lt less)
    rw [Nat.succ_mul] at this
    exact iff_of_true (by omega) (.inl less)
  · rw [same]
    omega
  · have := Nat.mul_le_mul_right base (Nat.succ_le_of_lt more)
    rw [Nat.succ_mul] at this
    exact iff_of_false (by omega) (by omega)

theorem greatest_tdiv (type : IntegerType) (base : Nat) :
    type.greatest.tdiv base = (type.bound .positive / base : Nat) := by
  rw [greatest_eq_bound, Int.ofNat_tdiv]

theorem greatest_tmod (type : IntegerType) (base : Nat) :
    type.greatest.tmod base = (type.bound .positive % base : Nat) := by
  rw [greatest_eq_bound, Int.ofNat_tmod]

theorem least_tdiv (type : IntegerType) (base : Nat) :
    type.least.tdiv base = -(type.bound .negative / base : Nat) := by
  rw [least_eq_bound, Int.neg_tdiv, Int.ofNat_tdiv]

theorem least_tmod (type : IntegerType) (base : Nat) :
    type.least.tmod base = -(type.bound .negative % base : Nat) := by
  rw [least_eq_bound, Int.neg_tmod, Int.ofNat_tmod]

/-- The guard of a digit says whether the longer number stays within the bound. -/
theorem pushDigit_apply (below : digit < base) :
    type.pushDigit (sign.apply magnitude) base digit sign =
      if magnitude * base + digit ≤ type.bound sign then
        some (sign.apply (magnitude * base + digit)) else none := by
  have fits := append_le_iff magnitude (type.bound sign) below
  cases sign with
  | positive =>
    simp only [pushDigit, greatest_tdiv, greatest_tmod, Sign.apply]
    exact if_congr (by omega) (by push_cast; rfl) rfl
  | negative =>
    simp only [pushDigit, least_tdiv, least_tmod, Sign.apply]
    cases signed : type.signed with
    | true =>
      rw [if_pos rfl]
      exact if_congr (by omega) (by push_cast; rw [neg_mul, neg_add, sub_eq_add_neg]) rfl
    | false =>
      have only : type.bound .negative = 0 := bound_negative_unsigned signed
      have zero : magnitude * base + digit = 0 ↔ magnitude = 0 ∧ digit = 0 := by
        rw [Nat.add_eq_zero_iff, Nat.mul_eq_zero]
        omega
      rw [if_neg Bool.false_ne_true]
      refine ite_congr (propext (by omega)) (fun fits => ?_) fun _ => rfl
      have none : magnitude * base + digit = 0 := by omega
      rw [none]
      rfl

theorem applySign_natCast (fits : magnitude ≤ type.bound .positive) :
    type.applySign magnitude sign =
      if magnitude ≤ type.bound sign then some (sign.apply magnitude) else none := by
  cases sign with
  | positive => rw [if_pos fits]; rfl
  | negative =>
    unfold applySign
    cases signed : type.signed with
    | true =>
      have more := bound_negative_signed signed
      rw [if_pos rfl, least_eq_bound, if_neg (by omega), if_pos (by omega)]
      rfl
    | false =>
      have only : type.bound .negative = 0 := bound_negative_unsigned signed
      rw [if_neg Bool.false_ne_true]
      refine ite_congr (propext (by omega)) (fun fits => ?_) fun _ => rfl
      obtain rfl : magnitude = 0 := by omega
      rfl

theorem keep_apply (fits : magnitude ≤ type.bound sign) :
    type.keep (sign.apply magnitude) = pure (sign.apply magnitude) :=
  if_pos (holds_apply_iff.mpr fits)

theorem keep_natCast (fits : magnitude ≤ type.bound .positive) :
    type.keep magnitude = pure (magnitude : Int) :=
  @keep_apply type .positive magnitude fits

theorem keep_neg_natCast (fits : magnitude ≤ type.bound .negative) :
    type.keep (-magnitude) = pure (-magnitude : Int) :=
  @keep_apply type .negative magnitude fits

theorem divide_greatest (type : IntegerType) (nonzero : 0 < base) :
    type.divide type.greatest base =
      pure (((type.bound .positive / base : Nat) : Int), ((type.bound .positive % base : Nat) : Int)) := by
  unfold divide
  rw [if_neg (by omega), greatest_tdiv, greatest_tmod, keep_natCast (Nat.div_le_self _ _),
    pure_bind, keep_natCast (Nat.mod_le _ _), pure_bind]

theorem divide_least (type : IntegerType) (nonzero : 0 < base) :
    type.divide type.least base =
      pure (-((type.bound .negative / base : Nat) : Int), -((type.bound .negative % base : Nat) : Int)) := by
  unfold divide
  rw [if_neg (by omega), least_tdiv, least_tmod, keep_neg_natCast (Nat.div_le_self _ _),
    pure_bind, keep_neg_natCast (Nat.mod_le _ _), pure_bind]

theorem le_bound_of_wide (wide : 8 ≤ type.bits) : 127 ≤ type.bound .positive := by
  have half : Nat.pow 2 7 ≤ Nat.pow 2 (type.bits - 1) := Nat.pow_le_pow_right (by omega) (by omega)
  have all : Nat.pow 2 8 ≤ Nat.pow 2 type.bits := Nat.pow_le_pow_right (by omega) wide
  have : Nat.pow 2 7 = 128 ∧ Nat.pow 2 8 = 256 := by decide
  simp only [bound, greatest]
  split <;> omega

theorem pushDigitBounded_positive (wide : 8 ≤ type.bits) (known : base ≤ 36) (below : digit < base) :
    type.pushDigitBounded magnitude base digit .positive =
      pure (type.pushDigit magnitude base digit .positive) := by
  have fits := append_le_iff magnitude (type.bound .positive) below
  have room := le_bound_of_wide wide
  have castBase : type.keep base = pure (base : Int) := keep_natCast (by omega)
  have castDigit : type.keep digit = pure (digit : Int) := keep_natCast (by omega)
  simp only [pushDigitBounded, pushDigit, castBase, castDigit, pure_bind,
    divide_greatest type (Nat.zero_lt_of_lt below), greatest_tdiv, greatest_tmod]
  split_ifs with guard
  · rw [← Nat.cast_mul, keep_natCast (by omega), pure_bind, ← Nat.cast_add,
      keep_natCast (by omega), pure_bind]
  · rfl

/-- Below zero one more number is cast, the remainder: it is under the base, which every wide type holds,
while the bound below zero itself need not have a counterpart above. -/
theorem pushDigitBounded_negative (wide : 8 ≤ type.bits) (known : base ≤ 36) (below : digit < base) :
    type.pushDigitBounded (-magnitude) base digit .negative =
      pure (type.pushDigit (-magnitude) base digit .negative) := by
  have fits := append_le_iff magnitude (type.bound .negative) below
  have room := le_bound_of_wide wide
  have castBase : type.keep base = pure (base : Int) := keep_natCast (by omega)
  have castDigit : type.keep digit = pure (digit : Int) := keep_natCast (by omega)
  have remainder : type.bound .negative % base < base := Nat.mod_lt _ (by omega)
  have castRemainder : type.keep (type.bound .negative % base : Nat) = pure _ :=
    keep_natCast (by omega)
  simp only [pushDigitBounded, pushDigit, castBase, castDigit, pure_bind,
    divide_least type (Nat.zero_lt_of_lt below), least_tdiv, least_tmod, neg_neg, castRemainder]
  cases type.signed with
  | true =>
    rw [if_pos rfl, if_pos rfl]
    split_ifs with guard
    · rw [neg_mul, ← Nat.cast_mul, keep_neg_natCast (by omega), pure_bind, sub_eq_add_neg,
        ← neg_add, ← Nat.cast_add, keep_neg_natCast (by omega), pure_bind]
    · rfl
  | false =>
    rw [if_neg Bool.false_ne_true, if_neg Bool.false_ne_true]
    exact congrArg pure (if_congr (by omega) rfl rfl)

theorem pushDigitBounded_apply (wide : 8 ≤ type.bits) (known : base ≤ 36) (below : digit < base) :
    type.pushDigitBounded (sign.apply magnitude) base digit sign =
      pure (type.pushDigit (sign.apply magnitude) base digit sign) := by
  cases sign with
  | positive => exact pushDigitBounded_positive wide known below
  | negative => exact pushDigitBounded_negative wide known below

theorem applySignBounded_natCast (fits : magnitude ≤ type.bound .positive) :
    type.applySignBounded magnitude sign = pure (type.applySign magnitude sign) := by
  cases sign with
  | positive => rfl
  | negative =>
    unfold applySignBounded applySign
    cases signed : type.signed with
    | true =>
      have more := bound_negative_signed signed
      rw [if_pos rfl, if_pos rfl, least_eq_bound, if_neg (by omega), if_neg (by omega),
        keep_neg_natCast (by omega), pure_bind]
    | false => rfl

theorem keep_octet (fits : magnitude < 256) : octet.keep magnitude = pure (magnitude : Int) :=
  keep_natCast (Nat.le_of_lt_succ fits)

theorem letterValueBounded_eq {byte first : UInt8} (reached : first ≤ byte)
    (past : byte.toNat + 10 < first.toNat + 256) :
    letterValueBounded byte first = pure ((byte.toNat - first.toNat + 10 : Nat) : Int) := by
  have least : first.toNat ≤ byte.toNat := UInt8.le_iff_toNat_le.mp reached
  have top := byte.toNat_lt
  have place : (byte.toNat : Int) - first.toNat = (byte.toNat - first.toNat : Nat) := by omega
  have value : ((byte.toNat - first.toNat : Nat) : Int) + 10 = (byte.toNat - first.toNat + 10 : Nat) :=
    rfl
  unfold letterValueBounded
  rw [place, keep_octet (by omega), pure_bind, value, keep_octet (by omega)]

theorem digitValueBounded_eq (byte : UInt8) :
    digitValueBounded byte = pure ((Bytes.digitValue? byte).map Nat.cast) := by
  have most := byte.toNat_lt
  unfold digitValueBounded Bytes.digitValue?
  simp only [Bool.and_eq_true, decide_eq_true_eq, Bytes.isDigit]
  split_ifs with decimal small capital
  · have least : 0x30 ≤ byte.toNat := UInt8.le_iff_toNat_le.mp decimal.1
    have exact : (byte.toNat : Int) - 0x30 = (byte.toNat - 0x30 : Nat) := by omega
    rw [exact, keep_octet (by omega)]
    rfl
  · rw [letterValueBounded_eq small.1 (by simp; omega)]
    rfl
  · rw [letterValueBounded_eq capital.1 (by simp; omega)]
    rfl
  · rfl

theorem filter_digitValue? (base : Nat) (byte : UInt8) :
    ((Bytes.digitValue? byte).map Nat.cast).filter (fun value : Int => value < base) =
      (Bytes.digit? base byte).map Nat.cast := by
  rw [Bytes.digit?, Option.filter_map]
  congr 2
  funext value
  simp

theorem readRunBounded_apply (wide : 8 ≤ type.bits) (known : base ≤ 36) (due : Bool) (text : Bytes) :
    type.readRunBounded base sign (sign.apply magnitude) due text =
      pure (type.readRun? base sign (sign.apply magnitude) due text) := by
  induction text generalizing magnitude due with
  | nil => rfl
  | cons byte rest rests =>
    rw [readRunBounded, readRun?, digitValueBounded_eq, pure_bind, filter_digitValue?]
    cases reads : Bytes.digit? base byte with
    | none =>
      dsimp only [Option.map_none]
      split_ifs
      · exact rests true
      · rfl
    | some digit =>
      have below : digit < base := digit?_lt reads
      dsimp only [Option.map_some]
      rw [pushDigitBounded_apply wide known below, pure_bind, pushDigit_apply below]
      split_ifs
      · exact rests false
      · rfl

end IntegerType
end TextScan.Literal
