import TextScan.Proofs.Literal.IntegerRange

/-! Digits pushed one after another onto an integer of a type: each push is the exact step wherever its
result fits, and all of them succeed exactly when the last result fits. -/
namespace TextScan.Literal

/-- The side of zero on which a sign builds its numbers. -/
def Sign.Faces : Sign → Int → Prop
  | .positive, value => 0 ≤ value
  | .negative, value => value ≤ 0

/-- The integer that digits come to, each taken away from zero in the direction of a sign. -/
def Sign.total (sign : Sign) (base : Nat) (digits : List Nat) : Int :=
  digits.foldl (fun value digit => value * base + sign.apply digit) 0

theorem Sign.Faces.exists_apply {sign : Sign} {value : Int} (faces : sign.Faces value) :
    ∃ magnitude, value = sign.apply magnitude := by
  cases sign with
  | positive => exact Int.eq_ofNat_of_zero_le faces
  | negative => exact Int.exists_eq_neg_ofNat faces

theorem Sign.apply_append (sign : Sign) (magnitude base digit : Nat) :
    sign.apply (magnitude * base + digit) = sign.apply magnitude * base + sign.apply digit := by
  cases sign
  · simp only [Sign.apply]
    push_cast
    rfl
  · simp only [Sign.apply]
    push_cast
    ring

theorem Sign.foldl_apply (sign : Sign) (base magnitude : Nat) (digits : List Nat) :
    digits.foldl (fun value digit => value * base + sign.apply digit) (sign.apply magnitude) =
      sign.apply (readOnto base magnitude digits) := by
  induction digits generalizing magnitude with
  | nil => rfl
  | cons digit digits rest => rw [List.foldl_cons, ← Sign.apply_append, rest, readOnto_cons]

theorem Sign.total_eq (sign : Sign) (base : Nat) (digits : List Nat) :
    sign.total base digits = sign.apply (numeral base digits) := by
  rw [← readOnto_zero, ← sign.foldl_apply, sign.apply_zero, Sign.total]

namespace IntegerType

def pushDigits? (type : IntegerType) (base : Nat) (sign : Sign) (digits : List Nat) : Option Int :=
  digits.foldlM (fun value digit => type.pushDigit value base digit sign) 0

variable {type : IntegerType} {sign : Sign} {base magnitude : Nat} {digits : List Nat}

/-- A digit is pushed if and only if the exact result is in the type. -/
theorem pushDigit_eq {value : Int} {digit : Nat} (faces : sign.Faces value) (below : digit < base) :
    type.pushDigit value base digit sign =
      if type.Holds (value * base + sign.apply digit) then some (value * base + sign.apply digit)
      else none := by
  obtain ⟨magnitude, rfl⟩ := faces.exists_apply
  rw [pushDigit_apply below, ← sign.apply_append]
  exact if_congr holds_apply_iff.symm rfl rfl

/-- Digits are pushed as long as the number is in the type. A number that has left it cannot come back with
more digits. -/
theorem foldlM_pushDigit (start : magnitude ≤ type.bound sign) (below : ∀ digit ∈ digits, digit < base) :
    digits.foldlM (fun value digit => type.pushDigit value base digit sign) (sign.apply magnitude) =
      if readOnto base magnitude digits ≤ type.bound sign then
        some (sign.apply (readOnto base magnitude digits)) else none := by
  induction digits generalizing magnitude with
  | nil => exact (if_pos start).symm
  | cons digit digits rest =>
    rw [List.forall_mem_cons] at below
    rw [List.foldlM_cons, readOnto_cons, pushDigit_apply below.1]
    by_cases fits : magnitude * base + digit ≤ type.bound sign
    · rw [if_pos fits]
      exact rest fits below.2
    · have grows := le_readOnto (Nat.zero_lt_of_lt below.1) (magnitude * base + digit) digits
      rw [if_neg fits, if_neg (by omega)]
      rfl

theorem pushDigits?_eq (below : ∀ digit ∈ digits, digit < base) :
    type.pushDigits? base sign digits =
      if type.Holds (sign.total base digits) then some (sign.total base digits) else none := by
  have fold := foldlM_pushDigit (Nat.zero_le (type.bound sign)) below
  rw [sign.apply_zero, readOnto_zero] at fold
  rw [pushDigits?, fold, sign.total_eq]
  exact if_congr holds_apply_iff.symm rfl rfl

theorem holds_total_of_prefix {front : List Nat} (starts : front <+: digits)
    (below : ∀ digit ∈ digits, digit < base) (holds : type.Holds (sign.total base digits)) :
    type.Holds (sign.total base front) := by
  obtain ⟨rest, rfl⟩ := starts
  rw [sign.total_eq, holds_apply_iff] at holds ⊢
  refine le_trans ?_ holds
  cases rest with
  | nil => rw [List.append_nil]
  | cons digit rest =>
    have some : 0 < base := Nat.zero_lt_of_lt (below digit (by simp))
    have more : readOnto base 0 (front ++ digit :: rest) =
        readOnto base (readOnto base 0 front) (digit :: rest) := List.foldl_append
    rw [← readOnto_zero, ← readOnto_zero, more]
    exact le_readOnto some _ _

/-- In a type of at least eight bits and a base up to thirty-six: a digit is pushed onto a number exactly
where the exact result fits, with that result, and no step of it leaves the type. Pushing digits from
zero succeeds exactly when all their partial numbers fit, which they do if the whole number fits. -/
theorem pushDigit_exact (type : IntegerType) (wide : 8 ≤ type.bits) (base : Nat) (known : base ≤ 36)
    (sign : Sign) :
    (∀ value digit, sign.Faces value → digit < base →
      (∀ result, type.pushDigit value base digit sign = some result ↔
        result = value * base + sign.apply digit ∧ type.Holds (value * base + sign.apply digit)) ∧
      type.pushDigitBounded value base digit sign = .ok (type.pushDigit value base digit sign)) ∧
    ∀ digits, (∀ digit ∈ digits, digit < base) → ∀ result,
      (type.pushDigits? base sign digits = some result ↔ result = sign.total base digits ∧
        ∀ front, front <+: digits → type.Holds (sign.total base front)) ∧
      (type.pushDigits? base sign digits = some result ↔
        result = sign.total base digits ∧ type.Holds (sign.total base digits)) := by
  constructor
  · intro value digit faces below
    constructor
    · intro result
      rw [pushDigit_eq faces below, Option.ite_none_right_eq_some, Option.some.injEq, eq_comm, and_comm]
    · obtain ⟨magnitude, rfl⟩ := faces.exists_apply
      exact pushDigitBounded_apply wide known below
  · intro digits below result
    have whole : type.pushDigits? base sign digits = some result ↔
        result = sign.total base digits ∧ type.Holds (sign.total base digits) := by
      rw [pushDigits?_eq below, Option.ite_none_right_eq_some, Option.some.injEq, eq_comm, and_comm]
    refine ⟨whole.trans (and_congr_right fun _ => ?_), whole⟩
    constructor
    · exact fun holds front starts => holds_total_of_prefix starts below holds
    · exact fun all => all digits (List.prefix_refl digits)

/-- The least value of eight bits, and the digit after it. -/
theorem pushDigit_exact_least :
    let type : IntegerType := ⟨true, 8⟩
    8 ≤ type.bits ∧ 10 ≤ 36 ∧ Sign.negative.Faces (-12) ∧
      type.pushDigit (-12) 10 8 .negative = some (-128) ∧
      type.pushDigitBounded (-12) 10 8 .negative = .ok (some (-128)) ∧
      type.pushDigits? 10 .negative [1, 2, 8] = some (-128) ∧
      type.pushDigits? 10 .negative [1, 2, 8, 0] = none := by
  intro type
  have wide : 8 ≤ type.bits := by decide
  have exact := pushDigit_exact type wide 10 (by omega) .negative
  have faces : Sign.negative.Faces (-12) := by simp [Sign.Faces]
  obtain ⟨step, safe⟩ := exact.1 (-12) 8 faces (by omega)
  have pushed : type.pushDigit (-12) 10 8 .negative = some (-128) := (step _).mpr (by decide)
  have fold := (exact.2 [1, 2, 8] (by decide) (-128)).2.mpr (by decide)
  have beyond : type.pushDigits? 10 .negative [1, 2, 8, 0] = none := by decide
  exact ⟨wide, by omega, faces, pushed, safe.trans (congrArg _ pushed), fold, beyond⟩

end IntegerType
end TextScan.Literal
