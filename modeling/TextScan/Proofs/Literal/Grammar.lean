import TextScan.Literal.Sign
import Mathlib.Data.Nat.Digits.Defs
import Mathlib.Tactic.Ring

/-! What number literals are made of, said as a grammar: digits of a base, digit runs with single
underscores between digits, and an optional sign. -/
namespace TextScan.Literal

/-- The digits in the order of their values, letters small and capital. -/
def smallDigits : Bytes :=
  Bytes.ofAscii ['0', '1', '2', '3', '4', '5', '6', '7', '8', '9', 'a', 'b', 'c', 'd', 'e', 'f']

def capitalDigits : Bytes :=
  Bytes.ofAscii ['0', '1', '2', '3', '4', '5', '6', '7', '8', '9', 'A', 'B', 'C', 'D', 'E', 'F']

/-- A byte stands for a digit of a base up to sixteen. -/
def DigitOf (base : Nat) (byte : UInt8) (digit : Nat) : Prop :=
  digit < base ∧ (smallDigits[digit]? = some byte ∨ capitalDigits[digit]? = some byte)

/-- Digits of a base, of which any two may have one underscore between them. -/
inductive Grouped (base : Nat) : Bytes → List Nat → Prop
  | last {byte : UInt8} {digit : Nat} (is : DigitOf base byte digit) : Grouped base [byte] [digit]
  | next {byte : UInt8} {digit : Nat} {text : Bytes} {digits : List Nat}
      (is : DigitOf base byte digit) (more : Grouped base text digits) :
      Grouped base (byte :: text) (digit :: digits)
  | apart {byte : UInt8} {digit : Nat} {text : Bytes} {digits : List Nat}
      (is : DigitOf base byte digit) (more : Grouped base text digits) :
      Grouped base (byte :: Bytes.underscore :: text) (digit :: digits)

/-- The number that digits stand for, the first of them weighing most. -/
def numeral (base : Nat) (digits : List Nat) : Nat :=
  Nat.ofDigits base digits.reverse

/-- Something unsigned with an optional sign in front of it. -/
inductive Signed (Unsigned : Sign → Bytes → Prop) : Bytes → Prop
  | bare {body : Bytes} (is : Unsigned .positive body) : Signed Unsigned body
  | plus {body : Bytes} (is : Unsigned .positive body) : Signed Unsigned (0x2b :: body)
  | minus {body : Bytes} (is : Unsigned .negative body) : Signed Unsigned (0x2d :: body)

def Sign.apply : Sign → Nat → Int
  | .positive, magnitude => magnitude
  | .negative, magnitude => -magnitude

theorem Sign.natAbs_apply (sign : Sign) (magnitude : Nat) : (sign.apply magnitude).natAbs = magnitude := by
  cases sign <;> simp [Sign.apply]

theorem Sign.apply_zero (sign : Sign) : sign.apply 0 = 0 := by
  cases sign <;> rfl

private theorem digitValue?_table : ∀ value < 256, ∀ digit < 16,
    (Bytes.digitValue? (UInt8.ofNat value) = some digit ↔
      smallDigits[digit]? = some (UInt8.ofNat value) ∨
        capitalDigits[digit]? = some (UInt8.ofNat value)) := by
  decide +kernel

private theorem either_case_table : ∀ value < 256, ∀ letter ∈ ([0x62, 0x65, 0x6f, 0x78] : Bytes),
    (UInt8.ofNat value ||| 0x20 = letter ↔
      UInt8.ofNat value = letter ∨ UInt8.ofNat value = letter - 0x20) := by
  decide +kernel

variable {base : Nat} {byte : UInt8} {digit : Nat} {text : Bytes} {digits : List Nat}

/-- The digit that a byte stands for is its place in one of the two tables. -/
theorem digit?_eq_some_iff (small : base ≤ 16) :
    Bytes.digit? base byte = some digit ↔ DigitOf base byte digit := by
  simp only [Bytes.digit?, Option.filter_eq_some_iff, decide_eq_true_eq, DigitOf]
  rw [and_comm]
  refine and_congr_right fun below => ?_
  have entry := digitValue?_table byte.toNat byte.toNat_lt digit (by omega)
  rwa [UInt8.ofNat_toNat] at entry

theorem either_case {letter : UInt8} (marks : letter ∈ ([0x62, 0x65, 0x6f, 0x78] : Bytes)) :
    byte ||| 0x20 = letter ↔ byte = letter ∨ byte = letter - 0x20 := by
  have entry := either_case_table byte.toNat byte.toNat_lt letter marks
  rwa [UInt8.ofNat_toNat] at entry

theorem digit?_lt (reads : Bytes.digit? base byte = some digit) : digit < base := by
  simpa using (Option.filter_eq_some_iff.mp reads).2

theorem isSome_digit?_ten (byte : UInt8) : (Bytes.digit? 10 byte).isSome = Bytes.isDigit byte := by
  unfold Bytes.digit? Bytes.digitValue?
  split_ifs with decimal small capital
  · have most : byte ≤ 0x39 := by simp_all [Bytes.isDigit]
    have : byte.toNat ≤ 0x39 := UInt8.le_iff_toNat_le.mp most
    simp [decimal, Option.filter]
    omega
  all_goals simp [decimal, Option.filter]

theorem digit?_underscore (base : Nat) : Bytes.digit? base Bytes.underscore = none :=
  rfl

/-- What is still to come of a digit run, by whether a digit is due next. -/
inductive Remaining (base : Nat) : Bool → Bytes → List Nat → Prop
  | done : Remaining base false [] []
  | digit {due : Bool} {byte : UInt8} {digit : Nat} {text : Bytes} {digits : List Nat}
      (is : DigitOf base byte digit) (more : Remaining base false text digits) :
      Remaining base due (byte :: text) (digit :: digits)
  | underscore {text : Bytes} {digits : List Nat} (more : Remaining base true text digits) :
      Remaining base false (Bytes.underscore :: text) digits

theorem Remaining.not_due (run : Remaining base true text digits) :
    Remaining base false text digits := by
  cases run with
  | digit is more => exact .digit is more

theorem Grouped.remaining (run : Grouped base text digits) : Remaining base true text digits := by
  induction run with
  | last is => exact .digit is .done
  | next is _ rest => exact .digit is rest.not_due
  | apart is _ rest => exact .digit is (.underscore rest)

/-- Where no digit is due, one has just been read: the run is complete with that digit in front. -/
theorem Remaining.grouped {due : Bool} (run : Remaining base due text digits) :
    (due = true → Grouped base text digits) ∧
      ∀ {byte : UInt8} {digit : Nat}, due = false → DigitOf base byte digit →
        Grouped base (byte :: text) (digit :: digits) := by
  induction run with
  | done => exact ⟨nofun, fun _ is => .last is⟩
  | digit is _ rest => exact ⟨fun _ => rest.2 rfl is, fun _ before => .next before (rest.2 rfl is)⟩
  | underscore _ rest => exact ⟨nofun, fun _ before => .apart before (rest.1 rfl)⟩

/-- Digit runs by their grammar are digit runs as they are read, at the start of which a digit is due. -/
theorem grouped_iff_remaining : Grouped base text digits ↔ Remaining base true text digits :=
  ⟨Grouped.remaining, fun run => run.grouped.1 rfl⟩

theorem Grouped.digits_ne_nil (run : Grouped base text digits) : digits ≠ [] := by
  cases run <;> exact List.cons_ne_nil _ _

theorem Grouped.exists_cons (run : Grouped base text digits) :
    ∃ byte digit rest, text = byte :: rest ∧ DigitOf base byte digit := by
  cases run with
  | last is | next is _ | apart is _ => exact ⟨_, _, _, rfl, is⟩

theorem Grouped.digit_lt (run : Grouped base text digits) : ∀ digit ∈ digits, digit < base := by
  induction run with
  | last is => exact List.forall_mem_singleton.mpr is.1
  | next is _ rest | apart is _ rest => exact List.forall_mem_cons.mpr ⟨is.1, rest⟩

theorem Grouped.length_le (run : Grouped base text digits) : digits.length ≤ text.length := by
  induction run with
  | last _ => exact Nat.le_refl 1
  | next _ _ rest => exact Nat.succ_le_succ rest
  | apart _ _ rest => exact Nat.succ_le_succ (rest.trans (Nat.le_succ _))

theorem remaining_nil {due : Bool} : Remaining base due [] digits ↔ due = false ∧ digits = [] := by
  constructor
  · rintro ⟨⟩
    exact ⟨rfl, rfl⟩
  · rintro ⟨rfl, rfl⟩
    exact .done

theorem remaining_of_digit {due : Bool} (small : base ≤ 16)
    (reads : Bytes.digit? base byte = some digit) :
    Remaining base due (byte :: text) digits ↔
      ∃ more, digits = digit :: more ∧ Remaining base false text more := by
  constructor
  · intro run
    cases run with
    | digit is more =>
      rw [← digit?_eq_some_iff small, reads] at is
      exact ⟨_, by rw [Option.some.inj is], more⟩
    | underscore more => cases (digit?_underscore base).symm.trans reads
  · rintro ⟨more, rfl, rest⟩
    exact .digit ((digit?_eq_some_iff small).mp reads) rest

theorem remaining_of_other {due : Bool} (small : base ≤ 16)
    (reads : Bytes.digit? base byte = none) :
    Remaining base due (byte :: text) digits ↔
      (byte = Bytes.underscore ∧ due = false) ∧ Remaining base true text digits := by
  constructor
  · intro run
    cases run with
    | digit is more =>
      rw [← digit?_eq_some_iff small, reads] at is
      cases is
    | underscore more => exact ⟨⟨rfl, rfl⟩, more⟩
  · rintro ⟨⟨rfl, rfl⟩, rest⟩
    exact .underscore rest

/-- The text starts with neither sign. -/
def Unmarked (text : Bytes) : Prop :=
  text.head? ≠ some 0x2b ∧ text.head? ≠ some 0x2d

theorem splitSign_unmarked (unmarked : Unmarked text) : splitSign text = (.positive, text) := by
  unfold splitSign
  split
  · exact absurd rfl unmarked.2
  · exact absurd rfl unmarked.1
  · rfl

theorem splitSign_negative_iff : (splitSign text).1 = .negative ↔ text.head? = some 0x2d := by
  unfold splitSign
  split
  · simp
  · simp
  · rename_i minus _
    constructor
    · exact nofun
    · intro first
      obtain ⟨rest, rfl⟩ := List.head?_eq_some_iff.mp first
      exact absurd rfl (minus rest)

/-- A sign is split off at most once, for what it stands in front of does not begin with one. -/
theorem signed_iff {Unsigned : Sign → Bytes → Prop}
    (unmarked : ∀ {body}, Unsigned .positive body → Unmarked body) :
    Signed Unsigned text ↔ Unsigned (splitSign text).1 (splitSign text).2 := by
  constructor
  · rintro (is | is | is)
    · rwa [splitSign_unmarked (unmarked is)]
    · exact is
    · exact is
  · intro is
    unfold splitSign at is
    split at is
    · exact .minus is
    · exact .plus is
    · exact .bare is

theorem Grouped.unmarked (run : Grouped base text digits) : Unmarked text := by
  obtain ⟨byte, digit, rest, rfl, -, is⟩ := run.exists_cons
  have listed : byte ∈ smallDigits ++ capitalDigits :=
    List.mem_append.mpr (is.imp List.mem_of_getElem? List.mem_of_getElem?)
  constructor <;> intro same <;> cases same <;> exact absurd listed (by decide)

theorem Grouped.startsWithDigit (run : Grouped 10 text digits) :
    (text.head?.map Bytes.isDigit).getD false = true := by
  obtain ⟨byte, digit, rest, rfl, is⟩ := run.exists_cons
  have reads := (digit?_eq_some_iff (by omega)).mpr is
  rw [List.head?_cons, Option.map_some, Option.getD_some, ← isSome_digit?_ten, reads, Option.isSome_some]

def readOnto (base before : Nat) (digits : List Nat) : Nat :=
  digits.foldl (fun value digit => value * base + digit) before

@[simp] theorem readOnto_nil (base before : Nat) : readOnto base before [] = before :=
  rfl

@[simp] theorem readOnto_cons (base before digit : Nat) (digits : List Nat) :
    readOnto base before (digit :: digits) = readOnto base (before * base + digit) digits :=
  rfl

theorem readOnto_eq (base before : Nat) (digits : List Nat) :
    readOnto base before digits = before * base ^ digits.length + numeral base digits := by
  induction digits generalizing before with
  | nil => simp [numeral]
  | cons digit digits rest =>
    have horner : numeral base (digit :: digits) = digit * base ^ digits.length + numeral base digits := by
      simp [numeral, Nat.ofDigits_append, Nat.ofDigits_singleton]
      ring
    rw [readOnto_cons, rest, horner, List.length_cons]
    ring

theorem readOnto_zero (base : Nat) (digits : List Nat) :
    readOnto base 0 digits = numeral base digits := by
  rw [readOnto_eq, Nat.zero_mul, Nat.zero_add]

theorem numeral_lt (small : ∀ digit ∈ digits, digit < base)
    (some : 1 < base) : numeral base digits < base ^ digits.length := by
  have below := Nat.ofDigits_lt_base_pow_length some fun digit member =>
    small digit (List.mem_reverse.mp member)
  rwa [List.length_reverse] at below

theorem le_readOnto (nonzero : 0 < base) (before : Nat) (digits : List Nat) :
    before ≤ readOnto base before digits := by
  rw [readOnto_eq]
  exact Nat.le_add_right_of_le (Nat.le_mul_of_pos_right before (Nat.pow_pos nonzero))

end TextScan.Literal
