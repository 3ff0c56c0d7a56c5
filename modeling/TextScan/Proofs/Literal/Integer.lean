import TextScan.Proofs.Literal.IntegerRange

/-! Integer literals are read exactly: the texts of the grammar whose number the type holds, as that
number, and no others. -/
namespace TextScan.Literal

section Runs
variable {type : IntegerType} {sign : Sign} {base magnitude : Nat} {value : Int}

/-- While a run is read, the number so far is within the bound. Once it would leave it, more digits cannot
bring it back. -/
theorem IntegerType.readRun?_eq_some_iff (small : base ≤ 16) (due : Bool) (text : Bytes)
    (start : magnitude ≤ type.bound sign) :
    type.readRun? base sign (sign.apply magnitude) due text = some value ↔
      ∃ digits, Remaining base due text digits ∧ readOnto base magnitude digits ≤ type.bound sign ∧
        value = sign.apply (readOnto base magnitude digits) := by
  induction text generalizing magnitude due with
  | nil =>
    simp only [IntegerType.readRun?, remaining_nil]
    cases due with
    | true => simp
    | false => simp [start, eq_comm]
  | cons byte rest rests =>
    rw [IntegerType.readRun?]
    cases reads : Bytes.digit? base byte with
    | none =>
      simp only [remaining_of_other small reads]
      split_ifs with apart
      · rw [rests true start]
        simp [apart.1, eq_false_of_ne_true apart.2]
      · refine iff_of_false not_false ?_
        rintro ⟨digits, ⟨⟨isUnderscore, notDue⟩, -⟩, -⟩
        exact apart ⟨isUnderscore, by simp [notDue]⟩
    | some digit =>
      have below : digit < base := digit?_lt reads
      simp only [IntegerType.pushDigit_apply below, remaining_of_digit small reads]
      split_ifs with fits
      · rw [rests false fits]
        constructor
        · rintro ⟨digits, run, within, same⟩
          exact ⟨digit :: digits, ⟨digits, rfl, run⟩, within, same⟩
        · rintro ⟨_, ⟨digits, rfl, run⟩, within, same⟩
          exact ⟨digits, run, within, same⟩
      · refine iff_of_false not_false ?_
        rintro ⟨_, ⟨digits, rfl, -⟩, within, -⟩
        have grows := le_readOnto (Nat.zero_lt_of_lt below) (magnitude * base + digit) digits
        exact fits (grows.trans within)

theorem IntegerType.readRun?_grouped (small : base ≤ 16) (text : Bytes) :
    type.readRun? base sign 0 true text = some value ↔
      ∃ digits, Grouped base text digits ∧ numeral base digits ≤ type.bound sign ∧
        value = sign.apply (numeral base digits) := by
  rw [← sign.apply_zero, IntegerType.readRun?_eq_some_iff small true text (Nat.zero_le _)]
  simp only [readOnto_zero, grouped_iff_remaining]

end Runs

namespace Integer

/-- The bytes that mark a base, after a zero. -/
def markers : List (UInt8 × Nat) :=
  [(0x62, 2), (0x42, 2), (0x6f, 8), (0x4f, 8), (0x78, 16), (0x58, 16)]

def words : List (Bytes × Nat) :=
  [(trueWord, 1), (falseWord, 0), (nullWord, 0)]

/-- An unsigned literal and its magnitude. Bases are marked only where markers are asked for. -/
inductive Magnitude : Bool → Bytes → Nat → Prop
  | marked {marker : UInt8} {base : Nat} {text : Bytes} {digits : List Nat}
      (listed : (marker, base) ∈ markers) (run : Grouped base text digits) :
      Magnitude true (0x30 :: marker :: text) (numeral base digits)
  | decimal {detectBase : Bool} {text : Bytes} {digits : List Nat} (run : Grouped 10 text digits) :
      Magnitude detectBase text (numeral 10 digits)
  | word {detectBase : Bool} {text : Bytes} {magnitude : Nat} (listed : (text, magnitude) ∈ words) :
      Magnitude detectBase text magnitude

/-- A literal and the integer that it denotes, of whatever size. -/
def Denotes (detectBase : Bool) (text : Bytes) (value : Int) : Prop :=
  Signed (fun sign body => ∃ magnitude, Magnitude detectBase body magnitude ∧
    value = sign.apply magnitude) text

theorem baseOfMarker?_eq_some_iff {marker : UInt8} {base : Nat} :
    baseOfMarker? marker = some base ↔ (marker, base) ∈ markers := by
  constructor
  · intro is
    unfold baseOfMarker? at is
    split at is
    case h_4 => cases is
    all_goals
      next letter =>
        cases is
        obtain rfl | rfl := (either_case (by decide)).mp letter <;> decide
  · simp only [markers, List.mem_cons, Prod.mk.injEq, List.not_mem_nil, or_false]
    rintro (⟨rfl, rfl⟩ | ⟨rfl, rfl⟩ | ⟨rfl, rfl⟩ | ⟨rfl, rfl⟩ | ⟨rfl, rfl⟩ | ⟨rfl, rfl⟩) <;> rfl

theorem not_remaining_marker {marker : UInt8} {base : Nat} {text : Bytes} {digits : List Nat}
    (listed : (marker, base) ∈ markers) {due : Bool} : ¬Remaining 10 due (marker :: text) digits := by
  have other : ∀ entry ∈ markers, Bytes.digit? 10 entry.1 = none ∧ entry.1 ≠ Bytes.underscore := by
    decide
  intro run
  rw [remaining_of_other (by omega) (other _ listed).1] at run
  exact (other _ listed).2 run.1.1

theorem splitBase?_eq_some_iff {body digits : Bytes} {base : Nat} :
    splitBase? body = some (base, digits) ↔
      ∃ marker, body = 0x30 :: marker :: digits ∧ digits ≠ [] ∧ (marker, base) ∈ markers := by
  constructor
  · intro is
    unfold splitBase? at is
    split at is
    next marker first rest =>
      obtain ⟨found, listed, same⟩ := Option.map_eq_some_iff.mp is
      cases same
      exact ⟨marker, rfl, List.cons_ne_nil first rest, baseOfMarker?_eq_some_iff.mp listed⟩
    next => cases is
  · rintro ⟨marker, rfl, some, listed⟩
    cases digits with
    | nil => exact absurd rfl some
    | cons first rest => rw [splitBase?, baseOfMarker?_eq_some_iff.mpr listed, Option.map_some]

theorem words_start : ∀ word ∈ words, (word.1.head?.map Bytes.isDigit).getD false = false := by
  decide

variable {detectBase : Bool} {body : Bytes} {magnitude : Nat}

theorem magnitude_iff_of_marked {base : Nat} {digits : Bytes}
    (marked : splitBase? body = some (base, digits)) :
    Magnitude true body magnitude ↔
      ∃ run, Grouped base digits run ∧ magnitude = numeral base run := by
  obtain ⟨marker, rfl, -, listed⟩ := splitBase?_eq_some_iff.mp marked
  constructor
  · intro is
    cases is with
    | marked again run =>
      have same := (baseOfMarker?_eq_some_iff.mpr again).symm.trans (baseOfMarker?_eq_some_iff.mpr listed)
      cases same
      exact ⟨_, run, rfl⟩
    | decimal run =>
      rw [grouped_iff_remaining, remaining_of_digit (by omega) rfl] at run
      obtain ⟨_, _, run⟩ := run
      exact absurd run (not_remaining_marker listed)
    | word known => cases words_start _ known
  · rintro ⟨run, is, rfl⟩
    exact .marked listed is

theorem magnitude_iff_of_unmarked
    (unmarked : (if detectBase then splitBase? body else none) = none) :
    Magnitude detectBase body magnitude ↔
      (∃ run, Grouped 10 body run ∧ magnitude = numeral 10 run) ∨ (body, magnitude) ∈ words := by
  constructor
  · intro is
    cases is with
    | marked listed run =>
      obtain ⟨_, _, _, rfl, -⟩ := run.exists_cons
      cases unmarked.symm.trans (splitBase?_eq_some_iff.mpr ⟨_, rfl, List.cons_ne_nil _ _, listed⟩)
    | decimal run => exact .inl ⟨_, run, rfl⟩
    | word known => exact .inr known
  · rintro (⟨run, is, rfl⟩ | known)
    · exact .decimal is
    · exact .word known

variable {type : IntegerType} {sign : Sign} {value : Int}

theorem mem_words_iff : (body, magnitude) ∈ words ↔
    (body = falseWord ∨ body = nullWord) ∧ magnitude = 0 ∨ body = trueWord ∧ magnitude = 1 := by
  simp only [words, List.mem_cons, Prod.mk.injEq, List.not_mem_nil, or_false]
  tauto

theorem readWord?_eq_some_iff (wide : 8 ≤ type.bits) :
    readWord? type sign body = some value ↔
      ∃ magnitude, (body, magnitude) ∈ words ∧ magnitude ≤ type.bound sign ∧
        value = sign.apply magnitude := by
  have room := IntegerType.le_bound_of_wide wide
  have one := @IntegerType.applySign_natCast type sign 1 (by omega)
  simp only [mem_words_iff, readWord?]
  split_ifs with no yes
  · have other : body ≠ trueWord := by rintro rfl; exact absurd no (by decide)
    simp [no, other, sign.apply_zero, eq_comm]
  · rw [Nat.cast_one] at one
    subst yes
    simp [no, one, @eq_comm _ value]
  · simp [no, yes]

theorem Magnitude.unmarked (is : Magnitude detectBase body magnitude) : Unmarked body := by
  have words_unmarked : ∀ word ∈ words,
      word.1.head? ≠ some 0x2b ∧ word.1.head? ≠ some 0x2d := by decide
  cases is with
  | marked listed run => exact ⟨by simp, by simp⟩
  | decimal run => exact run.unmarked
  | word known => exact words_unmarked _ known

theorem denotes_iff {text : Bytes} : Denotes detectBase text value ↔
    ∃ magnitude, Magnitude detectBase (splitSign text).2 magnitude ∧
      value = (splitSign text).1.apply magnitude :=
  signed_iff fun ⟨_, is, _⟩ => is.unmarked

theorem marked_base_le {base : Nat} {digits : Bytes}
    (marked : splitBase? body = some (base, digits)) : base ≤ 16 := by
  have small : ∀ entry ∈ markers, entry.2 ≤ 16 := by decide
  obtain ⟨_, _, _, listed⟩ := splitBase?_eq_some_iff.mp marked
  exact small _ listed

/-- The cases are the branches of the reader: a marked base, a decimal run, a word. -/
theorem read?_eq_some_iff_magnitude (wide : 8 ≤ type.bits) (detectBase : Bool) (text : Bytes) :
    read? type detectBase text = some value ↔
      ∃ magnitude, Magnitude detectBase (splitSign text).2 magnitude ∧
        magnitude ≤ type.bound (splitSign text).1 ∧ value = (splitSign text).1.apply magnitude := by
  rw [read?]
  generalize splitSign text = parts
  obtain ⟨sign, body⟩ := parts
  dsimp only
  cases marked : (if detectBase then splitBase? body else none) with
  | some found =>
    obtain ⟨base, digits⟩ := found
    cases detectBase with
    | false => cases marked
    | true =>
      simp only [IntegerType.readRun?_grouped (marked_base_le marked), magnitude_iff_of_marked marked]
      constructor
      · rintro ⟨run, is, fits, same⟩
        exact ⟨_, ⟨run, is, rfl⟩, fits, same⟩
      · rintro ⟨_, ⟨run, is, rfl⟩, fits, same⟩
        exact ⟨run, is, fits, same⟩
  | none =>
    simp only [magnitude_iff_of_unmarked marked]
    split_ifs with starts
    · rw [IntegerType.readRun?_grouped (by omega)]
      constructor
      · rintro ⟨run, is, fits, same⟩
        exact ⟨_, .inl ⟨run, is, rfl⟩, fits, same⟩
      · rintro ⟨_, ⟨run, is, rfl⟩ | known, fits, same⟩
        · exact ⟨run, is, fits, same⟩
        · cases (words_start _ known).symm.trans starts
    · rw [readWord?_eq_some_iff wide]
      constructor
      · rintro ⟨magnitude, known, fits, same⟩
        exact ⟨magnitude, .inr known, fits, same⟩
      · rintro ⟨magnitude, ⟨run, is, -⟩ | known, fits, same⟩
        · exact absurd is.startsWithDigit starts
        · exact ⟨magnitude, known, fits, same⟩

theorem read?_eq_some_iff (wide : 8 ≤ type.bits) (detectBase : Bool) (text : Bytes) :
    read? type detectBase text = some value ↔
      Denotes detectBase text value ∧ type.Holds value := by
  rw [read?_eq_some_iff_magnitude wide, denotes_iff]
  constructor
  · rintro ⟨magnitude, is, fits, rfl⟩
    exact ⟨⟨magnitude, is, rfl⟩, IntegerType.holds_apply_iff.mpr fits⟩
  · rintro ⟨⟨magnitude, is, rfl⟩, holds⟩
    exact ⟨magnitude, is, IntegerType.holds_apply_iff.mp holds, rfl⟩

theorem isSome_read?_minus (wide : 8 ≤ type.bits) (unsigned : type.signed = false)
    (detectBase : Bool) (body : Bytes) :
    (read? type detectBase (0x2d :: body)).isSome ↔ Magnitude detectBase body 0 := by
  have only : type.bound .negative = 0 := IntegerType.bound_negative_unsigned unsigned
  simp only [Option.isSome_iff_exists, read?_eq_some_iff_magnitude wide, splitSign, only]
  constructor
  · rintro ⟨_, magnitude, is, fits, -⟩
    obtain rfl : magnitude = 0 := Nat.le_zero.mp fits
    exact is
  · intro is
    exact ⟨_, 0, is, Nat.le_refl 0, rfl⟩

theorem readWordBounded_eq (wide : 8 ≤ type.bits) (sign : Sign) (word : Bytes) :
    readWordBounded type sign word = pure (readWord? type sign word) := by
  have room := IntegerType.le_bound_of_wide wide
  unfold readWordBounded readWord?
  split_ifs
  · rfl
  · exact @IntegerType.applySignBounded_natCast type sign 1 (by omega)
  · rfl

theorem readBounded_eq (wide : 8 ≤ type.bits) (detectBase : Bool) (text : Bytes) :
    readBounded type detectBase text = pure (read? type detectBase text) := by
  rw [readBounded, read?]
  generalize splitSign text = parts
  obtain ⟨sign, body⟩ := parts
  dsimp only
  cases marked : (if detectBase then splitBase? body else none) with
  | some found =>
    obtain ⟨base, digits⟩ := found
    cases detectBase with
    | false => cases marked
    | true =>
      have small : base ≤ 36 := (marked_base_le marked).trans (by omega)
      have exact := @IntegerType.readRunBounded_apply type sign base 0 wide small true digits
      rwa [sign.apply_zero] at exact
  | none =>
    split_ifs
    · have exact := @IntegerType.readRunBounded_apply type sign 10 0 wide (by omega) true body
      rwa [sign.apply_zero] at exact
    · exact readWordBounded_eq wide sign body

/-- For every type of at least eight bits: a text is read as a number exactly when it is a literal that
denotes the number and the type holds it, and the arithmetic that reads it never leaves the type. -/
theorem read?_eq_some_iff_denotes (type : IntegerType) (wide : 8 ≤ type.bits) (detectBase : Bool)
    (text : Bytes) :
    (∀ value, read? type detectBase text = some value ↔
      Denotes detectBase text value ∧ type.Holds value) ∧
    (type.signed = false → ∀ body, (read? type detectBase (0x2d :: body)).isSome ↔
      Magnitude detectBase body 0) ∧
    readBounded type detectBase text = .ok (read? type detectBase text) :=
  ⟨fun _ => read?_eq_some_iff wide detectBase text,
    fun unsigned body => isSome_read?_minus wide unsigned detectBase body,
    readBounded_eq wide detectBase text⟩

/-- The least value of eight bits, whose magnitude the type does not hold. -/
theorem read?_eq_some_iff_denotes_least :
    let type : IntegerType := ⟨true, 8⟩
    let text := Bytes.ofAscii ['-', '0', 'x', '8', '_', '0']
    8 ≤ type.bits ∧ read? type true text = some (-128) ∧ Denotes true text (-128) ∧
      read? type true text.tail = none ∧ readBounded type true text = .ok (some (-128)) := by
  intro type text
  have wide : 8 ≤ type.bits := by decide
  have exact := read?_eq_some_iff_denotes type wide true text
  have reads : read? type true text = some (-128) := by decide +kernel
  obtain ⟨denotes, -⟩ := (exact.1 _).mp reads
  exact ⟨wide, reads, denotes, by decide +kernel, exact.2.2.trans (congrArg _ reads)⟩

end Integer
end TextScan.Literal
