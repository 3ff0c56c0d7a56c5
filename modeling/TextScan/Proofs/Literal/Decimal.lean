import TextScan.Proofs.Literal.DigitRun

/-! Floating-point literals are accepted exactly as their grammar has them: words, or an optional sign,
whole digits, an optional fraction and an optional exponent of limited magnitude. -/
namespace TextScan.Literal
namespace Decimal

inductive FractionPart : Bytes → List Nat → Prop
  | absent : FractionPart [] []
  | bare : FractionPart [0x2e] []
  | present {text : Bytes} {digits : List Nat} (run : Grouped 10 text digits) :
      FractionPart (0x2e :: text) digits

inductive Exponent (limit : Nat) : Sign → Bytes → Int → Prop
  | digits {sign : Sign} {text : Bytes} {digits : List Nat} (run : Grouped 10 text digits)
      (within : numeral 10 digits ≤ limit) :
      Exponent limit sign text (sign.apply (numeral 10 digits))

inductive ExponentPart (limit : Nat) : Bytes → Int → Prop
  | absent : ExponentPart limit [] 0
  | present {marker : UInt8} {text : Bytes} {exponent : Int} (marks : marker = 0x65 ∨ marker = 0x45)
      (is : Signed (Exponent limit · · exponent) text) : ExponentPart limit (marker :: text) exponent

inductive Unsigned (limit : Nat) (sign : Sign) : Bytes → Decimal → Prop
  | parts {wholeText fractionText exponentText : Bytes} {whole fraction : List Nat} {exponent : Int}
      (run : Grouped 10 wholeText whole) (point : FractionPart fractionText fraction)
      (power : ExponentPart limit exponentText exponent) :
      Unsigned limit sign (wholeText ++ (fractionText ++ exponentText))
        ⟨sign, whole, fraction, exponent⟩

def Spells (limit : Nat) (text : Bytes) (literal : Decimal) : Prop :=
  Signed (Unsigned limit · · literal) text

variable {limit : Nat} {sign : Sign} {text body rest : Bytes} {digits : List Nat} {exponent : Int}

/-- Digits are appended as long as the magnitude is within the limit. Once it has passed it, more digits
cannot bring it back. -/
theorem foldlM_pushMagnitude? {magnitude : Nat} (start : magnitude ≤ limit) (digits : List Nat) :
    digits.foldlM (pushMagnitude? limit) magnitude =
      if readOnto 10 magnitude digits ≤ limit then some (readOnto 10 magnitude digits) else none := by
  induction digits generalizing magnitude with
  | nil => exact (if_pos start).symm
  | cons digit digits rest =>
    rw [List.foldlM_cons, readOnto_cons, pushMagnitude?]
    by_cases exceeds : limit < magnitude * 10 + digit
    · have grows := le_readOnto (by omega : 0 < 10) (magnitude * 10 + digit) digits
      rw [if_pos exceeds, if_neg (by omega)]
      rfl
    · rw [if_neg exceeds]
      exact rest (by omega)

theorem readExponent?_eq_some_iff :
    readExponent? limit text = some exponent ↔ Signed (Exponent limit · · exponent) text := by
  rw [signed_iff fun ⟨run, _⟩ => run.unmarked, readExponent?]
  generalize splitSign text = parts
  obtain ⟨sign, body⟩ := parts
  simp only [Option.bind_eq_bind, Option.bind_eq_some_iff, Option.guard_eq_some', foldlM_pushMagnitude? (Nat.zero_le limit)]
  constructor
  · rintro ⟨run, read, _, whole, magnitude, pushed, same⟩
    split_ifs at pushed with within
    cases pushed
    rw [readOnto_zero] at within same
    have is : Grouped 10 body run.digits := DigitRun.read?_whole_iff.mp ⟨run, read, whole, rfl⟩
    obtain rfl : sign.apply (numeral 10 run.digits) = exponent := by
      cases sign <;> exact Option.some.inj same
    exact .digits is within
  · rintro ⟨is, within⟩
    obtain ⟨run, read, whole, rfl⟩ := DigitRun.read?_whole_iff.mpr is
    rw [← readOnto_zero] at within
    refine ⟨run, read, (), whole, _, if_pos within, ?_⟩
    rw [readOnto_zero]
    cases sign <;> rfl

theorem readExponentPart?_eq_some_iff :
    readExponentPart? limit text = some exponent ↔ ExponentPart limit text exponent := by
  cases text with
  | nil =>
    constructor
    · rintro ⟨⟩
      exact .absent
    · rintro ⟨⟩
      rfl
  | cons marker rest =>
    have folds : marker ||| 0x20 = 0x65 ↔ marker = 0x65 ∨ marker = 0x45 := either_case (by decide)
    rw [readExponentPart?]
    constructor
    · intro reads
      split_ifs at reads with marks
      exact .present (folds.mp marks) (readExponent?_eq_some_iff.mp reads)
    · rintro (_ | ⟨marks, is⟩)
      rw [if_pos (folds.mpr marks)]
      exact readExponent?_eq_some_iff.mpr is

/-- The text starts, if at all, with the mark of an exponent. -/
def Marked (text : Bytes) : Prop :=
  ∀ byte ∈ text.head?, byte = 0x65 ∨ byte = 0x45

theorem ExponentPart.marked (is : ExponentPart limit text exponent) : Marked text := by
  cases is with
  | absent => exact nofun
  | present marks _ => simpa [Marked] using marks

theorem Marked.stops (marked : Marked text) : Stops text := by
  intro byte first
  obtain rfl | rfl := marked byte first <;> exact ⟨rfl, by decide⟩

theorem Marked.ne_point (marked : Marked (0x2e :: text)) : False := by
  obtain same | same := marked _ rfl <;> cases same

theorem stops_point (text : Bytes) : Stops (0x2e :: text) :=
  stops_cons.mpr ⟨rfl, by decide⟩

theorem FractionPart.stops (is : FractionPart text digits) (marked : Marked rest) :
    Stops (text ++ rest) := by
  cases is with
  | absent => exact marked.stops
  | bare | present _ => exact stops_point _

theorem readFraction?_append (is : FractionPart text digits) (marked : Marked rest) :
    readFraction? (text ++ rest) = some ⟨digits, rest⟩ := by
  cases is with
  | absent =>
    rw [List.nil_append]
    unfold readFraction?
    split
    · exact marked.ne_point.elim
    · rfl
  | bare => exact DigitRun.read?_of_other fun byte first => (marked.stops byte first).1
  | present run => exact DigitRun.read?_append run marked.stops

theorem readFraction?_sound {run : DigitRun} (read : readFraction? text = some run) :
    ∃ front, text = front ++ run.rest ∧ FractionPart front run.digits := by
  unfold readFraction? at read
  split at read
  next rest =>
    obtain ⟨front, rfl, is⟩ | ⟨rfl, -⟩ := DigitRun.read?_cases read
    · exact ⟨0x2e :: front, rfl, .present is⟩
    · exact ⟨[0x2e], rfl, .bare⟩
  next =>
    cases read
    exact ⟨[], rfl, .absent⟩

/-- A body is read as the parts that the grammar cuts it into. No other cut fits, since each part is as long
as it can be. -/
theorem readBody?_eq_some_iff {literal : Decimal}
    (starts : (body.head?.map Bytes.isDigit).getD false = true) :
    readBody? limit sign body = some literal ↔ Unsigned limit sign body literal := by
  simp only [readBody?, Option.bind_eq_bind, Option.bind_eq_some_iff]
  constructor
  · rintro ⟨whole, read, fraction, readPoint, exponent, readPower, same⟩
    cases same
    obtain ⟨wholeText, split, run⟩ | ⟨-, other⟩ := DigitRun.read?_cases read
    · obtain ⟨pointText, splitPoint, point⟩ := readFraction?_sound readPoint
      rw [split, splitPoint]
      exact .parts run point (readExponentPart?_eq_some_iff.mp readPower)
    · cases starts.symm.trans other
  · rintro ⟨run, point, power⟩
    exact ⟨_, DigitRun.read?_append run (point.stops power.marked), _,
      readFraction?_append point power.marked, _, readExponentPart?_eq_some_iff.mpr power, rfl⟩

theorem Unsigned.startsWithDigit {literal : Decimal} (is : Unsigned limit sign body literal) :
    (body.head?.map Bytes.isDigit).getD false = true := by
  obtain ⟨run, _, _⟩ := is
  obtain ⟨_, _, _, rfl, _⟩ := run.exists_cons
  exact run.startsWithDigit

theorem Unsigned.unmarked {literal : Decimal} (is : Unsigned limit sign body literal) :
    Unmarked body := by
  obtain ⟨run, _, _⟩ := is
  obtain ⟨_, _, _, rfl, _⟩ := run.exists_cons
  exact run.unmarked

theorem spells_iff {literal : Decimal} : Spells limit text literal ↔
    Unsigned limit (splitSign text).1 (splitSign text).2 literal :=
  signed_iff fun is => is.unmarked

theorem FractionPart.digit_lt (is : FractionPart text digits) : ∀ digit ∈ digits, digit < 10 := by
  cases is with
  | absent | bare => exact nofun
  | present run => exact run.digit_lt

theorem ExponentPart.natAbs_le (is : ExponentPart limit text exponent) : exponent.natAbs ≤ limit := by
  cases is with
  | absent => exact Nat.zero_le limit
  | present _ is =>
    obtain ⟨_, within⟩ | ⟨_, within⟩ | ⟨_, within⟩ := is <;> rwa [Sign.natAbs_apply]

theorem Unsigned.parts_of {literal : Decimal} (is : Unsigned limit sign body literal) :
    literal.sign = sign ∧ (∀ digit ∈ literal.whole, digit < 10) ∧
      (∀ digit ∈ literal.fraction, digit < 10) ∧ literal.exponent.natAbs ≤ limit := by
  obtain ⟨run, point, power⟩ := is
  exact ⟨rfl, run.digit_lt, point.digit_lt, power.natAbs_le⟩

namespace Spells
variable {literal other : Decimal}

theorem whole_lt (spells : Spells limit text literal) : ∀ digit ∈ literal.whole, digit < 10 :=
  (spells_iff.mp spells).parts_of.2.1

theorem fraction_lt (spells : Spells limit text literal) : ∀ digit ∈ literal.fraction, digit < 10 :=
  (spells_iff.mp spells).parts_of.2.2.1

theorem exponent_le (spells : Spells limit text literal) : literal.exponent.natAbs ≤ limit :=
  (spells_iff.mp spells).parts_of.2.2.2

theorem negative_iff (spells : Spells limit text literal) :
    literal.sign = .negative ↔ text.head? = some 0x2d := by
  rw [← splitSign_negative_iff, (spells_iff.mp spells).parts_of.1]

theorem unique (spells : Spells limit text literal) (also : Spells limit text other) :
    literal = other := by
  rw [spells_iff] at spells also
  have starts := spells.startsWithDigit
  rw [← readBody?_eq_some_iff starts] at spells also
  exact Option.some.inj (spells.symm.trans also)

end Spells
end Decimal

namespace FloatType
open Decimal

def words : List (Bytes × Floating.Number) :=
  [(nanWord, .nan), (infinityWord, .infinite false), (0x2b :: infinityWord, .infinite false),
    (0x2d :: infinityWord, .infinite true), (nullWord, .infinite false)]

variable {type : FloatType} {text : Bytes} {value : Floating.Number}

theorem readWord?_eq_some_iff : readWord? text = some value ↔ (text, value) ∈ words := by
  constructor
  · intro read
    unfold readWord? at read
    split_ifs at read with endless below nan
    · cases read
      obtain rfl | rfl | rfl := endless <;> simp [words]
    · cases read
      simp [words, below]
    · cases read
      simp [words, nan]
  · simp only [words, List.mem_cons, Prod.mk.injEq, List.not_mem_nil, or_false]
    rintro (⟨rfl, rfl⟩ | ⟨rfl, rfl⟩ | ⟨rfl, rfl⟩ | ⟨rfl, rfl⟩ | ⟨rfl, rfl⟩) <;> rfl

theorem words_start : ∀ word ∈ words,
    ((splitSign word.1).2.head?.map Bytes.isDigit).getD false = false := by
  decide +kernel

/-- What is read is a word or the value of the literal that a text spells. -/
theorem read?_eq_some_iff :
    type.read? text = some value ↔
      (text, value) ∈ words ∨
        ∃ literal, Spells type.greatestExponent10 text literal ∧ type.ofDecimal literal = value := by
  simp only [spells_iff, read?]
  split_ifs with starts
  · simp only [Option.map_eq_some_iff, readBody?_eq_some_iff starts]
    constructor
    · exact .inr
    · rintro (word | literal)
      · cases (words_start _ word).symm.trans starts
      · exact literal
  · rw [readWord?_eq_some_iff]
    constructor
    · exact .inl
    · rintro (word | ⟨literal, is, -⟩)
      · exact word
      · exact absurd is.startsWithDigit starts

/-- A text is accepted exactly when it is one of the words, which have the values listed with them, or
spells a decimal literal whose exponent has at most the magnitude that the type takes. -/
theorem isSome_read?_iff_spells (type : FloatType) (text : Bytes) :
    ((type.read? text).isSome ↔
      text ∈ words.map Prod.fst ∨ ∃ literal, Spells type.greatestExponent10 text literal) ∧
    (∀ word ∈ words, type.read? word.1 = some word.2) ∧
    double.greatestExponent10 = 308 ∧ single.greatestExponent10 = 38 := by
  refine ⟨?_, fun word known => read?_eq_some_iff.mpr (.inl known), rfl, rfl⟩
  simp only [Option.isSome_iff_exists, read?_eq_some_iff]
  constructor
  · rintro ⟨value, known | ⟨literal, spelled, -⟩⟩
    · exact .inl (List.mem_map.mpr ⟨_, known, rfl⟩)
    · exact .inr ⟨literal, spelled⟩
  · rintro (known | ⟨literal, spelled⟩)
    · obtain ⟨word, listed, rfl⟩ := List.mem_map.mp known
      exact ⟨word.2, .inl listed⟩
    · exact ⟨_, .inr ⟨literal, spelled, rfl⟩⟩

end FloatType
end TextScan.Literal
