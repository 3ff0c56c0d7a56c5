import TextScan.Proofs.Literal.NormalForm
import TextScan.Proofs.Literal.Scan

/-! Of the counters that reading a literal keeps, only that of the fraction digits can leave its type. It
does where more digits count than it can number, the zeros in front of them among these. -/
namespace TextScan.Literal.Counted
open TextScan.Floating Decimal

theorem bounds : word.bound .positive = 4294967295 ∧ signedWord.bound .positive = 2147483647 ∧
    signedWord.bound .negative = 2147483648 := by
  decide

section Scan
variable {State : Type} {onDigit : State → Nat → Except Fault State} {bytes : Bytes} {start : Nat}
  {state : State}

theorem scan_of_some {run : DigitRun} (inside : start ≤ bytes.length)
    (read : DigitRun.read? (bytes.drop start) = some run) :
    ∃ stop ≤ bytes.length, bytes.drop stop = run.rest ∧ (stop = start ↔ run.digits = []) ∧
      scan onDigit bytes start state = do
        let state ← run.digits.foldlM onDigit state
        return (some stop, state) := by
  obtain ⟨apart, rfl⟩ := DigitRun.read?_eq_some_iff.mp read
  have fits := (isPrefix_runFront false (bytes.drop start)).length_le
  have runsOn := runsOn_runFront false (bytes.drop start)
  rw [List.length_drop] at fits
  refine ⟨start + (runFront false (bytes.drop start)).length, by omega, List.drop_drop.symm, ?_, ?_⟩
  · rw [Nat.add_eq_left, List.length_eq_zero_iff]
    constructor
    · intro none
      rw [none, digitValues, List.filterMap_nil]
    · intro none
      by_contra nonempty
      exact digitValues_ne_nil runsOn nonempty none
  · rw [scan_eq]
    simp only [apart, if_false]

theorem scan_of_none (read : DigitRun.read? (bytes.drop start) = none) :
    scan onDigit bytes start state = do
      let state ← (digitValues (runFront false (bytes.drop start))).foldlM onDigit state
      return (none, state) := by
  rw [scan_eq]
  simp only [DigitRun.read?_eq_none_iff.mp read, if_true]

end Scan

section Exponent
variable {limit : Nat} {digits : List Nat}

theorem push_magnitude {magnitude digit : Nat} (room : 10 * limit + 9 ≤ signedWord.bound .positive)
    (within : magnitude ≤ limit) (small : digit < 10) :
    Magnitude.push limit ⟨magnitude, false⟩ digit =
      pure ⟨(magnitude * 10 + digit : Nat), limit < magnitude * 10 + digit⟩ := by
  have width := bounds
  have product : (magnitude : Int) * 10 = (magnitude * 10 : Nat) := rfl
  have sum : ((magnitude * 10 : Nat) : Int) + digit = (magnitude * 10 + digit : Nat) := rfl
  rw [Magnitude.push, if_neg Bool.false_ne_true, product, hold_natCast (by omega), pure_bind, sum,
    hold_natCast (by omega), pure_bind]
  simp only [Nat.cast_lt]

theorem foldlM_exceeded (value : Int) (digits : List Nat) :
    digits.foldlM (Magnitude.push limit) ⟨value, true⟩ = pure ⟨value, true⟩ := by
  induction digits with
  | nil => rfl
  | cons digit digits ih => rw [List.foldlM_cons, Magnitude.push, if_pos rfl, pure_bind, ih]

/-- A magnitude is counted up to its limit and once past it. Up to there another digit has room. -/
theorem foldlM_magnitude {before : Nat} (room : 10 * limit + 9 ≤ signedWord.bound .positive)
    (within : before ≤ limit) (small : ∀ digit ∈ digits, digit < 10) :
    ∃ magnitude : Nat, magnitude ≤ 10 * limit + 9 ∧
      (readOnto 10 before digits ≤ limit → magnitude = readOnto 10 before digits) ∧
      digits.foldlM (Magnitude.push limit) ⟨before, false⟩ =
        pure ⟨magnitude, limit < readOnto 10 before digits⟩ := by
  induction digits generalizing before with
  | nil =>
    refine ⟨before, by omega, fun _ => rfl, ?_⟩
    rw [List.foldlM_nil, readOnto_nil, decide_eq_false (Nat.not_lt.mpr within)]
  | cons digit digits ih =>
    rw [List.forall_mem_cons] at small
    rw [List.foldlM_cons, push_magnitude room within small.1, pure_bind, readOnto_cons]
    by_cases exceeds : limit < before * 10 + digit
    · have grows := le_readOnto (by omega : 0 < 10) (before * 10 + digit) digits
      refine ⟨before * 10 + digit, by omega, by omega, ?_⟩
      rw [decide_eq_true exceeds, foldlM_exceeded, decide_eq_true (exceeds.trans_le grows)]
    · rw [decide_eq_false exceeds]
      exact ih (Nat.le_of_not_lt exceeds) small.2

theorem readExponent?_of_some {text : Bytes} {run : DigitRun}
    (read : DigitRun.read? (splitSign text).2 = some run) :
    Decimal.readExponent? limit text =
      if (run.digits ≠ [] ∧ run.rest = []) ∧ readOnto 10 0 run.digits ≤ limit then
        some ((splitSign text).1.apply (readOnto 10 0 run.digits))
      else none := by
  rw [Decimal.readExponent?]
  dsimp only
  rw [read, Option.bind_eq_bind, Option.bind_some, foldlM_pushMagnitude? (Nat.zero_le limit), guard]
  by_cases whole : run.digits ≠ [] ∧ run.rest = []
  · rw [if_pos whole]
    by_cases within : readOnto 10 0 run.digits ≤ limit
    · rw [if_pos within, if_pos ⟨whole, within⟩]
      cases (splitSign text).1 <;> rfl
    · rw [if_neg within, if_neg (mt And.right within)]
      rfl
  · rw [if_neg whole, if_neg (mt And.left whole)]
    rfl

theorem hold_signed {magnitude : Nat} (fits : magnitude ≤ signedWord.bound .positive) (sign : Sign) :
    (do
      let exponent ← hold signedWord magnitude
      match sign with
      | .positive => return some exponent
      | .negative => return some (← hold signedWord (-exponent))) =
      pure (some (sign.apply magnitude)) := by
  have width := bounds
  rw [hold_natCast fits, pure_bind]
  cases sign with
  | positive => rfl
  | negative =>
    dsimp only
    rw [hold_neg_natCast (by omega)]
    rfl

/-- An exponent stays in its type, for its magnitude is not counted on beyond the limit. -/
theorem readExponent_eq (room : 10 * limit + 9 ≤ signedWord.bound .positive) (text : Bytes) :
    readExponent limit text = pure (Decimal.readExponent? limit text) := by
  rw [readExponent]
  dsimp only
  cases read : DigitRun.read? ((splitSign text).2.drop 0) with
  | none =>
    obtain ⟨magnitude, -, -, fold⟩ := foldlM_magnitude room (Nat.zero_le limit)
      (digitValues_lt (runFront false ((splitSign text).2.drop 0)))
    rw [scan_of_none read, ← Nat.cast_zero, fold, pure_bind, pure_bind, Decimal.readExponent?]
    rw [List.drop_zero] at read
    dsimp only
    rw [read]
    rfl
  | some run =>
    obtain ⟨stop, inside, rest, start, scanned⟩ := scan_of_some (Nat.zero_le _) read
    obtain ⟨magnitude, few, exact, fold⟩ :=
      foldlM_magnitude room (Nat.zero_le limit) (DigitRun.digits_lt read)
    rw [List.drop_zero] at read
    rw [scanned, ← Nat.cast_zero, fold, pure_bind, pure_bind, readExponent?_of_some read]
    dsimp only
    have ends : run.rest = [] ↔ stop = (splitSign text).2.length := by
      rw [← rest, List.drop_eq_nil_iff]
      omega
    have refuses : stop = 0 ∨ stop ≠ (splitSign text).2.length ∨
        decide (limit < readOnto 10 0 run.digits) = true ↔
        ¬((run.digits ≠ [] ∧ run.rest = []) ∧ readOnto 10 0 run.digits ≤ limit) := by
      rw [start, ne_eq, ← ends, decide_eq_true_iff, ← Nat.not_le, ← or_assoc, not_and_or, not_and_or,
        ne_eq, not_not]
    by_cases accepts : (run.digits ≠ [] ∧ run.rest = []) ∧ readOnto 10 0 run.digits ≤ limit
    · rw [if_neg (refuses.not.mpr (not_not_intro accepts)), if_pos accepts, exact accepts.2]
      exact hold_signed (accepts.2.trans (by omega)) _
    · rw [if_pos (refuses.mpr accepts), if_neg accepts]

theorem readExponentPart_eq (room : 10 * limit + 9 ≤ signedWord.bound .positive) (body : Bytes)
    (position : Nat) : readExponentPart limit body position =
      pure (Decimal.readExponentPart? limit (body.drop position)) := by
  rw [readExponentPart]
  cases read : body[position]? with
  | none =>
    rw [List.drop_eq_nil_of_le (List.getElem?_eq_none_iff.mp read)]
    rfl
  | some marker =>
    obtain ⟨inside, -⟩ := List.getElem?_eq_some_iff.mp read
    rw [drop_of_getElem? read, Decimal.readExponentPart?]
    dsimp only
    split_ifs with marks
    · rw [bytesFrom, if_pos (Nat.succ_le_of_lt inside)]
      exact readExponent_eq room _
    · rfl

end Exponent

/-- The counter of the fraction digits would be one more than its type holds. -/
def tooManyDigits : Fault :=
  .arithmetic (.outOfRange 2147483648)

section Fraction
variable {type : FloatType} {fraction : FloatType.Fraction} {digits : List Nat} {body more : Bytes}
  {position : Nat}

/-- A fraction under way with its counters in their types. -/
def Fraction.ofExact (fraction : FloatType.Fraction) : Fraction :=
  ⟨fraction.value, fraction.decimals, fraction.significant⟩

theorem le_decimals_push (type : FloatType) (fraction : FloatType.Fraction) (digit : Nat) :
    fraction.decimals ≤ (fraction.push type digit).decimals := by
  rw [FloatType.Fraction.push]
  split_ifs
  · exact Nat.le_succ _
  · exact Nat.le_refl _

theorem le_decimals_foldl (type : FloatType) (fraction : FloatType.Fraction) (digits : List Nat) :
    fraction.decimals ≤ (digits.foldl (FloatType.Fraction.push type) fraction).decimals := by
  induction digits generalizing fraction with
  | nil => exact Nat.le_refl _
  | cons digit digits ih => exact (le_decimals_push type fraction digit).trans (ih _)

theorem push_fraction (room : type.fractionDigits ≤ word.bound .positive)
    (fits : fraction.decimals ≤ signedWord.bound .positive) (digit : Nat) :
    Fraction.push type (.ofExact fraction) digit =
      if (fraction.push type digit).decimals ≤ signedWord.bound .positive then
        pure (.ofExact (fraction.push type digit))
      else .error tooManyDigits := by
  have width := bounds
  have decimals : (fraction.decimals : Int) + 1 = (fraction.decimals + 1 : Nat) := rfl
  have significant : (fraction.significant : Int) + 1 = (fraction.significant + 1 : Nat) := rfl
  rw [Fraction.push, FloatType.Fraction.push, Fraction.ofExact]
  simp only [Nat.cast_lt]
  by_cases counts : fraction.significant < type.fractionDigits
  · rw [if_pos counts, if_pos counts, decimals, significant]
    dsimp only
    by_cases few : fraction.decimals + 1 ≤ signedWord.bound .positive
    · rw [if_pos few, hold_natCast few, pure_bind, hold_natCast (by omega)]
      split <;> rfl
    · have last : fraction.decimals + 1 = 2147483648 := by omega
      rw [if_neg few, last]
      rfl
  · rw [if_neg counts, if_neg counts, if_pos fits]
    rfl

/-- The count of digits never shrinks: one that leaves its type on the way is out of it at the end. -/
theorem foldlM_fraction (room : type.fractionDigits ≤ word.bound .positive)
    (fits : fraction.decimals ≤ signedWord.bound .positive) (digits : List Nat) :
    digits.foldlM (Fraction.push type) (.ofExact fraction) =
      let pushed := digits.foldl (FloatType.Fraction.push type) fraction
      if pushed.decimals ≤ signedWord.bound .positive then pure (.ofExact pushed)
      else .error tooManyDigits := by
  induction digits generalizing fraction with
  | nil => exact (if_pos fits).symm
  | cons digit digits ih =>
    rw [List.foldlM_cons, push_fraction room fits]
    by_cases still : (fraction.push type digit).decimals ≤ signedWord.bound .positive
    · rw [if_pos still, pure_bind]
      exact ih still
    · have grows := le_decimals_foldl type (fraction.push type digit) digits
      rw [if_neg still]
      exact (if_neg (by rw [List.foldl_cons]; omega)).symm

/-- The digits of a fraction that count, zeros in front included, are no more than the counter holds. -/
def Countable (type : FloatType) (digits : List Nat) : Prop :=
  (countedDigits type.fractionDigits digits).length ≤ signedWord.bound .positive

theorem countable_of_length_le (few : digits.length ≤ signedWord.bound .positive) :
    Countable type digits := by
  have leading : (digits.takeWhile (· = 0)).length + (digits.dropWhile (· = 0)).length = digits.length := by
    rw [← List.length_append, List.takeWhile_append_dropWhile]
  rw [Countable, countedDigits, List.length_append, List.length_take]
  omega

theorem Standard.room (standard : type.Standard) : type.fractionDigits ≤ word.bound .positive ∧
    10 * type.greatestExponent10 + 9 ≤ signedWord.bound .positive := by
  have width := bounds
  obtain ⟨-, exponent, fraction⟩ | ⟨-, exponent, fraction⟩ := standard
  · rw [exponent, fraction, width.1, width.2.1]
    decide
  · rw [exponent, fraction, width.1, width.2.1]
    decide

theorem countable_iff (standard : type.Standard) (small : ∀ digit ∈ digits, digit < 10) :
    Countable type digits ↔
      (FloatType.Fraction.ofDigits type digits).decimals ≤ signedWord.bound .positive := by
  rw [FloatType.Fraction.ofDigits_eq standard.regular standard.keeps small]
  exact Iff.rfl

theorem foldlM_push_of_countable (standard : type.Standard) (small : ∀ digit ∈ digits, digit < 10)
    (countable : Countable type digits) :
    digits.foldlM (Fraction.push type) (.empty type) =
      pure (.ofExact (FloatType.Fraction.ofDigits type digits)) :=
  (foldlM_fraction (Standard.room standard).1 (Nat.zero_le _) digits).trans
    (if_pos ((countable_iff standard small).mp countable))

theorem foldlM_push_of_not_countable (standard : type.Standard) (small : ∀ digit ∈ digits, digit < 10)
    (uncountable : ¬Countable type digits) :
    digits.foldlM (Fraction.push type) (.empty type) = .error tooManyDigits :=
  (foldlM_fraction (Standard.room standard).1 (Nat.zero_le _) digits).trans
    (if_neg (mt (countable_iff standard small).mpr uncountable))

theorem addFraction_eq (fits : fraction.decimals ≤ signedWord.bound .positive) (whole : Number) :
    addFraction type whole (.ofExact fraction) = pure (type.addFraction whole fraction) := by
  have width := bounds
  rw [addFraction, FloatType.addFraction, Fraction.ofExact]
  dsimp only
  split_ifs
  · rfl
  · rw [hold_neg_natCast (by omega), pure_bind]

/-- The digits handed on for the fraction that a text may start with, its run complete or not. -/
def fractionDigits : Bytes → List Nat
  | 0x2e :: rest => digitValues (runFront false rest)
  | _ => []

theorem fractionDigits_lt (text : Bytes) : ∀ digit ∈ fractionDigits text, digit < 10 := by
  unfold fractionDigits
  split
  · exact digitValues_lt _
  · exact nofun

theorem fraction_of_other {text : Bytes} (other : text.head? ≠ some 0x2e) :
    Decimal.readFraction? text = some ⟨[], text⟩ ∧ fractionDigits text = [] := by
  constructor
  · unfold Decimal.readFraction?
    split
    · exact absurd rfl other
    · rfl
  · unfold fractionDigits
    split
    · exact absurd rfl other
    · rfl

theorem digits_of_readFraction? {text : Bytes} {run : DigitRun}
    (read : Decimal.readFraction? text = some run) : run.digits = fractionDigits text := by
  by_cases point : text.head? = some 0x2e
  · obtain ⟨rest, rfl⟩ := List.head?_eq_some_iff.mp point
    obtain ⟨-, rfl⟩ := DigitRun.read?_eq_some_iff.mp read
    rfl
  · obtain ⟨reads, none⟩ := fraction_of_other point
    rw [reads] at read
    obtain rfl := Option.some.inj read
    exact none.symm

theorem readFraction_eq (type : FloatType) (body : Bytes) (position : Nat) :
    ∃ stop?, stop?.map body.drop = (Decimal.readFraction? (body.drop position)).map DigitRun.rest ∧
      readFraction type body position = do
        let fraction ← (fractionDigits (body.drop position)).foldlM (Fraction.push type) (.empty type)
        return (stop?, fraction) := by
  by_cases point : body[position]? = some 0x2e
  · have reads := DigitRun.read?_eq (body.drop (position + 1))
    dsimp only at reads
    rw [readFraction, if_pos point, drop_of_getElem? point, scan_eq]
    refine ⟨_, ?_, rfl⟩
    rw [Decimal.readFraction?, reads]
    split_ifs
    · rfl
    · simp only [Option.map_some, List.drop_drop]
  · rw [readFraction, if_neg point]
    rw [← List.head?_drop] at point
    obtain ⟨reads, none⟩ := fraction_of_other point
    refine ⟨some position, ?_, ?_⟩
    · rw [reads]
      rfl
    · rw [none]
      rfl

end Fraction

section Body
variable {type : FloatType} {sign : Sign} {body : Bytes} {whole : DigitRun}

theorem finish_eq (standard : type.Standard) {fraction : FloatType.Fraction}
    (fits : fraction.decimals ≤ signedWord.bound .positive) (sign : Sign) (whole : Number)
    (body : Bytes) (marker : Nat) :
    finish type sign whole (.ofExact fraction) body marker =
      pure ((Decimal.readExponentPart? type.greatestExponent10 (body.drop marker)).map fun exponent =>
        let value := type.scale (type.addFraction whole fraction) exponent
        match sign with
        | .positive => value
        | .negative => value.neg) := by
  rw [finish, readExponentPart_eq (Standard.room standard).2, pure_bind]
  cases Decimal.readExponentPart? type.greatestExponent10 (body.drop marker) with
  | none => rfl
  | some exponent =>
    dsimp only
    rw [addFraction_eq fits, pure_bind]
    cases sign <;> rfl

theorem readBody_of_none (read : DigitRun.read? body = none) : readBody type sign body = pure none := by
  rw [← List.drop_zero (l := body)] at read
  rw [readBody, scan_of_none read, List.foldlM_pure, pure_bind, pure_bind]

/-- Behind the whole part, the digits of a fraction are counted. -/
theorem readBody_of_some (standard : type.Standard) (sign : Sign)
    (read : DigitRun.read? body = some whole) :
    (Countable type (fractionDigits whole.rest) → readBody type sign body =
      pure ((Decimal.readBody? type.greatestExponent10 sign body).map type.ofDecimal)) ∧
    (¬Countable type (fractionDigits whole.rest) → readBody type sign body = .error tooManyDigits) := by
  have small := fractionDigits_lt whole.rest
  have first := read
  rw [← List.drop_zero (l := body)] at first
  obtain ⟨point, -, rest, -, scanned⟩ := scan_of_some (Nat.zero_le _) first
  obtain ⟨marker?, stops, reads⟩ := readFraction_eq type body point
  rw [readBody, scanned, List.foldlM_pure, pure_bind, pure_bind]
  dsimp only
  rw [rest] at stops reads
  rw [reads]
  constructor
  · intro countable
    have fits := (countable_iff standard small).mp countable
    rw [foldlM_push_of_countable standard small countable, pure_bind, pure_bind, Decimal.readBody?, read,
      Option.bind_eq_bind, Option.bind_some]
    cases readPoint : Decimal.readFraction? whole.rest with
    | none =>
      rw [readPoint, Option.map_none, Option.map_eq_none_iff] at stops
      rw [stops]
      rfl
    | some run =>
      rw [readPoint, Option.map_some, Option.map_eq_some_iff] at stops
      obtain ⟨marker, rfl, rest⟩ := stops
      dsimp only
      rw [finish_eq standard fits, rest, Option.bind_eq_bind, Option.bind_some, ← digits_of_readFraction? readPoint]
      cases Decimal.readExponentPart? type.greatestExponent10 run.rest <;> rfl
  -- Digits are counted before the run is known to break off: the fault comes first.
  · intro uncountable
    rw [foldlM_push_of_not_countable standard small uncountable]
    rfl

end Body

/-- Behind whole digits and a point stands a digit run of which more digits count than the counter holds. -/
def Overlong (type : FloatType) (text : Bytes) : Prop :=
  ∃ front whole rest run, (splitSign text).2 = front ++ 0x2e :: rest ∧ Grouped 10 front whole ∧
    LongestRun rest run ∧ ¬Countable type (digitValues run)

section Text
variable {type : FloatType} {text : Bytes}

/-- A text is overlong if its whole digits are read and the digits behind their point cannot be counted. -/
theorem overlong_iff : Overlong type text ↔
    ((splitSign text).2.head?.map Bytes.isDigit).getD false = true ∧
      ∃ whole, DigitRun.read? (splitSign text).2 = some whole ∧
        ¬Countable type (fractionDigits whole.rest) := by
  generalize body : (splitSign text).2 = body
  constructor
  · rintro ⟨front, digits, rest, run, split, is, longest, uncountable⟩
    obtain rfl := longestRun_iff.mp longest
    rw [body] at split
    obtain rfl := split
    refine ⟨?_, _, DigitRun.read?_append is (stops_point rest), uncountable⟩
    obtain ⟨_, _, _, rfl, -⟩ := is.exists_cons
    exact is.startsWithDigit
  · rintro ⟨starts, whole, read, uncountable⟩
    obtain ⟨front, split, is⟩ | ⟨-, other⟩ := DigitRun.read?_cases read
    · by_cases point : whole.rest.head? = some 0x2e
      · obtain ⟨rest, same⟩ := List.head?_eq_some_iff.mp point
        rw [same] at split uncountable
        exact ⟨front, whole.digits, rest, _, body.trans split, is, longestRun_iff.mpr rfl, uncountable⟩
      · rw [(fraction_of_other point).2] at uncountable
        exact absurd (countable_of_length_le (Nat.zero_le _)) uncountable
    · cases starts.symm.trans other

theorem read_of_overlong (standard : type.Standard) (overlong : Overlong type text) :
    read type text = .error tooManyDigits := by
  obtain ⟨starts, whole, reads, uncountable⟩ := overlong_iff.mp overlong
  rw [read]
  dsimp only
  rw [if_pos starts]
  exact (readBody_of_some standard _ reads).2 uncountable

theorem read_of_not_overlong (standard : type.Standard) (short : ¬Overlong type text) :
    read type text = pure (type.read? text) := by
  rw [read, FloatType.read?]
  dsimp only
  split_ifs with starts
  · cases reads : DigitRun.read? (splitSign text).2 with
    | none =>
      rw [readBody_of_none reads, Decimal.readBody?, reads]
      rfl
    | some whole =>
      by_cases countable : Countable type (fractionDigits whole.rest)
      · exact (readBody_of_some standard _ reads).1 countable
      · exact absurd (overlong_iff.mpr ⟨starts, whole, reads, countable⟩) short
  · rfl

/-- What is read of a text comes with counters as well, unless it is overlong. -/
theorem read_eq_ok_iff (standard : type.Standard) {value : Number} (reads : type.read? text = some value) :
    read type text = .ok (some value) ↔ ¬Overlong type text := by
  by_cases overlong : Overlong type text
  · rw [read_of_overlong standard overlong]
    exact iff_of_false nofun (not_not_intro overlong)
  · rw [read_of_not_overlong standard overlong, reads]
    exact iff_of_true rfl overlong

theorem length_splitSign_le (text : Bytes) : (splitSign text).2.length ≤ text.length := by
  unfold splitSign
  split
  · exact Nat.le_succ _
  · exact Nat.le_succ _
  · exact Nat.le_refl _

/-- Digits of no fraction are too many in a text of fewer bytes. -/
theorem Overlong.length_le (overlong : Overlong type text) : 2147483650 ≤ text.length := by
  obtain ⟨front, whole, rest, run, split, is, longest, uncountable⟩ := overlong
  have width := bounds
  have body := length_splitSign_le text
  have fronts := List.length_pos_iff.mpr is.digits_ne_nil
  have wholes := is.length_le
  have runs := longest.isPrefix.length_le
  have digits : (digitValues run).length ≤ run.length := List.length_filterMap_le _ _
  have many := mt countable_of_length_le uncountable
  rw [split, List.length_append, List.length_cons] at body
  omega

end Text

section Counts
variable {type : FloatType} {digits : List Nat}

/-- The counters of a fraction that has taken in some digits are held in their types. -/
structure Fraction.Counts (type : FloatType) (digits : List Nat) (fraction : Fraction) : Prop where
  decimals : fraction.decimals = (countedDigits type.fractionDigits digits).length
  decimals_held : signedWord.Holds fraction.decimals ∧ signedWord.Holds (-fraction.decimals)
  significant_le : 0 ≤ fraction.significant ∧ fraction.significant ≤ type.fractionDigits
  significant_held : word.Holds fraction.significant

theorem foldlM_counts (standard : type.Standard) (small : ∀ digit ∈ digits, digit < 10)
    (countable : Countable type digits) :
    ∃ fraction : Fraction, digits.foldlM (Fraction.push type) (.empty type) = .ok fraction ∧
      fraction.Counts type digits := by
  have width := bounds
  have room := (Standard.room standard).1
  have numbered : signedWord.Holds (countedDigits type.fractionDigits digits).length :=
    (@IntegerType.holds_apply_iff _ .positive _).mpr countable
  have negated : signedWord.Holds (-(countedDigits type.fractionDigits digits).length) :=
    (@IntegerType.holds_apply_iff _ .negative _).mpr (countable.trans (by omega))
  refine ⟨_, foldlM_push_of_countable standard small countable, ?_⟩
  rw [FloatType.Fraction.ofDigits_eq standard.regular standard.keeps small]
  have few := min_le_left type.fractionDigits (digits.dropWhile (· = 0)).length
  have fits := (@IntegerType.holds_apply_iff word .positive _).mpr (few.trans room)
  exact ⟨rfl, ⟨numbered, negated⟩, ⟨Int.natCast_nonneg _, Int.ofNat_le.mpr few⟩, fits⟩

theorem foldlM_magnitude_held (standard : type.Standard) (small : ∀ digit ∈ digits, digit < 10) :
    ∃ magnitude, digits.foldlM (Magnitude.push type.greatestExponent10) ⟨0, false⟩ = .ok magnitude ∧
      word.Holds magnitude.value ∧ signedWord.Holds magnitude.value ∧
      signedWord.Holds (-magnitude.value) := by
  have width := bounds
  have room := (Standard.room standard).2
  obtain ⟨magnitude, few, -, fold⟩ := foldlM_magnitude room (Nat.zero_le _) small
  exact ⟨_, fold, (@IntegerType.holds_apply_iff _ .positive _).mpr (by omega),
    (@IntegerType.holds_apply_iff _ .positive _).mpr (by omega),
    (@IntegerType.holds_apply_iff _ .negative _).mpr (by omega)⟩

end Counts

section Zeros
variable {type : FloatType}

theorem grouped_zeros (more : Nat) :
    Grouped 10 (List.replicate (more + 1) 0x30) (List.replicate (more + 1) 0) := by
  have zero : DigitOf 10 0x30 0 := ⟨by decide, .inl rfl⟩
  induction more with
  | zero => exact .last zero
  | succ more ih => exact .next zero ih

theorem countedDigits_zeros (limit count : Nat) :
    countedDigits limit (List.replicate count 0) = List.replicate count 0 := by
  simp [countedDigits]

theorem longestRun_zeros (more : Nat) :
    LongestRun (List.replicate (more + 1) 0x30) (List.replicate (more + 1) 0x30) := by
  have runsOn := (exists_grouped_iff.mp ⟨_, grouped_zeros more⟩).2.1
  exact ⟨List.prefix_rfl, runsOn, fun _ isPrefix _ => isPrefix.length_le⟩

theorem overlong_zeros {more : Nat} (many : signedWord.bound .positive ≤ more) :
    Overlong type (0x30 :: 0x2e :: List.replicate (more + 1) 0x30) := by
  refine ⟨[0x30], [0], _, _, rfl, grouped_zeros 0, longestRun_zeros more, ?_⟩
  have values : digitValues (List.replicate (more + 1) 0x30) = List.replicate (more + 1) 0 :=
    List.filterMap_replicate_of_some rfl
  rw [values, Countable, countedDigits_zeros, List.length_replicate]
  omega

/-- A fraction of zeros says nothing, and neither does the zero in front of it. -/
theorem read?_zeros (standard : type.Standard) (more : Nat) :
    type.read? (0x30 :: 0x2e :: List.replicate (more + 1) 0x30) = some type.zero := by
  let literal : Decimal := ⟨.positive, [0], List.replicate (more + 1) 0, 0⟩
  let bare : Decimal := ⟨.positive, [], [], 0⟩
  have spells : Spells type.greatestExponent10
      ([0x30] ++ (0x2e :: List.replicate (more + 1) 0x30 ++ [])) literal :=
    .bare (.parts (grouped_zeros 0) (.present (grouped_zeros more)) .absent)
  rw [List.append_nil] at spells
  have same : type.unsigned literal = type.unsigned bare :=
    FloatType.unsigned_congr standard spells.fraction_lt nofun rfl (by simp [normalForm, literal, bare]) rfl
  have none : type.zero.isZero = true := by simp [FloatType.zero, Format.zero, Number.isZero]
  refine FloatType.read?_eq_some_iff.mpr (.inr ⟨literal, spells, ?_⟩)
  rw [FloatType.ofDecimal_eq, if_neg (by simp [literal]), same, FloatType.unsigned, FloatType.scale, if_pos rfl]
  exact if_pos none

end Zeros

/-- Reading with counters yields what reading yields of every text but the overlong, and is a fault of the
fraction counter for those, the shortest of which have two gigabytes. Whatever digits they take in, the
counters are held in their types until then, and that of the exponent always. -/
theorem read_faults_iff_overlong (type : FloatType) (standard : type.Standard) :
    (∀ text, (read type text = .ok (type.read? text) ↔ ¬Overlong type text) ∧
      (∀ fault, read type text = .error fault ↔ Overlong type text ∧ fault = tooManyDigits) ∧
      (Overlong type text → 2147483650 ≤ text.length)) ∧
    ∀ digits : List Nat, (∀ digit ∈ digits, digit < 10) →
      (Countable type digits →
        ∃ fraction : Fraction, digits.foldlM (Fraction.push type) (.empty type) = .ok fraction ∧
          fraction.Counts type digits) ∧
      (¬Countable type digits →
        digits.foldlM (Fraction.push type) (.empty type) = .error tooManyDigits) ∧
      ∃ magnitude, digits.foldlM (Magnitude.push type.greatestExponent10) ⟨0, false⟩ = .ok magnitude ∧
        word.Holds magnitude.value ∧ signedWord.Holds magnitude.value ∧
        signedWord.Holds (-magnitude.value) := by
  constructor
  · intro text
    by_cases overlong : Overlong type text
    · rw [read_of_overlong standard overlong]
      refine ⟨iff_of_false nofun (not_not_intro overlong), fun fault => ?_, Overlong.length_le⟩
      rw [Except.error.injEq, eq_comm, and_iff_right overlong]
    · rw [read_of_not_overlong standard overlong]
      exact ⟨iff_of_true rfl overlong, fun _ => iff_of_false nofun fun both => overlong both.1,
        Overlong.length_le⟩
  · intro digits small
    exact ⟨foldlM_counts standard small, foldlM_push_of_not_countable standard small,
      foldlM_magnitude_held standard small⟩

/-- Some zeros after the point and an exponent. -/
theorem read_faults_iff_overlong_short :
    let text := Bytes.ofAscii ['0', '.', '0', '0', '1', 'e', '-', '3']
    FloatType.double.Standard ∧ (∀ digit ∈ [0, 0, 1], digit < 10) ∧
      Countable FloatType.double [0, 0, 1] ∧
      read FloatType.double text = .ok (FloatType.double.read? text) ∧
      ∃ fraction : Fraction,
        [0, 0, 1].foldlM (Fraction.push FloatType.double) (.empty FloatType.double) = .ok fraction ∧
          fraction.decimals = 3 := by
  intro text
  have small : ∀ digit ∈ [0, 0, 1], digit < 10 := by decide
  have countable : Countable FloatType.double [0, 0, 1] := countable_of_length_le (by decide)
  obtain ⟨texts, runs⟩ := read_faults_iff_overlong FloatType.double FloatType.standard_double
  obtain ⟨reads, -, long⟩ := texts text
  obtain ⟨fraction, taken, counts⟩ := (runs [0, 0, 1] small).1 countable
  exact ⟨FloatType.standard_double, small, countable, reads.mpr fun overlong => absurd (long overlong) (by decide),
    fraction, taken, counts.decimals⟩

/-- Without a limit on the length of texts, a fraction of zeros alone makes the counter of its digits leave
the type, where reading would yield zero. -/
theorem read_zeros_faults :
    let zeros := 0x30 :: 0x2e :: List.replicate 2147483648 0x30
    read FloatType.double zeros = .error (.arithmetic (.outOfRange 2147483648)) ∧
      read FloatType.single zeros = .error (.arithmetic (.outOfRange 2147483648)) ∧
      FloatType.double.read? zeros = some FloatType.double.zero ∧
      FloatType.single.read? zeros = some FloatType.single.zero := by
  intro zeros
  have many : signedWord.bound .positive ≤ 2147483647 := bounds.2.1.le
  exact ⟨read_of_overlong FloatType.standard_double (overlong_zeros many),
    read_of_overlong FloatType.standard_single (overlong_zeros many),
    read?_zeros FloatType.standard_double 2147483647, read?_zeros FloatType.standard_single 2147483647⟩

end TextScan.Literal.Counted
