import TextScan.Literal.Counted
import TextScan.Proofs.Literal.DigitRun
import TextScan.Proofs.Literal.Integer
import Mathlib.Data.List.Chain

/-! A scan of digits by position passes the longest digit run that starts there, hands on its digits in
order and never looks behind the text. What comes of the run depends on its last byte alone. -/
namespace TextScan.Literal

/-- Digits and underscores no two of which stand together, with a digit first unless one comes before. -/
structure RunsOn (afterDigit : Bool) (run : Bytes) : Prop where
  first : afterDigit = false → ∀ byte ∈ run.head?, Bytes.isDigit byte = true
  members : ∀ byte ∈ run, Bytes.isDigit byte = true ∨ byte = Bytes.underscore
  apart : run.IsChain fun byte next => ¬(byte = Bytes.underscore ∧ next = Bytes.underscore)

/-- Of the fronts of a text that can be the front of a digit run, the longest. -/
structure LongestRun (text run : Bytes) : Prop where
  isPrefix : run <+: text
  runsOn : RunsOn false run
  longest : ∀ other, other <+: text → RunsOn false other → other.length ≤ run.length

/-- The front of a text that goes on with a digit run. -/
def runFront (afterDigit : Bool) : Bytes → Bytes
  | [] => []
  | byte :: rest =>
    if Bytes.isDigit byte then byte :: runFront true rest
    else if byte = Bytes.underscore ∧ afterDigit then byte :: runFront false rest
    else []

/-- The values of the digits among some bytes. -/
def digitValues (bytes : Bytes) : List Nat :=
  bytes.filterMap (Bytes.digit? 10)

section Run
variable {afterDigit : Bool} {byte : UInt8} {text rest run other : Bytes}

theorem digit?_of_isDigit (isDigit : Bytes.isDigit byte = true) :
    Bytes.digit? 10 byte = some (byte.toNat - 0x30) := by
  have reads := isSome_digit?_ten byte
  rw [isDigit] at reads
  obtain ⟨digit, value⟩ := Option.isSome_iff_exists.mp reads
  have kept := (Option.filter_eq_some_iff.mp value).1
  rw [Bytes.digitValue?, if_pos isDigit] at kept
  exact value.trans kept.symm

theorem digit?_of_not_isDigit (other : ¬Bytes.isDigit byte = true) : Bytes.digit? 10 byte = none := by
  rwa [← isSome_digit?_ten, Option.not_isSome_iff_eq_none] at other

theorem ne_underscore_of_isDigit (isDigit : Bytes.isDigit byte = true) : byte ≠ Bytes.underscore := by
  rintro rfl
  cases isDigit

theorem digitValues_cons_of_isDigit (isDigit : Bytes.isDigit byte = true) :
    digitValues (byte :: rest) = (byte.toNat - 0x30) :: digitValues rest :=
  List.filterMap_cons_some (digit?_of_isDigit isDigit)

theorem digitValues_cons_underscore : digitValues (Bytes.underscore :: rest) = digitValues rest :=
  List.filterMap_cons_none (digit?_underscore 10)

theorem digitValues_lt (bytes : Bytes) : ∀ digit ∈ digitValues bytes, digit < 10 := by
  intro digit member
  obtain ⟨_, _, reads⟩ := List.mem_filterMap.mp member
  exact digit?_lt reads

theorem runsOn_nil : RunsOn afterDigit [] :=
  ⟨fun _ => nofun, nofun, .nil⟩

theorem runsOn_cons : RunsOn afterDigit (byte :: rest) ↔
    Bytes.isDigit byte = true ∧ RunsOn true rest ∨
      (byte = Bytes.underscore ∧ afterDigit = true) ∧ RunsOn false rest := by
  constructor
  · rintro ⟨first, members, apart⟩
    obtain ⟨member, more⟩ := List.forall_mem_cons.mp members
    obtain ⟨next_apart, more_apart⟩ := List.isChain_cons.mp apart
    rcases member with isDigit | rfl
    · exact .inl ⟨isDigit, nofun, more, more_apart⟩
    · have digitBefore : afterDigit = true := by
        by_contra start
        cases first (Bool.eq_false_of_not_eq_true start) _ rfl
      refine .inr ⟨⟨rfl, digitBefore⟩, fun _ next head => ?_, more, more_apart⟩
      exact (more next (List.mem_of_mem_head? head)).resolve_right fun same =>
        next_apart next head ⟨rfl, same⟩
  · rintro (⟨isDigit, -, members, apart⟩ | ⟨⟨rfl, rfl⟩, first, members, apart⟩)
    · refine ⟨fun _ => ?_, List.forall_mem_cons.mpr ⟨.inl isDigit, members⟩,
        List.isChain_cons.mpr ⟨fun _ _ two => ne_underscore_of_isDigit isDigit two.1, apart⟩⟩
      rintro _ ⟨⟩
      exact isDigit
    · refine ⟨nofun, List.forall_mem_cons.mpr ⟨.inr rfl, members⟩,
        List.isChain_cons.mpr ⟨fun next head two => ?_, apart⟩⟩
      exact ne_underscore_of_isDigit (first rfl next head) two.2

theorem isPrefix_runFront (afterDigit : Bool) (text : Bytes) : runFront afterDigit text <+: text := by
  fun_induction runFront afterDigit text with
  | case1 => exact List.prefix_rfl
  | case2 _ _ _ _ ih => exact List.cons_prefix_cons.mpr ⟨rfl, ih⟩
  | case3 _ _ _ _ _ ih => exact List.cons_prefix_cons.mpr ⟨rfl, ih⟩
  | case4 => exact List.nil_prefix

theorem runsOn_runFront (afterDigit : Bool) (text : Bytes) :
    RunsOn afterDigit (runFront afterDigit text) := by
  fun_induction runFront afterDigit text with
  | case1 => exact runsOn_nil
  | case2 _ _ _ isDigit ih => exact runsOn_cons.mpr (.inl ⟨isDigit, ih⟩)
  | case3 _ _ _ _ apart ih => exact runsOn_cons.mpr (.inr ⟨apart, ih⟩)
  | case4 => exact runsOn_nil

theorem prefix_runFront (isPrefix : other <+: text) (runsOn : RunsOn afterDigit other) :
    other <+: runFront afterDigit text := by
  induction other generalizing text afterDigit with
  | nil => exact List.nil_prefix
  | cons byte other ih =>
    obtain ⟨back, rfl⟩ := isPrefix
    rw [List.cons_append, runFront]
    rcases runsOn_cons.mp runsOn with ⟨isDigit, more⟩ | ⟨apart, more⟩
    · rw [if_pos isDigit]
      exact List.cons_prefix_cons.mpr ⟨rfl, ih (List.prefix_append _ _) more⟩
    · rw [if_neg fun isDigit => ne_underscore_of_isDigit isDigit apart.1, if_pos apart]
      exact List.cons_prefix_cons.mpr ⟨rfl, ih (List.prefix_append _ _) more⟩

theorem longestRun_iff : LongestRun text run ↔ run = runFront false text := by
  constructor
  · rintro ⟨isPrefix, runsOn, longest⟩
    exact (prefix_runFront isPrefix runsOn).eq_of_length_le
      (longest _ (isPrefix_runFront false text) (runsOn_runFront false text))
  · rintro rfl
    exact ⟨isPrefix_runFront false text, runsOn_runFront false text,
      fun _ isPrefix runsOn => (prefix_runFront isPrefix runsOn).length_le⟩

theorem length_runFront_iff :
    (runFront afterDigit text).length = text.length ↔ RunsOn afterDigit text := by
  constructor
  · intro all
    have runsOn := runsOn_runFront afterDigit text
    rwa [(isPrefix_runFront afterDigit text).eq_of_length all] at runsOn
  · intro runsOn
    exact Nat.le_antisymm (isPrefix_runFront afterDigit text).length_le
      (prefix_runFront List.prefix_rfl runsOn).length_le

theorem digitValues_ne_nil (runsOn : RunsOn false run) (some : run ≠ []) : digitValues run ≠ [] := by
  cases run with
  | nil => exact absurd rfl some
  | cons byte rest =>
    rw [digitValues_cons_of_isDigit (runsOn.first rfl byte rfl)]
    exact List.cons_ne_nil _ _

end Run

namespace DigitRun
variable {reversed : List Nat} {before : UInt8} {afterDigit : Bool}

theorem stop_eq (begun : reversed ≠ []) (flagged : afterDigit = true ↔ before ≠ Bytes.underscore)
    (rest : Bytes) : read?.stop reversed afterDigit rest =
      if [before].getLast? = some Bytes.underscore then none else some ⟨reversed.reverse, rest⟩ := by
  rw [List.getLast?_singleton, read?.stop]
  by_cases apart : before = Bytes.underscore
  · rw [if_neg (by simp [flagged, apart, begun]), if_pos (congrArg some apart)]
  · rw [if_pos (.inl (flagged.mpr apart)), if_neg (by simpa using apart)]

/-- The flag of the reader says whether the byte before the text is a digit. With that byte in front, the
last byte of the run decides, even where the run takes nothing more. -/
theorem go_eq (begun : reversed ≠ []) (flagged : afterDigit = true ↔ before ≠ Bytes.underscore)
    (text : Bytes) :
    let run := runFront afterDigit text
    read?.go reversed afterDigit text =
      if (before :: run).getLast? = some Bytes.underscore then none
      else some ⟨reversed.reverse ++ digitValues run, text.drop run.length⟩ := by
  induction text generalizing reversed before afterDigit with
  | nil =>
    dsimp only
    rw [read?.go, stop_eq begun flagged, runFront, digitValues, List.filterMap_nil, List.append_nil]
    rfl
  | cons byte text ih =>
    dsimp only
    rw [read?.go, runFront]
    by_cases isDigit : Bytes.isDigit byte = true
    · have digitBefore : true = true ↔ byte ≠ Bytes.underscore :=
        iff_of_true rfl (ne_underscore_of_isDigit isDigit)
      rw [digit?_of_isDigit isDigit, if_pos isDigit, List.getLast?_cons_cons,
        digitValues_cons_of_isDigit isDigit]
      dsimp only
      rw [ih (List.cons_ne_nil _ _) digitBefore, List.reverse_cons, List.append_assoc]
      rfl
    · rw [digit?_of_not_isDigit isDigit, if_neg isDigit]
      dsimp only
      by_cases apart : byte = Bytes.underscore ∧ afterDigit = true
      · have next := @ih reversed byte false begun (by simp [apart.1])
        rw [if_pos apart, if_pos apart, next, List.getLast?_cons_cons, apart.1,
          digitValues_cons_underscore]
        rfl
      · rw [if_neg apart, if_neg apart, stop_eq begun flagged, digitValues, List.filterMap_nil,
          List.append_nil]
        rfl

/-- The longest run is read, unless an underscore ends it. -/
theorem read?_eq (text : Bytes) :
    let run := runFront false text
    read? text = if run.getLast? = some Bytes.underscore then none
      else some ⟨digitValues run, text.drop run.length⟩ := by
  cases text with
  | nil => rfl
  | cons byte text =>
    rw [read?, read?.go, runFront]
    by_cases isDigit : Bytes.isDigit byte = true
    · have digitBefore : true = true ↔ byte ≠ Bytes.underscore :=
        iff_of_true rfl (ne_underscore_of_isDigit isDigit)
      rw [digit?_of_isDigit isDigit, if_pos isDigit]
      dsimp only
      rw [go_eq (List.cons_ne_nil _ _) digitBefore, digitValues_cons_of_isDigit isDigit]
      rfl
    · rw [digit?_of_not_isDigit isDigit, if_neg isDigit]
      simp [read?.stop, digitValues]

theorem read?_eq_some_iff {text : Bytes} {run : DigitRun} : read? text = some run ↔
    (runFront false text).getLast? ≠ some Bytes.underscore ∧
      run = ⟨digitValues (runFront false text), text.drop (runFront false text).length⟩ := by
  rw [read?_eq]
  split_ifs with apart
  · exact iff_of_false nofun fun both => both.1 apart
  · rw [Option.some.injEq, eq_comm, and_iff_right apart]

theorem read?_eq_none_iff {text : Bytes} :
    read? text = none ↔ (runFront false text).getLast? = some Bytes.underscore := by
  rw [read?_eq]
  split_ifs with apart
  · exact iff_of_true rfl apart
  · exact iff_of_false nofun apart

theorem digits_lt {text : Bytes} {run : DigitRun} (read : read? text = some run) :
    ∀ digit ∈ run.digits, digit < 10 := by
  obtain ⟨_, _, is⟩ | ⟨rfl, -⟩ := read?_cases read
  · exact is.digit_lt
  · exact nofun

end DigitRun

/-- Digits with underscores between them are what a digit run can start with and end at. -/
theorem exists_grouped_iff {text : Bytes} : (∃ digits, Grouped 10 text digits) ↔
    text ≠ [] ∧ RunsOn false text ∧ text.getLast? ≠ some Bytes.underscore := by
  constructor
  · rintro ⟨digits, is⟩
    obtain ⟨run, reads, ⟨-, last⟩, -⟩ := DigitRun.read?_whole_iff.mpr is
    obtain ⟨_, _, _, rfl, -⟩ := is.exists_cons
    obtain ⟨apart, rfl⟩ := DigitRun.read?_eq_some_iff.mp reads
    have all := (isPrefix_runFront false _).eq_of_length_le (List.drop_eq_nil_iff.mp last)
    rw [all] at apart
    exact ⟨List.cons_ne_nil _ _, length_runFront_iff.mp (congrArg List.length all), apart⟩
  · rintro ⟨nonempty, runsOn, apart⟩
    have all := (isPrefix_runFront false text).eq_of_length (length_runFront_iff.mpr runsOn)
    have reads := DigitRun.read?_eq_some_iff.mpr ⟨all.symm ▸ apart, rfl⟩
    rw [all, List.drop_length] at reads
    exact ⟨_, DigitRun.read?_whole_iff.mp
      ⟨_, reads, ⟨digitValues_ne_nil runsOn nonempty, rfl⟩, rfl⟩⟩

namespace Counted

section Hold
variable {type : IntegerType} {magnitude : Nat}

theorem hold_natCast (fits : magnitude ≤ type.bound .positive) :
    hold type magnitude = pure (magnitude : Int) := by
  rw [hold, IntegerType.keep_natCast fits]
  rfl

theorem hold_neg_natCast (fits : magnitude ≤ type.bound .negative) :
    hold type (-magnitude) = pure (-magnitude : Int) := by
  rw [hold, IntegerType.keep_neg_natCast fits]
  rfl

theorem hold_digit {byte : UInt8} (isDigit : Bytes.isDigit byte = true) :
    hold .octet (byte.toNat - 0x30) = pure ((byte.toNat - 0x30 : Nat) : Int) := by
  have least : 0x30 ≤ byte.toNat := by
    simp only [Bytes.isDigit, Bool.and_eq_true, decide_eq_true_eq] at isDigit
    exact UInt8.le_iff_toNat_le.mp isDigit.1
  have most := byte.toNat_lt
  have exact : (byte.toNat : Int) - 0x30 = (byte.toNat - 0x30 : Nat) := by omega
  rw [exact, hold, IntegerType.keep_octet (by omega)]
  rfl

end Hold

section Scan
variable {State : Type} {bytes : Bytes} {start : Nat}

theorem drop_of_getElem? {position : Nat} {byte : UInt8} (read : bytes[position]? = some byte) :
    bytes.drop position = byte :: bytes.drop (position + 1) := by
  obtain ⟨inside, rfl⟩ := List.getElem?_eq_some_iff.mp read
  exact List.drop_eq_getElem_cons inside

/-- Passing follows the loop: a position passed is a byte of the run, and a digit handed on is the first of
its values. -/
theorem pass_eq (onDigit : State → Nat → Except Fault State) (bytes : Bytes) (position : Nat)
    (afterDigit : Bool) (state : State) :
    let run := runFront afterDigit (bytes.drop position)
    pass onDigit bytes position afterDigit state = do
      let state ← (digitValues run).foldlM onDigit state
      return (position + run.length, state) := by
  fun_induction pass onDigit bytes position afterDigit state with
  | case1 position afterDigit state ends =>
    rw [List.drop_eq_nil_of_le (List.getElem?_eq_none_iff.mp ends)]
    rfl
  | case2 position afterDigit state byte read isDigit ih =>
    rw [drop_of_getElem? read, runFront, if_pos isDigit, hold_digit isDigit, pure_bind]
    dsimp only
    rw [digitValues_cons_of_isDigit isDigit, List.foldlM_cons, bind_assoc]
    congr 1
    funext next
    rw [ih next, List.length_cons, Nat.add_right_comm, Nat.add_assoc]
  | case3 position afterDigit state byte read other apart ih =>
    rw [drop_of_getElem? read, runFront, if_neg other, if_pos apart, ih]
    dsimp only
    rw [apart.1, digitValues_cons_underscore, List.length_cons, Nat.add_right_comm, Nat.add_assoc]
  | case4 position afterDigit state byte read other ends =>
    rw [drop_of_getElem? read, runFront, if_neg other, if_neg ends]
    rfl

theorem byteAt_last {run : Bytes} (isPrefix : run <+: bytes.drop start) (nonempty : run ≠ []) :
    byteAt bytes (start + run.length - 1) = pure (run.getLast nonempty) := by
  have positive := List.length_pos_iff.mpr nonempty
  have within : run.length - 1 < run.length := by omega
  have place : start + run.length - 1 = start + (run.length - 1) := by omega
  obtain ⟨rest, split⟩ := isPrefix
  have last : bytes[start + (run.length - 1)]? = run[run.length - 1]? := by
    rw [← List.getElem?_drop, ← split, List.getElem?_append_left within]
  rw [byteAt, place, last, List.getElem?_eq_getElem within, List.getLast_eq_getElem]
  rfl

theorem scan_eq (onDigit : State → Nat → Except Fault State) (bytes : Bytes) (start : Nat)
    (state : State) :
    let run := runFront false (bytes.drop start)
    scan onDigit bytes start state = do
      let state ← (digitValues run).foldlM onDigit state
      return (if run.getLast? = some Bytes.underscore then none else some (start + run.length), state) := by
  have isPrefix := isPrefix_runFront false (bytes.drop start)
  rw [scan, pass_eq]
  dsimp only
  generalize runFront false (bytes.drop start) = run at isPrefix ⊢
  rw [bind_assoc]
  congr 1
  funext state
  rw [pure_bind]
  dsimp only
  rcases eq_or_ne run [] with rfl | nonempty
  · exact if_neg (Nat.lt_irrefl start)
  · have longer := List.length_pos_iff.mpr nonempty
    rw [if_pos (Nat.lt_add_of_pos_right longer), byteAt_last isPrefix nonempty, pure_bind,
      List.getLast?_eq_getLast_of_ne_nil nonempty]
    simp only [Option.some.injEq]

/-- Keeps the digits that it is handed, in their order. -/
def keepDigit (digits : List Nat) (digit : Nat) : Except Fault (List Nat) :=
  return digits ++ [digit]

theorem foldlM_keepDigit (prior digits : List Nat) :
    digits.foldlM keepDigit prior = pure (prior ++ digits) := by
  induction digits generalizing prior with
  | nil => rw [List.foldlM_nil, List.append_nil]
  | cons digit digits ih =>
    rw [List.foldlM_cons, keepDigit, pure_bind, ih, List.append_assoc, List.singleton_append]

theorem scan_keepDigit (bytes : Bytes) (start : Nat) :
    let run := runFront false (bytes.drop start)
    scan keepDigit bytes start [] =
      pure (if run.getLast? = some Bytes.underscore then none else some (start + run.length),
        digitValues run) := by
  rw [scan_eq]
  dsimp only
  rw [foldlM_keepDigit, pure_bind, List.nil_append]

/-- A scan from the start passes all of some bytes exactly where they are digits with underscores. -/
theorem scan_keepDigit_whole_iff (nonempty : bytes ≠ []) :
    (∃ digits, scan keepDigit bytes 0 [] = .ok (some bytes.length, digits)) ↔
      ∃ digits, Grouped 10 bytes digits := by
  have scanned := scan_keepDigit bytes 0
  dsimp only at scanned
  rw [List.drop_zero, Nat.zero_add] at scanned
  rw [scanned, exists_grouped_iff, ← length_runFront_iff]
  constructor
  · rintro ⟨digits, same⟩
    have stop := congrArg Prod.fst (Except.ok.inj same)
    dsimp only at stop
    split_ifs at stop with apart
    have all := Option.some.inj stop
    rw [(isPrefix_runFront false bytes).eq_of_length all] at apart
    exact ⟨nonempty, all, apart⟩
  · rintro ⟨-, all, apart⟩
    rw [(isPrefix_runFront false bytes).eq_of_length all, if_neg apart]
    exact ⟨_, rfl⟩

end Scan

section Wide
variable {type : IntegerType} {sign : Sign} {bytes : Bytes} {digits : List Nat}

/-- Four bits hold a digit, so that short runs stay within the bound. -/
theorem numeral_le_bound (small : ∀ digit ∈ digits, digit < 10)
    (wide : 4 * digits.length < type.bits) (reaches : type.signed = true ∨ sign = .positive) :
    numeral 10 digits ≤ type.bound sign := by
  have below : numeral 10 digits < Nat.pow 2 (type.bits - 1) := by
    calc numeral 10 digits
      _ < 10 ^ digits.length := numeral_lt small (by omega)
      _ ≤ (2 ^ 4) ^ digits.length := Nat.pow_le_pow_left (by omega) _
      _ = 2 ^ (4 * digits.length) := (Nat.pow_mul 2 4 _).symm
      _ ≤ Nat.pow 2 (type.bits - 1) := Nat.pow_le_pow_right (by omega) (by omega)
  have doubled : Nat.pow 2 (type.bits - 1) ≤ Nat.pow 2 type.bits :=
    Nat.pow_le_pow_right (by omega) (by omega)
  have positive : numeral 10 digits ≤ type.bound .positive := by
    simp only [IntegerType.bound, IntegerType.greatest]
    split <;> omega
  cases sign with
  | positive => exact positive
  | negative =>
    have signed := reaches.resolve_right (by decide)
    have more := IntegerType.bound_negative_signed signed
    omega

theorem isSome_readRun?_iff (wide : 4 * bytes.length < type.bits)
    (reaches : type.signed = true ∨ sign = .positive) :
    (type.readRun? 10 sign 0 true bytes).isSome ↔ ∃ digits, Grouped 10 bytes digits := by
  simp only [Option.isSome_iff_exists, IntegerType.readRun?_grouped (by omega : 10 ≤ 16)]
  constructor
  · rintro ⟨_, digits, is, -⟩
    exact ⟨digits, is⟩
  · rintro ⟨digits, is⟩
    have fewer := is.length_le
    exact ⟨_, digits, is, numeral_le_bound is.digit_lt (by omega) reaches, rfl⟩

end Wide

/-- From every start a scan passes the longest digit run there, stops behind it unless its last byte is an
underscore, hands on its digits in their order and never looks behind the text: only what is done with a
digit can be a fault. Reading a digit run comes to the same. A text that is not empty is passed as a whole
exactly where a wide enough integer type reads it as a whole. -/
theorem scan_passes_longest_run (bytes : Bytes) :
    (∀ start, ∃ run, LongestRun (bytes.drop start) run ∧
      (∀ (State : Type) (onDigit : State → Nat → Except Fault State) (state : State),
        scan onDigit bytes start state = do
          let state ← (digitValues run).foldlM onDigit state
          return (if run.getLast? = some Bytes.underscore then none else some (start + run.length),
            state)) ∧
      scan keepDigit bytes start [] =
        .ok (if run.getLast? = some Bytes.underscore then none else some (start + run.length),
          digitValues run) ∧
      DigitRun.read? (bytes.drop start) = if run.getLast? = some Bytes.underscore then none
        else some ⟨digitValues run, bytes.drop (start + run.length)⟩) ∧
    (bytes ≠ [] → ∀ (type : IntegerType) (sign : Sign), 4 * bytes.length < type.bits →
      (type.signed = true ∨ sign = .positive) →
      ((∃ digits, scan keepDigit bytes 0 [] = .ok (some bytes.length, digits)) ↔
        (type.readRun? 10 sign 0 true bytes).isSome)) := by
  constructor
  · intro start
    have read := DigitRun.read?_eq (bytes.drop start)
    dsimp only at read
    rw [List.drop_drop] at read
    exact ⟨_, longestRun_iff.mpr rfl, fun _ onDigit state => scan_eq onDigit bytes start state,
      scan_keepDigit bytes start, read⟩
  · intro nonempty type sign wide reaches
    rw [scan_keepDigit_whole_iff nonempty, isSome_readRun?_iff wide reaches]

/-- A run behind a letter that breaks off at a second underscore, and digits that are all of a text. -/
theorem scan_passes_longest_run_broken_off :
    let broken := Bytes.ofAscii ['x', '1', '_', '2', '_', '_', '3']
    let whole := Bytes.ofAscii ['1', '2', '_', '3']
    let type : IntegerType := ⟨true, 32⟩
    (whole ≠ [] ∧ 4 * whole.length < type.bits ∧ (type.signed = true ∨ Sign.negative = .positive)) ∧
      LongestRun (broken.drop 1) (Bytes.ofAscii ['1', '_', '2', '_']) ∧
      scan keepDigit broken 1 [] = .ok (none, [1, 2]) ∧ DigitRun.read? (broken.drop 1) = none ∧
      ∃ digits, scan keepDigit whole 0 [] = .ok (some 4, digits) := by
  intro broken whole type
  have nonempty : whole ≠ [] := by decide
  have wide : 4 * whole.length < type.bits := by decide
  have reaches : type.signed = true ∨ Sign.negative = .positive := .inl rfl
  obtain ⟨run, longest, -, scanned, read⟩ := (scan_passes_longest_run broken).1 1
  obtain rfl : run = Bytes.ofAscii ['1', '_', '2', '_'] := (longestRun_iff.mp longest).trans (by decide)
  have accepted := (scan_passes_longest_run whole).2 nonempty type .negative wide reaches
  exact ⟨⟨nonempty, wide, reaches⟩, longest, scanned.trans (by decide), read.trans (by decide),
    accepted.mpr (by decide)⟩

end Counted
end TextScan.Literal
