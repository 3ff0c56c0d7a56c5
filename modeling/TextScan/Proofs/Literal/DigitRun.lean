import TextScan.Literal.Decimal
import TextScan.Proofs.Literal.Grammar

/-! A digit run at the front of a text is read up to the first byte that cannot belong to it. -/
namespace TextScan.Literal

/-- Nothing of the text can belong to a decimal run that comes before it. -/
def Stops (text : Bytes) : Prop :=
  ∀ byte ∈ text.head?, Bytes.digit? 10 byte = none ∧ byte ≠ Bytes.underscore

theorem stops_nil : Stops [] :=
  nofun

theorem stops_cons {byte : UInt8} {text : Bytes} :
    Stops (byte :: text) ↔ Bytes.digit? 10 byte = none ∧ byte ≠ Bytes.underscore := by
  simp [Stops]

namespace DigitRun

variable {text front rest : Bytes} {digits : List Nat} {run : DigitRun}

/-- The reader stops in front of the rest, where its run is complete. -/
theorem stop_eq_some_iff {reversed : List Nat} (begun : reversed ≠ []) {due : Bool} {rest : Bytes} :
    read?.stop reversed (!due) rest = some run ↔ due = false ∧ run = ⟨reversed.reverse, rest⟩ := by
  cases due <;> simp [read?.stop, begun, eq_comm]

/-- A run that has some digits goes on with those at the front of a text, as many as belong to it, and
leaves the rest. -/
def GoesOn (prior : List Nat) (due : Bool) (text : Bytes) (run : DigitRun) : Prop :=
  ∃ front digits, text = front ++ run.rest ∧ run.digits = prior ++ digits ∧
    Remaining 10 due front digits ∧ Stops run.rest

section GoesOn
variable {prior : List Nat} {due : Bool} {byte : UInt8} {digit : Nat}

theorem goesOn_nil : GoesOn prior due [] run ↔ due = false ∧ run = ⟨prior, []⟩ := by
  constructor
  · rintro ⟨front, digits, split, same, more, -⟩
    obtain ⟨rfl, last⟩ := List.append_eq_nil_iff.mp split.symm
    obtain ⟨rfl, rfl⟩ := remaining_nil.mp more
    exact ⟨rfl, congrArg₂ DigitRun.mk (same.trans (List.append_nil _)) last⟩
  · rintro ⟨rfl, rfl⟩
    exact ⟨[], [], rfl, by simp, .done, stops_nil⟩

theorem goesOn_of_digit (reads : Bytes.digit? 10 byte = some digit) :
    GoesOn prior due (byte :: text) run ↔ GoesOn (prior ++ [digit]) false text run := by
  constructor
  · rintro ⟨_ | ⟨first, front⟩, digits, split, same, more, stops⟩
    · rw [List.nil_append] at split
      rw [← split, stops_cons, reads] at stops
      cases stops.1
    · cases split
      obtain ⟨rest, rfl, after⟩ := (remaining_of_digit (by omega) reads).mp more
      exact ⟨front, rest, rfl, by simp [same], after, stops⟩
  · rintro ⟨front, digits, rfl, same, more, stops⟩
    refine ⟨byte :: front, digit :: digits, rfl, by simp [same], ?_, stops⟩
    exact (remaining_of_digit (by omega) reads).mpr ⟨digits, rfl, more⟩

theorem goesOn_of_underscore :
    GoesOn prior false (Bytes.underscore :: text) run ↔ GoesOn prior true text run := by
  constructor
  · rintro ⟨_ | ⟨first, front⟩, digits, split, same, more, stops⟩
    · rw [List.nil_append] at split
      rw [← split, stops_cons] at stops
      exact absurd rfl stops.2
    · cases split
      obtain ⟨-, after⟩ := (remaining_of_other (by omega) (digit?_underscore 10)).mp more
      exact ⟨front, digits, rfl, same, after, stops⟩
  · rintro ⟨front, digits, rfl, same, more, stops⟩
    exact ⟨_ :: front, digits, rfl, same, .underscore more, stops⟩

theorem goesOn_of_other (reads : Bytes.digit? 10 byte = none)
    (apart : ¬(byte = Bytes.underscore ∧ due = false)) :
    GoesOn prior due (byte :: text) run ↔ due = false ∧ run = ⟨prior, byte :: text⟩ := by
  constructor
  · rintro ⟨_ | ⟨first, front⟩, digits, split, same, more, stops⟩
    · obtain ⟨rfl, rfl⟩ := remaining_nil.mp more
      exact ⟨rfl, congrArg₂ DigitRun.mk (same.trans (List.append_nil _)) split.symm⟩
    · cases split
      exact absurd ((remaining_of_other (by omega) reads).mp more).1 apart
  · rintro ⟨rfl, rfl⟩
    have stops : Stops (byte :: text) := stops_cons.mpr ⟨reads, fun same => apart ⟨same, rfl⟩⟩
    exact ⟨[], [], rfl, by simp, .done, stops⟩

end GoesOn

/-- Within a run the cases are those of the reader, at each byte of the text. -/
theorem go_eq_some_iff {reversed : List Nat} (begun : reversed ≠ []) (due : Bool) (text : Bytes) :
    read?.go reversed (!due) text = some run ↔ GoesOn reversed.reverse due text run := by
  induction text generalizing reversed due with
  | nil => rw [read?.go, stop_eq_some_iff begun, goesOn_nil]
  | cons byte text texts =>
    rw [read?.go]
    cases reads : Bytes.digit? 10 byte with
    | some digit =>
      dsimp only
      rw [goesOn_of_digit reads, ← List.reverse_cons]
      exact texts (List.cons_ne_nil _ _) false
    | none =>
      dsimp only
      split_ifs with apart
      · obtain ⟨rfl, after⟩ := apart
        obtain rfl : due = false := by simpa using after
        exact (texts begun true).trans goesOn_of_underscore.symm
      · rw [stop_eq_some_iff begun, goesOn_of_other reads (by simpa using apart)]

/-- From a digit on, the reader takes the longest run there is. -/
theorem read?_of_digit {byte : UInt8} {digit : Nat} (reads : Bytes.digit? 10 byte = some digit) :
    read? (byte :: text) = some run ↔
      ∃ front, byte :: text = front ++ run.rest ∧ Grouped 10 front run.digits ∧ Stops run.rest := by
  have first : GoesOn [] true (byte :: text) run ↔ GoesOn [digit] false text run :=
    goesOn_of_digit reads
  rw [read?, read?.go, reads]
  dsimp only
  rw [← Bool.not_false, go_eq_some_iff (List.cons_ne_nil _ _), List.reverse_singleton, ← first]
  simp only [GoesOn, List.nil_append, grouped_iff_remaining, exists_and_left, exists_eq_left']

theorem read?_of_other (other : ∀ byte ∈ text.head?, Bytes.digit? 10 byte = none) :
    read? text = some ⟨[], text⟩ := by
  cases text with
  | nil => rfl
  | cons byte text =>
    have reads : Bytes.digit? 10 byte = none := other byte rfl
    simp [read?, read?.go, reads, read?.stop]

theorem read?_append (is : Grouped 10 front digits) (stops : Stops rest) :
    read? (front ++ rest) = some ⟨digits, rest⟩ := by
  obtain ⟨byte, digit, more, rfl, first⟩ := is.exists_cons
  have reads : Bytes.digit? 10 byte = some digit := (digit?_eq_some_iff (by omega)).mpr first
  exact (read?_of_digit reads).mpr ⟨_, rfl, is, stops⟩

/-- What is read is a run with digits, or nothing at all of a text without a digit at its start. -/
theorem read?_cases (read : read? text = some run) :
    (∃ front, text = front ++ run.rest ∧ Grouped 10 front run.digits) ∨
      run = ⟨[], text⟩ ∧ (text.head?.map Bytes.isDigit).getD false = false := by
  cases text with
  | nil => exact .inr ⟨Option.some.inj (read.symm.trans (read?_of_other nofun)), rfl⟩
  | cons byte text =>
    cases reads : Bytes.digit? 10 byte with
    | some digit =>
      obtain ⟨front, split, is, -⟩ := (read?_of_digit reads).mp read
      exact .inl ⟨front, split, is⟩
    | none =>
      have other : read? (byte :: text) = some ⟨[], byte :: text⟩ :=
        read?_of_other (by simpa using reads)
      have isOther : Bytes.isDigit byte = false := by rw [← isSome_digit?_ten, reads, Option.isSome_none]
      exact .inr ⟨Option.some.inj (read.symm.trans other), isOther⟩

theorem read?_whole_iff :
    (∃ run, read? text = some run ∧ (run.digits ≠ [] ∧ run.rest = []) ∧ run.digits = digits) ↔
      Grouped 10 text digits := by
  constructor
  · rintro ⟨run, read, ⟨some, last⟩, rfl⟩
    obtain ⟨front, split, is⟩ | ⟨rfl, -⟩ := read?_cases read
    · rwa [split, last, List.append_nil]
    · exact absurd rfl some
  · intro is
    have read := read?_append is stops_nil
    rw [List.append_nil] at read
    exact ⟨_, read, ⟨is.digits_ne_nil, rfl⟩, rfl⟩

end DigitRun
end TextScan.Literal
