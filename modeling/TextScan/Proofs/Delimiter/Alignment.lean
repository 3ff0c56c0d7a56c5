import TextScan.Proofs.CharAligned
import TextScan.Proofs.Delimiter.Occurrence

/-! Delimiters that are text themselves are found between the characters of a text. -/
namespace TextScan.Delimiter
open Utf8 (Valid)

/-- Whatever the delimiter matches is text. -/
def Textual : Delimiter → Prop
  | .sequence pattern => Valid pattern
  | .oneByte value => value < 0x80
  | .runOf set => ∀ byte, set.contains byte = true → byte < 0x80
  | .lineBreak => True

theorem Textual.find_cases {delimiter : Delimiter} (textual : delimiter.Textual)
    (window : Bytes) :
    delimiter.find window = .notFound window.length ∨
      ∃ front slice rest, window = front ++ slice ++ rest ∧ slice ≠ [] ∧ Valid slice ∧
        delimiter.find window = ⟨front.length, front.length + slice.length⟩ := by
  cases delimiter with
  | sequence pattern =>
    cases pattern with
    | nil => exact .inl rfl
    | cons byte pattern =>
      have cases := findSequence_cases (byte :: pattern) 0 window
      simp only [Nat.zero_add] at cases
      rcases cases with ⟨none, _⟩ | ⟨front, rest, split, _, found⟩
      · exact .inl none
      · exact .inr ⟨front, _, rest, split, List.cons_ne_nil _ _, textual, found⟩
  | oneByte value =>
    have ascii : value < 0x80 := textual
    rcases findByte_cases value window with ⟨none, _⟩ | ⟨front, rest, split, _, found⟩
    · exact .inl none
    · exact .inr ⟨front, [value], rest, by simp [split], List.cons_ne_nil _ _,
        Utf8.valid_of_ascii _ (by simpa using ascii), found⟩
  | runOf set =>
    rcases findRun_cases set window with
      ⟨none, _⟩ | ⟨front, run, rest, split, _, nonempty, members, _, found⟩
    · exact .inl none
    · exact .inr ⟨front, run, rest, split, nonempty,
        Utf8.valid_of_ascii _ fun byte member => textual byte (members byte member), found⟩
  | lineBreak =>
    rcases findLineBreak_cases window with
      ⟨none, _⟩ | ⟨front, lineEnd, rest, split, _, nonempty, kind, found⟩
    · exact .inl none
    · refine .inr ⟨front, lineEnd, rest, split, nonempty, ?_, found⟩
      rcases kind with rfl | rfl | ⟨rfl, _⟩ <;> decide

/-- No delimiter that is text itself can start or end inside a character. -/
theorem Textual.charAligned {delimiter : Delimiter} (textual : delimiter.Textual) :
    delimiter.finder.CharAligned := by
  intro window valid
  change Utf8.isBoundary window (delimiter.find window).start = true ∧
    Utf8.isBoundary window (delimiter.find window).stop = true
  rcases textual.find_cases window with
    none | ⟨front, slice, rest, split, nonempty, text, found⟩
  · rw [none]
    exact ⟨Utf8.isBoundary_length window, Utf8.isBoundary_length window⟩
  · rw [found, split]
    rw [split] at valid
    exact valid.isBoundary_of_infix nonempty text

end TextScan.Delimiter
