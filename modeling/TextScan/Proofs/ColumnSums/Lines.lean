import TextScan.Proofs.ColumnSums.Reference
import TextScan.Proofs.Delimiter.Alignment
import TextScan.Proofs.Split

/-! The lines and fields that the program cuts off are those of the input. -/
namespace TextScan.ColumnSums
open Delimiter

namespace Reference

theorem lines_plain {byte : UInt8} (plain : ¬(byte = 0x0d ∨ byte = 0x0a)) (rest : Bytes) :
    lines (byte :: rest) = (lines rest).modifyHead (byte :: ·) := by
  rw [lines, if_neg plain]
  rintro _ rfl rfl
  exact plain (.inl rfl)

theorem lines_lineFeed (rest : Bytes) : lines (0x0a :: rest) = [] :: lines rest := by
  rw [lines, if_pos (.inr rfl)]
  rintro _ ⟨⟩

theorem lines_carriageReturn {rest : Bytes} (alone : rest.head? ≠ some 0x0a) :
    lines (0x0d :: rest) = [] :: lines rest := by
  rw [lines, if_pos (.inl rfl)]
  rintro _ _ rfl
  exact alone rfl

theorem lines_append {front : Bytes} (plain : ∀ byte ∈ front, ¬(byte = 0x0d ∨ byte = 0x0a))
    (rest : Bytes) : lines (front ++ rest) = (lines rest).modifyHead (front ++ ·) := by
  induction front with
  | nil => cases same : lines rest <;> simp [same]
  | cons byte front ih =>
    have both := List.forall_mem_cons.mp plain
    rw [List.cons_append, lines_plain both.1, ih both.2, List.modifyHead_modifyHead]
    rfl

theorem words_eq (line : Bytes) :
    words line = match line.dropWhile isBlank with
      | [] => []
      | first :: rest =>
        (first :: rest.takeWhile (!isBlank ·)) :: words (rest.dropWhile (!isBlank ·)) := by
  rw [words]
  split <;> rename_i same <;> rw [same]

theorem words_nil : words [] = [] := by
  rw [words_eq]
  rfl

theorem words_blank {run : Bytes} (blank : ∀ byte ∈ run, isBlank byte = true) (rest : Bytes) :
    words (run ++ rest) = words rest := by
  rw [words_eq, words_eq rest, List.dropWhile_append_of_pos blank]

theorem words_word {front rest : Bytes} (nonempty : front ≠ [])
    (plain : ∀ byte ∈ front, isBlank byte = false)
    (ends : ∀ byte, rest.head? = some byte → isBlank byte = true) :
    words (front ++ rest) = front :: words rest := by
  cases front with
  | nil => exact absurd rfl nonempty
  | cons byte front =>
    have both := List.forall_mem_cons.mp plain
    have word : ∀ byte ∈ front, (!isBlank byte) = true := by simpa using both.2
    have stop : rest.takeWhile (!isBlank ·) = [] ∧ rest.dropWhile (!isBlank ·) = rest := by
      cases rest with
      | nil => exact ⟨rfl, rfl⟩
      | cons next rest => simp [ends next rfl]
    rw [words_eq, List.cons_append, List.dropWhile_cons_of_neg (by simp [both.1])]
    dsimp only
    rw [List.takeWhile_append_of_pos word, List.dropWhile_append_of_pos word, stop.1, stop.2,
      List.append_nil]

end Reference

/-- The pieces between line breaks are the lines. -/
theorem split_lineBreak (input : Bytes) :
    Walk.split lineBreak.finder input = Reference.lines input := by
  induction input using Walk.cut_induction with
  | step input later =>
    rcases findLineBreak_cases input with
      ⟨none, plain⟩ | ⟨front, lineEnd, rest, rfl, plain, nonempty, kind, found⟩
    · rw [Walk.split_notFound none, ← List.append_nil input, Reference.lines_append plain,
        List.append_nil]
      simp [Reference.lines]
    · have breaks : Reference.lines (lineEnd ++ rest) = [] :: Reference.lines rest := by
        rcases kind with rfl | rfl | ⟨rfl, alone⟩
        · rfl
        · exact Reference.lines_lineFeed rest
        · exact Reference.lines_carriageReturn alone
      rw [Walk.split_found found nonempty, later front lineEnd rest rfl nonempty, List.append_assoc,
        Reference.lines_append plain, breaks]
      simp

/-- The pieces between runs of whitespace that are not empty are the words. -/
theorem split_whitespace (line : Bytes) :
    (Walk.split (runOf .whitespace).finder line).filter (· ≠ []) = Reference.words line := by
  induction line using Walk.cut_induction with
  | step line later =>
    rcases findRun_cases .whitespace line with
      ⟨none, plain⟩ | ⟨front, run, rest, rfl, plain, nonempty, blank, _, found⟩
    · rw [Walk.split_notFound none]
      by_cases empty : line = []
      · simp [empty, Reference.words_nil]
      · have word : Reference.words (line ++ []) = line :: Reference.words [] :=
          Reference.words_word empty plain nofun
        rw [List.append_nil, Reference.words_nil] at word
        rw [word]
        simp [empty]
    · have behind : ∀ byte, (run ++ rest).head? = some byte → Reference.isBlank byte = true := by
        intro byte first
        cases run with
        | nil => exact absurd rfl nonempty
        | cons next run => exact blank byte (by simp_all)
      rw [Walk.split_found found nonempty, List.filter_cons, later front run rest rfl nonempty,
        List.append_assoc, ← Reference.words_blank blank rest]
      by_cases empty : front = []
      · simp [empty]
      · rw [Reference.words_word empty plain behind]
        simp [empty]

theorem fields_eq_words {line : Bytes} (valid : Utf8.Valid line) :
    fields line = Reference.words line := by
  have textual : (runOf .whitespace).Textual := by
    intro byte member
    simp only [ByteSet.whitespace, ByteSet.ofBytes, List.contains_iff_mem, List.mem_cons,
      List.not_mem_nil, or_false] at member
    rcases member with rfl | rfl | rfl | rfl | rfl | rfl <;> decide
  rw [fields, Text.split, textual.charAligned.split_wholeChars valid, split_whitespace]

end TextScan.ColumnSums
