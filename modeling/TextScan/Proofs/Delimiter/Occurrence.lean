import TextScan.Delimiter

/-! What the searches for the built-in delimiters find, said of the window alone: either nothing,
and then there is nothing, or a front without a delimiter, the delimiter and the rest. -/
namespace TextScan.Delimiter

theorem findIdx_cases (test : UInt8 → Bool) (window : Bytes) :
    (window.findIdx test = window.length ∧ ∀ byte ∈ window, test byte = false) ∨
      ∃ front byte rest, window = front ++ byte :: rest ∧ (∀ byte ∈ front, test byte = false) ∧
        test byte = true ∧ window.findIdx test = front.length := by
  induction window with
  | nil => exact .inl ⟨rfl, by simp⟩
  | cons byte window ih =>
    cases kind : test byte with
    | true => exact .inr ⟨[], byte, window, rfl, by simp, kind, by simp [List.findIdx_cons, kind]⟩
    | false =>
      rcases ih with ⟨none, free⟩ | ⟨front, found, rest, rfl, free, member, start⟩
      · exact .inl ⟨by simp [List.findIdx_cons, kind, none], by simpa [kind] using free⟩
      · exact .inr ⟨byte :: front, found, rest, rfl, by simpa [kind] using free, member,
          by simp [List.findIdx_cons, kind, start]⟩

theorem findByte_cases (value : UInt8) (window : Bytes) :
    (findByte value window = .notFound window.length ∧ value ∉ window) ∨
      ∃ front rest, window = front ++ value :: rest ∧ value ∉ front ∧
        findByte value window = ⟨front.length, front.length + 1⟩ := by
  rcases findIdx_cases (· == value) window with
    ⟨none, free⟩ | ⟨front, byte, rest, split, free, member, start⟩
  · refine .inl ⟨?_, fun member => by simpa using free value member⟩
    simp only [findByte, none, Span.notFound, Span.mk.injEq, true_and]
    omega
  · cases beq_iff_eq.mp member
    refine .inr ⟨front, rest, split, fun member => by simpa using free value member, ?_⟩
    have length := congrArg List.length split
    simp only [List.length_append, List.length_cons] at length
    simp only [findByte, start, Span.mk.injEq, true_and]
    omega

theorem findRun_cases (set : ByteSet) (window : Bytes) :
    (findRun set window = .notFound window.length ∧
        ∀ byte ∈ window, set.contains byte = false) ∨
      ∃ front run rest, window = front ++ run ++ rest ∧
        (∀ byte ∈ front, set.contains byte = false) ∧ run ≠ [] ∧
        (∀ byte ∈ run, set.contains byte = true) ∧
        (∀ byte, rest.head? = some byte → set.contains byte = false) ∧
        findRun set window = ⟨front.length, front.length + run.length⟩ := by
  rcases findIdx_cases set.contains window with
    ⟨none, free⟩ | ⟨front, byte, rest, split, free, member, start⟩
  · refine .inl ⟨?_, free⟩
    simp [findRun, none, Span.notFound]
  · refine .inr ⟨front, (byte :: rest).takeWhile set.contains,
      (byte :: rest).dropWhile set.contains, ?_, free, ?_, ?_, ?_, ?_⟩
    · rw [List.append_assoc, List.takeWhile_append_dropWhile, split]
    · simp [List.takeWhile_cons_of_pos member]
    · exact fun byte member => List.all_eq_true.mp List.all_takeWhile byte member
    · intro next first
      have stops := List.head?_dropWhile_not set.contains (byte :: rest)
      rwa [first] at stops
    · have after : window.drop front.length = byte :: rest := by simp [split]
      simp only [findRun, start, after]

/-- A line end is found whole: a carriage return takes the line feed behind it. -/
theorem findLineBreak_cases (window : Bytes) :
    (findLineBreak window = .notFound window.length ∧
        ∀ byte ∈ window, ¬(byte = 0x0d ∨ byte = 0x0a)) ∨
      ∃ front lineEnd rest, window = front ++ lineEnd ++ rest ∧
        (∀ byte ∈ front, ¬(byte = 0x0d ∨ byte = 0x0a)) ∧ lineEnd ≠ [] ∧
        (lineEnd = [0x0d, 0x0a] ∨ lineEnd = [0x0a] ∨
          lineEnd = [0x0d] ∧ rest.head? ≠ some 0x0a) ∧
        findLineBreak window = ⟨front.length, front.length + lineEnd.length⟩ := by
  rcases findIdx_cases (fun byte => byte == 0x0a || byte == 0x0d) window with
    ⟨none, free⟩ | ⟨front, byte, rest, split, free, member, start⟩
  · refine .inl ⟨by simp [findLineBreak, none], fun byte member => ?_⟩
    have kind := free byte member
    grind
  · have plain : ∀ byte ∈ front, ¬(byte = 0x0d ∨ byte = 0x0a) := by grind
    have after : window.drop front.length = byte :: rest := by simp [split]
    have kind : byte = 0x0d ∨ byte = 0x0a := by grind
    by_cases pair : byte = 0x0d ∧ rest.head? = some 0x0a
    · obtain ⟨rfl, next⟩ := pair
      obtain ⟨rest, rfl⟩ := List.head?_eq_some_iff.mp next
      exact .inr ⟨front, [0x0d, 0x0a], rest, by simp [split], plain, List.cons_ne_nil _ _,
        .inl rfl, by simp [findLineBreak, start, after]⟩
    · refine .inr ⟨front, [byte], rest, by simp [split], plain, List.cons_ne_nil _ _,
        .inr ?_, ?_⟩
      · rcases kind with rfl | rfl
        · exact .inr ⟨rfl, fun next => pair ⟨rfl, next⟩⟩
        · exact .inl rfl
      · unfold findLineBreak
        simp only [start, after, List.length_singleton]
        split <;> grind

/-- A sequence is found where the rest of the window starts with it, and nowhere before. -/
theorem findSequence_cases (pattern : Bytes) (offset : Nat) (window : Bytes) :
    (findSequence pattern offset window = .notFound (offset + window.length) ∧
        ∀ skipped < window.length, ¬pattern <+: window.drop skipped) ∨
      ∃ front rest, window = front ++ pattern ++ rest ∧
        (∀ skipped < front.length, ¬pattern <+: window.drop skipped) ∧
        findSequence pattern offset window =
          ⟨offset + front.length, offset + front.length + pattern.length⟩ := by
  induction window generalizing offset with
  | nil => exact .inl ⟨rfl, by simp⟩
  | cons byte window ih =>
    rw [findSequence]
    split
    · rename_i starts
      obtain ⟨rest, split⟩ := List.isPrefixOf_iff_prefix.mp starts
      exact .inr ⟨[], rest, split.symm, by simp, rfl⟩
    · rename_i differs
      have first : ¬pattern <+: byte :: window := mt List.isPrefixOf_iff_prefix.mpr differs
      -- An occurrence behind the first byte is one in the rest, one byte further on.
      have later (bound : Nat) (free : ∀ skipped < bound, ¬pattern <+: window.drop skipped) :
          ∀ skipped < bound + 1, ¬pattern <+: (byte :: window).drop skipped := by
        intro skipped below
        cases skipped with
        | zero => exact first
        | succ skipped => exact free skipped (by omega)
      rcases ih (offset + 1) with ⟨none, free⟩ | ⟨front, rest, rfl, free, found⟩
      · refine .inl ⟨?_, later _ free⟩
        rw [none, List.length_cons, Nat.add_right_comm, Nat.add_assoc]
      · refine .inr ⟨byte :: front, rest, rfl, later _ free, ?_⟩
        rw [found, List.length_cons, Nat.add_right_comm, Nat.add_assoc offset]

end TextScan.Delimiter
