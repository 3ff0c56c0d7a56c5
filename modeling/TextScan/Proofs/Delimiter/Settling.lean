import TextScan.Delimiter

/-! The built-in delimiters settle: one that ends before the end of its window is found at the
same place in every longer window. One that touches the end may change, but never ends earlier. -/
namespace TextScan

/-- More input never moves the end of an answer back. -/
def Finder.Advancing (finder : Finder) : Prop :=
  ∀ window more, (finder.find window).stop ≤ (finder.find (window ++ more)).stop

namespace Delimiter

theorem length_le_of_findSequence (pattern : Bytes) (offset : Nat) (rest : Bytes)
    (inside : (findSequence pattern offset rest).stop < offset + rest.length) :
    pattern.length ≤ rest.length := by
  induction rest generalizing offset with
  | nil =>
    simp only [findSequence, Span.notFound, List.length_nil] at inside
    omega
  | cons byte rest ih =>
    rw [findSequence] at inside
    split at inside
    · rename_i starts
      exact (List.isPrefixOf_iff_prefix.mp starts).length_le
    · have shorter := ih (offset + 1) (by simp only [List.length_cons] at inside; omega)
      simp only [List.length_cons]
      omega

theorem findSequence_append (pattern : Bytes) (offset : Nat) (rest more : Bytes)
    (inside : (findSequence pattern offset rest).stop < offset + rest.length) :
    findSequence pattern offset (rest ++ more) = findSequence pattern offset rest := by
  induction rest generalizing offset with
  | nil =>
    simp only [findSequence, Span.notFound, List.length_nil] at inside
    omega
  | cons byte rest ih =>
    have fits := length_le_of_findSequence pattern offset (byte :: rest) inside
    -- A pattern that fits in the window starts it if and only if it starts a longer one.
    have starts : pattern.isPrefixOf (byte :: (rest ++ more)) =
        pattern.isPrefixOf (byte :: rest) := by
      rw [Bool.eq_iff_iff, List.isPrefixOf_iff_prefix, List.isPrefixOf_iff_prefix,
        ← List.cons_append]
      have front := List.prefix_append (byte :: rest) more
      exact ⟨fun longer => List.prefix_of_prefix_length_le longer front fits,
        fun starts => starts.trans front⟩
    rw [List.cons_append, findSequence, findSequence, starts]
    rw [findSequence] at inside
    split
    · rfl
    · rename_i later
      rw [if_neg later, List.length_cons] at inside
      exact ih (offset + 1) (by omega)

theorem findByte_append (value : UInt8) (window more : Bytes)
    (inside : (findByte value window).stop < window.length) :
    findByte value (window ++ more) = findByte value window := by
  have found : window.findIdx (· == value) < window.length := by
    simp only [findByte] at inside
    omega
  simp only [findByte, List.findIdx_append, found, if_true, List.length_append, Span.mk.injEq,
    true_and]
  omega

theorem findRun_append (set : ByteSet) (window more : Bytes)
    (inside : (findRun set window).stop < window.length) :
    findRun set (window ++ more) = findRun set window := by
  simp only [findRun] at inside
  have found : window.findIdx set.contains < window.length := by omega
  have ends : ((window.drop (window.findIdx set.contains)).takeWhile set.contains).length ≠
      (window.drop (window.findIdx set.contains)).length := by
    rw [List.length_drop]
    omega
  simp only [findRun, List.findIdx_append, found, if_true,
    List.drop_append_of_le_length (Nat.le_of_lt found), List.takeWhile_append, ends, if_false]

theorem le_stop_findLineBreak (window : Bytes) :
    min (window.findIdx (fun byte => byte == 0x0a || byte == 0x0d) + 1) window.length ≤
      (findLineBreak window).stop := by
  have left := List.length_drop
    (i := window.findIdx fun byte => byte == 0x0a || byte == 0x0d) (l := window)
  unfold findLineBreak
  generalize (window.findIdx fun byte => byte == 0x0a || byte == 0x0d) = start at *
  dsimp only
  split
  · rename_i nothing
    rw [nothing, List.length_nil] at left
    simp only [Span.notFound]
    omega
  · exact Nat.le_trans (Nat.min_le_left _ _) (Nat.le_succ (start + 1))
  · exact Nat.min_le_left _ _

/-- The two bytes at the first byte of a line break decide where it ends. -/
theorem findLineBreak_append_of_two (window more : Bytes)
    (two : window.findIdx (fun byte => byte == 0x0a || byte == 0x0d) + 1 < window.length) :
    findLineBreak (window ++ more) = findLineBreak window := by
  have found := Nat.lt_of_succ_lt two
  have left := List.length_drop
    (i := window.findIdx fun byte => byte == 0x0a || byte == 0x0d) (l := window)
  simp only [findLineBreak, List.findIdx_append, found, if_true,
    List.drop_append_of_le_length (Nat.le_of_lt found)]
  generalize (window.findIdx fun byte => byte == 0x0a || byte == 0x0d) = start at *
  match same : window.drop start with
  | [] =>
    rw [same, List.length_nil] at left
    omega
  | [byte] =>
    rw [same, List.length_singleton] at left
    omega
  | first :: second :: rest =>
    simp only [List.cons_append]
    split <;> split <;> grind

theorem findLineBreak_append (window more : Bytes)
    (inside : (findLineBreak window).stop < window.length) :
    findLineBreak (window ++ more) = findLineBreak window := by
  have behind := le_stop_findLineBreak window
  exact findLineBreak_append_of_two window more (by omega)

/-- What is found in front of the end of a window stays found when more bytes come. -/
theorem settling (delimiter : Delimiter) : delimiter.finder.Settling := by
  intro window more inside
  change (delimiter.find window).stop < window.length at inside
  change delimiter.find (window ++ more) = delimiter.find window
  cases delimiter with
  | sequence pattern =>
    cases pattern with
    | nil =>
      simp only [find, Span.notFound] at inside
      omega
    | cons byte pattern =>
      exact findSequence_append (byte :: pattern) 0 window more (by simpa [find] using inside)
  | oneByte value => exact findByte_append value window more inside
  | runOf set => exact findRun_append set window more inside
  | lineBreak => exact findLineBreak_append window more inside

theorem le_stop_findSequence (pattern : Bytes) (offset : Nat) (rest : Bytes) :
    offset ≤ (findSequence pattern offset rest).stop := by
  induction rest generalizing offset with
  | nil => exact Nat.le_refl offset
  | cons byte rest ih =>
    rw [findSequence]
    split
    · exact Nat.le_add_right offset _
    · exact Nat.le_trans (Nat.le_succ offset) (ih (offset + 1))

theorem findSequence_stop_le (pattern : Bytes) (offset : Nat) (rest more : Bytes) :
    (findSequence pattern offset rest).stop ≤ (findSequence pattern offset (rest ++ more)).stop := by
  induction rest generalizing offset with
  | nil => exact le_stop_findSequence pattern offset more
  | cons byte rest ih =>
    have front := List.prefix_append (byte :: rest) more
    rw [List.cons_append, findSequence, findSequence]
    simp only [List.isPrefixOf_iff_prefix, ← List.cons_append]
    by_cases starts : pattern <+: byte :: rest
    · apply Nat.le_of_eq
      rw [if_pos starts, if_pos (starts.trans front)]
    · rw [if_neg starts]
      split
      · -- Only a pattern longer than the window can start the longer window but not this one.
        rename_i longer
        have beyond : ¬pattern.length ≤ (byte :: rest).length := fun fits =>
          starts (List.prefix_of_prefix_length_le longer front fits)
        have inside := (findSequence_validFor pattern (offset + 1) rest).2
        rw [List.length_cons] at beyond
        dsimp only
        omega
      · exact ih (offset + 1)

theorem findByte_stop_le (value : UInt8) (window more : Bytes) :
    (findByte value window).stop ≤ (findByte value (window ++ more)).stop := by
  simp only [findByte, List.findIdx_append, List.length_append]
  split
  · omega
  · omega

theorem findRun_stop_le (set : ByteSet) (window more : Bytes) :
    (findRun set window).stop ≤ (findRun set (window ++ more)).stop := by
  have inside := (findRun_validFor set window).2
  by_cases found : window.findIdx set.contains < window.length
  · simp only [findRun, List.findIdx_append, found, if_true,
      List.drop_append_of_le_length (Nat.le_of_lt found), List.takeWhile_append]
    split
    · rename_i whole
      rw [whole, List.length_append]
      omega
    · exact Nat.le_refl _
  · apply Nat.le_trans inside
    simp only [findRun, List.findIdx_append, found, if_false]
    omega

theorem findLineBreak_stop_le (window more : Bytes) :
    (findLineBreak window).stop ≤ (findLineBreak (window ++ more)).stop := by
  by_cases two : window.findIdx (fun byte => byte == 0x0a || byte == 0x0d) + 1 < window.length
  · apply Nat.le_of_eq
    rw [findLineBreak_append_of_two window more two]
  · have inside := (findLineBreak_validFor window).2
    have behind := le_stop_findLineBreak (window ++ more)
    rw [List.findIdx_append, List.length_append] at behind
    split at behind
    · omega
    · omega

/-- No delimiter ends earlier when more bytes come. -/
theorem advancing (delimiter : Delimiter) : delimiter.finder.Advancing := by
  intro window more
  change (delimiter.find window).stop ≤ (delimiter.find (window ++ more)).stop
  cases delimiter with
  | sequence pattern =>
    cases pattern with
    | nil =>
      simp only [find, Span.notFound, List.length_append]
      exact Nat.le_add_right _ _
    | cons byte pattern => exact findSequence_stop_le (byte :: pattern) 0 window more
  | oneByte value => exact findByte_stop_le value window more
  | runOf set => exact findRun_stop_le set window more
  | lineBreak => exact findLineBreak_stop_le window more

/-- The span of a built-in delimiter lies in its window, and more input changes it only if it touches
the window's end. Then it still does not end before that. -/
theorem find_changes_only_at_end (delimiter : Delimiter) (window more : Bytes) :
    (delimiter.find window).ValidFor window.length ∧
      ((delimiter.find window).stop < window.length ↔
        (delimiter.find (window ++ more)).stop < window.length) ∧
      ((delimiter.find window).stop < window.length →
        delimiter.find (window ++ more) = delimiter.find window) ∧
      ((delimiter.find window).reachesEnd window.length = true →
        window.length ≤ (delimiter.find (window ++ more)).stop) := by
  have settles := delimiter.settling window more
  have advances := delimiter.advancing window more
  simp only [finder] at settles advances
  refine ⟨delimiter.find_validFor window, ⟨fun inside => ?_, ?_⟩, settles, fun touches => ?_⟩
  · rw [settles inside]
    exact inside
  · exact Nat.lt_of_le_of_lt advances
  · rw [← beq_iff_eq.mp touches]
    exact advances

/-- A carriage return at the end of a window may yet be the first byte of a line end. -/
example : lineBreak.find [0x61, 0x0d] = ⟨1, 2⟩ ∧ lineBreak.find [0x61, 0x0d, 0x0a] = ⟨1, 3⟩ := by
  decide

end Delimiter
end TextScan
