import TextScan.Span
import Mathlib.Tactic.SplitIfs

/-! Where valid text may be cut. A text is read as a run over its bytes with the ranges that are
still owed as its state; the boundaries of a text are the offsets where nothing is owed. -/
namespace TextScan.Utf8

/-- What is still owed after some bytes, or nothing at all if they break the rules. -/
def owedAfter? (owed : List Range) : Bytes → Option (List Range)
  | [] => some owed
  | byte :: rest =>
    match owed with
    | [] => (followers? byte).bind fun owed => owedAfter? owed rest
    | range :: owed => if range.contains byte then owedAfter? owed rest else none

theorem faultFrom?_eq_none (start seen : Nat) (owed : List Range) (bytes : Bytes) :
    faultFrom? start seen owed bytes = none ↔ owedAfter? owed bytes = some [] := by
  induction bytes generalizing start seen owed with
  | nil => cases owed <;> simp [faultFrom?, owedAfter?]
  | cons byte rest ih =>
    cases owed with
    | nil => cases first : followers? byte <;> simp [faultFrom?, owedAfter?, first, ih]
    | cons range owed =>
      by_cases fits : range.contains byte = true <;> simp [faultFrom?, owedAfter?, fits, ih]

theorem valid_iff (bytes : Bytes) : Valid bytes ↔ owedAfter? [] bytes = some [] :=
  faultFrom?_eq_none 0 0 [] bytes

theorem owedAfter?_append (owed : List Range) (front rest : Bytes) :
    owedAfter? owed (front ++ rest) =
      (owedAfter? owed front).bind fun owed => owedAfter? owed rest := by
  induction front generalizing owed with
  | nil => rfl
  | cons byte front ih =>
    cases owed with
    | nil => cases first : followers? byte <;> simp [owedAfter?, first, ih]
    | cons range owed =>
      by_cases fits : range.contains byte = true <;> simp [owedAfter?, fits, ih]

theorem Valid.append_iff {front : Bytes} (valid : Valid front) (rest : Bytes) :
    Valid (front ++ rest) ↔ Valid rest := by
  rw [valid_iff, valid_iff, owedAfter?_append, (valid_iff front).mp valid, Option.bind_some]

def Continued (owed : List Range) : Prop :=
  ∀ range ∈ owed, ∀ byte, range.contains byte = true → isContinuation byte = true

theorem followers?_continued {first : UInt8} {owed : List Range}
    (followers : followers? first = some owed) : Continued owed := by
  have wide : ∀ range ∈ owed, 0x80 ≤ range.low ∧ range.high ≤ 0xbf := by
    unfold followers? at followers
    split_ifs at followers <;> cases followers <;> simp [continuation]
  intro range member byte fits
  obtain ⟨low, high⟩ := wide range member
  simp only [Range.contains, Bool.and_eq_true, decide_eq_true_eq] at fits
  have above := UInt8.le_trans low fits.1
  have below := UInt8.le_trans fits.2 high
  simp [isContinuation, continuation, Range.contains, above, below]

theorem owedAfter?_continued {owed left : List Range} (continued : Continued owed) (bytes : Bytes)
    (run : owedAfter? owed bytes = some left) : Continued left := by
  induction bytes generalizing owed with
  | nil =>
    cases run
    exact continued
  | cons byte rest ih =>
    cases owed with
    | nil =>
      obtain ⟨next, followers, run⟩ := Option.bind_eq_some_iff.mp run
      exact ih (followers?_continued followers) run
    | cons range owed =>
      rw [owedAfter?] at run
      split at run
      · exact ih (fun range member => continued range (List.mem_cons_of_mem _ member)) run
      · cases run

theorem followers?_not_continuation {first : UInt8} {owed : List Range}
    (followers : followers? first = some owed) : isContinuation first = false := by
  simp only [followers?] at followers
  simp only [isContinuation, Range.contains, continuation, Bool.and_eq_false_iff]
  split_ifs at followers <;> grind

theorem Valid.head {byte : UInt8} {rest : Bytes} (valid : Valid (byte :: rest)) :
    isContinuation byte = false := by
  obtain ⟨owed, followers, _⟩ := Option.bind_eq_some_iff.mp ((valid_iff _).mp valid)
  exact followers?_not_continuation followers

private theorem getElem?_of_drop {text rest : Bytes} {offset : Nat} {byte : UInt8}
    (behind : text.drop offset = byte :: rest) : text[offset]? = some byte := by
  rw [← List.head?_drop, behind, List.head?_cons]

theorem isBoundary_zero (text : Bytes) : isBoundary text 0 = true := by
  cases text <;> rfl

theorem isBoundary_length (text : Bytes) : isBoundary text text.length = true := by
  simp [isBoundary]

theorem le_length_of_isBoundary {text : Bytes} {offset : Nat}
    (cut : isBoundary text offset = true) : offset ≤ text.length := by
  unfold isBoundary at cut
  split at cut
  · rename_i byte at_offset
    exact Nat.le_of_lt (List.getElem?_eq_some_iff.mp at_offset).1
  · exact Nat.le_of_eq (of_decide_eq_true cut)

/-- Nothing is owed where a text may be cut, so its front is text as well. -/
theorem Valid.take {text : Bytes} {offset : Nat} (valid : Valid text)
    (cut : isBoundary text offset = true) : Valid (text.take offset) := by
  have run := (valid_iff text).mp valid
  rw [← List.take_append_drop offset text, owedAfter?_append] at run
  obtain ⟨owed, front, behind⟩ := Option.bind_eq_some_iff.mp run
  have continued := owedAfter?_continued (by simp [Continued]) _ front
  rw [valid_iff, front]
  cases rest : text.drop offset with
  | nil => rwa [rest] at behind
  | cons byte back =>
    cases owed with
    | nil => rfl
    | cons range owed =>
      -- A byte that is owed continues a character, and nothing is owed at the start.
      rw [rest, owedAfter?] at behind
      split at behind
      · rename_i fits
        have continues := continued range List.mem_cons_self byte fits
        simp only [isBoundary, getElem?_of_drop rest, continues, Bool.not_true, Bool.or_false,
          decide_eq_true_eq] at cut
        subst cut
        cases front
      · cases behind

theorem Valid.drop {text : Bytes} {offset : Nat} (valid : Valid text)
    (cut : isBoundary text offset = true) : Valid (text.drop offset) := by
  have whole := valid
  rw [← List.take_append_drop offset text] at whole
  exact ((valid.take cut).append_iff _).mp whole

/-- A boundary is an offset behind which the text is valid again. -/
theorem Valid.isBoundary_iff {text : Bytes} (valid : Valid text) (offset : Nat) :
    isBoundary text offset = true ↔ offset ≤ text.length ∧ Valid (text.drop offset) := by
  constructor
  · intro cut
    exact ⟨le_length_of_isBoundary cut, valid.drop cut⟩
  · intro ⟨inside, behind⟩
    cases rest : text.drop offset with
    | nil =>
      have outside := List.drop_eq_nil_iff.mp rest
      rw [Nat.le_antisymm inside outside]
      exact isBoundary_length text
    | cons byte back =>
      rw [rest] at behind
      simp [isBoundary, getElem?_of_drop rest, behind.head]

/-- Valid text may be cut on both sides of any valid text in it that is not empty. -/
theorem Valid.isBoundary_of_infix {front slice rest : Bytes}
    (valid : Valid (front ++ slice ++ rest)) (nonempty : slice ≠ []) (text : Valid slice) :
    isBoundary (front ++ slice ++ rest) front.length = true ∧
      isBoundary (front ++ slice ++ rest) (front.length + slice.length) = true := by
  have start : isBoundary (front ++ slice ++ rest) front.length = true := by
    cases slice with
    | nil => exact absurd rfl nonempty
    | cons byte slice => simp [isBoundary, text.head]
  refine ⟨start, (valid.isBoundary_iff _).mpr ⟨by simp, ?_⟩⟩
  have behind := valid.drop start
  rw [List.append_assoc, List.drop_left, text.append_iff] at behind
  rwa [← List.length_append, List.drop_left]

theorem Valid.around_infix {front slice rest : Bytes} (valid : Valid (front ++ slice ++ rest))
    (nonempty : slice ≠ []) (text : Valid slice) : Valid front ∧ Valid rest := by
  obtain ⟨start, stop⟩ := valid.isBoundary_of_infix nonempty text
  have before := valid.take start
  have behind := valid.drop stop
  rw [List.append_assoc, List.take_left] at before
  rw [← List.length_append, List.drop_left] at behind
  exact ⟨before, behind⟩

/-- Where a text can be cut, it can be cut between other texts. -/
theorem Valid.isBoundary_between {front slice rest : Bytes} (front_text : Valid front)
    (slice_text : Valid slice) (rest_text : Valid rest) {cut : Nat}
    (boundary : isBoundary slice cut = true) :
    isBoundary (front ++ slice ++ rest) (front.length + cut) = true := by
  have inside := le_length_of_isBoundary boundary
  have whole : Valid (front ++ slice ++ rest) := by
    rwa [List.append_assoc, front_text.append_iff, slice_text.append_iff]
  rw [whole.isBoundary_iff, List.append_assoc, List.drop_length_add_append,
    List.drop_append_of_le_length inside, (slice_text.drop boundary).append_iff]
  refine ⟨?_, rest_text⟩
  rw [List.length_append, List.length_append]
  omega

theorem valid_of_ascii (bytes : Bytes) (ascii : ∀ byte ∈ bytes, byte < 0x80) : Valid bytes := by
  induction bytes with
  | nil => rfl
  | cons byte rest ih =>
    have single : Valid [byte] := by
      have low : byte ≤ 0x7f := by
        have := ascii byte List.mem_cons_self
        grind
      simp [valid_iff, owedAfter?, followers?, low]
    rw [← List.singleton_append, single.append_iff]
    exact ih fun byte member => ascii byte (List.mem_cons_of_mem _ member)

theorem boundaryBefore_of_isBoundary {text : Bytes} {offset : Nat}
    (cut : isBoundary text offset = true) : boundaryBefore text offset = offset := by
  cases offset with
  | zero => rfl
  | succ offset => rw [boundaryBefore, if_pos cut]

theorem boundaryAfter_of_isBoundary {text : Bytes} {offset : Nat}
    (cut : isBoundary text offset = true) : boundaryAfter text offset = offset := by
  unfold boundaryAfter
  split
  · omega
  · rename_i inner
    cases rest : text.drop offset with
    | nil => rfl
    | cons byte back =>
      have fresh : isContinuation byte = false := by
        simpa [isBoundary, getElem?_of_drop rest, inner] using cut
      simp [fresh]

theorem isBoundary_boundaryBefore (text : Bytes) (offset : Nat) :
    isBoundary text (boundaryBefore text offset) = true := by
  induction offset with
  | zero => exact isBoundary_zero text
  | succ offset ih =>
    rw [boundaryBefore]
    split
    · assumption
    · exact ih

theorem isBoundary_boundaryAfter (text : Bytes) (offset : Nat) (inside : offset ≤ text.length) :
    isBoundary text (boundaryAfter text offset) = true := by
  unfold boundaryAfter
  split
  · exact isBoundary_zero text
  · have behind : text.drop (offset + ((text.drop offset).takeWhile isContinuation).length) =
        (text.drop offset).dropWhile isContinuation := by
      have whole := List.takeWhile_append_dropWhile (p := isContinuation) (l := text.drop offset)
      have front := congrArg (List.drop ((text.drop offset).takeWhile isContinuation).length) whole
      rw [List.drop_left, List.drop_drop] at front
      exact front.symm
    cases rest : (text.drop offset).dropWhile isContinuation with
    | nil =>
      have outside := List.drop_eq_nil_iff.mp (behind.trans rest)
      have taken := (List.takeWhile_prefix isContinuation (l := text.drop offset)).length_le
      rw [List.length_drop] at taken
      rw [show offset + ((text.drop offset).takeWhile isContinuation).length = text.length by omega]
      exact isBoundary_length text
    | cons byte back =>
      have fresh : isContinuation byte = false := by
        simpa [rest] using List.head?_dropWhile_not isContinuation (text.drop offset)
      simp [isBoundary, getElem?_of_drop (behind.trans rest), fresh]

/-- Of the boundaries up to an offset the one found before it is the greatest. -/
theorem le_boundaryBefore {text : Bytes} {cut offset : Nat} (boundary : isBoundary text cut = true)
    (inside : cut ≤ offset) : cut ≤ boundaryBefore text offset := by
  induction offset with
  | zero => exact inside
  | succ offset ih =>
    rw [boundaryBefore]
    split
    · exact inside
    · rename_i within
      apply ih
      apply Nat.le_of_lt_succ
      apply Nat.lt_of_le_of_ne inside
      intro same
      rw [← same] at within
      exact within boundary

/-- Of the boundaries from an offset on the one found after it is the least. -/
theorem boundaryAfter_le_of_le {text : Bytes} {cut offset : Nat}
    (boundary : isBoundary text cut = true) (behind : offset ≤ cut) :
    boundaryAfter text offset ≤ cut := by
  unfold boundaryAfter
  split
  · exact Nat.zero_le cut
  · rename_i inner
    apply Nat.le_of_not_lt
    intro short
    have taken : cut - offset < ((text.drop offset).takeWhile isContinuation).length := by omega
    have continues : isContinuation ((text.drop offset).takeWhile isContinuation)[cut - offset] = true :=
      List.all_eq_true.mp List.all_takeWhile _ (List.getElem_mem taken)
    rw [(List.takeWhile_prefix isContinuation).getElem taken, List.getElem_drop] at continues
    simp only [Nat.add_sub_cancel' behind] at continues
    have within : cut < text.length := by
      have fits := (List.takeWhile_prefix isContinuation (l := text.drop offset)).length_le
      rw [List.length_drop] at fits
      omega
    rw [isBoundary, List.getElem?_eq_getElem within] at boundary
    simp only [continues, Bool.not_true, Bool.or_false, decide_eq_true_eq] at boundary
    omega

end TextScan.Utf8
