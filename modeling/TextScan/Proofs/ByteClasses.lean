import TextScan.Proofs.Delimiter.Alignment
import TextScan.Proofs.Positions
import TextScan.Proofs.Utf8.Characters

/-! Splitting a text at bytes of a class. A byte may lie inside a character, which is then taken as a
whole: the characters that are cut out are those with a byte of the class, and the pieces are the runs of
the others. -/
namespace TextScan
open Utf8 (Valid IsCharacter characters isBoundary)

theorem exists_mem_of_overlap {front slice rest before run after : Bytes}
    (same : front ++ slice ++ rest = before ++ run ++ after) (nonempty : slice ≠ []) (some : run ≠ [])
    (left : before.length < front.length + slice.length)
    (right : front.length < before.length + run.length) : ∃ byte ∈ slice, byte ∈ run := by
  have slice_pos := List.length_pos_iff.mpr nonempty
  have run_pos := List.length_pos_iff.mpr some
  obtain ⟨place, reached, passed, inSlice, inRun⟩ : ∃ place, front.length ≤ place ∧
      before.length ≤ place ∧ place - front.length < slice.length ∧
        place - before.length < run.length :=
    ⟨max front.length before.length, by omega, by omega, by omega, by omega⟩
  have here : (front ++ slice ++ rest)[place]? = slice[place - front.length] := by
    rw [List.append_assoc, List.getElem?_append_right reached, List.getElem?_append_left inSlice,
      List.getElem?_eq_getElem inSlice]
  have there : (before ++ run ++ after)[place]? = run[place - before.length] := by
    rw [List.append_assoc, List.getElem?_append_right passed, List.getElem?_append_left inRun,
      List.getElem?_eq_getElem inRun]
  rw [same, there] at here
  refine ⟨slice[place - front.length], List.getElem_mem inSlice, ?_⟩
  rw [← Option.some.inj here]
  exact List.getElem_mem inRun

section SplitOnP
variable {α : Type} {test : α → Bool} {front passing : List α}

theorem filter_splitOnP_passing (all : ∀ item ∈ passing, test item = true) (rest : List α) :
    ((passing ++ rest).splitOnP test).filter (· ≠ []) = (rest.splitOnP test).filter (· ≠ []) := by
  induction passing with
  | nil => rfl
  | cons item passing ih =>
    obtain ⟨hit, later⟩ := List.forall_mem_cons.mp all
    rw [List.cons_append, List.splitOnP_cons_eq_if_modifyHead, if_pos hit, List.filter_cons_of_neg,
      ih later]
    simp

theorem filter_splitOnP_append (free : ∀ item ∈ front, test item = false) (some : passing ≠ [])
    (all : ∀ item ∈ passing, test item = true) (rest : List α) :
    ((front ++ passing ++ rest).splitOnP test).filter (· ≠ []) =
      [front].filter (· ≠ []) ++ (rest.splitOnP test).filter (· ≠ []) := by
  obtain ⟨item, passing, rfl⟩ := List.exists_cons_of_ne_nil some
  obtain ⟨hit, later⟩ := List.forall_mem_cons.mp all
  rw [List.append_assoc, List.cons_append, List.splitOnP_append_cons_of_forall_mem free item hit,
    ← List.singleton_append, List.filter_append, filter_splitOnP_passing later]

end SplitOnP

namespace Text

/-- The longest runs of characters none of whose bytes passes a test. -/
def runsWithout (test : UInt8 → Bool) (text : Bytes) : List Bytes :=
  (((characters text).splitOnP (·.any test)).filter (· ≠ [])).map List.flatten

theorem flatten_single_run (text : Bytes) :
    ([characters text].filter (· ≠ [])).map List.flatten = [text].filter (· ≠ []) := by
  by_cases empty : text = []
  · rw [empty]
    rfl
  · have some : characters text ≠ [] := mt Utf8.characters_eq_nil_iff.mp empty
    simp [empty, some, Utf8.flatten_characters]

end Text

namespace Finder
variable {finder : Finder} {front run rest window : Bytes} {test : UInt8 → Bool} {alone : Prop}

/-- An aligned finder cuts a text into three texts. -/
theorem CharAligned.exists_cut (aligned : finder.CharAligned) (valid : Valid window) :
    ∃ before slice after, window = before ++ slice ++ after ∧ Valid before ∧ Valid slice ∧
      Valid after ∧ finder.find window = ⟨before.length, before.length + slice.length⟩ := by
  obtain ⟨ordered, inside⟩ := finder.find_valid window
  obtain ⟨before, slice, after⟩ := aligned.views_valid valid
  refine ⟨_, _, _, ((finder.token window).preceding_delimiter_remainder ordered).symm, before, slice,
    after, ?_⟩
  have start : (finder.token window).preceding.length = (finder.find window).start :=
    List.length_take_of_le (Nat.le_trans ordered inside)
  rw [start, length_delimiter, Nat.add_sub_cancel' ordered]

/-- Wherever the characters of a slice come apart, they do so strictly inside a run. Both are given
with what is in front of them. -/
def CutsInside (before slice front run : Bytes) : Prop :=
  ∀ cut, isBoundary slice cut = true →
    (0 < cut → front.length < before.length + cut) ∧
      (cut < slice.length → before.length + cut < front.length + run.length)

/-- The boundary taken in front of a run is the last one there, and the one behind it the first. -/
theorem cutsInside_of_widen {before slice after : Bytes} (before_text : Valid before)
    (slice_text : Valid slice) (after_text : Valid after)
    (split : front ++ run ++ rest = before ++ slice ++ after)
    (start : Utf8.boundaryBefore (front ++ run ++ rest) front.length = before.length)
    (stop : Utf8.boundaryAfter (front ++ run ++ rest) (front.length + run.length) =
      before.length + slice.length) : CutsInside before slice front run := by
  intro cut boundary
  have within : isBoundary (front ++ run ++ rest) (before.length + cut) = true := by
    rw [split]
    exact before_text.isBoundary_between slice_text after_text boundary
  constructor
  · intro positive
    apply Nat.lt_of_not_le
    intro early
    have last := Utf8.le_boundaryBefore within early
    omega
  · intro inner
    apply Nat.lt_of_not_le
    intro late
    have first := Utf8.boundaryAfter_le_of_le within late
    omega

/-- A delimiter in a text is widened to the characters that it touches. -/
theorem wholeChars_cut (valid : Valid (front ++ run ++ rest))
    (found : finder.find (front ++ run ++ rest) = ⟨front.length, front.length + run.length⟩) :
    ∃ before slice after, front ++ run ++ rest = before ++ slice ++ after ∧ Valid slice ∧
      Valid after ∧ before <+: front ∧ run.length ≤ slice.length ∧
      finder.wholeChars.find (front ++ run ++ rest) = ⟨before.length, before.length + slice.length⟩ ∧
      CutsInside before slice front run := by
  obtain ⟨before, slice, after, split, before_text, slice_text, after_text, span_eq⟩ :=
    (charAligned_wholeChars finder).exists_cut valid
  have widened : Span.widen (front ++ run ++ rest) ⟨front.length, front.length + run.length⟩ =
      ⟨before.length, before.length + slice.length⟩ := by
    rw [← found]
    exact span_eq
  obtain ⟨start, stop⟩ := Span.mk.inj widened
  dsimp only at start stop
  have start_le := Utf8.boundaryBefore_le (front ++ run ++ rest) front.length
  have le_stop := Utf8.le_boundaryAfter (front ++ run ++ rest) (front.length + run.length)
  rw [start] at start_le
  rw [stop] at le_stop
  have inFront : before <+: front := by
    have first : before <+: front ++ run ++ rest := by
      rw [split, List.append_assoc]
      exact List.prefix_append before _
    have second : front <+: front ++ run ++ rest := by
      rw [List.append_assoc]
      exact List.prefix_append front _
    exact List.prefix_of_prefix_length_le first second start_le
  exact ⟨before, slice, after, split, slice_text, after_text, inFront, by omega, span_eq,
    cutsInside_of_widen before_text slice_text after_text split start stop⟩

section Cuts
variable {before slice after : Bytes} (slice_text : Valid slice)
include slice_text

/-- Each character of a slice that comes apart inside a run has a byte of it. -/
theorem CutsInside.exists_mem (cuts : CutsInside before slice front run)
    (split : front ++ run ++ rest = before ++ slice ++ after) (some : run ≠ []) :
    ∀ character ∈ characters slice, ∃ byte ∈ character, byte ∈ run := by
  intro character member
  have single := slice_text.isCharacter character member
  have length := List.length_pos_iff.mpr single.nonempty
  obtain ⟨earlier, later, rfl⟩ := Utf8.exists_around member
  obtain ⟨start, stop⟩ := slice_text.isBoundary_of_infix single.nonempty single.valid
  have left := (cuts earlier.length start).2
  have right := (cuts (earlier.length + character.length) stop).1
  have same : (before ++ earlier) ++ character ++ (later ++ after) = front ++ run ++ rest := by
    rw [split]
    simp only [List.append_assoc]
  simp only [List.length_append] at left right
  apply exists_mem_of_overlap same single.nonempty some
  · rw [List.length_append]
    omega
  · rw [List.length_append]
    omega

theorem CutsInside.isCharacter (cuts : CutsInside before slice front run) (nonempty : slice ≠ [])
    (single : run.length = 1) : IsCharacter slice := by
  refine ⟨nonempty, slice_text, fun cut boundary => ?_⟩
  have inner := cuts cut boundary
  have reached := Utf8.le_length_of_isBoundary boundary
  omega

end Cuts

theorem widen_notFound (window : Bytes) :
    Span.widen window (.notFound window.length) = .notFound window.length := by
  have ends := Utf8.isBoundary_length window
  rw [Span.widen, Span.notFound, Utf8.boundaryBefore_of_isBoundary ends,
    Utf8.boundaryAfter_of_isBoundary ends]

/-- A search for bytes that pass a test. It finds the first one, alone or with some that follow it, or
nothing if there are none. -/
def Seeks (finder : Finder) (test : UInt8 → Bool) (alone : Prop) : Prop :=
  ∀ window, (finder.find window = .notFound window.length ∧ ∀ byte ∈ window, test byte = false) ∨
    ∃ front run rest, window = front ++ run ++ rest ∧ (∀ byte ∈ front, test byte = false) ∧
      run ≠ [] ∧ (∀ byte ∈ run, test byte = true) ∧ (alone → run.length = 1) ∧
      finder.find window = ⟨front.length, front.length + run.length⟩

theorem any_characters_eq_false (free : ∀ byte ∈ window, test byte = false) :
    ∀ character ∈ characters window, character.any test = false := by
  intro character member
  rw [List.any_eq_false]
  intro byte inside
  rw [free byte (Utf8.mem_of_mem_characters member inside)]
  exact Bool.false_ne_true

/-- What such a search takes out of a text are whole characters, each with a byte that passes, and
there is none in front of them. -/
theorem Seeks.wholeChars_cases (seeks : finder.Seeks test alone) (valid : Valid window) :
    (finder.wholeChars.find window = .notFound window.length ∧
        ∀ character ∈ characters window, character.any test = false) ∨
      ∃ before slice after, window = before ++ slice ++ after ∧ Valid slice ∧ Valid after ∧
        slice ≠ [] ∧ (∀ character ∈ characters before, character.any test = false) ∧
        (∀ character ∈ characters slice, character.any test = true) ∧
        (alone → IsCharacter slice) ∧
        finder.wholeChars.find window = ⟨before.length, before.length + slice.length⟩ := by
  rcases seeks window with ⟨none, free⟩ | ⟨front, run, rest, rfl, free, some, passing, single, found⟩
  · refine .inl ⟨?_, any_characters_eq_false free⟩
    rw [wholeChars, ← widen_notFound window, ← none]
  · obtain ⟨before, slice, after, split, slice_text, after_text, inFront, covers, span_eq, cuts⟩ :=
      wholeChars_cut valid found
    have run_pos := List.length_pos_iff.mpr some
    have nonempty : slice ≠ [] := List.ne_nil_of_length_pos (Nat.lt_of_lt_of_le run_pos covers)
    refine .inr ⟨before, slice, after, split, slice_text, after_text, nonempty, ?_, ?_, ?_, span_eq⟩
    · exact any_characters_eq_false fun byte member => free byte (inFront.subset member)
    · intro character member
      obtain ⟨byte, inside, hit⟩ := cuts.exists_mem slice_text split some character member
      exact List.any_eq_true.mpr ⟨byte, inside, passing byte hit⟩
    · exact fun only => cuts.isCharacter slice_text nonempty (single only)

section Walk
variable (seeks : finder.Seeks test alone)
include seeks

/-- Each character that is cut out has a byte that passes. -/
theorem Seeks.any_delimiter (valid : Valid window) :
    ∀ token ∈ Walk.tokensOf finder.wholeChars window, ∀ character ∈ characters token.delimiter,
      character.any test = true := by
  induction window using Walk.cut_induction with
  | step window later =>
    rcases seeks.wholeChars_cases valid with
      ⟨none, _⟩ | ⟨before, slice, after, rfl, _, after_text, nonempty, _, passing, _, found⟩
    · rw [Walk.tokensOf_notFound none, List.forall_mem_singleton, delimiter_of_notFound none,
        Utf8.characters_eq_nil_iff.mpr rfl]
      exact List.forall_mem_nil _
    · rw [Walk.tokensOf_found found nonempty, List.forall_mem_cons, (token_found found).2.1]
      exact ⟨passing, later before slice after rfl nonempty after_text⟩

/-- If a search takes one byte only, each character with a byte that passes is cut out by itself. -/
theorem Seeks.delimiters_eq (only : alone) (valid : Valid window) :
    (Walk.tokensOf finder.wholeChars window).map Token.delimiter =
      (characters window).filter (·.any test) ++ [[]] := by
  induction window using Walk.cut_induction with
  | step window later =>
    rcases seeks.wholeChars_cases valid with
      ⟨none, clean⟩ | ⟨before, slice, after, rfl, slice_text, after_text, nonempty, clean, passing,
        single, found⟩
    · have free : (characters window).filter (·.any test) = [] :=
        List.filter_eq_nil_iff.mpr fun character member => Bool.eq_false_iff.mp (clean character member)
      rw [Walk.tokensOf_notFound none, List.map_singleton, delimiter_of_notFound none, free,
        List.nil_append]
    · have free : (characters before).filter (·.any test) = [] :=
        List.filter_eq_nil_iff.mpr fun character member => Bool.eq_false_iff.mp (clean character member)
      have hit : (characters slice).filter (·.any test) = [slice] := by
        rw [List.filter_eq_self.mpr passing, (single only).characters_eq]
      rw [Walk.tokensOf_found found nonempty, List.map_cons, (token_found found).2.1,
        later before slice after rfl nonempty after_text, Utf8.characters_append _ after_text,
        Utf8.characters_append _ slice_text, List.filter_append, List.filter_append, free, hit]
      rfl

/-- The pieces that are not empty are the runs of characters without a byte that passes. -/
theorem Seeks.filter_split (valid : Valid window) :
    (Walk.split finder.wholeChars window).filter (· ≠ []) = Text.runsWithout test window := by
  induction window using Walk.cut_induction with
  | step window later =>
    rcases seeks.wholeChars_cases valid with
      ⟨none, clean⟩ | ⟨before, slice, after, rfl, slice_text, after_text, nonempty, clean, passing,
        _, found⟩
    · rw [Walk.split_notFound none, Text.runsWithout, List.splitOnP_eq_singleton clean,
        Text.flatten_single_run]
    · have some : characters slice ≠ [] := mt Utf8.characters_eq_nil_iff.mp nonempty
      rw [Walk.split_found found nonempty, ← List.singleton_append, List.filter_append,
        later before slice after rfl nonempty after_text, Text.runsWithout, Text.runsWithout,
        Utf8.characters_append _ after_text, Utf8.characters_append _ slice_text,
        filter_splitOnP_append clean some passing, List.map_append, Text.flatten_single_run]

end Walk

theorem seeks_runOf (set : ByteSet) : (Delimiter.runOf set).finder.Seeks set.contains False := by
  intro window
  rcases Delimiter.findRun_cases set window with
    ⟨none, free⟩ | ⟨front, run, rest, split, free, nonempty, members, _, found⟩
  · exact .inl ⟨none, free⟩
  · exact .inr ⟨front, run, rest, split, free, nonempty, members, False.elim, found⟩

theorem seeks_oneByte (value : UInt8) :
    (Delimiter.oneByte value).finder.Seeks (value == ·) True := by
  intro window
  rcases Delimiter.findByte_cases value window with ⟨none, free⟩ | ⟨front, rest, split, free, found⟩
  · refine .inl ⟨none, fun byte member => ?_⟩
    rw [beq_eq_false_iff_ne]
    rintro rfl
    exact free member
  · refine .inr ⟨front, [value], rest, by simp [split], fun byte member => ?_, List.cons_ne_nil _ _,
      by simp, fun _ => rfl, found⟩
    rw [beq_eq_false_iff_ne]
    rintro rfl
    exact free member

end Finder

namespace Delimiter

/-- Behind a run of a set's bytes the next piece starts with another byte, unless it is the last. -/
theorem split_runOf_inner (set : ByteSet) (window : Bytes)
    (starts : ∀ byte, window.head? = some byte → set.contains byte = false) :
    ∀ piece ∈ (Walk.split (runOf set).finder window).dropLast, piece ≠ [] := by
  induction window using Walk.cut_induction with
  | step window later =>
    rcases findRun_cases set window with
      ⟨none, _⟩ | ⟨front, run, rest, rfl, _, nonempty, members, ends, found⟩
    · rw [Walk.split_notFound none, List.dropLast_singleton]
      exact List.forall_mem_nil _
    · have more : Walk.split (runOf set).finder rest ≠ [] := Walk.splitAtMost_ne_nil _ _ rest
      rw [Walk.split_found found nonempty, List.dropLast_cons_of_ne_nil more, List.forall_mem_cons]
      refine ⟨?_, later front run rest rfl nonempty ends⟩
      rintro rfl
      obtain ⟨byte, run, rfl⟩ := List.exists_cons_of_ne_nil nonempty
      have first := starts byte rfl
      rw [members byte List.mem_cons_self] at first
      cases first

theorem split_runOf_tail (set : ByteSet) (window : Bytes) :
    ∀ piece ∈ (Walk.split (runOf set).finder window).tail.dropLast, piece ≠ [] := by
  rcases findRun_cases set window with
    ⟨none, _⟩ | ⟨front, run, rest, rfl, _, nonempty, _, ends, found⟩
  · rw [Walk.split_notFound none]
    exact List.forall_mem_nil _
  · rw [Walk.split_found found nonempty]
    exact split_runOf_inner set rest ends

end Delimiter

namespace Text
open Delimiter

/-- Splitting a text at bytes keeps its characters whole. At runs of bytes of any set, the pieces that
are not empty are the longest runs of characters that have no byte of the set, and every character cut out
between them has one; if the set is ASCII, only the first and the last piece can be empty. At one byte,
each character that has it is cut out by itself, so there is one piece more than there are such
characters. -/
theorem split_respects_characters (text : Bytes) (valid : Valid text) :
    (∀ set : ByteSet,
      let pieces := split (runOf set).finder text
      pieces.filter (· ≠ []) = runsWithout set.contains text ∧
        (∀ token ∈ tokens (runOf set).finder (.start text), ∀ character ∈ characters token.delimiter,
          ∃ byte ∈ character, set.contains byte = true) ∧
        ((∀ byte, set.contains byte = true → byte < 0x80) →
          ∀ piece ∈ pieces.tail.dropLast, piece ≠ [])) ∧
      ∀ value : UInt8,
        let hits := (characters text).filter (·.contains value)
        (tokens (oneByte value).finder (.start text)).map Token.delimiter = hits ++ [[]] ∧
          (split (oneByte value).finder text).length = hits.length + 1 := by
  refine ⟨fun set => ?_, fun value => ?_⟩
  · have seeks := Finder.seeks_runOf set
    refine ⟨seeks.filter_split valid, fun token member character inside => ?_, fun ascii => ?_⟩
    · exact List.any_eq_true.mp (seeks.any_delimiter valid token member character inside)
    · have aligned : (runOf set).finder.CharAligned := Textual.charAligned ascii
      rw [split, aligned.split_wholeChars valid]
      exact split_runOf_tail set text
  · have delimiters := (Finder.seeks_oneByte value).delimiters_eq trivial valid
    simp only [← List.contains_eq_any_beq] at delimiters
    refine ⟨delimiters, ?_⟩
    have count := congrArg List.length delimiters
    rw [List.length_map, List.length_append, List.length_singleton] at count
    rw [split, Walk.split_eq_tokensOf, List.length_map, count]

/-- Two neighbours that share their first byte, the second of which has a byte of the set, and a
character of three bytes whose middle one is in it. -/
theorem split_respects_characters_of_two_neighbours :
    let text : Bytes := [0x61, 0xc3, 0xa8, 0xc3, 0xa9, 0x62, 0xe2, 0x82, 0xac]
    let set : ByteSet := .ofBytes [0xa9, 0x82]
    let letters : ByteSet := .ofBytes [0x61, 0x62]
    Valid text ∧ (∀ byte, letters.contains byte = true → byte < 0x80) ∧
      (split (runOf set).finder text).filter (· ≠ []) = [[0x61, 0xc3, 0xa8], [0x62]] ∧
      (∀ piece ∈ (split (runOf letters).finder text).tail.dropLast, piece ≠ []) ∧
      (tokens (oneByte 0xc3).finder (.start text)).map Token.delimiter =
        [[0xc3, 0xa8], [0xc3, 0xa9], []] := by
  intro text set letters
  have valid : Valid text := by decide
  have ascii : ∀ byte, letters.contains byte = true → byte < 0x80 := by
    intro byte member
    simp only [letters, ByteSet.ofBytes, List.contains_iff_mem, List.mem_cons, List.not_mem_nil,
      or_false] at member
    rcases member with rfl | rfl <;> decide
  obtain ⟨runs, bytes⟩ := split_respects_characters text valid
  exact ⟨valid, ascii, (runs set).1.trans (by decide), (runs letters).2.2 ascii,
    (bytes 0xc3).1.trans (by decide)⟩

/-- Two characters that a run of a set's bytes cannot join: each has one in it, behind one that it lacks. -/
example :
    split (runOf (.ofBytes [0xa9])).finder [0xc3, 0xa9, 0xc3, 0xa9] = [[], [], []] := by
  decide

end Text
end TextScan
