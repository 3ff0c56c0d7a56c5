import TextScan.Proofs.Split
import TextScan.Proofs.Utf8.Boundary

/-! Finders that never cut into a character of text. For them whole characters change nothing. -/
namespace TextScan.Finder
open Utf8 (Valid isBoundary)

/-- Wherever the window is text, the span lies between characters. -/
def CharAligned (finder : Finder) : Prop :=
  ∀ window, Valid window → isBoundary window (finder.find window).start = true ∧
    isBoundary window (finder.find window).stop = true

variable {finder : Finder} {window : Bytes}

theorem CharAligned.wholeChars_find (aligned : finder.CharAligned) (valid : Valid window) :
    finder.wholeChars.find window = finder.find window := by
  obtain ⟨start, stop⟩ := aligned window valid
  simp only [wholeChars, Span.widen, Utf8.boundaryBefore_of_isBoundary start,
    Utf8.boundaryAfter_of_isBoundary stop]

theorem CharAligned.wholeChars_token (aligned : finder.CharAligned) (valid : Valid window) :
    finder.wholeChars.token window = finder.token window := by
  rw [token, token, aligned.wholeChars_find valid]

theorem CharAligned.remainder_valid (aligned : finder.CharAligned) (valid : Valid window) :
    Valid (finder.token window).remainder :=
  valid.drop (aligned window valid).2

theorem CharAligned.tokensOf_wholeChars (aligned : finder.CharAligned) (valid : Valid window) :
    Walk.tokensOf finder.wholeChars window = Walk.tokensOf finder window := by
  fun_induction Walk.tokensOf finder window with
  | case1 window token goesOn ih =>
    rw [Walk.tokensOf, aligned.wholeChars_token valid, dif_pos goesOn,
      ih (aligned.remainder_valid valid)]
  | case2 window token last =>
    rw [Walk.tokensOf, aligned.wholeChars_token valid, dif_neg last]

theorem CharAligned.split_wholeChars (aligned : finder.CharAligned) (valid : Valid window) :
    Walk.split finder.wholeChars window = Walk.split finder window := by
  rw [Walk.split_eq_tokensOf, Walk.split_eq_tokensOf, aligned.tokensOf_wholeChars valid]

/-- Whole characters are aligned, wherever the finder itself may cut. -/
theorem charAligned_wholeChars (finder : Finder) : finder.wholeChars.CharAligned := by
  intro window _
  exact ⟨Utf8.isBoundary_boundaryBefore window _,
    Utf8.isBoundary_boundaryAfter window _ (finder.find_valid window).2⟩

/-- All that an aligned token shows of a text is text. -/
theorem CharAligned.views_valid (aligned : finder.CharAligned) (valid : Valid window) :
    Valid (finder.token window).preceding ∧ Valid (finder.token window).delimiter ∧
      Valid (finder.token window).remainder := by
  obtain ⟨start, stop⟩ := aligned window valid
  have front := valid.take start
  have passed := valid.take stop
  have cut := (finder.token window).preceding_append_delimiter (finder.find_valid window).1
  rw [show window.take (finder.find window).stop = _ from cut.symm] at passed
  exact ⟨front, (front.append_iff _).mp passed, valid.drop stop⟩

end TextScan.Finder
