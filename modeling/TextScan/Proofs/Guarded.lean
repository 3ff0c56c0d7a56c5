import TextScan.Guarded
import TextScan.Proofs.Positions
import TextScan.Proofs.Reassembly

/-! Guarded cursors, walks and splitting meet no fault on text, whatever the finder answers. Where a
finder cuts into a character, widening leads to boundaries, so that each window is a text again. -/
namespace TextScan
open Utf8 (Valid isBoundary)

/-- A token of a text, with its delimiter between characters. -/
structure Token.Aligned (token : Token) : Prop where
  text : Valid token.window
  ordered : token.span.start ≤ token.span.stop
  start : isBoundary token.window token.span.start = true
  stop : isBoundary token.window token.span.stop = true

theorem Finder.aligned_token (finder : Finder) {window : Bytes} (valid : Valid window) :
    (finder.wholeChars.token window).Aligned := by
  obtain ⟨start, stop⟩ := finder.charAligned_wholeChars window valid
  exact ⟨valid, (finder.wholeChars.find_valid window).1, start, stop⟩

namespace Guarded
variable {text window : Bytes} {span : Span} {token : Token}

theorem slice_eq {start stop : Nat} (ordered : start ≤ stop) (first : isBoundary text start = true)
    (last : isBoundary text stop = true) :
    slice text start stop = .ok ((text.take stop).drop start) := by
  rw [slice, if_neg (Nat.not_lt.mpr ordered), if_neg (by rw [first]; exact Bool.noConfusion),
    if_neg (by rw [last]; exact Bool.noConfusion)]

theorem slice_from {start : Nat} (first : isBoundary text start = true) :
    slice text start text.length = .ok (text.drop start) := by
  rw [slice_eq (Utf8.le_length_of_isBoundary first) first (Utf8.isBoundary_length text),
    List.take_length]

theorem retreat_eq (text : Bytes) (offset : Nat) :
    retreat text offset = .ok (Utf8.boundaryBefore text offset) := by
  induction offset with
  | zero => rw [retreat, if_pos (Utf8.isBoundary_zero text), Utf8.boundaryBefore]
  | succ offset ih =>
    rw [retreat, Utf8.boundaryBefore, ih]
    split
    · rfl
    · rfl

theorem boundaryAfter_succ {offset : Nat} (inside : offset < text.length)
    (within : ¬isBoundary text offset = true) :
    Utf8.boundaryAfter text (offset + 1) = Utf8.boundaryAfter text offset := by
  have here := Utf8.isBoundary_boundaryAfter text offset (Nat.le_of_lt inside)
  have later := Utf8.isBoundary_boundaryAfter text (offset + 1) inside
  have reached := Utf8.le_boundaryAfter text offset
  have passed := Utf8.le_boundaryAfter text (offset + 1)
  have beyond : offset ≠ Utf8.boundaryAfter text offset := by
    intro same
    rw [← same] at here
    exact within here
  apply Nat.le_antisymm
  · exact Utf8.boundaryAfter_le_of_le here (by omega)
  · exact Utf8.boundaryAfter_le_of_le later (by omega)

theorem proceed_eq {offset : Nat} (inside : offset ≤ text.length) :
    proceed text offset = .ok (Utf8.boundaryAfter text offset) := by
  fun_induction proceed text offset with
  | case1 offset boundary => rw [Utf8.boundaryAfter_of_isBoundary boundary]
  | case2 offset within before ih => rw [ih before, boundaryAfter_succ before within]
  | case3 offset within ends =>
    rw [Nat.le_antisymm inside (Nat.le_of_not_lt ends)] at within
    exact absurd (Utf8.isBoundary_length text) within

theorem widen_eq (valid : span.ValidFor text.length) : widen text span = .ok (span.widen text) := by
  rw [widen, retreat_eq, proceed_eq valid.2]
  rfl

theorem find_eq (finder : Finder) (window : Bytes) :
    find finder window = .ok (finder.wholeChars.find window) := by
  have valid := finder.find_valid window
  rw [find, if_pos valid, widen_eq valid]
  rfl

/-- The views of a token can be cut out, and what they show is text. -/
def ShowsText (token : Token) : Prop :=
  (preceding token = .ok token.preceding ∧ Valid token.preceding) ∧
    (delimiter token = .ok token.delimiter ∧ Valid token.delimiter) ∧
    (remainder token = .ok token.remainder ∧ Valid token.remainder)

theorem showsText (aligned : token.Aligned) : ShowsText token := by
  obtain ⟨valid, ordered, start, stop⟩ := aligned
  have before := valid.take start
  have passed := valid.take stop
  rw [← token.preceding_append_delimiter ordered] at passed
  refine ⟨⟨?_, before⟩, ⟨?_, (before.append_iff _).mp passed⟩, slice_from stop, valid.drop stop⟩
  · exact slice_eq (Nat.zero_le _) (Utf8.isBoundary_zero _) start
  · rw [delimiter, slice_eq ordered start stop, List.drop_take]
    rfl

section Cursor
variable {cursor : Cursor}

theorem seek_eq (finder : Finder) {passed : Nat} (boundary : isBoundary window passed = true) :
    seek finder window passed = .ok (Cursor.seek finder.wholeChars (window.drop passed)) := by
  rw [seek, slice_from boundary, Cursor.seek]
  dsimp only [bind, Except.bind]
  split
  · rename_i empty
    rw [empty]
    rfl
  · rw [find_eq]
    rfl

theorem advance_eq (finder : Finder) (aligned : cursor.token.Aligned) :
    advance finder cursor = .ok (Text.advance finder cursor) := by
  obtain ⟨window, place⟩ := cursor
  cases place with
  | notStarted => exact seek_eq finder (Utf8.isBoundary_zero window)
  | positioned span =>
    rw [advance, Text.advance, Cursor.advance]
    dsimp only
    split
    · rw [exhaust, slice_from (Utf8.isBoundary_length window), List.drop_length]
      rfl
    · exact seek_eq finder aligned.stop
  | exhausted => rfl

theorem aligned_seek (finder : Finder) (valid : Valid window) :
    (Cursor.seek finder.wholeChars window).cursor.token.Aligned := by
  by_cases empty : window = []
  · rw [empty, Cursor.seek_nil]
    exact ⟨rfl, Nat.le_refl 0, rfl, rfl⟩
  · rw [Cursor.seek_of_ne_nil empty]
    exact finder.aligned_token valid

theorem aligned_afterMove (finder : Finder) (aligned : cursor.token.Aligned) :
    (Text.afterMove finder cursor).token.Aligned := by
  obtain ⟨window, place⟩ := cursor
  cases place with
  | notStarted => exact aligned_seek finder aligned.text
  | positioned span =>
    rw [Text.afterMove, Cursor.afterMove, Cursor.advance]
    dsimp only
    split
    · exact ⟨rfl, Nat.le_refl 0, rfl, rfl⟩
    · exact aligned_seek finder (aligned.text.drop aligned.stop)
  | exhausted => exact aligned

theorem seek_suffix (finder : Finder) (window : Bytes) :
    (Cursor.seek finder window).cursor.window <:+ window := by
  rw [Cursor.seek]
  split
  · exact List.nil_suffix
  · exact List.suffix_refl window

theorem afterMove_suffix (finder : Finder) (cursor : Cursor) :
    (Cursor.afterMove finder cursor).window <:+ cursor.window := by
  obtain ⟨window, place⟩ := cursor
  cases place with
  | notStarted => exact seek_suffix finder window
  | positioned span =>
    rw [Cursor.afterMove, Cursor.advance]
    dsimp only
    split
    · exact List.nil_suffix
    · exact (seek_suffix finder _).trans (List.drop_suffix _ window)
  | exhausted => exact List.suffix_refl window

/-- Wherever moves have brought it, a cursor stands at a token of the text behind a boundary. -/
theorem aligned_moved (finder : Finder) (valid : Valid text) (moves : Nat) :
    ((Text.afterMove finder)^[moves] (.start text)).token.Aligned ∧
      ((Text.afterMove finder)^[moves] (.start text)).window <:+ text := by
  induction moves with
  | zero =>
    refine ⟨⟨valid, Nat.le_refl 0, ?_, ?_⟩, List.suffix_refl text⟩
    · exact Utf8.isBoundary_zero text
    · exact Utf8.isBoundary_zero text
  | succ moves ih =>
    rw [Function.iterate_succ_apply']
    exact ⟨aligned_afterMove finder ih.1, (afterMove_suffix finder.wholeChars _).trans ih.2⟩

end Cursor

section Walk
variable {finder : Finder}

theorem next_eq (finder : Finder) (valid : Valid window) :
    next finder (.start window) = .ok (Text.next? finder (.start window)) := by
  have boundary := (finder.aligned_token valid).stop
  have span_eq : find finder window = .ok (finder.wholeChars.token window).span := find_eq finder window
  rw [next, Text.next?, Walk.next?]
  dsimp only [Walk.start, Option.map_some]
  rw [span_eq]
  cases ends : (finder.wholeChars.token window).isLast with
  | true => exact if_pos ends
  | false =>
    refine (if_neg (Bool.eq_false_iff.mp ends)).trans ?_
    rw [show slice window _ window.length = _ from slice_from boundary]
    rfl

theorem takePieces_of_isLast (valid : Valid window)
    (last : (finder.wholeChars.token window).isLast = true) (limit : Nat) :
    takePieces finder limit (.start window) = .ok [(finder.wholeChars.token window).preceding] := by
  have piece := (showsText (finder.aligned_token valid)).1.1
  rw [takePieces, next_eq finder valid]
  dsimp only [Text.next?, Walk.next?, Walk.start, Option.map_some, bind, Except.bind]
  rw [piece, last]
  rfl

theorem takePieces_of_goesOn (valid : Valid window)
    (goesOn : (finder.wholeChars.token window).isLast = false) (limit : Nat) :
    takePieces finder limit (.start window) =
      let token := finder.wholeChars.token window
      match limit with
      | 0 => .ok [token.preceding, token.remainder]
      | limit + 1 => (takePieces finder limit (.start token.remainder)).map (token.preceding :: ·) := by
  have shown := showsText (finder.aligned_token valid)
  rw [takePieces, next_eq finder valid]
  dsimp only [Text.next?, Walk.next?, Walk.start, Option.map_some, bind, Except.bind]
  rw [shown.1.1, goesOn]
  cases limit with
  | zero =>
    dsimp only [Walk.isFinished]
    rw [shown.2.2.1]
    rfl
  | succ limit => rfl

/-- By the number of pieces that are still allowed: what is behind each delimiter is a text again. -/
theorem takePieces_eq (finder : Finder) (limit : Nat) (valid : Valid window) :
    takePieces finder limit (.start window) =
      .ok (Walk.splitAtMost finder.wholeChars (limit + 1) window) := by
  induction limit generalizing window with
  | zero =>
    cases ends : (finder.wholeChars.token window).isLast with
    | true => rw [takePieces_of_isLast valid ends, Walk.splitAtMost_of_isLast ends]
    | false =>
      rw [takePieces_of_goesOn valid ends, Walk.splitAtMost_of_goesOn ends]
      rfl
  | succ limit ih =>
    cases ends : (finder.wholeChars.token window).isLast with
    | true => rw [takePieces_of_isLast valid ends, Walk.splitAtMost_of_isLast ends]
    | false =>
      have behind := finder.charAligned_wholeChars.remainder_valid valid
      rw [takePieces_of_goesOn valid ends, Walk.splitAtMost_of_goesOn ends]
      dsimp only
      rw [ih behind]
      rfl

theorem splitAtMost_eq (finder : Finder) (limit : Nat) (valid : Valid text) :
    splitAtMost finder limit text = .ok (Text.splitAtMost finder limit text) := by
  cases limit with
  | zero => rfl
  | succ limit => exact takePieces_eq finder limit valid

theorem valid_suffix_of_unsearched (finder : Finder) (valid : Valid text) (calls : Nat) :
    ∀ rest, ((Text.afterCall finder)^[calls] (.start text)).unsearched = some rest →
      Valid rest ∧ rest <:+ text := by
  intro rest left
  have tokens_eq : ((Text.afterCall finder)^[calls] (.start text)).tokens finder.wholeChars =
      (Walk.tokensOf finder.wholeChars text).drop calls :=
    Walk.tokens_afterCalls finder.wholeChars (.start text) calls
  rw [Walk.unsearched_eq finder.wholeChars, tokens_eq, Option.map_eq_some_iff] at left
  obtain ⟨token, first, rfl⟩ := left
  have member := List.mem_of_mem_drop (List.mem_of_mem_head? first)
  exact ⟨Walk.valid_of_mem_tokensOf finder.charAligned_wholeChars valid token member,
    Walk.suffix_of_mem_tokensOf finder.wholeChars text token member⟩

end Walk

/-- The bytes of a text behind one of its boundaries. -/
def Behind (text window : Bytes) : Prop :=
  ∃ offset, isBoundary text offset = true ∧ window = text.drop offset

theorem behind_of_suffix (valid : Valid text) (behind : Valid window) (suffix : window <:+ text) :
    Behind text window := by
  obtain ⟨front, rfl⟩ := suffix
  refine ⟨front.length, (valid.isBoundary_iff _).mpr ⟨?_, ?_⟩, List.drop_left.symm⟩
  · rw [List.length_append]
    exact Nat.le_add_right _ _
  · rwa [List.drop_left]

/-- No finder can break the text apart. Whatever spans it answers, wherever a cursor has been moved and
whatever calls a walk has answered, the window is what is behind a boundary of the text, the next step
meets no fault and does what the step without guards does, and the views of a token can be cut out and
are text. So it is with all pieces that splitting yields. Widening a span that lies in the text stops at
boundaries and stays in it. -/
theorem cuts_fall_between_characters (finder : Finder) (text : Bytes) (valid : Valid text) :
    (∀ moves, let cursor := (Text.afterMove finder)^[moves] (.start text)
        Behind text cursor.window ∧ advance finder cursor = .ok (Text.advance finder cursor) ∧
          ShowsText cursor.token) ∧
      (∀ calls, let walk := (Text.afterCall finder)^[calls] (.start text)
        next finder walk = .ok (Text.next? finder walk) ∧
          ∀ token left, Text.next? finder walk = some (token, left) →
            Behind text token.window ∧ ShowsText token) ∧
      (∀ limit, splitAtMost finder limit text = .ok (Text.splitAtMost finder limit text) ∧
        ∀ piece ∈ Text.splitAtMost finder limit text, Valid piece) ∧
      ∀ span : Span, span.ValidFor text.length →
        widen text span = .ok (span.widen text) ∧ (span.widen text).ValidFor text.length := by
  refine ⟨fun moves => ?_, fun calls => ?_, fun limit => ?_, fun span inside => ?_⟩
  · obtain ⟨aligned, suffix⟩ := aligned_moved finder valid moves
    exact ⟨behind_of_suffix valid aligned.text suffix, advance_eq finder aligned, showsText aligned⟩
  · have left := valid_suffix_of_unsearched finder valid calls
    generalize (Text.afterCall finder)^[calls] (.start text) = walk at left ⊢
    obtain ⟨unsearched⟩ := walk
    cases unsearched with
    | none => exact ⟨rfl, fun _ _ none => nomatch none⟩
    | some window =>
      obtain ⟨window_text, suffix⟩ := left window rfl
      refine ⟨next_eq finder window_text, fun token _ more => ?_⟩
      cases more
      exact ⟨behind_of_suffix valid window_text suffix, showsText (finder.aligned_token window_text)⟩
  · exact ⟨splitAtMost_eq finder limit valid,
      Walk.valid_of_mem_splitAtMost finder.charAligned_wholeChars valid limit⟩
  · exact ⟨widen_eq inside, inside.widen⟩

/-- A finder that answers an empty span inside of each character of a text. -/
theorem cuts_fall_between_characters_inside :
    let finder : Finder := .clamp fun _ => ⟨1, 1⟩
    let text : Bytes := [0xc3, 0xa9, 0xe2, 0x82, 0xac, 0x61]
    let token : Token := ⟨[0xe2, 0x82, 0xac, 0x61], ⟨0, 3⟩⟩
    let walk := (Text.afterCall finder)^[1] (.start text)
    (Valid text ∧ Text.next? finder walk = some (token, ⟨some [0x61]⟩) ∧
        (⟨1, 1⟩ : Span).ValidFor text.length) ∧
      ShowsText ((Text.afterMove finder)^[1] (.start text)).token ∧ Behind text token.window ∧
      ShowsText token ∧ splitAtMost finder 1 text = .ok [[], [0xe2, 0x82, 0xac, 0x61]] ∧
      widen text ⟨1, 1⟩ = .ok ⟨0, 2⟩ := by
  intro finder text token walk
  have valid : Valid text := by decide
  have more : Text.next? finder walk = some (token, ⟨some [0x61]⟩) := by decide
  have inside : (⟨1, 1⟩ : Span).ValidFor text.length := by decide
  obtain ⟨moved, called, splits, widens⟩ := cuts_fall_between_characters finder text valid
  obtain ⟨behind, shown⟩ := (called 1).2 token ⟨some [0x61]⟩ more
  exact ⟨⟨valid, more, inside⟩, (moved 1).2.2, behind, shown, (splits 1).1.trans (by decide),
    (widens ⟨1, 1⟩ inside).1.trans (by decide)⟩

end Guarded
end TextScan
