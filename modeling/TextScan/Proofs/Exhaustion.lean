import TextScan.Stream.Cursor
import TextScan.Proofs.Positions
import TextScan.Proofs.Stream.Settle

/-! What a cursor shows once it is exhausted. A cursor over text drops what it stood in front of and
shows nothing. A cursor over a stream shows no delimiter either, but keeps its window: it still shows
the bytes in front of which it got stuck. -/
namespace TextScan

namespace Cursor
variable {finder : Finder} {cursor : Cursor}

theorem seek_window_of_exhausted {rest : Bytes}
    (ended : (seek finder rest).cursor.place = .exhausted) :
    (seek finder rest).cursor.window = [] := by
  by_cases empty : rest = []
  · rw [empty, seek_nil]
  · rw [seek_of_ne_nil empty] at ended
    cases ended

theorem afterMove_window_of_exhausted (kept : cursor.place = .exhausted → cursor.window = [])
    (ended : (afterMove finder cursor).place = .exhausted) :
    (afterMove finder cursor).window = [] := by
  obtain ⟨window, place⟩ := cursor
  rw [afterMove] at ended ⊢
  cases place with
  | notStarted => exact seek_window_of_exhausted ended
  | positioned span =>
    by_cases stop : span.stop = 0
    · rw [advance_of_stop_eq_zero stop]
    · rw [advance_of_stop_ne_zero stop] at ended ⊢
      exact seek_window_of_exhausted ended
  | exhausted => exact kept rfl

theorem afterMoves_window_of_exhausted (finder : Finder) (bytes : Bytes) (moves : Nat)
    (ended : ((afterMove finder)^[moves] (start bytes)).place = .exhausted) :
    ((afterMove finder)^[moves] (start bytes)).window = [] := by
  induction moves with
  | zero => cases ended
  | succ moves ih =>
    rw [Function.iterate_succ_apply'] at ended ⊢
    exact afterMove_window_of_exhausted ih ended

theorem views_of_empty (empty : cursor.window = []) :
    cursor.token.preceding = [] ∧ cursor.token.delimiter = [] ∧ cursor.token.remainder = [] := by
  simp only [token, Token.preceding, Token.delimiter, Token.remainder, empty, List.take_nil,
    List.drop_nil, and_self]

end Cursor

namespace Stream.Cursor
variable {finder : Finder} {cursor : Cursor} {stuck : Prop}

/-- The cursor stands at a delimiter that ends where its window starts, in front of which the next
search would begin again. -/
def Stuck (cursor : Cursor) : Prop :=
  ∃ span, cursor.place = .positioned span ∧ span.stop = 0

theorem advance_of_exhausted (ended : cursor.place = .exhausted) :
    advance finder cursor = ⟨false, cursor, []⟩ := by
  rw [advance, ended]

theorem advance_of_stop_eq_zero {buffer : Buffer} {span : Span} (stop : span.stop = 0) :
    advance finder ⟨buffer, .positioned span⟩ = ⟨false, ⟨buffer, .exhausted⟩, []⟩ :=
  if_pos stop

theorem advance_of_stop_ne_zero {buffer : Buffer} {span : Span} (stop : span.stop ≠ 0) :
    advance finder ⟨buffer, .positioned span⟩ = seek finder (buffer.consume span.stop) :=
  if_neg stop

section Seek
variable {buffer : Buffer}

theorem seek_of_ne_nil (nonempty : buffer.window ≠ []) :
    seek finder buffer =
      let settled := settle finder buffer
      ⟨true, ⟨settled.buffer, .positioned settled.span⟩, settled.notes⟩ :=
  if_neg nonempty

theorem seek_of_grew (empty : buffer.window = []) (grew : buffer.fill.grew = true) :
    seek finder buffer =
      let settled := settle finder buffer.fill.buffer
      ⟨true, ⟨settled.buffer, .positioned settled.span⟩, buffer.fill.notes ++ settled.notes⟩ := by
  rw [seek, if_pos empty]
  exact if_pos grew

theorem seek_of_not_grew (empty : buffer.window = []) (same : ¬buffer.fill.grew = true) :
    seek finder buffer = ⟨false, ⟨buffer.fill.buffer, .exhausted⟩, buffer.fill.notes⟩ := by
  rw [seek, if_pos empty]
  exact if_neg same

end Seek

/-- A move stays where it is or seeks behind the last delimiter. -/
theorem advance_cases (finder : Finder) (cursor : Cursor) :
    advance finder cursor = ⟨false, ⟨cursor.buffer, .exhausted⟩, []⟩ ∨
      ∃ passed, advance finder cursor = seek finder (cursor.buffer.consume passed) := by
  obtain ⟨buffer, place⟩ := cursor
  cases place with
  | notStarted => exact .inr ⟨0, rfl⟩
  | positioned span =>
    by_cases stop : span.stop = 0
    · exact .inl (advance_of_stop_eq_zero stop)
    · exact .inr ⟨span.stop, advance_of_stop_ne_zero stop⟩
  | exhausted => exact .inl rfl

/-- Where a cursor can stand, by whether it has been stuck before. It is exhausted with nothing in its
window if it has not. -/
inductive Standing (stuck : Prop) : Cursor → Prop
  | notStarted (buffer : Buffer) (free : ¬stuck) : Standing stuck ⟨buffer, .notStarted⟩
  | positioned (buffer : Buffer) (span : Span) (free : ¬stuck) (nonempty : buffer.window ≠ []) :
      Standing stuck ⟨buffer, .positioned span⟩
  | spent (buffer : Buffer) (free : ¬stuck) (empty : buffer.window = []) :
      Standing stuck ⟨buffer, .exhausted⟩
  | halted (buffer : Buffer) (before : stuck) (nonempty : buffer.window ≠ []) :
      Standing stuck ⟨buffer, .exhausted⟩

theorem standing_settled (free : ¬stuck) (buffer : Buffer) (nonempty : buffer.window ≠ []) :
    Standing stuck ⟨(settle finder buffer).buffer, .positioned (settle finder buffer).span⟩ := by
  refine .positioned _ _ free fun empty => nonempty ?_
  have grown := settle_window_prefix finder buffer
  rwa [empty, List.prefix_nil] at grown

theorem standing_seek (finder : Finder) (free : ¬stuck) (buffer : Buffer) :
    Standing stuck (seek finder buffer).cursor := by
  by_cases empty : buffer.window = []
  · by_cases grew : buffer.fill.grew = true
    · rw [seek_of_grew empty grew]
      obtain ⟨received, window, some⟩ := buffer.fill_window
      refine standing_settled free buffer.fill.buffer ?_
      rw [window, empty, List.nil_append]
      exact some.mp grew
    · rw [seek_of_not_grew empty grew]
      exact .spent _ free ((Buffer.fill_window_of_not_grew grew).trans empty)
  · rw [seek_of_ne_nil empty]
    exact standing_settled free buffer empty

theorem stuck_positioned_iff (buffer : Buffer) (span : Span) :
    Stuck ⟨buffer, .positioned span⟩ ↔ span.stop = 0 := by
  constructor
  · intro ⟨_, place, stop⟩
    cases place
    exact stop
  · intro stop
    exact ⟨span, rfl, stop⟩

theorem not_stuck_of_not_positioned (cursor : Cursor)
    (elsewhere : cursor.place.isPositioned = false) : ¬cursor.Stuck := by
  intro ⟨_, place, _⟩
  rw [place] at elsewhere
  cases elsewhere

theorem Standing.advance (finder : Finder) (standing : Standing stuck cursor) :
    Standing (stuck ∨ cursor.Stuck) (advance finder cursor).cursor := by
  cases standing with
  | notStarted buffer free =>
    have here := not_stuck_of_not_positioned ⟨buffer, .notStarted⟩ rfl
    exact standing_seek finder (not_or.mpr ⟨free, here⟩) buffer
  | positioned buffer span free nonempty =>
    by_cases stop : span.stop = 0
    · rw [advance_of_stop_eq_zero stop]
      exact .halted buffer (.inr ⟨span, rfl, stop⟩) nonempty
    · have here := mt (stuck_positioned_iff buffer span).mp stop
      rw [advance_of_stop_ne_zero stop]
      exact standing_seek finder (not_or.mpr ⟨free, here⟩) _
  | spent buffer free empty =>
    have here := not_stuck_of_not_positioned ⟨buffer, .exhausted⟩ rfl
    exact .spent buffer (not_or.mpr ⟨free, here⟩) empty
  | halted buffer before nonempty => exact .halted buffer (.inl before) nonempty

/-- The cursor over a source after some moves. -/
def moved (finder : Finder) (source : Source) (capacity count : Nat) : Cursor :=
  (fun cursor => (advance finder cursor).cursor)^[count] (start (.ofSource source capacity))

theorem moved_succ (finder : Finder) (source : Source) (capacity count : Nat) :
    moved finder source capacity (count + 1) =
      (advance finder (moved finder source capacity count)).cursor :=
  Function.iterate_succ_apply' ..

theorem standing_moved (finder : Finder) (source : Source) (capacity count : Nat) :
    Standing (∃ earlier < count, (moved finder source capacity earlier).Stuck)
      (moved finder source capacity count) := by
  induction count with
  | zero => exact .notStarted _ (fun ⟨_, before, _⟩ => Nat.not_lt_zero _ before)
  | succ count ih =>
    rw [moved_succ]
    simpa only [Nat.lt_succ_iff_lt_or_eq, or_and_right, exists_or, exists_eq_left]
      using ih.advance finder

theorem moved_of_exhausted {source : Source} {capacity count : Nat}
    (ended : (moved finder source capacity count).place = .exhausted) (more : Nat) :
    moved finder source capacity (count + more) = moved finder source capacity count := by
  induction more with
  | zero => rfl
  | succ more ih => rw [← Nat.add_assoc, moved_succ, ih, advance_of_exhausted ended]

/-- What is left to see of an exhausted cursor: no bytes before a delimiter and no delimiter, in its
window as it is. -/
theorem views_of_exhausted (ended : cursor.place = .exhausted) :
    cursor.token.preceding = [] ∧ cursor.token.delimiter = [] ∧
      cursor.token.remainder = cursor.buffer.window := by
  rw [token, ended]
  exact ⟨List.take_zero, List.take_zero, rfl⟩

theorem Standing.remainder_eq_nil_iff (standing : Standing stuck cursor)
    (ended : cursor.place = .exhausted) : cursor.token.remainder = [] ↔ ¬stuck := by
  rw [(views_of_exhausted ended).2.2]
  cases standing with
  | notStarted buffer free => cases ended
  | positioned buffer span free nonempty => cases ended
  | spent buffer free empty => exact iff_of_true empty free
  | halted buffer before nonempty => exact iff_of_false nonempty (not_not_intro before)

/-- An exhausted cursor stays as it is and its moves fail. Over text it shows nothing. Over a stream it
shows neither bytes before a delimiter nor a delimiter, and nothing at all exactly if it has never been
stuck. -/
theorem exhausted_shows_nothing_iff_never_stuck (finder : Finder) (text : Bytes) (source : Source)
    (capacity count : Nat) :
    let overText := (Text.afterMove finder)^[count] (.start text)
    let overStream := moved finder source capacity count
    (overText.place = .exhausted → overText.token.preceding = [] ∧ overText.token.delimiter = [] ∧
        overText.token.remainder = [] ∧
        ∀ more, (Text.afterMove finder)^[count + more] (.start text) = overText ∧
          (Text.advance finder ((Text.afterMove finder)^[count + more] (.start text))).succeeded =
            false) ∧
      (overStream.place = .exhausted → overStream.token.preceding = [] ∧
        overStream.token.delimiter = [] ∧
        (overStream.token.remainder = [] ↔
          ∀ earlier < count, ¬(moved finder source capacity earlier).Stuck) ∧
        ∀ more, moved finder source capacity (count + more) = overStream ∧
          (advance finder (moved finder source capacity (count + more))).succeeded = false) := by
  refine ⟨fun ended => ?_, fun ended => ?_⟩
  · have empty := TextScan.Cursor.afterMoves_window_of_exhausted finder.wholeChars text count ended
    obtain ⟨preceding, delimiter, remainder⟩ := TextScan.Cursor.views_of_empty empty
    refine ⟨preceding, delimiter, remainder, fun more => ?_⟩
    have stays : (Text.afterMove finder)^[count + more] (.start text) =
        (Text.afterMove finder)^[count] (.start text) := by
      rw [Nat.add_comm, Function.iterate_add_apply]
      exact TextScan.Cursor.afterMoves_of_exhausted finder.wholeChars ended more
    rw [stays]
    exact ⟨rfl, congrArg TextScan.Move.succeeded (TextScan.Cursor.advance_of_exhausted ended)⟩
  · obtain ⟨preceding, delimiter, _⟩ := views_of_exhausted ended
    have nothing := (standing_moved finder source capacity count).remainder_eq_nil_iff ended
    refine ⟨preceding, delimiter, nothing.trans ?_, fun more => ?_⟩
    · simp only [not_exists, not_and]
    · rw [moved_of_exhausted ended]
      exact ⟨rfl, congrArg Move.succeeded (advance_of_exhausted ended)⟩

/-- A delimiter that is always empty and at the start of the window. The cursor over the stream shows all
three bytes after it is exhausted, the one over the text none. -/
theorem exhausted_shows_window :
    let finder : Finder := .clamp fun _ => .zero
    let overText := (Text.afterMove finder)^[2] (.start [0x61, 0x62, 0x63])
    let overStream := moved finder [.data 0x61 [0x62, 0x63]] 4 2
    overStream.place = .exhausted ∧ overStream.token.remainder = [0x61, 0x62, 0x63] ∧
      overText.place = .exhausted ∧ overText.token.remainder = [] := by
  decide +kernel

end Stream.Cursor
end TextScan
