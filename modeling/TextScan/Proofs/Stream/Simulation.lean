import TextScan.Stream.Cursor
import TextScan.Text
import TextScan.Proofs.CharAligned
import TextScan.Proofs.Delimiter.Alignment
import TextScan.Proofs.Delimiter.Settling
import TextScan.Proofs.Stream.Settle
import Mathlib.Logic.Function.Iterate

/-! A cursor over a stream keeps step with a cursor over the text that the stream delivers. -/
namespace TextScan.Stream.Cursor
open Utf8 (Valid)

/-- The two cursors stand at the same place with the same bytes to come. -/
inductive Simulates (finder : Finder) : Cursor → TextScan.Cursor → Prop
  | notStarted (buffer : Buffer) (sound : buffer.Sound) (valid : Valid buffer.unseen) :
      Simulates finder ⟨buffer, .notStarted⟩ ⟨buffer.unseen, .notStarted⟩
  | positioned (buffer : Buffer) (sound : buffer.Sound) (valid : Valid buffer.unseen)
      (front : Token.FrontOf ⟨buffer.window, finder.find buffer.unseen⟩
        (finder.token buffer.unseen)) :
      Simulates finder ⟨buffer, .positioned (finder.find buffer.unseen)⟩
        ⟨buffer.unseen, .positioned (finder.find buffer.unseen)⟩
  | exhausted (buffer : Buffer) : Simulates finder ⟨buffer, .exhausted⟩ ⟨[], .exhausted⟩

variable {finder : Finder} {stream : Cursor} {cursor : TextScan.Cursor}

/-- What the cursors show agrees: place, preceding bytes and delimiter, and of what follows the
stream shows the front. -/
theorem Simulates.views (related : Simulates finder stream cursor) :
    stream.place = cursor.place ∧ stream.token.preceding = cursor.token.preceding ∧
      stream.token.delimiter = cursor.token.delimiter ∧
      (stream.place.isPositioned = true →
        stream.token.remainder <+: cursor.token.remainder) := by
  cases related with
  | notStarted => exact ⟨rfl, rfl, rfl, nofun⟩
  | positioned buffer _ _ front =>
    exact ⟨rfl, front.preceding_eq, front.delimiter_eq, fun _ => front.remainder_prefix⟩
  | exhausted => exact ⟨rfl, rfl, rfl, nofun⟩

private theorem settled_simulates (settling : finder.Settling) (aligned : finder.CharAligned)
    (buffer : Buffer) (sound : buffer.Sound) (valid : Valid buffer.unseen) :
    Simulates finder ⟨(settle finder buffer).buffer, .positioned (settle finder buffer).span⟩
      ⟨buffer.unseen, .positioned (finder.wholeChars.find buffer.unseen)⟩ := by
  have front := settle_frontOf finder settling buffer sound
  have same := settle_unseen finder buffer
  rw [Settled.token, settle_span finder settling buffer sound] at front
  rw [aligned.wholeChars_find valid, settle_span finder settling buffer sound]
  rw [← same] at valid front ⊢
  exact .positioned _ (settle_sound finder buffer sound) valid front

/-- The two moves succeed alike and lead to cursors that stand alike. -/
def Alike (finder : Finder) (move : Move) (expected : TextScan.Move) : Prop :=
  move.succeeded = expected.succeeded ∧ Simulates finder move.cursor expected.cursor

/-- Both cursors find the next delimiter in the same bytes, or find them used up: a window that
is empty and stays so is the end of the text. -/
theorem seek_alike (settling : finder.Settling) (aligned : finder.CharAligned)
    (buffer : Buffer) (sound : buffer.Sound) (valid : Valid buffer.unseen) :
    Alike finder (seek finder buffer)
      (TextScan.Cursor.seek finder.wholeChars buffer.unseen) := by
  unfold seek TextScan.Cursor.seek
  split
  · rename_i empty
    dsimp only
    split
    · rename_i grew
      obtain ⟨received, window, some⟩ := buffer.fill_window
      have more : buffer.unseen ≠ [] := by
        rw [← buffer.fill_unseen, Buffer.unseen, window]
        simp [some.mp grew]
      rw [if_neg more, ← buffer.fill_unseen]
      rw [← buffer.fill_unseen] at valid
      exact ⟨rfl, settled_simulates settling aligned _ sound.fill.1 valid⟩
    · rename_i same
      rw [if_pos (by rw [Buffer.unseen, empty, sound.undelivered_of_not_grew same]; rfl)]
      exact ⟨rfl, .exhausted _⟩
  · rename_i some
    rw [if_neg (by simp [Buffer.unseen, some])]
    exact ⟨rfl, settled_simulates settling aligned buffer sound valid⟩

/-- From cursors that stand alike, moves lead to such cursors again. -/
theorem Simulates.alike_advance (settling : finder.Settling) (aligned : finder.CharAligned)
    (related : Simulates finder stream cursor) :
    Alike finder (advance finder stream) (Text.advance finder cursor) := by
  cases related with
  | notStarted buffer sound valid => exact seek_alike settling aligned buffer sound valid
  | positioned buffer sound valid front =>
    unfold advance Text.advance TextScan.Cursor.advance
    dsimp only
    split
    · exact ⟨rfl, .exhausted buffer⟩
    · have rest : (buffer.consume (finder.find buffer.unseen).stop).unseen =
          buffer.unseen.drop (finder.find buffer.unseen).stop :=
        buffer.consume_unseen _ front.valid.2
      have next : Valid (buffer.unseen.drop (finder.find buffer.unseen).stop) :=
        aligned.remainder_valid valid
      change Alike finder _ (TextScan.Cursor.seek finder.wholeChars
        (buffer.unseen.drop (finder.find buffer.unseen).stop))
      rw [← rest] at next ⊢
      exact seek_alike settling aligned _ (sound.consume _) next
  | exhausted buffer => exact ⟨rfl, .exhausted buffer⟩

theorem Simulates.afterMoves (settling : finder.Settling) (aligned : finder.CharAligned)
    (related : Simulates finder stream cursor) (count : Nat) :
    Simulates finder ((fun stream => (advance finder stream).cursor)^[count] stream)
      ((Text.afterMove finder)^[count] cursor) := by
  induction count with
  | zero => exact related
  | succ count ih =>
    rw [Function.iterate_succ_apply', Function.iterate_succ_apply']
    exact (ih.alike_advance settling aligned).2

/-- After any number of moves a cursor over a stream shows what a cursor over the delivered text
shows, and their next moves succeed alike. -/
theorem advance_agrees_with_text (finder : Finder) (settling : finder.Settling)
    (aligned : finder.CharAligned) (text : Bytes) (valid : Valid text) (source : Source)
    (delivers : source.delivered = text) (capacity : Nat) (positive : 1 ≤ capacity)
    (count : Nat) :
    let moved := (fun stream => (advance finder stream).cursor)^[count]
      (start (.ofSource source capacity))
    let expected := (Text.afterMove finder)^[count] (.start text)
    (advance finder moved).succeeded = (Text.advance finder expected).succeeded ∧
      moved.place = expected.place ∧
      moved.token.preceding = expected.token.preceding ∧
      moved.token.delimiter = expected.token.delimiter ∧
      (moved.place.isPositioned = true →
        moved.token.remainder <+: expected.token.remainder) := by
  subst delivers
  have sound := Buffer.sound_ofSource source capacity positive
  have run := (Simulates.notStarted _ sound valid).afterMoves settling aligned count
  exact ⟨(run.alike_advance settling aligned).1, run.views⟩

/-- The second of two commas ends a text that comes byte by byte and in which a character is cut.
The third move finds nothing left. -/
theorem advance_agrees_with_text_past_the_end :
    let finder := (Delimiter.oneByte 0x2c).finder
    let text : Bytes := [0xc3, 0xa9, 0x2c, 0x2c]
    let source : Source :=
      [.data 0xc3 [], .data 0xa9 [], .data 0x2c [], .interrupted, .data 0x2c [], .endOfData]
    finder.Settling ∧ finder.CharAligned ∧ Valid text ∧ source.delivered = text ∧ 1 ≤ 1 ∧
      ((fun stream => (advance finder stream).cursor)^[3] (start (.ofSource source 1))).place =
        .exhausted := by
  have aligned : (Delimiter.oneByte 0x2c).finder.CharAligned :=
    Delimiter.Textual.charAligned (show (0x2c : UInt8) < 0x80 by decide)
  have valid : Valid [0xc3, 0xa9, 0x2c, 0x2c] := by decide
  refine ⟨Delimiter.settling _, aligned, valid, rfl, Nat.le_refl 1, ?_⟩
  exact (advance_agrees_with_text _ (Delimiter.settling _) aligned _ valid _ rfl 1
    (Nat.le_refl 1) 3).2.1.trans (by decide +kernel)

end TextScan.Stream.Cursor
