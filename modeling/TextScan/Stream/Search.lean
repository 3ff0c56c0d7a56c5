import TextScan.Stream.Buffer
import TextScan.Token

/-! Searching a stream. A span that ends inside the window stands; one that touches the end may
change with more bytes, so the buffer is filled and searched again while that brings any. -/
namespace TextScan.Stream

structure Settled where
  span : Span
  buffer : Buffer
  notes : List Note

def settle (finder : Finder) (buffer : Buffer) : Settled :=
  let span := finder.find buffer.window
  let searched := Note.searched buffer.window
  if span.reachesEnd buffer.window.length then
    let filling := buffer.fill
    if _ : filling.grew = true then
      let settled := settle finder filling.buffer
      ⟨settled.span, settled.buffer, searched :: filling.notes ++ settled.notes⟩
    else ⟨span, filling.buffer, searched :: filling.notes⟩
  else ⟨span, buffer, [searched]⟩
termination_by (undelivered buffer.source).length
decreasing_by exact Buffer.undelivered_fill_lt ‹_›

namespace Settled

def token (settled : Settled) : Token :=
  ⟨settled.buffer.window, settled.span⟩

end Settled

theorem settle_unseen (finder : Finder) (buffer : Buffer) :
    (settle finder buffer).buffer.unseen = buffer.unseen := by
  fun_induction settle finder buffer with
  | case1 buffer _ _ _ _ _ _ ih => exact ih.trans buffer.fill_unseen
  | case2 buffer => exact buffer.fill_unseen
  | case3 => rfl

theorem settle_span_validFor (finder : Finder) (buffer : Buffer) :
    (settle finder buffer).span.ValidFor (settle finder buffer).buffer.window.length := by
  fun_induction settle finder buffer with
  | case1 _ _ _ _ _ _ _ ih => exact ih
  | case2 buffer _ _ _ _ same =>
    change Span.ValidFor _ buffer.fill.buffer.window.length
    rw [Buffer.fill_window_of_not_grew same]
    exact finder.find_valid buffer.window
  | case3 buffer => exact finder.find_valid buffer.window

end TextScan.Stream
