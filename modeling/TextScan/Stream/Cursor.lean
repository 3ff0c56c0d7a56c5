import TextScan.Cursor
import TextScan.Stream.Search

/-! A cursor over a stream. It shows the bytes that are in the buffer, so more may follow than
it shows. -/
namespace TextScan.Stream

structure Cursor where
  buffer : Buffer
  place : Place
deriving DecidableEq

structure Move where
  succeeded : Bool
  cursor : Cursor
  notes : List Note

namespace Cursor

def start (buffer : Buffer) : Cursor :=
  ⟨buffer, .notStarted⟩

def token (cursor : Cursor) : Token :=
  ⟨cursor.buffer.window, cursor.place.span⟩

private def land (notes : List Note) (settled : Settled) : Move :=
  ⟨true, ⟨settled.buffer, .positioned settled.span⟩, notes ++ settled.notes⟩

def seek (finder : Finder) (buffer : Buffer) : Move :=
  if buffer.window = [] then
    let filling := buffer.fill
    if filling.grew then land filling.notes (settle finder filling.buffer)
    else ⟨false, ⟨filling.buffer, .exhausted⟩, filling.notes⟩
  else land [] (settle finder buffer)

/-- Moves to the next delimiter. A delimiter that ends where its window starts stops the walk,
because the next search would find it again. -/
def advance (finder : Finder) (cursor : Cursor) : Move :=
  match cursor.place with
  | .notStarted => seek finder cursor.buffer
  | .positioned span =>
    if span.stop = 0 then ⟨false, ⟨cursor.buffer, .exhausted⟩, []⟩
    else seek finder (cursor.buffer.consume span.stop)
  | .exhausted => ⟨false, cursor, []⟩

end Cursor
end TextScan.Stream
