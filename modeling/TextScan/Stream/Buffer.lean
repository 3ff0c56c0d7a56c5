import TextScan.Stream.Source

/-! The read buffer: a window of bytes read but not consumed, behind the consumed bytes that
the next fill shifts out. It doubles only when it is full and nothing can be shifted out. -/
namespace TextScan.Stream

/-- What happened, in order, while a buffer was filled and searched. -/
inductive Note where
  | searched (window : Bytes)
  | compacted (consumed kept : Nat)
  | grown (before after : Nat)
  | read (read : Read)
  | filled (count window : Nat)
deriving DecidableEq

/-- A buffer of some capacity, with `offset` consumed bytes in front of its window. It allocates
nothing before the first fill and then at least `floor` bytes. -/
structure Buffer where
  source : Option Source
  window : Bytes
  offset : Nat
  capacity : Nat
  floor : Nat
deriving DecidableEq

structure Filling where
  grew : Bool
  buffer : Buffer
  notes : List Note

namespace Buffer

def defaultFloor : Nat := 65536

def ofSource (source : Source) (floor : Nat) : Buffer :=
  ⟨some source, [], 0, 0, floor⟩

def size (buffer : Buffer) : Nat :=
  buffer.offset + buffer.window.length

/-- The source has ended or failed, and is not read again. -/
def isExhausted (buffer : Buffer) : Bool :=
  buffer.source.isNone

/-- All that can still be seen: the window and what the source has yet to deliver. -/
def unseen (buffer : Buffer) : Bytes :=
  buffer.window ++ undelivered buffer.source

/-- Marks bytes at the front of the window as consumed, at most all of them. -/
def consume (buffer : Buffer) (count : Nat) : Buffer :=
  { buffer with
    window := buffer.window.drop count
    offset := buffer.offset + min count buffer.window.length }

def makeRoom (buffer : Buffer) : Buffer × List Note :=
  if buffer.offset ≠ 0 then
    ({ buffer with offset := 0 }, [.compacted buffer.offset buffer.window.length])
  else if buffer.size = buffer.capacity then
    let capacity := max (buffer.capacity * 2) buffer.floor
    ({ buffer with capacity := capacity }, [.grown buffer.capacity capacity])
  else (buffer, [])

def fill (buffer : Buffer) : Filling :=
  match buffer.source with
  | none => ⟨false, buffer, []⟩
  | some source =>
    let roomy := buffer.makeRoom.1
    let drained := source.drain roomy.capacity roomy.size
    let count := drained.received.length
    { grew := count != 0
      buffer := { roomy with source := drained.source, window := roomy.window ++ drained.received }
      notes := buffer.makeRoom.2 ++ drained.reads.map .read ++
        if count = 0 then [] else [.filled count (roomy.window.length + count)] }

def describe (buffer : Buffer) : String :=
  "StreamBuffer \x7b offset: " ++ toString buffer.offset ++ ", size: " ++ toString buffer.size ++
    ", capacity: " ++ toString buffer.capacity ++
    ", exhausted: " ++ (if buffer.isExhausted then "true" else "false") ++ " \x7d"

theorem makeRoom_window (buffer : Buffer) : buffer.makeRoom.1.window = buffer.window := by
  unfold makeRoom
  split
  · rfl
  · split <;> rfl

/-- Filling moves bytes from the source into the window and does nothing else to them. -/
theorem fill_unseen (buffer : Buffer) : buffer.fill.buffer.unseen = buffer.unseen := by
  unfold fill
  split
  · rfl
  · rename_i source present
    have moved := source.drain_delivered buffer.makeRoom.1.capacity buffer.makeRoom.1.size
    simp only [unseen, List.append_assoc, makeRoom_window, present]
    exact congrArg _ moved

theorem fill_window (buffer : Buffer) :
    ∃ received, buffer.fill.buffer.window = buffer.window ++ received ∧
      (buffer.fill.grew = true ↔ received ≠ []) := by
  unfold fill
  split
  · exact ⟨[], by simp⟩
  · exact ⟨_, congrArg (· ++ _) buffer.makeRoom_window, by simp⟩

theorem fill_window_of_not_grew {buffer : Buffer} (same : ¬buffer.fill.grew = true) :
    buffer.fill.buffer.window = buffer.window := by
  obtain ⟨received, window, grew⟩ := buffer.fill_window
  have none : received = [] := Decidable.not_not.mp (mt grew.mpr same)
  rw [window, none, List.append_nil]

theorem undelivered_fill_lt {buffer : Buffer} (grew : buffer.fill.grew = true) :
    (undelivered buffer.fill.buffer.source).length < (undelivered buffer.source).length := by
  obtain ⟨received, window, some⟩ := buffer.fill_window
  have total := congrArg List.length buffer.fill_unseen
  have positive := List.length_pos_iff.mpr (some.mp grew)
  simp only [unseen, window, List.length_append] at total
  omega

theorem consume_unseen_length (buffer : Buffer) (count : Nat) :
    (buffer.consume count).unseen.length =
      buffer.window.length - count + (undelivered buffer.source).length := by
  simp [consume, unseen]

end Buffer
end TextScan.Stream
