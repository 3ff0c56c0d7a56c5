import TextScan.Bytes

/-! Byte sources that deliver their data in pieces, and how a reader drains one into free
space. A source is the list of what its reads meet. -/
namespace TextScan.Stream

inductive ReadFailure where
  | other
  | wouldBlock
  | unexpectedEnd
  | system (code : Nat) (reason : String)
deriving DecidableEq

namespace ReadFailure

def message : ReadFailure → String
  | .other => "other error"
  | .wouldBlock => "operation would block"
  | .unexpectedEnd => "unexpected end of file"
  | .system code reason => reason ++ " (os error " ++ toString code ++ ")"

end ReadFailure

/-- What a read meets. A piece of data has at least one byte: a read that brings none is the
end of the data, after which a source may still hold more. -/
inductive Event where
  | data (first : UInt8) (rest : Bytes)
  | interrupted
  | failed (failure : ReadFailure)
  | endOfData
deriving DecidableEq

abbrev Source := List Event

inductive Outcome where
  | received (bytes : Bytes)
  | interrupted
  | failed (failure : ReadFailure)
  | ended
deriving DecidableEq

/-- One read: the bytes the buffer held before it, the free space offered and what came. -/
structure Read where
  held : Nat
  room : Nat
  outcome : Outcome
deriving DecidableEq

/-- What came of a series of reads. The source is gone once it has ended or failed. -/
structure Drained where
  received : Bytes
  source : Option Source
  reads : List Read

namespace Source

/-- The data up to the first end or failure. -/
def delivered : Source → Bytes
  | [] => []
  | .data first rest :: source => (first :: rest) ++ delivered source
  | .interrupted :: source => delivered source
  | .failed _ :: _ => []
  | .endOfData :: _ => []

/-- Reads on from `held` bytes, with the bytes and reads so far in reverse. One read takes what
fits of one piece and leaves the rest of the piece first in line; an interrupted read is tried
again. -/
def drainFrom (capacity held : Nat) (received : Bytes) (reads : List Read) (source : Source) :
    Drained :=
  if held < capacity then
    let room := capacity - held
    match source with
    | .data first rest :: source =>
      let taken := (first :: rest).take room
      let received := taken.reverse ++ received
      let reads := ⟨held, room, .received taken⟩ :: reads
      match (first :: rest).drop room with
      | [] => drainFrom capacity (held + taken.length) received reads source
      | next :: left => ⟨received.reverse, some (.data next left :: source), reads.reverse⟩
    | .interrupted :: source =>
      drainFrom capacity held received (⟨held, room, .interrupted⟩ :: reads) source
    | .failed failure :: _ =>
      ⟨received.reverse, none, (⟨held, room, .failed failure⟩ :: reads).reverse⟩
    | .endOfData :: _ => ⟨received.reverse, none, (⟨held, room, .ended⟩ :: reads).reverse⟩
    | [] => ⟨received.reverse, none, (⟨held, room, .ended⟩ :: reads).reverse⟩
  else ⟨received.reverse, some source, reads.reverse⟩

def drain (capacity held : Nat) (source : Source) : Drained :=
  drainFrom capacity held [] [] source

end Source

/-- What a source, if it is still there, has yet to deliver. -/
def undelivered : Option Source → Bytes
  | some source => source.delivered
  | none => []

theorem Source.drainFrom_delivered (capacity held : Nat) (received : Bytes) (reads : List Read)
    (source : Source) :
    (source.drainFrom capacity held received reads).received ++
      undelivered (source.drainFrom capacity held received reads).source =
    received.reverse ++ source.delivered := by
  induction source generalizing held received reads with
  | nil =>
    rw [drainFrom]
    split <;> simp [undelivered, delivered]
  | cons event source ih =>
    rw [drainFrom]
    split
    · cases event with
      | data first rest =>
        have whole := List.take_append_drop (capacity - held) (first :: rest)
        dsimp only
        split <;> rename_i left
        · rw [left, List.append_nil] at whole
          rw [ih, delivered, whole]
          simp
        · rw [left] at whole
          simp only [undelivered, delivered, List.reverse_append, List.reverse_reverse,
            List.append_assoc]
          rw [← List.append_assoc (List.take _ _), whole]
      | interrupted => exact ih held received _
      | failed failure => simp [undelivered, delivered]
      | endOfData => simp [undelivered, delivered]
    · rfl

theorem Source.drain_delivered (capacity held : Nat) (source : Source) :
    (source.drain capacity held).received ++ undelivered (source.drain capacity held).source =
      source.delivered :=
  drainFrom_delivered capacity held [] [] source

end TextScan.Stream
