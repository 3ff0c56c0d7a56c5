import TextScan.Stream.Buffer

/-! The read buffer in place. One row of cells holds the window between two offsets; a read writes
into the cells behind it, and room is made by copying the window to the front. -/
namespace TextScan.Stream

namespace Source

/-- One read that is offered some room: what it meets, and what the source holds after it. -/
def read (room : Nat) : Source → Outcome × Source
  | .data first rest :: source =>
    (.received ((first :: rest).take room),
      match (first :: rest).drop room with
      | [] => source
      | next :: left => .data next left :: source)
  | .interrupted :: source => (.interrupted, source)
  | .failed failure :: source => (.failed failure, source)
  | .endOfData :: source => (.ended, source)
  | [] => (.ended, [])

/-- An upper bound on the reads that a source answers before it ends. -/
def weight : Source → Nat
  | .data _ rest :: source => rest.length + 1 + weight source
  | _ :: source => 1 + weight source
  | [] => 0

theorem weight_read_lt {source left : Source} {room : Nat} {outcome : Outcome} (positive : 0 < room)
    (answers : source.read room = (outcome, left)) (goesOn : outcome ≠ .ended) :
    left.weight < source.weight := by
  cases source with
  | nil =>
    cases answers
    exact absurd rfl goesOn
  | cons event source =>
    cases event with
    | data first rest =>
      have kept := List.length_drop (i := room) (l := first :: rest)
      simp only [read] at answers
      split at answers <;> rename_i behind <;> cases answers
      · simp only [weight]
        omega
      · simp only [behind, List.length_cons] at kept
        simp only [weight]
        omega
    | interrupted => cases answers; simp only [weight]; omega
    | failed failure => cases answers; simp only [weight]; omega
    | endOfData => cases answers; exact absurd rfl goesOn

end Source

/-- Cells, of which those before `offset` are consumed, those from there to `size` are the window
and the rest are free. -/
structure Storage where
  source : Option Source
  cells : Bytes
  offset : Nat
  size : Nat
  floor : Nat
deriving DecidableEq

structure Refilled where
  grew : Bool
  storage : Storage
  reads : List Read

namespace Storage

def ofSource (source : Source) (floor : Nat) : Storage :=
  ⟨some source, [], 0, 0, floor⟩

def window (storage : Storage) : Bytes :=
  (storage.cells.take storage.size).drop storage.offset

def consume (storage : Storage) (count : Nat) : Storage :=
  { storage with offset := storage.offset + count }

/-- Copies the cells between two offsets to another place, which may overlap them. -/
def copyWithin (cells : Bytes) (start stop target : Nat) : Bytes :=
  cells.take target ++ (cells.take stop).drop start ++ cells.drop (target + (stop - start))

def makeRoom (storage : Storage) : Storage :=
  if storage.offset ≠ 0 then
    { storage with
      cells := copyWithin storage.cells storage.offset storage.size 0
      size := storage.size - storage.offset
      offset := 0 }
  else if storage.size = storage.cells.length then
    let capacity := max (storage.cells.length * 2) storage.floor
    { storage with
      cells := storage.cells ++ List.replicate (capacity - storage.cells.length) 0 }
  else storage

def write (storage : Storage) (bytes : Bytes) : Storage :=
  { storage with
    cells := storage.cells.take storage.size ++ bytes ++
      storage.cells.drop (storage.size + bytes.length)
    size := storage.size + bytes.length }

/-- Reads one after another until no cell is free or the source ends or fails. An interrupted read
is tried again. -/
def readOn (storage : Storage) (source : Source) : Storage × List Read :=
  if _ : storage.size < storage.cells.length then
    let room := storage.cells.length - storage.size
    match _ : source.read room with
    | (.received bytes, left) =>
      let filled := readOn (storage.write bytes) left
      (filled.1, ⟨storage.size, room, .received bytes⟩ :: filled.2)
    | (.interrupted, left) =>
      let filled := readOn storage left
      (filled.1, ⟨storage.size, room, .interrupted⟩ :: filled.2)
    | (.failed failure, _) =>
      ({ storage with source := none }, [⟨storage.size, room, .failed failure⟩])
    | (.ended, _) => ({ storage with source := none }, [⟨storage.size, room, .ended⟩])
  else ({ storage with source := some source }, [])
termination_by source.weight
decreasing_by
  all_goals
    refine Source.weight_read_lt (Nat.sub_pos_of_lt ‹_›) ‹_› ?_
    simp

def fill (storage : Storage) : Refilled :=
  match storage.source with
  | none => ⟨false, storage, []⟩
  | some source =>
    let roomy := storage.makeRoom
    let filled := roomy.readOn source
    ⟨roomy.size < filled.1.size, filled.1, filled.2⟩

end Storage
end TextScan.Stream
