import TextScan.Proofs.Stream.InPlace
import Mathlib.Algebra.Group.Nat.Hom
import Mathlib.Logic.Relation

/-! What any use of a buffer keeps. Whatever is filled and consumed, in whichever order, the
consumed bytes and the window after them are what the source has answered so far. -/
namespace TextScan.Stream

namespace Buffer

theorem fill_window_reads (buffer : Buffer) :
    buffer.fill.buffer.window = buffer.window ++ buffer.fill.reads.flatMap Read.bytes := by
  cases present : buffer.source with
  | none =>
    rw [fill, present]
    exact (List.append_nil _).symm
  | some source =>
    rw [fill_reads present, source.drain_reads]
    simp only [fill, present, makeRoom_window]

theorem fill_reads_undelivered (buffer : Buffer) :
    buffer.fill.reads.flatMap Read.bytes ++ undelivered buffer.fill.buffer.source =
      undelivered buffer.source := by
  have kept := buffer.fill_unseen
  rw [unseen, unseen, fill_window_reads, List.append_assoc] at kept
  exact List.append_cancel_left kept

theorem fill_floor (buffer : Buffer) : buffer.fill.buffer.floor = buffer.floor := by
  unfold fill makeRoom
  split
  · rfl
  · split
    · rfl
    · split <;> rfl

/-- A fill gives a buffer other room only when the whole of it is unconsumed. -/
theorem fill_capacity_cases (buffer : Buffer) :
    buffer.fill.buffer.capacity = buffer.capacity ∨
      buffer.window.length = buffer.capacity ∧
        buffer.fill.buffer.capacity = max (buffer.capacity * 2) buffer.floor := by
  cases present : buffer.source with
  | none =>
    rw [fill, present]
    exact .inl rfl
  | some source =>
    have roomy : buffer.fill.buffer.capacity = buffer.makeRoom.1.capacity := by
      simp only [fill, present]
    rw [roomy]
    by_cases unmoved : buffer.offset = 0
    · by_cases full : buffer.size = buffer.capacity
      · rw [makeRoom_of_full unmoved full]
        rw [size, unmoved, Nat.zero_add] at full
        exact .inr ⟨full, rfl⟩
      · rw [makeRoom_of_free unmoved full]
        exact .inl rfl
    · rw [makeRoom_of_consumed unmoved]
      exact .inl rfl

theorem fill_full {buffer : Buffer} (sound : buffer.Sound) :
    buffer.fill.buffer.isExhausted = true ∨
      buffer.fill.buffer.size = buffer.fill.buffer.capacity :=
  sound.fill.2.imp_left fun gone => by rw [isExhausted, gone]; rfl

theorem consume_size (buffer : Buffer) (count : Nat) :
    (buffer.consume count).size = buffer.size := by
  simp only [consume, size, List.length_drop]
  omega

end Buffer

/-- A buffer, by itself and in place, with the bytes consumed and the reads made so far. -/
structure History where
  buffer : Buffer
  storage : Storage
  consumed : Bytes
  reads : List Read

namespace History

def start (source : Source) (capacity : Nat) : History :=
  ⟨.ofSource source capacity, .ofSource source capacity, [], []⟩

def received (history : History) : Bytes :=
  history.reads.flatMap Read.bytes

def fill (history : History) : History :=
  { buffer := history.buffer.fill.buffer
    storage := history.storage.fill.storage
    consumed := history.consumed
    reads := history.reads ++ history.storage.fill.reads }

def consume (history : History) (count : Nat) : History :=
  { buffer := history.buffer.consume count
    storage := history.storage.consume count
    consumed := history.consumed ++ history.buffer.window.take count
    reads := history.reads }

/-- One use of a buffer. No more than the window may be consumed. -/
inductive Use : History → History → Prop
  | fill (history : History) : Use history history.fill
  | consume (history : History) (count : Nat) (inside : count ≤ history.buffer.window.length) :
      Use history (history.consume count)

abbrev LeadsTo : History → History → Prop :=
  Relation.ReflTransGen Use

structure Kept (source : Source) (capacity : Nat) (history : History) : Prop where
  ordered : history.storage.Ordered
  in_place : history.storage.buffer = history.buffer
  sound : history.buffer.Sound
  floor_eq : history.buffer.floor = capacity
  conserved : history.consumed ++ history.buffer.window = history.received
  delivered : history.received ++ undelivered history.buffer.source = source.delivered
  doubled : history.buffer.capacity = 0 ∨
    ∃ doublings, history.buffer.capacity = capacity * 2 ^ doublings
  full : history.buffer.isExhausted = true ∨ history.buffer.size = history.buffer.capacity

variable {source : Source} {capacity : Nat} {history : History}

theorem kept_start (source : Source) (capacity : Nat) (positive : 1 ≤ capacity) :
    Kept source capacity (start source capacity) where
  ordered := ⟨Nat.le_refl 0, Nat.le_refl 0⟩
  in_place := rfl
  sound := Buffer.sound_ofSource source capacity positive
  floor_eq := rfl
  conserved := rfl
  delivered := rfl
  doubled := .inl rfl
  full := .inr rfl

theorem doubled_max (capacity current : Nat)
    (doubled : current = 0 ∨ ∃ doublings, current = capacity * 2 ^ doublings) :
    ∃ doublings, max (current * 2) capacity = capacity * 2 ^ doublings := by
  rcases doubled with none | ⟨doublings, some⟩
  · exact ⟨0, by rw [none]; simp⟩
  · refine ⟨doublings + 1, ?_⟩
    have least : capacity * 1 ≤ capacity * 2 ^ doublings :=
      Nat.mul_le_mul_left capacity Nat.one_le_two_pow
    rw [pow_succ, ← mul_assoc, ← some]
    omega

theorem Kept.fill (kept : Kept source capacity history) : Kept source capacity history.fill := by
  obtain ⟨ordered, in_place, _, reads_eq⟩ := kept.ordered.fill
  rw [kept.in_place] at in_place reads_eq
  have received_eq : history.fill.received =
      history.received ++ history.buffer.fill.reads.flatMap Read.bytes := by
    rw [received, History.fill, reads_eq, List.flatMap_append]
    rfl
  refine ⟨ordered, in_place, kept.sound.fill.1, history.buffer.fill_floor.trans kept.floor_eq,
    ?_, ?_, ?_, ?_⟩
  · rw [received_eq, ← kept.conserved, List.append_assoc, ← Buffer.fill_window_reads]
    rfl
  · rw [received_eq, List.append_assoc]
    exact (congrArg _ history.buffer.fill_reads_undelivered).trans kept.delivered
  · rcases history.buffer.fill_capacity_cases with same | ⟨_, grown⟩
    · exact same ▸ kept.doubled
    · rw [kept.floor_eq] at grown
      exact .inr (grown ▸ doubled_max capacity history.buffer.capacity kept.doubled)
  · exact Buffer.fill_full kept.sound

theorem Kept.consume (kept : Kept source capacity history) {count : Nat}
    (inside : count ≤ history.buffer.window.length) :
    Kept source capacity (history.consume count) := by
  have window_eq : history.storage.window = history.buffer.window :=
    congrArg Buffer.window kept.in_place
  obtain ⟨ordered, in_place⟩ := kept.ordered.consume (window_eq ▸ inside)
  rw [kept.in_place] at in_place
  refine ⟨ordered, in_place, kept.sound.consume count, kept.floor_eq, ?_, kept.delivered,
    kept.doubled, ?_⟩
  · change (history.consumed ++ history.buffer.window.take count) ++
      history.buffer.window.drop count = history.received
    rw [List.append_assoc, List.take_append_drop, kept.conserved]
  · exact kept.full.imp_right (history.buffer.consume_size count).trans

theorem Kept.use {next : History} (kept : Kept source capacity history) (use : Use history next) :
    Kept source capacity next ∧ history.buffer.capacity ≤ next.buffer.capacity := by
  cases use with
  | fill =>
    refine ⟨kept.fill, ?_⟩
    change history.buffer.capacity ≤ history.buffer.fill.buffer.capacity
    have capacity_eq := history.buffer.fill_capacity_cases
    omega
  | consume count inside => exact ⟨kept.consume inside, Nat.le_refl _⟩

theorem Kept.leadsTo {later : History} (kept : Kept source capacity history)
    (uses : LeadsTo history later) :
    Kept source capacity later ∧ history.buffer.capacity ≤ later.buffer.capacity := by
  induction uses with
  | refl => exact ⟨kept, Nat.le_refl _⟩
  | tail _ use ih =>
    obtain ⟨next, grown⟩ := ih.1.use use
    exact ⟨next, Nat.le_trans ih.2 grown⟩

/-- However a buffer is used, nothing is lost, doubled or moved out of order: what was consumed and
the window after it are what the source returned, which is the front of its data and in the end all
of it. The buffer in place holds the same window between its offsets. The capacity only ever
doubles, and room is left free only at the end of the data. -/
theorem uses_conserve_bytes (source : Source) (capacity : Nat) (positive : 1 ≤ capacity)
    (earlier later : History) (reached : LeadsTo (start source capacity) earlier)
    (uses : LeadsTo earlier later) :
    (later.buffer.offset ≤ later.buffer.size ∧ later.buffer.size ≤ later.buffer.capacity) ∧
      (later.storage.buffer = later.buffer ∧ later.storage.offset ≤ later.storage.size ∧
        later.storage.size ≤ later.storage.cells.length) ∧
      later.consumed ++ later.buffer.window = later.received ∧
      later.received <+: source.delivered ∧
      (later.buffer.isExhausted = true → later.received = source.delivered) ∧
      (later.buffer.capacity = 0 ∨ ∃ doublings, later.buffer.capacity = capacity * 2 ^ doublings) ∧
      earlier.buffer.capacity ≤ later.buffer.capacity ∧
      (later.buffer.isExhausted = true ∨ later.buffer.size = later.buffer.capacity) := by
  obtain ⟨before, _⟩ := (kept_start source capacity positive).leadsTo reached
  obtain ⟨kept, grown⟩ := before.leadsTo uses
  refine ⟨⟨Nat.le_add_right _ _, kept.sound.size_le⟩,
    ⟨kept.in_place, kept.ordered.offset_le, kept.ordered.size_le⟩, kept.conserved,
    ⟨_, kept.delivered⟩, fun exhausted => ?_, kept.doubled, grown, kept.full⟩
  have gone : later.buffer.source = none := Option.isNone_iff_eq_none.mp exhausted
  have delivered := kept.delivered
  rwa [gone, undelivered, List.append_nil] at delivered

/-- The second fill copies two bytes over the first one and has room for one more, the third doubles
the capacity and meets an interruption and the end. -/
theorem uses_conserve_bytes_over_copy :
    let source : Source :=
      [.data 0x61 [0x62, 0x63, 0x64], .interrupted, .data 0x65 [], .failed .other, .data 0x66 []]
    let first := (start source 3).fill
    let last := (first.consume 1).fill.fill
    1 ≤ 3 ∧ LeadsTo (start source 3) first ∧ LeadsTo first last ∧
      last.consumed ++ last.buffer.window = source.delivered ∧
      last.storage.cells = [0x62, 0x63, 0x64, 0x65, 0, 0] := by
  intro source first last
  have reached : LeadsTo (start source 3) first := .single (.fill _)
  have uses : LeadsTo first last :=
    .tail (.tail (.single (.consume first 1 (by decide))) (.fill _)) (.fill _)
  obtain ⟨_, _, conserved, _, ended, _⟩ :=
    uses_conserve_bytes source 3 (by decide) first last reached uses
  exact ⟨by decide, reached, uses, conserved.trans (ended (by decide)), by decide +kernel⟩

end History
end TextScan.Stream
