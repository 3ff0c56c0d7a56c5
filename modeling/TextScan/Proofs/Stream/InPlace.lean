import TextScan.Proofs.Stream.Fill

/-! A buffer in place does what the buffer does. Copying the window to the front, growing and
writing behind the window leave it the bytes that it had and those that were read. -/
namespace TextScan.Stream

def Note.read? : Note → Option Read
  | .read issued => some issued
  | _ => none

namespace Buffer
variable {buffer : Buffer}

theorem makeRoom_of_consumed (consumed : buffer.offset ≠ 0) :
    buffer.makeRoom.1 = { buffer with offset := 0 } := by
  rw [makeRoom, if_pos consumed]

theorem makeRoom_of_full (unmoved : buffer.offset = 0) (full : buffer.size = buffer.capacity) :
    buffer.makeRoom.1 = { buffer with capacity := max (buffer.capacity * 2) buffer.floor } := by
  rw [makeRoom, if_neg (not_not_intro unmoved), if_pos full]

theorem makeRoom_of_free (unmoved : buffer.offset = 0) (free : buffer.size ≠ buffer.capacity) :
    buffer.makeRoom.1 = buffer := by
  rw [makeRoom, if_neg (not_not_intro unmoved), if_neg free]

end Buffer

namespace Storage

def buffer (storage : Storage) : Buffer :=
  ⟨storage.source, storage.window, storage.offset, storage.cells.length, storage.floor⟩

structure Ordered (storage : Storage) : Prop where
  offset_le : storage.offset ≤ storage.size
  size_le : storage.size ≤ storage.cells.length

variable {storage : Storage}

theorem Ordered.window_length (ordered : storage.Ordered) :
    storage.window.length = storage.size - storage.offset := by
  have size_le := ordered.size_le
  rw [window, List.length_drop, List.length_take]
  omega

theorem Ordered.buffer_size (ordered : storage.Ordered) : storage.buffer.size = storage.size := by
  have offset_le := ordered.offset_le
  change storage.offset + storage.window.length = storage.size
  rw [ordered.window_length]
  omega

theorem Ordered.consume (ordered : storage.Ordered) {count : Nat}
    (inside : count ≤ storage.window.length) :
    (storage.consume count).Ordered ∧
      (storage.consume count).buffer = storage.buffer.consume count := by
  have length_eq := ordered.window_length
  have offset_le := ordered.offset_le
  refine ⟨⟨?_, ordered.size_le⟩, ?_⟩
  · simp only [Storage.consume]
    omega
  · simp only [buffer, Buffer.consume, Nat.min_eq_left inside]
    simp only [Storage.consume, window, List.drop_drop]

theorem length_copyWithin (cells : Bytes) (start stop target : Nat) (inside : stop ≤ cells.length)
    (fits : target + (stop - start) ≤ cells.length) :
    (copyWithin cells start stop target).length = cells.length := by
  simp only [copyWithin, List.length_append, List.length_take, List.length_drop]
  omega

/-- A copy arrives whole, also where it overlaps the cells that it comes from. -/
theorem drop_take_copyWithin (cells : Bytes) (start stop target : Nat) (inside : stop ≤ cells.length)
    (fits : target + (stop - start) ≤ cells.length) :
    ((copyWithin cells start stop target).take (target + (stop - start))).drop target =
      (cells.take stop).drop start := by
  have front : (cells.take target).length = target := by
    rw [List.length_take]
    omega
  have moved : ((cells.take stop).drop start).length = stop - start := by
    rw [List.length_drop, List.length_take]
    omega
  rw [copyWithin, List.take_left' (by rw [List.length_append, front, moved]), List.drop_left' front]

theorem Ordered.makeRoom (ordered : storage.Ordered) :
    storage.makeRoom.Ordered ∧ storage.makeRoom.buffer = storage.buffer.makeRoom.1 := by
  have offset_le := ordered.offset_le
  have size_le := ordered.size_le
  have buffer_size := ordered.buffer_size
  by_cases unmoved : storage.offset = 0
  · by_cases full : storage.size = storage.cells.length
    · rw [Buffer.makeRoom_of_full unmoved (buffer_size.trans full), Storage.makeRoom,
        if_neg (not_not_intro unmoved), if_pos full]
      refine ⟨⟨offset_le, ?_⟩, ?_⟩
      · rw [List.length_append]
        exact Nat.le_add_right_of_le size_le
      · simp only [buffer, window, List.take_append_of_le_length size_le, List.length_append,
          List.length_replicate]
        congr 1
        omega
    · rw [Buffer.makeRoom_of_free unmoved (mt buffer_size.symm.trans full), Storage.makeRoom,
        if_neg (not_not_intro unmoved), if_neg full]
      exact ⟨ordered, rfl⟩
  · have fits : 0 + (storage.size - storage.offset) ≤ storage.cells.length := by omega
    have length_eq := length_copyWithin storage.cells storage.offset storage.size 0 size_le fits
    have window_eq := drop_take_copyWithin storage.cells storage.offset storage.size 0 size_le fits
    rw [Nat.zero_add] at window_eq
    rw [Buffer.makeRoom_of_consumed unmoved, Storage.makeRoom, if_pos unmoved]
    refine ⟨⟨Nat.zero_le _, ?_⟩, ?_⟩
    · simp only [length_eq]
      omega
    · simp only [buffer, window, window_eq, length_eq]

theorem Ordered.write (ordered : storage.Ordered) (bytes : Bytes)
    (room : storage.size + bytes.length ≤ storage.cells.length) :
    (storage.write bytes).Ordered ∧
      (storage.write bytes).cells.length = storage.cells.length ∧
      (storage.write bytes).window = storage.window ++ bytes := by
  have offset_le := ordered.offset_le
  have front : (storage.cells.take storage.size).length = storage.size := by
    rw [List.length_take]
    omega
  have length_eq : (storage.write bytes).cells.length = storage.cells.length := by
    simp only [Storage.write, List.length_append, front, List.length_drop]
    omega
  refine ⟨⟨Nat.le_add_right_of_le offset_le, by rwa [length_eq]⟩, length_eq, ?_⟩
  rw [window, window, Storage.write, List.take_left' (by rw [List.length_append, front]),
    List.drop_append_of_le_length (by rwa [front])]

theorem Ordered.readOn (ordered : storage.Ordered) (source : Source) :
    let drained := source.drain storage.cells.length storage.size
    (storage.readOn source).1.Ordered ∧
      (storage.readOn source).1.buffer =
        { storage.buffer with
          source := drained.source
          window := storage.window ++ drained.received } ∧
      (storage.readOn source).2 = drained.reads := by
  fun_induction Storage.readOn storage source with
  | case1 storage source free room bytes left answers filled ih =>
    have short := Source.read_received_length_le answers
    obtain ⟨written, length_eq, window_eq⟩ := ordered.write bytes (by omega)
    obtain ⟨filled_ordered, buffer_eq, reads_eq⟩ := ih written
    rw [length_eq, window_eq, List.append_assoc] at buffer_eq
    rw [length_eq] at reads_eq
    rw [Source.drain_read _ _ _ free, answers]
    refine ⟨filled_ordered, buffer_eq.trans ?_, congrArg _ reads_eq⟩
    rw [buffer, length_eq]
    rfl
  | case2 storage source free room left answers filled ih =>
    obtain ⟨filled_ordered, buffer_eq, reads_eq⟩ := ih ordered
    rw [Source.drain_read _ _ _ free, answers]
    exact ⟨filled_ordered, buffer_eq, congrArg _ reads_eq⟩
  | case3 storage source free room failure left answers =>
    rw [Source.drain_read _ _ _ free, answers]
    exact ⟨⟨ordered.offset_le, ordered.size_le⟩, by simp [buffer, window], rfl⟩
  | case4 storage source free room left answers =>
    rw [Source.drain_read _ _ _ free, answers]
    exact ⟨⟨ordered.offset_le, ordered.size_le⟩, by simp [buffer, window], rfl⟩
  | case5 storage source full =>
    rw [Source.drain_full _ _ _ full]
    exact ⟨⟨ordered.offset_le, ordered.size_le⟩, by simp [buffer, window], rfl⟩

end Storage

def Filling.reads (filling : Filling) : List Read :=
  filling.notes.filterMap Note.read?

theorem Buffer.fill_reads {buffer : Buffer} {source : Source} (present : buffer.source = some source) :
    buffer.fill.reads =
      (source.drain buffer.makeRoom.1.capacity buffer.makeRoom.1.size).reads := by
  have room : buffer.makeRoom.2.filterMap Note.read? = [] := by
    unfold makeRoom
    split
    · rfl
    · split <;> rfl
  have some_read : Note.read? ∘ Note.read = some := rfl
  simp only [Filling.reads, fill, present, List.filterMap_append, room, List.nil_append,
    List.filterMap_map, some_read, List.filterMap_some]
  split
  · exact List.append_nil _
  · exact List.append_nil _

/-- A fill in place is a fill: the same bytes come to lie behind the window, after the same reads. -/
theorem Storage.Ordered.fill {storage : Storage} (ordered : storage.Ordered) :
    storage.fill.storage.Ordered ∧ storage.fill.storage.buffer = storage.buffer.fill.buffer ∧
      storage.fill.grew = storage.buffer.fill.grew ∧
      storage.fill.reads = storage.buffer.fill.reads := by
  cases present : storage.source with
  | none =>
    have gone : storage.buffer.source = none := present
    rw [Storage.fill, Buffer.fill, present, gone]
    exact ⟨ordered, rfl, rfl, rfl⟩
  | some source =>
    have kept : storage.buffer.source = some source := present
    obtain ⟨roomy, roomy_eq⟩ := ordered.makeRoom
    obtain ⟨filled, buffer_eq, reads_eq⟩ := roomy.readOn source
    have capacity_eq : storage.makeRoom.cells.length = storage.buffer.makeRoom.1.capacity :=
      congrArg Buffer.capacity roomy_eq
    have size_eq : storage.makeRoom.size = storage.buffer.makeRoom.1.size :=
      roomy.buffer_size.symm.trans (congrArg Buffer.size roomy_eq)
    have window_eq : storage.makeRoom.window = storage.buffer.makeRoom.1.window :=
      congrArg Buffer.window roomy_eq
    rw [capacity_eq, size_eq] at reads_eq
    rw [roomy_eq, capacity_eq, size_eq, window_eq] at buffer_eq
    have grown : (storage.makeRoom.readOn source).1.size = storage.makeRoom.size +
        (source.drain storage.buffer.makeRoom.1.capacity
          storage.buffer.makeRoom.1.size).received.length := by
      rw [← filled.buffer_size, buffer_eq, size_eq, Buffer.size, Buffer.size, List.length_append,
        Nat.add_assoc]
    rw [Buffer.fill_reads kept]
    simp only [Storage.fill, Buffer.fill, present, kept]
    refine ⟨filled, buffer_eq, ?_, reads_eq⟩
    rw [grown, Bool.eq_iff_iff, decide_eq_true_eq, bne_iff_ne]
    omega

end TextScan.Stream
