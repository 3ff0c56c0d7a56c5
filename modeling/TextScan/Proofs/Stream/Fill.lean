import TextScan.Proofs.Stream.Drain

/-! What a fill leaves behind. A buffer that is sound always offers its source some room, so a
fill that brings nothing has met the end of the data. -/
namespace TextScan.Stream

namespace Buffer

/-- What every operation on a buffer keeps: the bytes it holds fit, and a growing buffer grows. -/
structure Sound (buffer : Buffer) : Prop where
  size_le : buffer.size ≤ buffer.capacity
  floor_pos : 1 ≤ buffer.floor

theorem sound_ofSource (source : Source) (capacity : Nat) (positive : 1 ≤ capacity) :
    (ofSource source capacity).Sound :=
  ⟨Nat.le_refl 0, positive⟩

theorem Sound.consume {buffer : Buffer} (sound : buffer.Sound) (count : Nat) :
    (buffer.consume count).Sound := by
  have fits := sound.size_le
  refine ⟨?_, sound.floor_pos⟩
  simp only [Buffer.consume, size, List.length_drop] at fits ⊢
  omega

theorem Sound.makeRoom {buffer : Buffer} (sound : buffer.Sound) :
    buffer.makeRoom.1.Sound ∧ buffer.makeRoom.1.size < buffer.makeRoom.1.capacity := by
  have fits := sound.size_le
  have positive := sound.floor_pos
  unfold Buffer.makeRoom
  simp only [size] at fits
  split
  · refine ⟨⟨?_, positive⟩, ?_⟩ <;> simp only [size] <;> omega
  · split
    · refine ⟨⟨?_, positive⟩, ?_⟩ <;> simp_all only [size] <;> omega
    · refine ⟨sound, ?_⟩
      simp_all only [size]
      omega

theorem Sound.fill {buffer : Buffer} (sound : buffer.Sound) :
    buffer.fill.buffer.Sound ∧
      (buffer.fill.buffer.source = none ∨
        buffer.fill.buffer.size = buffer.fill.buffer.capacity) := by
  unfold Buffer.fill
  split
  · rename_i gone
    exact ⟨sound, .inl gone⟩
  · rename_i source present
    obtain ⟨roomy, _⟩ := sound.makeRoom
    obtain ⟨bound, full⟩ := source.drain_received buffer.makeRoom.1.capacity
      buffer.makeRoom.1.size roomy.size_le
    refine ⟨⟨?_, roomy.floor_pos⟩, full.imp_right fun full => ?_⟩
    · simp only [size, List.length_append] at bound ⊢
      omega
    · simp only [size, List.length_append] at full ⊢
      omega

/-- A fill that brings nothing has met the end of the data. -/
theorem Sound.source_of_not_grew {buffer : Buffer} (sound : buffer.Sound)
    (same : ¬buffer.fill.grew = true) : buffer.fill.buffer.source = none := by
  cases present : buffer.source with
  | none =>
    rw [Buffer.fill, present]
    exact present
  | some source =>
    obtain ⟨roomy, room⟩ := sound.makeRoom
    obtain ⟨_, full⟩ := source.drain_received buffer.makeRoom.1.capacity
      buffer.makeRoom.1.size roomy.size_le
    simp only [Buffer.fill, present] at same ⊢
    refine full.resolve_right fun full => same ?_
    rw [bne_iff_ne]
    omega

theorem Sound.undelivered_of_not_grew {buffer : Buffer} (sound : buffer.Sound)
    (same : ¬buffer.fill.grew = true) : undelivered buffer.source = [] := by
  have kept := buffer.fill_unseen
  rw [unseen, unseen, fill_window_of_not_grew same, sound.source_of_not_grew same] at kept
  exact (List.append_cancel_left kept).symm

end Buffer
end TextScan.Stream
