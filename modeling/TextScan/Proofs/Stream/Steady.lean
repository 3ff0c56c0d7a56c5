import TextScan.Proofs.Exhaustion
import TextScan.Proofs.Stream.Conservation
import TextScan.Proofs.Stream.Reads

/-! A buffer between two calls. It is full or has no source left, so a search that touches the end of
its window finds room to read only by shifting out what was consumed, or by doubling. -/
namespace TextScan.Stream

namespace Buffer

structure Steady (buffer : Buffer) : Prop extends Sound buffer where
  allocated : buffer.capacity = 0 ∨ buffer.floor ≤ buffer.capacity
  full : buffer.source = none ∨ buffer.size = buffer.capacity

variable {buffer : Buffer}

theorem steady_ofSource (source : Source) (capacity : Nat) (positive : 1 ≤ capacity) :
    (ofSource source capacity).Steady where
  toSound := sound_ofSource source capacity positive
  allocated := .inl rfl
  full := .inr rfl

theorem source_ne_none_of_grew (grew : buffer.fill.grew = true) : buffer.source ≠ none := by
  intro gone
  rw [fill_of_exhausted gone] at grew
  cases grew

theorem fill_offset_of_grew (grew : buffer.fill.grew = true) : buffer.fill.buffer.offset = 0 := by
  obtain ⟨source, present⟩ := Option.ne_none_iff_exists'.mp (source_ne_none_of_grew grew)
  exact (eachRead_fill present).1

namespace Steady

theorem consume (steady : buffer.Steady) (count : Nat) : (buffer.consume count).Steady where
  toSound := steady.toSound.consume count
  allocated := steady.allocated
  full := steady.full.imp_right (buffer.consume_size count).trans

theorem fill (steady : buffer.Steady) : buffer.fill.buffer.Steady where
  toSound := steady.toSound.fill.1
  allocated := by
    have allocated := steady.allocated
    have cases := buffer.fill_capacity_cases
    rw [fill_floor]
    omega
  full := steady.toSound.fill.2

theorem settle (steady : buffer.Steady) (finder : Finder) :
    (settle finder buffer).buffer.Steady := by
  fun_induction Stream.settle finder buffer with
  | case1 buffer _ _ _ _ _ _ ih => exact ih steady.fill
  | case2 => exact steady.fill
  | case3 => exact steady

theorem floor_le_of_grew (steady : buffer.Steady) (grew : buffer.fill.grew = true) :
    buffer.floor ≤ buffer.fill.buffer.capacity := by
  have longer := buffer.grew_iff_longer.mp grew
  have fits := steady.fill.size_le
  have allocated := steady.fill.allocated
  rw [fill_floor] at allocated
  rw [size] at fits
  omega

/-- A window that is the whole of its buffer is twice as long after a fill, unless the data end. -/
theorem fill_doubles (steady : buffer.Steady) (unmoved : buffer.offset = 0)
    (allocated : buffer.floor ≤ buffer.capacity) (grew : buffer.fill.grew = true) :
    buffer.fill.buffer.source = none ∨
      buffer.fill.buffer.window.length = 2 * buffer.window.length := by
  have whole := steady.full.resolve_left (source_ne_none_of_grew grew)
  refine steady.fill.full.imp_right fun full => ?_
  have longer := buffer.grew_iff_longer.mp grew
  have cases := buffer.fill_capacity_cases
  rw [size, unmoved, Nat.zero_add] at whole
  rw [size, fill_offset_of_grew grew, Nat.zero_add] at full
  omega

end Steady
end Buffer

namespace Tokens

theorem steady_afterCalls (finder : Finder) (source : Source) (capacity : Nat)
    (positive : 1 ≤ capacity) (calls : Nat) :
    ((afterCall finder)^[calls] (start (.ofSource source capacity))).buffer.Steady := by
  induction calls with
  | zero => exact Buffer.steady_ofSource source capacity positive
  | succ calls ih =>
    rw [Function.iterate_succ_apply', afterCall]
    generalize (afterCall finder)^[calls] (start (.ofSource source capacity)) = tokens at ih
    obtain ⟨buffer, pending⟩ := tokens
    cases pending with
    | none => exact ih
    | some passed => exact (ih.consume passed).settle finder

end Tokens

namespace Cursor

theorem steady_seek (finder : Finder) {buffer : Buffer} (steady : buffer.Steady) :
    (seek finder buffer).cursor.buffer.Steady := by
  by_cases empty : buffer.window = []
  · by_cases grew : buffer.fill.grew = true
    · rw [seek_of_grew empty grew]
      exact steady.fill.settle finder
    · rw [seek_of_not_grew empty grew]
      exact steady.fill
  · rw [seek_of_ne_nil empty]
    exact steady.settle finder

theorem steady_moved (finder : Finder) (source : Source) (capacity : Nat) (positive : 1 ≤ capacity)
    (count : Nat) : (moved finder source capacity count).buffer.Steady := by
  induction count with
  | zero => exact Buffer.steady_ofSource source capacity positive
  | succ count ih =>
    rw [moved_succ]
    rcases advance_cases finder (moved finder source capacity count) with stays | ⟨passed, seeks⟩
    · rw [stays]
      exact ih
    · rw [seeks]
      exact steady_seek finder (ih.consume passed)

end Cursor
end TextScan.Stream
