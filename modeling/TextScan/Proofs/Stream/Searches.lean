import TextScan.Proofs.Stream.Steady
import Mathlib.Algebra.Ring.Nat
import Mathlib.Data.List.Chain

/-! The windows that one call searches. Each is the front of the next, and from the second on they
double, so searching them all takes no longer than searching the last one a few times. -/
namespace TextScan.Stream

def Note.searched? : Note → Option Bytes
  | .searched window => some window
  | _ => none

def searches (notes : List Note) : List Bytes :=
  notes.filterMap Note.searched?

def Longer (window next : Bytes) : Prop :=
  window <+: next ∧ window.length < next.length

/-- Windows that grow, from the second on by doubling. Only the last may be shorter than that. -/
structure LinearSearches (windows : List Bytes) : Prop where
  growing : windows.IsChain Longer
  doubled : ∀ i (_ : i + 3 < windows.length), windows[i + 2].length = 2 * windows[i + 1].length
  total_le : ∀ last, windows.getLast? = some last →
    (windows.map List.length).sum ≤ 3 * last.length

/-- Windows that double from the first on. Only the last may be shorter than that. -/
inductive Doubling : List Bytes → Prop
  | single (window : Bytes) : Doubling [window]
  | cons {window next : Bytes} {later : List Bytes} (longer : Longer window next)
      (doubled : later = [] ∨ next.length = 2 * window.length) (more : Doubling (next :: later)) :
      Doubling (window :: next :: later)

namespace Doubling
variable {windows later : List Bytes} {first last : Bytes}

theorem growing (doubling : Doubling windows) : windows.IsChain Longer := by
  induction doubling with
  | single window => exact List.isChain_singleton window
  | cons longer _ _ ih => exact List.isChain_cons_cons.mpr ⟨longer, ih⟩

theorem doubled (doubling : Doubling windows) (i : Nat) (inside : i + 2 < windows.length) :
    windows[i + 1].length = 2 * windows[i].length := by
  induction doubling generalizing i with
  | single window => exact absurd inside (Nat.not_lt.mpr (Nat.le_add_left 1 (i + 1)))
  | cons longer doubled more ih =>
    cases i with
    | zero =>
      refine doubled.resolve_left fun none => ?_
      rw [none] at inside
      exact Nat.lt_irrefl 2 inside
    | succ i => exact ih i (Nat.lt_of_succ_lt_succ inside)

/-- The sum of a geometric series: what comes before a window is together shorter than the window. -/
theorem total_le (doubling : Doubling (first :: later)) (ends : (first :: later).getLast? = some last) :
    first.length + ((first :: later).map List.length).sum ≤ 3 * last.length := by
  generalize windows_eq : first :: later = windows at doubling ends
  induction doubling generalizing first later with
  | single window =>
    cases windows_eq
    obtain rfl : window = last := Option.some.inj ends
    rw [List.map_singleton, List.sum_singleton]
    omega
  | @cons window next rest longer doubled more ih =>
    cases windows_eq
    rw [List.getLast?_cons_cons] at ends
    have behind := ih rfl ends
    have before := longer.2
    rw [List.map_cons, List.sum_cons]
    rcases doubled with none | twice
    · subst none
      obtain rfl : next = last := Option.some.inj ends
      rw [List.map_singleton, List.sum_singleton]
      omega
    · omega

end Doubling

namespace LinearSearches
variable {windows : List Bytes} {window next : Bytes} {later : List Bytes}

theorem nil : LinearSearches [] where
  growing := .nil
  doubled _ inside := absurd inside (Nat.not_lt_zero _)
  total_le _ none := nomatch none

theorem single (window : Bytes) : LinearSearches [window] where
  growing := List.isChain_singleton window
  doubled i inside := absurd inside (Nat.not_lt.mpr (Nat.le_add_left 1 (i + 2)))
  total_le last ends := by
    obtain rfl : window = last := Option.some.inj ends
    rw [List.map_singleton, List.sum_singleton]
    omega

theorem cons (longer : Longer window next) (doubling : Doubling (next :: later)) :
    LinearSearches (window :: next :: later) where
  growing := List.isChain_cons_cons.mpr ⟨longer, doubling.growing⟩
  doubled i inside := doubling.doubled i (Nat.lt_of_succ_lt_succ inside)
  total_le last ends := by
    rw [List.getLast?_cons_cons] at ends
    have behind := doubling.total_le ends
    have before := longer.2
    rw [List.map_cons, List.sum_cons]
    omega

end LinearSearches

theorem searches_append (first second : List Note) :
    searches (first ++ second) = searches first ++ searches second :=
  List.filterMap_append

theorem Buffer.searches_fill (buffer : Buffer) : searches buffer.fill.notes = [] := by
  have room : searches buffer.makeRoom.2 = [] := by
    unfold makeRoom
    split
    · rfl
    · split <;> rfl
  have reads (reads : List Read) : searches (reads.map .read) = [] :=
    List.filterMap_eq_nil_iff.mpr (List.forall_mem_map.mpr fun _ _ => rfl)
  unfold fill
  split
  · rfl
  · simp only [searches_append, room, reads, List.nil_append]
    split <;> rfl

theorem Buffer.longer_of_grew (buffer : Buffer) (grew : buffer.fill.grew = true) :
    Longer buffer.window buffer.fill.buffer.window :=
  ⟨(fill_window_of_grew grew).1, buffer.grew_iff_longer.mp grew⟩

theorem searches_refill (window : Bytes) (buffer : Buffer) (notes : List Note) :
    searches (.searched window :: buffer.fill.notes ++ notes) = window :: searches notes := by
  rw [searches_append]
  change window :: searches buffer.fill.notes ++ searches notes = _
  rw [buffer.searches_fill]
  rfl

theorem searches_last (window : Bytes) (buffer : Buffer) :
    searches (.searched window :: buffer.fill.notes) = [window] :=
  congrArg (window :: ·) buffer.searches_fill

namespace Settled

theorem searches_cons (finder : Finder) (buffer : Buffer) :
    ∃ later, searches (settle finder buffer).notes = buffer.window :: later ∧
      (buffer.source = none → later = []) := by
  fun_cases settle finder buffer with
  | case1 _ _ _ _ grew => exact ⟨_, searches_refill _ buffer _,
      fun gone => absurd gone (Buffer.source_ne_none_of_grew grew)⟩
  | case2 => exact ⟨[], searches_last _ buffer, fun _ => rfl⟩
  | case3 => exact ⟨[], rfl, fun _ => rfl⟩

theorem getLast?_searches (finder : Finder) (buffer : Buffer) :
    (searches (settle finder buffer).notes).getLast? =
      some (settle finder buffer).buffer.window := by
  fun_induction settle finder buffer with
  | case1 buffer _ _ _ _ _ settled ih =>
    rw [searches_refill, List.getLast?_cons, ih]
    rfl
  | case2 buffer _ _ _ _ same =>
    rw [searches_last, Buffer.fill_window_of_not_grew same]
    rfl
  | case3 => rfl

/-- By the search's own recursion: after the first fill nothing is consumed, so each further fill doubles a
buffer that the window fills. -/
theorem doubling (finder : Finder) (buffer : Buffer) (steady : buffer.Steady)
    (unmoved : buffer.offset = 0) (allocated : buffer.floor ≤ buffer.capacity) :
    Doubling (searches (settle finder buffer).notes) := by
  fun_induction settle finder buffer with
  | case1 buffer _ _ _ filling grew settled ih =>
    obtain ⟨later, searches_eq, final⟩ := searches_cons finder filling.buffer
    have doubled := steady.fill_doubles unmoved allocated grew
    have more := ih steady.fill (Buffer.fill_offset_of_grew grew)
      (buffer.fill_floor ▸ steady.floor_le_of_grew grew)
    rw [searches_refill, searches_eq]
    rw [searches_eq] at more
    exact .cons (buffer.longer_of_grew grew) (doubled.imp_left final) more
  | case2 buffer =>
    rw [searches_last]
    exact .single buffer.window
  | case3 buffer => exact .single buffer.window

/-- The first fill of a search may do no more than move the window, but from then on buffers double. -/
theorem linearSearches (finder : Finder) (buffer : Buffer) (steady : buffer.Steady) :
    LinearSearches (searches (settle finder buffer).notes) := by
  fun_cases settle finder buffer with
  | case1 _ _ _ filling grew settled =>
    obtain ⟨later, searches_eq, _⟩ := searches_cons finder filling.buffer
    have more := doubling finder filling.buffer steady.fill (Buffer.fill_offset_of_grew grew)
      (buffer.fill_floor ▸ steady.floor_le_of_grew grew)
    rw [searches_refill, searches_eq]
    rw [searches_eq] at more
    exact .cons (buffer.longer_of_grew grew) more
  | case2 =>
    rw [searches_last]
    exact .single buffer.window
  | case3 => exact .single buffer.window

end Settled

namespace Cursor

theorem searches_seek (finder : Finder) {buffer : Buffer} (steady : buffer.Steady) :
    let move := seek finder buffer
    LinearSearches (searches move.notes) ∧ (searches move.notes).getLast? =
      if move.cursor.place.isPositioned then some move.cursor.buffer.window else none := by
  by_cases empty : buffer.window = []
  · by_cases grew : buffer.fill.grew = true
    · rw [seek_of_grew empty grew]
      simp only [searches_append, buffer.searches_fill, List.nil_append]
      exact ⟨Settled.linearSearches finder _ steady.fill, Settled.getLast?_searches finder _⟩
    · rw [seek_of_not_grew empty grew]
      simp only [buffer.searches_fill]
      exact ⟨.nil, rfl⟩
  · rw [seek_of_ne_nil empty]
    exact ⟨Settled.linearSearches finder buffer steady, Settled.getLast?_searches finder buffer⟩

end Cursor

/-- Searching again after every fill stays linear. In each call the windows handed to the finder grow,
each from the third on is twice as long as the one before it unless it is the last, and all of them
together are at most three times as long as the last, which is the window that the call leaves. -/
theorem searches_stay_linear (finder : Finder) (source : Source) (capacity : Nat)
    (positive : 1 ≤ capacity) :
    (∀ calls taken, ((Tokens.afterCall finder)^[calls]
          (Tokens.start (.ofSource source capacity))).next? finder = some taken →
        LinearSearches (searches taken.notes) ∧
          (searches taken.notes).getLast? = some taken.token.window) ∧
      ∀ count, let move := Cursor.advance finder (Cursor.moved finder source capacity count)
        LinearSearches (searches move.notes) ∧ (searches move.notes).getLast? =
          if move.cursor.place.isPositioned then some move.cursor.buffer.window else none := by
  constructor
  · intro calls taken more
    have steady := Tokens.steady_afterCalls finder source capacity positive calls
    obtain ⟨passed, _, rfl⟩ := Option.map_eq_some_iff.mp more
    exact ⟨Settled.linearSearches finder _ (steady.consume passed),
      Settled.getLast?_searches finder _⟩
  · intro count
    have steady := Cursor.steady_moved finder source capacity positive count
    rcases Cursor.advance_cases finder (Cursor.moved finder source capacity count) with
      stays | ⟨passed, seeks⟩
    · rw [stays]
      exact ⟨.nil, rfl⟩
    · rw [seeks]
      exact Cursor.searches_seek finder (steady.consume passed)

/-- Bytes come one by one into a buffer for one byte. The comma ends the fifth window that is searched, so
the buffer doubles once more and finds only one more byte. -/
theorem searches_stay_linear_byte_by_byte :
    let source : Source :=
      [.data 0x61 [], .data 0x62 [], .data 0x63 [], .interrupted, .data 0x64 [], .data 0x65 [],
        .data 0x66 [], .data 0x67 [], .data 0x2c [], .data 0x68 [], .failed .other]
    let finder := (Delimiter.oneByte 0x2c).finder
    let first := Tokens.step finder (.ofSource source 1) 0
    1 ≤ 1 ∧ (Tokens.start (.ofSource source 1)).next? finder = some first ∧
      (searches first.notes).map List.length = [0, 1, 2, 4, 8, 9] ∧
      LinearSearches (searches first.notes) := by
  intro source finder first
  have linear := searches_stay_linear finder source 1 (Nat.le_refl 1)
  exact ⟨Nat.le_refl 1, rfl, by decide +kernel, (linear.1 0 first rfl).1⟩

end TextScan.Stream
