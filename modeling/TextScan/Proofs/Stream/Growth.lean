import TextScan.Proofs.Delimiter.Settling
import TextScan.Proofs.Stream.Steady

/-! How much buffer a walk takes. A buffer doubles only for a window that is all of it and in which the
search has met the end, and then the next token takes the whole of that window. -/
namespace TextScan

theorem Finder.Advancing.stop_le {finder : Finder} (advancing : finder.Advancing)
    {window longer : Bytes} (front : window <+: longer) :
    (finder.find window).stop ≤ (finder.find longer).stop := by
  obtain ⟨more, rfl⟩ := front
  exact advancing window more

namespace Token

def extent (token : Token) : Nat :=
  token.preceding.length + token.delimiter.length

theorem extent_eq_stop {token : Token} (valid : token.span.ValidFor token.window.length) :
    token.extent = token.span.stop := by
  rw [extent, ← List.length_append, token.preceding_append_delimiter valid.1, List.length_take]
  exact Nat.min_eq_left valid.2

def longest (tokens : List Token) : Nat :=
  (tokens.map extent).foldr max 0

theorem longest_le_iff (tokens : List Token) (bound : Nat) :
    longest tokens ≤ bound ↔ ∀ token ∈ tokens, token.extent ≤ bound := by
  induction tokens with
  | nil => simp [longest]
  | cons token tokens ih =>
    rw [List.forall_mem_cons, ← ih]
    exact Nat.max_le

theorem longest_append (first second : List Token) :
    longest (first ++ second) = max (longest first) (longest second) := by
  induction first with
  | nil => exact (Nat.zero_max _).symm
  | cons token first ih =>
    change max token.extent (longest (first ++ second)) = _
    rw [ih, ← Nat.max_assoc]
    rfl

theorem longest_singleton (token : Token) : longest [token] = token.extent :=
  Nat.max_zero _

end Token

namespace Stream

theorem settle_span_eq_find (finder : Finder) (buffer : Buffer) :
    (settle finder buffer).span = finder.find (settle finder buffer).buffer.window := by
  fun_induction settle finder buffer with
  | case1 _ _ _ _ _ _ _ ih => exact ih
  | case2 buffer _ _ _ _ same => exact congrArg finder.find (Buffer.fill_window_of_not_grew same).symm
  | case3 => rfl

namespace Buffer

/-- A buffer of some first capacity that has grown for no more than so many bytes. -/
structure GrownFor (first bytes : Nat) (buffer : Buffer) : Prop where
  floor_eq : buffer.floor = first
  capacity_le : buffer.capacity ≤ max first (2 * bytes)

namespace GrownFor
variable {first bytes : Nat} {buffer : Buffer}

theorem mono {more : Nat} (grown : buffer.GrownFor first bytes) (enough : bytes ≤ more) :
    buffer.GrownFor first more where
  floor_eq := grown.floor_eq
  capacity_le := by
    have bound := grown.capacity_le
    omega

theorem consume (grown : buffer.GrownFor first bytes) (count : Nat) :
    (buffer.consume count).GrownFor first bytes :=
  ⟨grown.floor_eq, grown.capacity_le⟩

theorem fill (grown : buffer.GrownFor first bytes) :
    buffer.fill.buffer.GrownFor first (max bytes buffer.window.length) where
  floor_eq := buffer.fill_floor.trans grown.floor_eq
  capacity_le := by
    have bound := grown.capacity_le
    have floor_eq := grown.floor_eq
    have cases := buffer.fill_capacity_cases
    omega

/-- By the search's own recursion: a window is filled again only if the answer ends with it, and the answer
that settles the search ends no earlier. -/
theorem settle {finder : Finder} (advancing : finder.Advancing)
    (grown : buffer.GrownFor first bytes) :
    (settle finder buffer).buffer.GrownFor first (max bytes (settle finder buffer).span.stop) := by
  fun_induction Stream.settle finder buffer generalizing bytes with
  | case1 buffer span _ touches filling grew settled =>
    rename_i ih
    have shown := settle_window_prefix finder filling.buffer
    have passed : span.stop ≤ settled.span.stop := by
      rw [settle_span_eq_find]
      exact advancing.stop_le ((fill_window_of_grew grew).1.trans shown)
    rw [beq_iff_eq.mp touches] at passed
    have enough : max (max bytes buffer.window.length) settled.span.stop ≤
        max bytes settled.span.stop := by omega
    exact (ih grown.fill).mono enough
  | case2 buffer span _ touches =>
    rw [beq_iff_eq.mp touches]
    exact grown.fill
  | case3 => exact grown.mono (Nat.le_max_left ..)

theorem capacity_eq {tokens : List Token} (grown : buffer.GrownFor first (Token.longest tokens))
    (steady : buffer.Steady) (short : ∀ token ∈ tokens, 2 * token.extent ≤ first) :
    buffer.capacity = 0 ∨ buffer.capacity = first := by
  have longest : Token.longest tokens ≤ first / 2 := by
    refine (Token.longest_le_iff tokens _).mpr fun token member => ?_
    have bound := short token member
    omega
  have allocated := steady.allocated
  have bound := grown.capacity_le
  rw [grown.floor_eq] at allocated
  omega

end GrownFor

theorem grownFor_ofSource (source : Source) (capacity : Nat) :
    (ofSource source capacity).GrownFor capacity 0 :=
  ⟨rfl, Nat.zero_le _⟩

end Buffer

theorem Settled.extent_token (finder : Finder) (buffer : Buffer) :
    (settle finder buffer).token.extent = (settle finder buffer).span.stop :=
  Token.extent_eq_stop (settle_span_validFor finder buffer)

namespace Tokens

theorem grownFor_afterCalls {finder : Finder} (advancing : finder.Advancing) (source : Source)
    (capacity calls : Nat) :
    let first := start (.ofSource source capacity)
    ((afterCall finder)^[calls] first).buffer.GrownFor capacity
      (Token.longest (((first.steps finder).map Step.token).take calls)) := by
  intro first
  induction calls with
  | zero => exact Buffer.grownFor_ofSource source capacity
  | succ calls ih =>
    have next := next?_afterCall finder first calls
    rw [Function.iterate_succ_apply', List.take_add_one, Token.longest_append, List.getElem?_map,
      ← next]
    generalize (afterCall finder)^[calls] first = tokens at ih ⊢
    obtain ⟨buffer, pending⟩ := tokens
    cases pending with
    | none => exact ih.mono (Nat.le_max_left ..)
    | some passed =>
      have settled := (ih.consume passed).settle advancing
      rw [← Settled.extent_token, ← Token.longest_singleton] at settled
      exact settled

end Tokens

namespace Cursor

/-- The token that a move has placed the cursor at, if it has. -/
def position? (cursor : Cursor) : Option Token :=
  if cursor.place.isPositioned then some cursor.token else none

def positions (finder : Finder) (source : Source) (capacity count : Nat) : List Token :=
  (List.range (count + 1)).filterMap fun earlier =>
    (moved finder source capacity earlier).position?

theorem positions_succ (finder : Finder) (source : Source) (capacity count : Nat) :
    positions finder source capacity (count + 1) = positions finder source capacity count ++
      (moved finder source capacity (count + 1)).position?.toList := by
  rw [positions, List.range_succ, List.filterMap_append]
  rfl

theorem grownFor_seek {finder : Finder} (advancing : finder.Advancing) {buffer : Buffer}
    {first bytes : Nat} (grown : buffer.GrownFor first bytes) :
    (seek finder buffer).cursor.buffer.GrownFor first
      (max bytes (Token.longest (seek finder buffer).cursor.position?.toList)) := by
  have settled {buffer : Buffer} (grown : buffer.GrownFor first bytes) :
      (settle finder buffer).buffer.GrownFor first
        (max bytes (Token.longest [(settle finder buffer).token])) := by
    rw [Token.longest_singleton, Settled.extent_token]
    exact grown.settle advancing
  by_cases empty : buffer.window = []
  · have filled := grown.fill
    rw [empty, List.length_nil, Nat.max_zero] at filled
    by_cases grew : buffer.fill.grew = true
    · rw [seek_of_grew empty grew]
      exact settled filled
    · rw [seek_of_not_grew empty grew]
      exact filled.mono (Nat.le_max_left ..)
  · rw [seek_of_ne_nil empty]
    exact settled grown

theorem grownFor_moved {finder : Finder} (advancing : finder.Advancing) (source : Source)
    (capacity count : Nat) :
    (moved finder source capacity count).buffer.GrownFor capacity
      (Token.longest (positions finder source capacity count)) := by
  induction count with
  | zero => exact Buffer.grownFor_ofSource source capacity
  | succ count ih =>
    rw [positions_succ, Token.longest_append, moved_succ]
    rcases advance_cases finder (moved finder source capacity count) with stays | ⟨passed, seeks⟩
    · rw [stays]
      exact ih.mono (Nat.le_max_left ..)
    · rw [seeks]
      exact grownFor_seek advancing (ih.consume passed)

end Cursor

/-- A buffer grows only for tokens that need it. At any point of a walk over a stream its capacity is at
most the first one or twice the extent of the longest token so far. As long as two of any token would
fit, it is the first one from the first read on. -/
theorem capacity_le_twice_longest (delimiter : Delimiter) (source : Source) (capacity : Nat)
    (positive : 1 ≤ capacity) :
    let finder := delimiter.finder
    let first := Tokens.start (.ofSource source capacity)
    (∀ calls, let buffer := ((Tokens.afterCall finder)^[calls] first).buffer
        let tokens := ((first.steps finder).map Step.token).take calls
        buffer.capacity ≤ max capacity (2 * Token.longest tokens) ∧
          ((∀ token ∈ tokens, 2 * token.extent ≤ capacity) →
            buffer.capacity = 0 ∨ buffer.capacity = capacity)) ∧
      ∀ count, let buffer := (Cursor.moved finder source capacity count).buffer
        let tokens := Cursor.positions finder source capacity count
        buffer.capacity ≤ max capacity (2 * Token.longest tokens) ∧
          ((∀ token ∈ tokens, 2 * token.extent ≤ capacity) →
            buffer.capacity = 0 ∨ buffer.capacity = capacity) := by
  intro finder first
  constructor
  · intro calls buffer tokens
    have grown := Tokens.grownFor_afterCalls delimiter.advancing source capacity calls
    have steady := Tokens.steady_afterCalls finder source capacity positive calls
    exact ⟨grown.capacity_le, grown.capacity_eq steady⟩
  · intro count buffer tokens
    have grown := Cursor.grownFor_moved delimiter.advancing source capacity count
    have steady := Cursor.steady_moved finder source capacity positive count
    exact ⟨grown.capacity_le, grown.capacity_eq steady⟩

/-- The two short lines leave the buffer as it is. The one of five bytes and its line feed makes it double
once. -/
theorem capacity_le_twice_longest_line :
    let finder := Delimiter.lineBreak.finder
    let source : Source := [.data 0x61 [0x0a, 0x62, 0x0a], .interrupted, .data 0x63 [],
      .data 0x64 [0x64, 0x64, 0x64, 0x0a], .endOfData]
    let first := Tokens.start (.ofSource source 4)
    let tokens := (first.steps finder).map Step.token
    let after := fun calls => ((Tokens.afterCall finder)^[calls] first).buffer.capacity
    1 ≤ 4 ∧ tokens.map Token.extent = [2, 2, 6, 0] ∧
      (after 2 = 0 ∨ after 2 = 4) ∧ after 3 ≤ max 4 (2 * Token.longest (tokens.take 3)) ∧ after 3 = 8 := by
  intro finder source first tokens after
  obtain ⟨calls, _⟩ := capacity_le_twice_longest Delimiter.lineBreak source 4 (by decide)
  exact ⟨by decide, by decide +kernel, (calls 2).2 (by decide +kernel), (calls 3).1,
    by decide +kernel⟩

end Stream
end TextScan
