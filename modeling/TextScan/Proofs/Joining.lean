import TextScan.Proofs.Delimiter.Alignment
import TextScan.Proofs.Reassembly

/-! Splitting at a sequence of bytes and joining with it. The two undo each other, on texts and on
pieces that the sequence keeps apart. -/
namespace TextScan
open Utf8 (Valid)

namespace Delimiter
variable {pattern window front rest : Bytes}

/-- A pattern occurs in a window at an offset, and nowhere before. -/
def FirstAt (pattern window : Bytes) (offset : Nat) : Prop :=
  pattern <+: window.drop offset ∧ ∀ skipped < offset, ¬pattern <+: window.drop skipped

instance (pattern window : Bytes) (offset : Nat) : Decidable (FirstAt pattern window offset) :=
  inferInstanceAs (Decidable (_ ∧ _))

theorem FirstAt.unique {offset other : Nat} (first : FirstAt pattern window offset)
    (again : FirstAt pattern window other) : offset = other := by
  rcases Nat.lt_trichotomy offset other with before | same | behind
  · exact absurd first.1 (again.2 offset before)
  · exact same
  · exact absurd again.1 (first.2 other behind)

/-- An occurrence that starts before the one behind the front ends before the rest. -/
theorem prefix_drop_append_iff {skipped : Nat} (inside : skipped ≤ front.length) :
    pattern <+: (front ++ pattern ++ rest).drop skipped ↔
      pattern <+: (front ++ pattern).drop skipped := by
  have fits : pattern.length ≤ ((front ++ pattern).drop skipped).length := by
    rw [List.length_drop, List.length_append]
    omega
  have longer : (front ++ pattern ++ rest).drop skipped = (front ++ pattern).drop skipped ++ rest := by
    apply List.drop_append_of_le_length
    rw [List.length_append]
    omega
  have grown := List.prefix_append ((front ++ pattern).drop skipped) rest
  rw [longer]
  exact ⟨fun starts => List.prefix_of_prefix_length_le starts grown fits,
    fun starts => starts.trans grown⟩

/-- What follows a pattern has no part in where it first occurs. -/
theorem firstAt_append_iff :
    FirstAt pattern (front ++ pattern ++ rest) front.length ↔
      FirstAt pattern (front ++ pattern) front.length :=
  and_congr (prefix_drop_append_iff (Nat.le_refl _))
    (forall₂_congr fun _ before => not_congr (prefix_drop_append_iff (Nat.le_of_lt before)))

theorem infix_iff : pattern <:+: window ↔ ∃ skipped, pattern <+: window.drop skipped := by
  constructor
  · rintro ⟨front, rest, rfl⟩
    refine ⟨front.length, ?_⟩
    rw [List.append_assoc, List.drop_left]
    exact List.prefix_append pattern rest
  · intro ⟨skipped, starts⟩
    exact starts.isInfix.trans (List.drop_suffix skipped window).isInfix

theorem lt_length_of_prefix_drop (nonempty : pattern ≠ []) {skipped : Nat}
    (starts : pattern <+: window.drop skipped) : skipped < window.length := by
  by_contra outside
  rw [List.drop_eq_nil_of_le (Nat.le_of_not_lt outside), List.prefix_nil] at starts
  exact nonempty starts

theorem FirstAt.not_infix (nonempty : pattern ≠ [])
    (first : FirstAt pattern (front ++ pattern) front.length) : ¬pattern <:+: front := by
  rw [infix_iff]
  intro ⟨skipped, starts⟩
  have inside := lt_length_of_prefix_drop nonempty starts
  apply first.2 skipped inside
  rw [List.drop_append_of_le_length (Nat.le_of_lt inside)]
  exact starts.trans (List.prefix_append _ _)

/-- A sequence that is not empty is found where it first occurs, if it occurs at all. -/
theorem find_sequence_cases (nonempty : pattern ≠ []) (window : Bytes) :
    (sequence pattern).find window = .notFound window.length ∧ ¬pattern <:+: window ∨
      ∃ front rest, window = front ++ pattern ++ rest ∧ FirstAt pattern window front.length ∧
        (sequence pattern).find window = ⟨front.length, front.length + pattern.length⟩ := by
  have search : (sequence pattern).find window = findSequence pattern 0 window := by
    obtain ⟨byte, later, rfl⟩ := List.exists_cons_of_ne_nil nonempty
    rfl
  have cases := findSequence_cases pattern 0 window
  simp only [Nat.zero_add] at cases
  rw [search]
  rcases cases with ⟨none, free⟩ | ⟨front, rest, rfl, free, found⟩
  · refine .inl ⟨none, ?_⟩
    rw [infix_iff]
    intro ⟨skipped, starts⟩
    exact free skipped (lt_length_of_prefix_drop nonempty starts) starts
  · refine .inr ⟨front, rest, rfl, ⟨?_, free⟩, found⟩
    rw [List.append_assoc, List.drop_left]
    exact List.prefix_append pattern rest

theorem FirstAt.find (nonempty : pattern ≠ [])
    (first : FirstAt pattern (front ++ pattern ++ rest) front.length) :
    (sequence pattern).find (front ++ pattern ++ rest) =
      ⟨front.length, front.length + pattern.length⟩ := by
  rcases find_sequence_cases nonempty (front ++ pattern ++ rest) with
    ⟨_, free⟩ | ⟨_, _, _, again, found⟩
  · exact absurd ⟨front, rest, rfl⟩ free
  · rw [found, again.unique first]

/-- Pieces that a pattern put between them keeps apart: behind each piece but the last it occurs there
for the first time, and in the last it does not occur. -/
inductive Apart (pattern : Bytes) : List Bytes → Prop
  | last (piece : Bytes) (free : ¬pattern <:+: piece) : Apart pattern [piece]
  | next (piece : Bytes) (pieces : List Bytes)
      (first : FirstAt pattern (piece ++ pattern) piece.length) (later : Apart pattern pieces) :
      Apart pattern (piece :: pieces)

variable {pieces : List Bytes}

theorem Apart.ne_nil (apart : Apart pattern pieces) : pieces ≠ [] := by
  cases apart with
  | last => exact List.cons_ne_nil _ _
  | next => exact List.cons_ne_nil _ _

theorem Apart.free (nonempty : pattern ≠ []) (apart : Apart pattern pieces) :
    ∀ piece ∈ pieces, ¬pattern <:+: piece := by
  induction apart with
  | last piece free => exact List.forall_mem_singleton.mpr free
  | next piece pieces first later ih =>
    exact List.forall_mem_cons.mpr ⟨first.not_infix nonempty, ih⟩

theorem split_sequence_apart (nonempty : pattern ≠ []) (window : Bytes) :
    Apart pattern (Walk.split (sequence pattern).finder window) ∧
      pattern.intercalate (Walk.split (sequence pattern).finder window) = window := by
  induction window using Walk.cut_induction with
  | step window later =>
    rcases find_sequence_cases nonempty window with
      ⟨none, free⟩ | ⟨front, rest, rfl, first, found⟩
    · rw [Walk.split_notFound none]
      exact ⟨.last window free, List.intercalate_singleton⟩
    · obtain ⟨apart, joined⟩ := later front pattern rest rfl nonempty
      rw [Walk.split_found found nonempty, List.intercalate_cons_of_ne_nil apart.ne_nil, joined]
      exact ⟨.next front _ (firstAt_append_iff.mp first) apart, rfl⟩

theorem Apart.split_intercalate (nonempty : pattern ≠ []) (apart : Apart pattern pieces) :
    Walk.split (sequence pattern).finder (pattern.intercalate pieces) = pieces := by
  induction apart with
  | last piece free =>
    rw [List.intercalate_singleton]
    rcases find_sequence_cases nonempty piece with ⟨none, _⟩ | ⟨front, rest, rfl, _, _⟩
    · exact Walk.split_notFound none
    · exact absurd ⟨front, rest, rfl⟩ free
  | next piece pieces first later ih =>
    have alone : FirstAt pattern (piece ++ pattern ++ pattern.intercalate pieces) piece.length :=
      firstAt_append_iff.mpr first
    have found := alone.find nonempty
    rw [List.intercalate_cons_of_ne_nil later.ne_nil, Walk.split_found found nonempty, ih]

theorem valid_intercalate (textual : Valid pattern) (valid : ∀ piece ∈ pieces, Valid piece) :
    Valid (pattern.intercalate pieces) := by
  induction pieces with
  | nil => rfl
  | cons piece pieces ih =>
    obtain ⟨head, tail⟩ := List.forall_mem_cons.mp valid
    cases pieces with
    | nil => rwa [List.intercalate_singleton]
    | cons next pieces =>
      rw [List.intercalate_cons_cons, List.append_assoc, head.append_iff, textual.append_iff]
      exact ih tail

end Delimiter

namespace Text
open Delimiter

/-- Splitting at a sequence that is text and not empty, and joining with it. The pieces of a text are
texts that the sequence keeps apart, none of them contains it, and joined they are the text. Pieces that
it keeps apart, whatever they are, come back when they are joined and the text is split. -/
theorem split_sequence_inverts_join (pattern : Bytes) (nonempty : pattern ≠ [])
    (textual : Valid pattern) :
    (∀ text, Valid text →
      let pieces := split (sequence pattern).finder text
      pattern.intercalate pieces = text ∧ Apart pattern pieces ∧
        ∀ piece ∈ pieces, Valid piece ∧ ¬pattern <:+: piece) ∧
      ∀ pieces, (∀ piece ∈ pieces, Valid piece) → Apart pattern pieces →
        split (sequence pattern).finder (pattern.intercalate pieces) = pieces := by
  have aligned : (sequence pattern).finder.CharAligned := Textual.charAligned textual
  refine ⟨fun text valid => ?_, fun pieces valid apart => ?_⟩
  · intro pieces
    have bytewise : pieces = Walk.split (sequence pattern).finder text :=
      aligned.split_wholeChars valid
    have texts : ∀ piece ∈ pieces, Valid piece :=
      Walk.valid_of_mem_splitAtMost (Finder.charAligned_wholeChars _) valid _
    obtain ⟨apart, joined⟩ := split_sequence_apart nonempty text
    rw [← bytewise] at apart joined
    exact ⟨joined, apart, fun piece member => ⟨texts piece member, apart.free nonempty piece member⟩⟩
  · rw [split, aligned.split_wholeChars (valid_intercalate textual valid)]
    exact apart.split_intercalate nonempty

/-- A sequence that overlaps itself, between a piece that ends like its beginning, an empty piece and a
character of two bytes. -/
theorem split_sequence_inverts_join_overlapping :
    let pattern : Bytes := [0x61, 0x62, 0x61, 0x62]
    let pieces : List Bytes := [[0x61, 0x62, 0x61], [], [0xc3, 0xa9]]
    let text := pattern.intercalate pieces
    (pattern ≠ [] ∧ Valid pattern ∧ Valid text ∧ (∀ piece ∈ pieces, Valid piece) ∧
        Apart pattern pieces) ∧
      pattern.intercalate (split (sequence pattern).finder text) = text ∧
      split (sequence pattern).finder text = pieces := by
  intro pattern pieces text
  have nonempty : pattern ≠ [] := by decide
  have textual : Valid pattern := by decide
  have valid : Valid text := by decide
  have texts : ∀ piece ∈ pieces, Valid piece := by decide
  have apart : Apart pattern pieces :=
    .next _ _ (by decide) (.next _ _ (by decide) (.last _ (by decide)))
  obtain ⟨joins, splits⟩ := split_sequence_inverts_join pattern nonempty textual
  exact ⟨⟨nonempty, textual, valid, texts, apart⟩, (joins text valid).1, splits pieces texts apart⟩

/-- A piece need not contain the sequence to be cut differently: the sequence behind it may occur earlier. -/
example :
    let pattern : Bytes := [0x61, 0x62, 0x61, 0x62]
    ¬pattern <:+: [0x61, 0x62] ∧
      split (sequence pattern).finder (pattern.intercalate [[0x61, 0x62], []]) =
        [[], [0x61, 0x62]] := by
  decide

end Text
end TextScan
