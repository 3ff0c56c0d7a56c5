import TextScan.Stream.Tokens
import TextScan.Proofs.ByteWalk
import TextScan.Proofs.Delimiter.Settling
import TextScan.Proofs.Stream.Settle
import Mathlib.Data.List.Forall2

/-! The tokens of a stream are those of its data. Neither the pieces that a source delivers nor
the capacity of the buffer shows in what a settling finder cuts off. -/
namespace TextScan.Stream

def Step.passed (step : Step) : Bytes × Bytes :=
  step.token.passed

namespace Tokens

theorem steps_none (finder : Finder) (buffer : Buffer) : steps finder ⟨buffer, none⟩ = [] := by
  rw [steps]
  rfl

theorem steps_some (finder : Finder) (buffer : Buffer) (passed : Nat) :
    steps finder ⟨buffer, some passed⟩ =
      step finder buffer passed :: steps finder (step finder buffer passed).tokens := by
  rw [steps]
  rfl

/-- Each token of the sequence is the front of the token that the whole of the remaining data
has. -/
theorem steps_frontOf (finder : Finder) (settling : finder.Settling) (rest : Bytes)
    (buffer : Buffer) (sound : buffer.Sound) (passed : Nat)
    (left : (buffer.consume passed).unseen = rest) :
    List.Forall₂ (fun step whole => step.token.FrontOf whole) (steps finder ⟨buffer, some passed⟩)
      (Walk.tokensOf finder rest) := by
  fun_induction Walk.tokensOf finder rest generalizing buffer passed with
  | case1 rest token goesOn ih =>
    subst left
    have front := settle_frontOf finder settling _ (sound.consume passed)
    have more := settle_isLast finder settling _ (sound.consume passed)
    have next := settle_remainder finder settling _ (sound.consume passed)
    rw [goesOn] at more
    rw [steps_some]
    refine .cons front ?_
    simp only [step, more, Bool.false_eq_true, if_false]
    exact ih _ (settle_sound finder _ (sound.consume passed)) _ next
  | case2 rest token last =>
    subst left
    have front := settle_frontOf finder settling _ (sound.consume passed)
    have ends := settle_isLast finder settling _ (sound.consume passed)
    rw [show token.isLast = true by simpa using last] at ends
    rw [steps_some]
    refine .cons front ?_
    simp only [step, ends, if_true, steps_none]
    exact .nil

/-- Step by step the stream shows the fronts of the tokens of all that is delivered. -/
theorem start_frontOf (finder : Finder) (settling : finder.Settling) (source : Source)
    (capacity : Nat) (positive : 1 ≤ capacity) :
    List.Forall₂ (fun step whole => step.token.FrontOf whole)
      ((start (.ofSource source capacity)).steps finder)
      (Walk.tokensOf finder source.delivered) :=
  steps_frontOf finder settling _ _ (Buffer.sound_ofSource source capacity positive) 0 rfl

theorem start_passed (finder : Finder) (settling : finder.Settling) (source : Source)
    (capacity : Nat) (positive : 1 ≤ capacity) :
    ((start (.ofSource source capacity)).steps finder).map Step.passed =
      (Walk.tokensOf finder source.delivered).map Token.passed := by
  have fronts := start_frontOf finder settling source capacity positive
  rw [← List.forall₂_eq_eq_eq, List.forall₂_map_left_iff, List.forall₂_map_right_iff]
  exact fronts.imp fun _ _ front => Prod.ext front.preceding_eq front.delimiter_eq

/-- Streaming is independent of how its input comes: the tokens are the cuts of the delivered
bytes, each remainder shows the front of what follows its cut, and any two sources and capacities
that deliver the same bytes give the same tokens. -/
theorem steps_ignore_chunking (finder : Finder) (settling : finder.Settling) (source : Source)
    (capacity : Nat) (positive : 1 ≤ capacity) :
    ((start (.ofSource source capacity)).steps finder).map Step.passed =
        (finder.cuts source.delivered).map Cut.passed ∧
      List.Forall₂ (fun step cut => step.token.remainder <+: cut.rest)
        ((start (.ofSource source capacity)).steps finder) (finder.cuts source.delivered) ∧
      ∀ other otherCapacity, 1 ≤ otherCapacity → other.delivered = source.delivered →
        ((start (.ofSource other otherCapacity)).steps finder).map Step.passed =
          ((start (.ofSource source capacity)).steps finder).map Step.passed := by
  have walk (source : Source) (capacity : Nat) (positive : 1 ≤ capacity) :
      ((start (.ofSource source capacity)).steps finder).map Step.passed =
        (finder.cuts source.delivered).map Cut.passed := by
    rw [start_passed finder settling source capacity positive, finder.cuts_eq_tokensOf,
      List.map_map]
    rfl
  refine ⟨walk source capacity positive, ?_, ?_⟩
  · rw [finder.cuts_eq_tokensOf, List.forall₂_map_right_iff]
    exact (start_frontOf finder settling source capacity positive).imp
      fun _ _ front => front.remainder_prefix
  · intro other otherCapacity otherPositive same
    rw [walk other otherCapacity otherPositive, walk source capacity positive, same]

/-- A line end that comes in two pieces, with an interruption between them and one byte of room,
is still one break. -/
theorem steps_ignore_chunking_in_line_end :
    let source : Source :=
      [.data 0x61 [0x0d], .interrupted, .data 0x0a [0x62], .failed .other, .data 0x63 []]
    Delimiter.lineBreak.finder.Settling ∧ 1 ≤ 1 ∧
      ((start (.ofSource source 1)).steps Delimiter.lineBreak.finder).map Step.passed =
        [([0x61], [0x0d, 0x0a]), ([0x62], [])] :=
  ⟨Delimiter.lineBreak.settling, Nat.le_refl 1,
    (steps_ignore_chunking _ Delimiter.lineBreak.settling _ 1 (Nat.le_refl 1)).1.trans
      (by decide +kernel)⟩

end Tokens
end TextScan.Stream
