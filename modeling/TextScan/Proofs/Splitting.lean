import TextScan.Splitting
import TextScan.Proofs.Reassembly
import TextScan.Proofs.Split

/-! Splitting at a limited number of delimiters: the pieces of the tokens that the limit allows, and
after them the whole window of the next one. -/
namespace TextScan

/-- Pieces with a delimiter after each but the last. -/
def interleave : List Bytes → List Bytes → Bytes
  | first :: second :: pieces, delimiter :: delimiters =>
    first ++ delimiter ++ interleave (second :: pieces) delimiters
  | pieces, _ => pieces.flatten

theorem interleave_singleton (piece : Bytes) (delimiters : List Bytes) :
    interleave [piece] delimiters = piece :=
  List.append_nil piece

theorem interleave_cons {pieces : List Bytes} (some : pieces ≠ []) (piece delimiter : Bytes)
    (delimiters : List Bytes) :
    interleave (piece :: pieces) (delimiter :: delimiters) =
      piece ++ delimiter ++ interleave pieces delimiters := by
  obtain ⟨second, pieces, rfl⟩ := List.exists_cons_of_ne_nil some
  rfl

namespace Walk
variable {finder : Finder}

theorem preceding_of_notFound {token : Token} (none : token.span = .notFound token.window.length) :
    token.preceding = token.window := by
  rw [Token.preceding, none]
  exact List.take_length

/-- Pieces and delimiters by turns are the bytes again, if the limit cut the walk short or no delimiter
ended it. -/
theorem interleave_splitAtMost (limit : Nat) (bytes : Bytes)
    (whole : limit < (tokensOf finder bytes).length ∨
      ∃ last, (tokensOf finder bytes).getLast? = some last ∧
        last.span = .notFound last.window.length) :
    interleave (splitAtMost finder limit bytes) ((tokensOf finder bytes).map Token.delimiter) =
      bytes := by
  induction limit generalizing bytes with
  | zero => exact interleave_singleton bytes _
  | succ limit ih =>
    cases ends : (finder.token bytes).isLast with
    | true =>
      rw [tokensOf_of_isLast ends] at whole ⊢
      rw [splitAtMost_of_isLast ends, interleave_singleton]
      rcases whole with beyond | ⟨last, same, none⟩
      · rw [List.length_singleton] at beyond
        omega
      · cases same
        exact preceding_of_notFound none
    | false =>
      have ordered := (finder.find_valid bytes).1
      have behind := splitAtMost_ne_nil finder limit (finder.token bytes).remainder
      rw [tokensOf_of_goesOn ends] at whole ⊢
      rw [splitAtMost_of_goesOn ends, List.map_cons, interleave_cons behind, ih]
      · exact (finder.token bytes).preceding_delimiter_remainder ordered
      · rw [List.length_cons] at whole
        refine whole.imp Nat.lt_of_succ_lt_succ ?_
        rintro ⟨last, same, none⟩
        refine ⟨last, ?_, none⟩
        obtain ⟨next, later, rest_eq⟩ := List.exists_cons_of_ne_nil
          (tokensOf_ne_nil finder (finder.token bytes).remainder)
        rwa [rest_eq, List.getLast?_cons_cons, ← rest_eq] at same

theorem takePieces?_of_isLast {window : Bytes} (last : (finder.token window).isLast = true)
    (left : UInt64) (pieces : List Bytes) :
    takePieces? finder left pieces (start window) =
      some (pieces.reverse ++ [(finder.token window).preceding]) := by
  rw [takePieces?]
  simp only [next?, start, Option.map_some, last, if_true, isFinished, Option.isNone_none,
    List.reverse_cons]

theorem takePieces?_of_goesOn {window : Bytes} (goesOn : (finder.token window).isLast = false)
    (left : UInt64) (counts : left ≠ 0) (pieces : List Bytes) :
    takePieces? finder left pieces (start window) =
      let pieces := (finder.token window).preceding :: pieces
      if left - 1 = 0 then some ((finder.token window).remainder :: pieces).reverse
      else takePieces? finder (left - 1) pieces (start (finder.token window).remainder) := by
  rw [takePieces?]
  simp only [next?, start, Option.map_some, goesOn, Bool.false_eq_true, if_false, isFinished,
    Option.isNone_some, counts]

theorem counts_of_toNat {left : UInt64} {limit : Nat} (counts : left.toNat = limit + 1) :
    left ≠ 0 ∧ (left - 1).toNat = limit := by
  constructor
  · rintro rfl
    cases counts
  · have one_le : (1 : UInt64) ≤ left := by
      rw [UInt64.le_iff_toNat_le, counts]
      exact Nat.le_add_left 1 limit
    rw [UInt64.toNat_sub_of_le left 1 one_le, counts]
    rfl

/-- The counter is what the limit still allows, which is never zero while the walk goes on. -/
theorem takePieces?_eq (finder : Finder) (limit : Nat) (left : UInt64)
    (counts : left.toNat = limit + 1) (pieces : List Bytes) (window : Bytes) :
    takePieces? finder left pieces (start window) =
      some (pieces.reverse ++ splitAtMost finder (limit + 1) window) := by
  induction limit generalizing left pieces window with
  | zero =>
    obtain ⟨positive, less⟩ := counts_of_toNat counts
    cases ends : (finder.token window).isLast with
    | true => rw [takePieces?_of_isLast ends, splitAtMost_of_isLast ends]
    | false =>
      have spent : left - 1 = 0 := UInt64.toNat_inj.mp less
      rw [takePieces?_of_goesOn ends left positive, splitAtMost_of_goesOn ends]
      simp only [spent, if_true, splitAtMost, List.reverse_cons, List.append_assoc,
        List.singleton_append]
  | succ limit ih =>
    obtain ⟨positive, less⟩ := counts_of_toNat counts
    cases ends : (finder.token window).isLast with
    | true => rw [takePieces?_of_isLast ends, splitAtMost_of_isLast ends]
    | false =>
      have more : left - 1 ≠ 0 := (counts_of_toNat less).1
      rw [takePieces?_of_goesOn ends left positive, splitAtMost_of_goesOn ends]
      simp only [more, if_false]
      rw [ih (left - 1) less, List.reverse_cons, List.append_assoc, List.singleton_append]

theorem splitCounting?_eq (finder : Finder) (limit : UInt64) (bytes : Bytes) :
    splitCounting? finder limit bytes = some (splitAtMost finder limit.toNat bytes) := by
  rw [splitCounting?]
  split
  case isTrue none =>
    rw [none]
    rfl
  case isFalse some =>
    have positive : limit.toNat ≠ 0 := fun zero => some (UInt64.toNat_inj.mp zero)
    obtain ⟨below, counts⟩ := Nat.exists_eq_succ_of_ne_zero positive
    rw [takePieces?_eq finder below limit counts [] bytes, counts]
    rfl

end Walk

namespace Text

/-- Splitting a text at no more than a limit of delimiters yields what its tokens have before their
delimiters, one piece for each token, if the limit allows that many. Else the tokens that it allows
are followed by the whole window of the next one. The counter of the splits left never passes below
zero, for any limit that a machine word holds, and the greatest such limit stops no walk. With the
delimiters between them the pieces are the text again, unless the walk ends where it would not move
on and the limit reaches that far. -/
theorem splitAtMost_follows_tokens (finder : Finder) (text : Bytes) (limit : UInt64) :
    let tokens := tokens finder (.start text)
    let pieces := splitAtMost finder limit.toNat text
    splitCounting? finder limit text = some pieces ∧
      (tokens.length ≤ limit.toNat → pieces = tokens.map Token.preceding) ∧
      (∀ inside : limit.toNat < tokens.length,
        pieces = (tokens.take limit.toNat).map Token.preceding ++ [tokens[limit.toNat].window]) ∧
      pieces.length = min (limit.toNat + 1) tokens.length ∧
      split finder text = tokens.map Token.preceding ∧
      (text.length < UInt64.size - 1 →
        splitCounting? finder (.ofNat (UInt64.size - 1)) text = some (split finder text)) ∧
      ((limit.toNat < tokens.length ∨ ∃ last, tokens.getLast? = some last ∧
          last.span = .notFound last.window.length) →
        interleave pieces (tokens.map Token.delimiter) = text) := by
  intro tokens pieces
  have within : tokens.length ≤ limit.toNat → pieces = tokens.map Token.preceding :=
    Walk.splitAtMost_eq_tokensOf
  have beyond : ∀ inside : limit.toNat < tokens.length,
      pieces = (tokens.take limit.toNat).map Token.preceding ++ [tokens[limit.toNat].window] :=
    Walk.splitAtMost_of_lt
  refine ⟨Walk.splitCounting?_eq _ limit text, within, beyond, ?_, Walk.split_eq_tokensOf _ text, ?_,
    Walk.interleave_splitAtMost limit.toNat text⟩
  · rcases Nat.lt_or_ge limit.toNat tokens.length with inside | all
    · rw [beyond inside, List.length_append, List.length_map, List.length_take_of_le inside.le,
        min_eq_left inside]
      rfl
    · rw [within all, List.length_map, min_eq_right (Nat.le_succ_of_le all)]
  · intro fits
    have greatest : (UInt64.ofNat (UInt64.size - 1)).toNat = UInt64.size - 1 :=
      UInt64.toNat_ofNat_of_lt' (by decide)
    have most := Walk.length_tokensOf_le finder.wholeChars text
    rw [splitCounting?, Walk.splitCounting?_eq, greatest, split, Walk.split_eq_tokensOf,
      Walk.splitAtMost_eq_tokensOf (Nat.le_trans most fits)]

/-- A walk that would not move on keeps only what comes before its last delimiter, unless the limit is
reached first. -/
example :
    let finder : Finder := .clamp fun _ => ⟨0, 0⟩
    splitAtMost finder 1 [0x61] = [[]] ∧ splitAtMost finder 0 [0x61] = [[0x61]] := by
  decide

end Text
end TextScan
