import TextScan.Text
import TextScan.Proofs.ByteWalk
import TextScan.Proofs.CharAligned
import TextScan.Proofs.Split
import Mathlib.Data.List.Chain
import Mathlib.Logic.Function.Iterate

/-! What the tokens of a walk keep of its bytes. Each window is what the token before it left, so
the tokens put the bytes together again, and a size hint counts the bytes that a token could still
take. -/
namespace TextScan

def Token.bytes (token : Token) : Bytes :=
  token.preceding ++ token.delimiter

namespace Walk
variable {finder : Finder} {window : Bytes}

theorem eq_token_of_mem_tokensOf (finder : Finder) (window : Bytes) :
    ∀ token ∈ tokensOf finder window, token = finder.token token.window := by
  fun_induction tokensOf finder window with
  | case1 window token goesOn ih => exact List.forall_mem_cons.mpr ⟨rfl, ih⟩
  | case2 window token last => exact List.forall_mem_singleton.mpr rfl

theorem suffix_of_mem_tokensOf (finder : Finder) (window : Bytes) :
    ∀ token ∈ tokensOf finder window, token.window <:+ window := by
  fun_induction tokensOf finder window with
  | case1 window token goesOn ih =>
    refine List.forall_mem_cons.mpr ⟨List.suffix_refl window, fun later member => ?_⟩
    exact (ih later member).trans (List.drop_suffix _ window)
  | case2 window token last => exact List.forall_mem_singleton.mpr (List.suffix_refl window)

theorem isChain_tokensOf (finder : Finder) (window : Bytes) :
    (tokensOf finder window).IsChain fun token next => next.window = token.remainder := by
  fun_induction tokensOf finder window with
  | case1 window token goesOn ih =>
    refine List.isChain_cons.mpr ⟨?_, ih⟩
    intro next first
    rw [head?_tokensOf] at first
    cases first
    rfl
  | case2 window token last => exact List.isChain_singleton _

/-- By the walk's own recursion: what a token passes over comes off the front of its window, and the rest is
the next window. -/
theorem tokensOf_bytes (finder : Finder) (window : Bytes) :
    ∃ earlier last, tokensOf finder window = earlier ++ [last] ∧
      (∀ token ∈ earlier, token.isLast = false) ∧ last.isLast = true ∧
      (earlier ++ [last]).flatMap Token.bytes ++ last.remainder = window := by
  fun_induction tokensOf finder window with
  | case1 window token goesOn ih =>
    obtain ⟨earlier, last, tokens_eq, before, ends, bytes_eq⟩ := ih
    refine ⟨token :: earlier, last, by rw [tokens_eq]; rfl,
      List.forall_mem_cons.mpr ⟨goesOn, before⟩, ends, ?_⟩
    rw [List.cons_append, List.flatMap_cons, List.append_assoc, bytes_eq]
    exact token.preceding_delimiter_remainder (finder.find_valid window).1
  | case2 window token last =>
    refine ⟨[], token, rfl, by simp, by simpa using last, ?_⟩
    rw [List.nil_append, List.flatMap_singleton]
    exact token.preceding_delimiter_remainder (finder.find_valid window).1

/-- What a call leaves behind. A finished walk stays as it is. -/
def afterCall (finder : Finder) (walk : Walk) : Walk :=
  ((walk.next? finder).map Prod.snd).getD walk

theorem next?_eq_head? (finder : Finder) (walk : Walk) :
    (walk.next? finder).map Prod.fst = (walk.tokens finder).head? := by
  obtain ⟨unsearched⟩ := walk
  cases unsearched with
  | none => rfl
  | some window => exact (head?_tokensOf finder window).symm

theorem tokens_afterCall (finder : Finder) (walk : Walk) :
    (walk.afterCall finder).tokens finder = (walk.tokens finder).tail := by
  obtain ⟨unsearched⟩ := walk
  cases unsearched with
  | none => rfl
  | some window =>
    simp only [afterCall, next?, tokens, Option.map_some, Option.getD_some]
    cases ends : (finder.token window).isLast with
    | true => rw [tokensOf_of_isLast ends]; rfl
    | false => rw [tokensOf_of_goesOn ends]; rfl

/-- The tokens still to come after some calls are those that the calls have not yielded. -/
theorem tokens_afterCalls (finder : Finder) (walk : Walk) (calls : Nat) :
    ((afterCall finder)^[calls] walk).tokens finder = (walk.tokens finder).drop calls := by
  induction calls with
  | zero => rfl
  | succ calls ih =>
    rw [Function.iterate_succ_apply', tokens_afterCall, ih, List.tail_drop]

theorem unsearched_eq (finder : Finder) (walk : Walk) :
    walk.unsearched = (walk.tokens finder).head?.map Token.window := by
  obtain ⟨unsearched⟩ := walk
  cases unsearched with
  | none => rfl
  | some window =>
    change some window = (tokensOf finder window).head?.map Token.window
    rw [head?_tokensOf]
    rfl

theorem sizeHint_bounds (finder : Finder) (walk : Walk) :
    walk.sizeHint.1 ≤ (walk.tokens finder).length ∧
      (walk.tokens finder).length ≤ walk.sizeHint.2 := by
  obtain ⟨unsearched⟩ := walk
  cases unsearched with
  | none => exact ⟨Nat.le_refl 0, Nat.le_refl 0⟩
  | some window =>
    refine ⟨?_, length_tokensOf_le finder window⟩
    obtain ⟨earlier, last, tokens_eq, _⟩ := tokensOf_bytes finder window
    change 1 ≤ (tokensOf finder window).length
    rw [tokens_eq, List.length_append]
    exact Nat.le_add_left 1 earlier.length

theorem isFinished_iff (finder : Finder) (walk : Walk) :
    walk.isFinished = true ↔ walk.tokens finder = [] := by
  rw [isFinished, walk.unsearched_eq finder, Option.isNone_map, Option.isNone_iff_eq_none,
    List.head?_eq_none_iff]

theorem valid_of_mem_tokensOf (aligned : finder.CharAligned) (valid : Utf8.Valid window) :
    ∀ token ∈ tokensOf finder window, Utf8.Valid token.window := by
  fun_induction tokensOf finder window with
  | case1 window token goesOn ih =>
    exact List.forall_mem_cons.mpr ⟨valid, ih (aligned.remainder_valid valid)⟩
  | case2 window token last => exact List.forall_mem_singleton.mpr valid

theorem valid_of_mem_splitAtMost (aligned : finder.CharAligned) (valid : Utf8.Valid window)
    (limit : Nat) : ∀ piece ∈ splitAtMost finder limit window, Utf8.Valid piece := by
  intro piece member
  rw [splitAtMost_eq_append, List.mem_append, List.mem_map, Option.mem_toList,
    Option.map_eq_some_iff] at member
  rcases member with ⟨token, early, rfl⟩ | ⟨token, next, rfl⟩
  · have inside := List.mem_of_mem_take early
    have text := valid_of_mem_tokensOf aligned valid token inside
    rw [eq_token_of_mem_tokensOf finder window token inside]
    exact (aligned.views_valid text).1
  · exact valid_of_mem_tokensOf aligned valid token (List.mem_of_getElem? next)

end Walk

namespace Text
open Utf8 (Valid)

def afterCall (finder : Finder) (walk : Walk) : Walk :=
  ((next? finder walk).map Prod.snd).getD walk

/-- The walk over a text ends for any finder, also for one that cuts into characters or does not
move on. Each call yields the next token, from a window that is what the token before it left, until
the last one; then the walk is finished for good. Each token cuts its window into three texts, all of
them together are the text again, and only the last finds no delimiter or would leave the walk where
it is. At any time the tokens still to come are as many as the size hint allows: at least one, and at
most one more than there are bytes to search. -/
theorem tokens_reassemble (finder : Finder) (text : Bytes) (valid : Valid text) :
    let first := Walk.start text
    let tokens := tokens finder first
    (∀ calls, let walk := (afterCall finder)^[calls] first
        (next? finder walk).map Prod.fst = tokens[calls]? ∧
          (walk.isFinished = true ↔ tokens.length ≤ calls) ∧
          walk.unsearched = tokens[calls]?.map Token.window ∧
          walk.sizeHint = walk.unsearched.elim (0, 0) (fun rest => (1, rest.length + 1)) ∧
          walk.sizeHint.1 ≤ tokens.length - calls ∧ tokens.length - calls ≤ walk.sizeHint.2) ∧
      tokens.head?.map Token.window = some text ∧
      tokens.IsChain (fun token next => next.window = token.remainder) ∧
      (∀ token ∈ tokens, token.preceding ++ token.delimiter ++ token.remainder = token.window ∧
        Valid token.preceding ∧ Valid token.delimiter ∧ Valid token.remainder) ∧
      ∃ earlier last, tokens = earlier ++ [last] ∧
        tokens.flatMap (fun token => token.preceding ++ token.delimiter) ++ last.remainder = text ∧
        (last.span = .notFound last.window.length ∨ last.span.stop = 0) ∧
        ∀ token ∈ earlier, ¬(token.span = .notFound token.window.length ∨ token.span.stop = 0) := by
  intro first tokens
  have aligned := finder.charAligned_wholeChars
  obtain ⟨earlier, last, tokens_eq, before, ends, bytes_eq⟩ :=
    Walk.tokensOf_bytes finder.wholeChars text
  refine ⟨fun calls => ?_, ?_, Walk.isChain_tokensOf _ text, fun token member => ?_, earlier, last,
    tokens_eq, ?_, last.isLast_iff.mp ends, fun token member => ?_⟩
  · intro walk
    have left : walk.tokens finder.wholeChars = tokens.drop calls :=
      Walk.tokens_afterCalls finder.wholeChars first calls
    have count : (walk.tokens finder.wholeChars).length = tokens.length - calls := by
      rw [left, List.length_drop]
    have next : (walk.tokens finder.wholeChars).head? = tokens[calls]? := by
      rw [left, List.head?_drop]
    obtain ⟨least, most⟩ := walk.sizeHint_bounds finder.wholeChars
    rw [count] at least most
    refine ⟨(walk.next?_eq_head? _).trans next, ?_, ?_, ?_, least, most⟩
    · rw [walk.isFinished_iff finder.wholeChars, left, List.drop_eq_nil_iff]
    · rw [walk.unsearched_eq finder.wholeChars, next]
    · cases walk with
      | mk unsearched => cases unsearched <;> rfl
  · change (Walk.tokensOf finder.wholeChars text).head?.map Token.window = some text
    rw [Walk.head?_tokensOf]
    rfl
  · have token_eq := Walk.eq_token_of_mem_tokensOf _ text token member
    have window := Walk.valid_of_mem_tokensOf aligned valid token member
    have ordered := (finder.wholeChars.find_valid token.window).1
    rw [token_eq]
    exact ⟨Token.preceding_delimiter_remainder _ ordered, aligned.views_valid window⟩
  · rw [← tokens_eq] at bytes_eq
    exact bytes_eq
  · rw [← Token.isLast_iff, before token member]
    exact Bool.false_ne_true

/-- A finder that answers the middle of the first character takes the whole of it, and finds nothing in
the one byte that is left. -/
theorem tokens_reassemble_inside_characters :
    let finder : Finder := .clamp fun _ => ⟨1, 1⟩
    let text : Bytes := [0xc3, 0xa9, 0xe2, 0x82, 0xac, 0x61]
    let left := (afterCall finder)^[1] (.start text)
    Valid text ∧ (tokens finder (.start text)).map Token.passed =
        [([], [0xc3, 0xa9]), ([], [0xe2, 0x82, 0xac]), ([0x61], [])] ∧
      left.sizeHint = (1, 5) ∧ (tokens finder (.start text)).length - 1 ≤ left.sizeHint.2 := by
  intro finder text left
  have valid : Valid text := by decide
  obtain ⟨calls, _⟩ := tokens_reassemble finder text valid
  obtain ⟨_, _, _, _, _, most⟩ := calls 1
  exact ⟨valid, by decide +kernel, by decide +kernel, most⟩

end Text
end TextScan
