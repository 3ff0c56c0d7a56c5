import TextScan.Text
import TextScan.Proofs.ByteWalk
import Mathlib.Logic.Function.Iterate

/-! A cursor and a walk over the same bytes. The cursor looks for bytes left before it searches and
the walk for a delimiter after it has, so the cursor stands at the tokens of the walk and passes over
one only: the empty token behind a delimiter that the bytes end with. -/
namespace TextScan

namespace Finder
variable {finder : Finder} {window : Bytes}

theorem length_delimiter (finder : Finder) (window : Bytes) :
    (finder.token window).delimiter.length =
      (finder.find window).stop - (finder.find window).start := by
  have valid := finder.find_valid window
  simp only [Span.ValidFor] at valid
  simp only [token, Token.delimiter, Span.length, List.length_take, List.length_drop]
  omega

theorem delimiter_eq_nil_iff (finder : Finder) (window : Bytes) :
    (finder.token window).delimiter = [] ↔
      (finder.find window).start = (finder.find window).stop := by
  have ordered := (finder.find_valid window).1
  rw [← List.length_eq_zero_iff, length_delimiter]
  omega

theorem delimiter_of_notFound (none : finder.find window = .notFound window.length) :
    (finder.token window).delimiter = [] := by
  rw [delimiter_eq_nil_iff, none]
  rfl

theorem remainder_eq_nil_iff (finder : Finder) (window : Bytes) :
    (finder.token window).remainder = [] ↔ (finder.find window).stop = window.length := by
  have inside := (finder.find_valid window).2
  change window.drop (finder.find window).stop = [] ↔ _
  rw [List.drop_eq_nil_iff]
  omega

/-- A last token shows neither a delimiter nor anything behind it, or it takes nothing. -/
theorem isLast_iff_views (finder : Finder) (window : Bytes) :
    (finder.token window).isLast = true ↔
      (finder.token window).delimiter = [] ∧ (finder.token window).remainder = [] ∨
        (finder.find window).stop = 0 := by
  rw [delimiter_eq_nil_iff, remainder_eq_nil_iff]
  simp only [Token.isLast, token, Span.isNotFound, Span.isEmpty, Span.reachesEnd,
    Bool.or_eq_true, Bool.and_eq_true, beq_iff_eq]

theorem delimiter_of_isLast (last : (finder.token window).isLast = true) :
    (finder.token window).delimiter = [] := by
  rcases (finder.isLast_iff_views window).mp last with ⟨none, _⟩ | stuck
  · exact none
  · have ordered := (finder.find_valid window).1
    rw [delimiter_eq_nil_iff]
    omega

theorem delimiter_ne_nil (goesOn : (finder.token window).isLast = false)
    (spent : (finder.token window).remainder = []) : (finder.token window).delimiter ≠ [] := by
  intro none
  rw [(finder.isLast_iff_views window).mpr (.inl ⟨none, spent⟩)] at goesOn
  cases goesOn

theorem token_nil (finder : Finder) : finder.token [] = ⟨[], .zero⟩ := by
  have valid := finder.find_valid []
  rw [token]
  generalize finder.find [] = span at valid ⊢
  obtain ⟨start, stop⟩ := span
  obtain ⟨ordered, inside⟩ : start ≤ stop ∧ stop ≤ 0 := valid
  obtain rfl : stop = 0 := Nat.le_zero.mp inside
  obtain rfl : start = 0 := Nat.le_zero.mp ordered
  rfl

theorem ne_nil_of_goesOn (goesOn : (finder.token window).isLast = false) : window ≠ [] :=
  List.ne_nil_of_length_pos (Nat.zero_lt_of_lt (finder.remainder_lt goesOn))

end Finder

namespace Move

/-- The token a move has come to, if it has succeeded. -/
def position? (move : Move) : Option Token :=
  if move.succeeded then some move.cursor.token else none

def next (finder : Finder) (move : Move) : Move :=
  move.cursor.advance finder

end Move

namespace Cursor
variable {finder : Finder} {rest : Bytes}

theorem advance_of_exhausted {cursor : Cursor} (ended : cursor.place = .exhausted) :
    advance finder cursor = ⟨false, cursor⟩ := by
  rw [advance, ended]

theorem afterMoves_of_exhausted (finder : Finder) {cursor : Cursor}
    (ended : cursor.place = .exhausted) (moves : Nat) :
    (afterMove finder)^[moves] cursor = cursor :=
  Function.iterate_fixed (congrArg Move.cursor (advance_of_exhausted ended)) moves

theorem seek_nil (finder : Finder) : seek finder [] = ⟨false, [], .exhausted⟩ :=
  if_pos rfl

theorem seek_of_ne_nil (nonempty : rest ≠ []) :
    seek finder rest = ⟨true, rest, .positioned (finder.find rest)⟩ :=
  if_neg nonempty

theorem advance_of_stop_eq_zero {span : Span} (stop : span.stop = 0) :
    advance finder ⟨rest, .positioned span⟩ = ⟨false, [], .exhausted⟩ :=
  if_pos stop

theorem advance_of_stop_ne_zero {span : Span} (stop : span.stop ≠ 0) :
    advance finder ⟨rest, .positioned span⟩ = seek finder (rest.drop span.stop) :=
  if_neg stop

theorem position?_seek_nil : (seek finder []).position? = none := by
  rw [seek_nil]
  rfl

theorem position?_seek (nonempty : rest ≠ []) :
    (seek finder rest).position? = some (finder.token rest) := by
  rw [seek_of_ne_nil nonempty]
  rfl

theorem next_seek_of_goesOn (goesOn : (finder.token rest).isLast = false) :
    (seek finder rest).next finder = seek finder (finder.token rest).remainder := by
  have moves : (finder.find rest).stop ≠ 0 := by
    intro stuck
    rw [(finder.isLast_iff_views rest).mpr (.inr stuck)] at goesOn
    cases goesOn
  rw [seek_of_ne_nil (Finder.ne_nil_of_goesOn goesOn), Move.next, advance_of_stop_ne_zero moves]
  rfl

theorem next_seek_of_isLast (last : (finder.token rest).isLast = true) :
    (seek finder rest).next finder = ⟨false, [], .exhausted⟩ := by
  by_cases empty : rest = []
  · rw [empty, seek_nil]
    rfl
  · rw [seek_of_ne_nil empty, Move.next]
    by_cases stuck : (finder.find rest).stop = 0
    · exact advance_of_stop_eq_zero stuck
    · have spent := ((finder.isLast_iff_views rest).mp last).resolve_right stuck
      rw [advance_of_stop_ne_zero stuck, ← seek_nil finder]
      exact congrArg (seek finder) spent.2

theorem nexts_of_failed (finder : Finder) (window : Bytes) (moves : Nat) :
    (Move.next finder)^[moves] ⟨false, window, .exhausted⟩ = ⟨false, window, .exhausted⟩ :=
  Function.iterate_fixed (advance_of_exhausted rfl) moves

theorem advance_afterMoves (finder : Finder) (cursor : Cursor) (moves : Nat) :
    advance finder ((afterMove finder)^[moves] cursor) =
      (Move.next finder)^[moves] (advance finder cursor) := by
  have step : Function.Semiconj (advance finder) (afterMove finder) (Move.next finder) :=
    fun _ => rfl
  exact step.iterate_right moves cursor

/-- The walk has one more token than the cursor has positions: there is nothing to search, or a
delimiter ends the bytes. -/
def OneShort (bytes : Bytes) (positions : List Token) : Prop :=
  bytes = [] ∨ ∃ last, positions.getLast? = some last ∧ last.delimiter ≠ [] ∧ last.remainder = []

/-- A token in front of the others leaves the end of the walk as it is. -/
theorem oneShort_cons {positions : List Token} (goesOn : (finder.token rest).isLast = false)
    (first : (seek finder (finder.token rest).remainder).position? = positions[0]?) :
    OneShort rest (finder.token rest :: positions) ↔
      OneShort (finder.token rest).remainder positions := by
  by_cases spent : (finder.token rest).remainder = []
  · rw [spent, position?_seek_nil, eq_comm, List.getElem?_eq_none_iff,
      Nat.le_zero, List.length_eq_zero_iff] at first
    subst first
    exact iff_of_true (.inr ⟨_, rfl, Finder.delimiter_ne_nil goesOn spent, spent⟩) (.inl spent)
  · rw [position?_seek spent] at first
    cases positions with
    | nil => cases first
    | cons next later =>
      simp only [OneShort, Finder.ne_nil_of_goesOn goesOn, spent, false_or,
        List.getLast?_cons_cons]

/-- The positions of a cursor by the walk's own recursion: it comes from each token to the bytes behind
it as the walk does, until the walk's last token, behind which it finds nothing. -/
theorem positions_of_seek (finder : Finder) (rest : Bytes) :
    ∃ positions : List Token,
      (∀ moves, ((Move.next finder)^[moves] (seek finder rest)).position? = positions[moves]?) ∧
      (OneShort rest positions → Walk.tokensOf finder rest = positions ++ [⟨[], .zero⟩]) ∧
      (¬OneShort rest positions → Walk.tokensOf finder rest = positions) := by
  fun_induction Walk.tokensOf finder rest with
  | case1 rest token goesOn ih =>
    obtain ⟨positions, moves_eq, trailing, exact⟩ := ih
    have same := oneShort_cons goesOn (moves_eq 0)
    refine ⟨token :: positions, fun moves => ?_, fun short => ?_, fun full => ?_⟩
    · cases moves with
      | zero => exact position?_seek (Finder.ne_nil_of_goesOn goesOn)
      | succ moves =>
        rw [Function.iterate_succ_apply, next_seek_of_goesOn goesOn, List.getElem?_cons_succ]
        exact moves_eq moves
    · rw [trailing (same.mp short), List.cons_append]
    · rw [exact (mt same.mpr full)]
  | case2 rest token last =>
    have last : (finder.token rest).isLast = true := by simpa using last
    by_cases empty : rest = []
    · subst empty
      refine ⟨[], fun moves => ?_, fun _ => ?_, fun full => absurd (.inl rfl) full⟩
      · rw [seek_nil, nexts_of_failed]
        rfl
      · exact congrArg ([·]) finder.token_nil
    · refine ⟨[finder.token rest], fun moves => ?_, fun short => ?_, fun _ => rfl⟩
      · cases moves with
        | zero => exact position?_seek empty
        | succ moves =>
          rw [Function.iterate_succ_apply, next_seek_of_isLast last, nexts_of_failed]
          rfl
      · rcases short with none | ⟨_, first, some, _⟩
        · exact absurd none empty
        · cases first
          exact absurd (Finder.delimiter_of_isLast last) some

end Cursor

namespace Text

/-- A cursor over a text and a walk over it agree. The cursor's moves succeed a number of times, at
the tokens of the walk in their order, and fail from then on. The walk has the same tokens, and one
more in which all is empty exactly when the text is empty or a delimiter that is not empty ends it. -/
theorem tokens_eq_positions (finder : Finder) (text : Bytes) :
    ∃ positions : List Token,
      (∀ moves, (advance finder ((afterMove finder)^[moves] (.start text))).position? =
        positions[moves]?) ∧
      ((text = [] ∨ ∃ last, positions.getLast? = some last ∧ last.delimiter ≠ [] ∧
          last.remainder = []) →
        tokens finder (.start text) = positions ++ [⟨[], .zero⟩]) ∧
      (¬(text = [] ∨ ∃ last, positions.getLast? = some last ∧ last.delimiter ≠ [] ∧
          last.remainder = []) →
        tokens finder (.start text) = positions) := by
  obtain ⟨positions, moves_eq, trailing, exact⟩ :=
    Cursor.positions_of_seek finder.wholeChars text
  refine ⟨positions, fun moves => ?_, trailing, exact⟩
  exact (congrArg Move.position? (Cursor.advance_afterMoves ..)).trans (moves_eq moves)

end Text
end TextScan
