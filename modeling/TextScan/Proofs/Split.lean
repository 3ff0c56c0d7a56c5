import TextScan.Walk

/-! Splitting as a view of the walk: a piece is what a token has before its delimiter, and after a
limit of tokens the rest is the window of the next one. -/
namespace TextScan

namespace Finder
variable {finder : Finder} {front slice rest : Bytes}

theorem token_found (found : finder.find (front ++ slice ++ rest) =
      ⟨front.length, front.length + slice.length⟩) :
    (finder.token (front ++ slice ++ rest)).preceding = front ∧
      (finder.token (front ++ slice ++ rest)).delimiter = slice ∧
      (finder.token (front ++ slice ++ rest)).remainder = rest := by
  simp only [token, Token.preceding, Token.delimiter, Token.remainder, found, Span.length]
  refine ⟨by simp, by simp, ?_⟩
  rw [← List.length_append, List.drop_left]

theorem isLast_found (found : finder.find (front ++ slice ++ rest) =
      ⟨front.length, front.length + slice.length⟩) (nonempty : slice ≠ []) :
    (finder.token (front ++ slice ++ rest)).isLast = false := by
  have some := List.length_pos_iff.mpr nonempty
  simp only [token, Token.isLast, found, Span.isNotFound, Span.isEmpty, Bool.or_eq_false_iff,
    Bool.and_eq_false_iff, beq_eq_false_iff_ne]
  omega

end Finder

namespace Walk
variable {finder : Finder} {window front slice rest : Bytes}

/-- Induction on what is left of a window behind any bytes cut out of it. -/
@[elab_as_elim]
theorem cut_induction {motive : Bytes → Prop}
    (step : ∀ window, (∀ front slice rest, window = front ++ slice ++ rest → slice ≠ [] →
      motive rest) → motive window) (window : Bytes) : motive window := by
  induction same : window.length using Nat.strongRecOn generalizing window with
  | ind length ih =>
    refine step window fun front slice rest split nonempty => ih rest.length ?_ rest rfl
    have some := List.length_pos_iff.mpr nonempty
    rw [split, List.length_append, List.length_append] at same
    omega

theorem tokensOf_of_isLast (last : (finder.token window).isLast = true) :
    tokensOf finder window = [finder.token window] := by
  rw [tokensOf, dif_neg (by rw [last]; exact Bool.noConfusion)]

theorem tokensOf_of_goesOn (goesOn : (finder.token window).isLast = false) :
    tokensOf finder window =
      finder.token window :: tokensOf finder (finder.token window).remainder := by
  rw [tokensOf, dif_pos goesOn]

theorem head?_tokensOf (finder : Finder) (window : Bytes) :
    (tokensOf finder window).head? = some (finder.token window) := by
  cases ends : (finder.token window).isLast with
  | true => rw [tokensOf_of_isLast ends, List.head?_cons]
  | false => rw [tokensOf_of_goesOn ends, List.head?_cons]

theorem tokensOf_ne_nil (finder : Finder) (window : Bytes) : tokensOf finder window ≠ [] := by
  intro none
  have first := head?_tokensOf finder window
  rw [none] at first
  cases first

theorem length_tokensOf_le (finder : Finder) (window : Bytes) :
    (tokensOf finder window).length ≤ window.length + 1 := by
  fun_induction tokensOf finder window with
  | case1 window token goesOn ih =>
    have less : token.remainder.length < window.length := finder.remainder_lt goesOn
    rw [List.length_cons]
    omega
  | case2 window token last => exact Nat.le_add_left 1 window.length

theorem tokensOf_found
    (found : finder.find (front ++ slice ++ rest) =
      ⟨front.length, front.length + slice.length⟩) (nonempty : slice ≠ []) :
    tokensOf finder (front ++ slice ++ rest) =
      finder.token (front ++ slice ++ rest) :: tokensOf finder rest := by
  rw [tokensOf_of_goesOn (Finder.isLast_found found nonempty), (Finder.token_found found).2.2]

theorem tokensOf_notFound (none : finder.find window = .notFound window.length) :
    tokensOf finder window = [finder.token window] := by
  apply tokensOf_of_isLast
  simp [Finder.token, Token.isLast, none, Span.isNotFound, Span.isEmpty, Span.reachesEnd,
    Span.notFound]

theorem splitAtMost_of_isLast (last : (finder.token window).isLast = true) (limit : Nat) :
    splitAtMost finder (limit + 1) window = [(finder.token window).preceding] := by
  rw [splitAtMost]
  exact if_pos last

theorem splitAtMost_of_goesOn (goesOn : (finder.token window).isLast = false) (limit : Nat) :
    splitAtMost finder (limit + 1) window =
      (finder.token window).preceding ::
        splitAtMost finder limit (finder.token window).remainder := by
  rw [splitAtMost]
  exact if_neg (Bool.eq_false_iff.mp goesOn)

theorem splitAtMost_ne_nil (finder : Finder) (limit : Nat) (bytes : Bytes) :
    splitAtMost finder limit bytes ≠ [] := by
  cases limit with
  | zero => exact List.cons_ne_nil _ _
  | succ limit =>
    rw [splitAtMost]
    split
    · exact List.cons_ne_nil _ _
    · exact List.cons_ne_nil _ _

/-- Splitting takes its first pieces from the walk and leaves the window of the next token whole. -/
theorem splitAtMost_eq_append (finder : Finder) (limit : Nat) (window : Bytes) :
    splitAtMost finder limit window =
      ((tokensOf finder window).take limit).map Token.preceding ++
        ((tokensOf finder window)[limit]?.map Token.window).toList := by
  induction limit generalizing window with
  | zero =>
    rw [← List.head?_eq_getElem?, head?_tokensOf]
    rfl
  | succ limit ih =>
    cases ends : (finder.token window).isLast with
    | true =>
      rw [splitAtMost_of_isLast ends, tokensOf_of_isLast ends, List.take_succ_cons, List.take_nil]
      rfl
    | false =>
      rw [splitAtMost_of_goesOn ends, tokensOf_of_goesOn ends, ih]
      rfl

theorem splitAtMost_of_lt {limit : Nat} (inside : limit < (tokensOf finder window).length) :
    splitAtMost finder limit window =
      ((tokensOf finder window).take limit).map Token.preceding ++
        [(tokensOf finder window)[limit].window] := by
  rw [splitAtMost_eq_append, List.getElem?_eq_getElem inside]
  rfl

theorem splitAtMost_eq_tokensOf {limit : Nat}
    (enough : (tokensOf finder window).length ≤ limit) :
    splitAtMost finder limit window = (tokensOf finder window).map Token.preceding := by
  rw [splitAtMost_eq_append, List.take_of_length_le enough, List.getElem?_eq_none enough]
  exact List.append_nil _

theorem split_eq_tokensOf (finder : Finder) (bytes : Bytes) :
    split finder bytes = (tokensOf finder bytes).map Token.preceding :=
  splitAtMost_eq_tokensOf (length_tokensOf_le finder bytes)

theorem split_found
    (found : finder.find (front ++ slice ++ rest) =
      ⟨front.length, front.length + slice.length⟩) (nonempty : slice ≠ []) :
    split finder (front ++ slice ++ rest) = front :: split finder rest := by
  rw [split_eq_tokensOf, tokensOf_found found nonempty, List.map_cons,
    (Finder.token_found found).1, split_eq_tokensOf]

theorem split_notFound (none : finder.find window = .notFound window.length) :
    split finder window = [window] := by
  rw [split_eq_tokensOf, tokensOf_notFound none, List.map_singleton]
  simp [Finder.token, Token.preceding, none, Span.notFound]

end Walk
end TextScan
