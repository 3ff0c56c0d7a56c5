import TextScan.Walk

/-! The walk over whole data, said without tokens or windows. The walk over bytes in memory takes
the same cuts. -/
namespace TextScan

/-- One cut of a walk: what comes before a delimiter, the delimiter, and all that follows it. -/
structure Cut where
  preceding : Bytes
  delimiter : Bytes
  rest : Bytes
deriving DecidableEq

def Cut.passed (cut : Cut) : Bytes × Bytes :=
  (cut.preceding, cut.delimiter)

namespace Token

def cut (token : Token) : Cut :=
  ⟨token.preceding, token.delimiter, token.remainder⟩

def passed (token : Token) : Bytes × Bytes :=
  (token.preceding, token.delimiter)

theorem isLast_iff (token : Token) :
    token.isLast = true ↔ token.span = .notFound token.window.length ∨ token.span.stop = 0 := by
  obtain ⟨window, start, stop⟩ := token
  simp only [isLast, Span.isNotFound, Span.isEmpty, Span.reachesEnd, Span.notFound,
    Bool.or_eq_true, Bool.and_eq_true, beq_iff_eq, Span.mk.injEq]
  omega

end Token

namespace Finder

theorem token_isLast (finder : Finder) (rest : Bytes) :
    (finder.token rest).isLast = true ↔
      finder.find rest = .notFound rest.length ∨ (finder.find rest).stop = 0 :=
  (finder.token rest).isLast_iff

theorem drop_stop_lt (finder : Finder) (rest : Bytes)
    (goesOn : ¬(finder.find rest = .notFound rest.length ∨ (finder.find rest).stop = 0)) :
    (rest.drop (finder.find rest).stop).length < rest.length :=
  finder.remainder_lt (Bool.eq_false_iff.mpr (mt (finder.token_isLast rest).mp goesOn))

/-- The cuts that a finder makes in some bytes, up to the first that finds nothing or would leave
the walk where it is. -/
def cuts (finder : Finder) (rest : Bytes) : List Cut :=
  let span := finder.find rest
  let cut : Cut :=
    ⟨rest.take span.start, (rest.take span.stop).drop span.start, rest.drop span.stop⟩
  if _ : span = .notFound rest.length ∨ span.stop = 0 then [cut]
  else cut :: cuts finder (rest.drop span.stop)
termination_by rest.length
decreasing_by exact finder.drop_stop_lt rest ‹_›

theorem cut_token (finder : Finder) (rest : Bytes) :
    (finder.token rest).cut = ⟨rest.take (finder.find rest).start,
      (rest.take (finder.find rest).stop).drop (finder.find rest).start,
      rest.drop (finder.find rest).stop⟩ := by
  simp only [Token.cut, Token.preceding, Token.delimiter, Token.remainder, token, Span.length,
    List.drop_take]

theorem cuts_eq_tokensOf (finder : Finder) (rest : Bytes) :
    finder.cuts rest = (Walk.tokensOf finder rest).map Token.cut := by
  fun_induction Walk.tokensOf finder rest with
  | case1 rest token goesOn ih =>
    have more := mt (finder.token_isLast rest).mpr (Bool.eq_false_iff.mp goesOn)
    rw [cuts, dif_neg more, List.map_cons, ← ih, cut_token]
    rfl
  | case2 rest token last =>
    have ends := (finder.token_isLast rest).mp (by simpa using last)
    rw [cuts, dif_pos ends, List.map_singleton, cut_token]

end Finder
end TextScan
