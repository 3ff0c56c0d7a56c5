import TextScan.Finder

/-! Tokens: a window cut around a delimiter. The three views together are the window again. -/
namespace TextScan

structure Token where
  window : Bytes
  span : Span
deriving DecidableEq

namespace Token

def preceding (token : Token) : Bytes :=
  token.window.take token.span.start

def delimiter (token : Token) : Bytes :=
  (token.window.drop token.span.start).take token.span.length

def remainder (token : Token) : Bytes :=
  token.window.drop token.span.stop

/-- The last token of its walk: no delimiter follows, or the walk would not move on. -/
def isLast (token : Token) : Bool :=
  token.span.isNotFound token.window.length || token.span.stop == 0

theorem preceding_append_delimiter (token : Token) (ordered : token.span.start ≤ token.span.stop) :
    token.preceding ++ token.delimiter = token.window.take token.span.stop := by
  rw [preceding, delimiter, Span.length, ← List.take_add, Nat.add_sub_cancel' ordered]

theorem preceding_delimiter_remainder (token : Token) (ordered : token.span.start ≤ token.span.stop) :
    token.preceding ++ token.delimiter ++ token.remainder = token.window := by
  rw [token.preceding_append_delimiter ordered, remainder, List.take_append_drop]

end Token

def Finder.token (finder : Finder) (window : Bytes) : Token :=
  ⟨window, finder.find window⟩

theorem Finder.remainder_lt (finder : Finder) {window : Bytes}
    (goesOn : (finder.token window).isLast = false) :
    (finder.token window).remainder.length < window.length := by
  have valid := finder.find_valid window
  simp only [Span.ValidFor] at valid
  simp [Token.isLast, Span.isNotFound, Span.isEmpty, Span.reachesEnd, Finder.token] at goesOn
  simp only [Token.remainder, Finder.token, List.length_drop]
  omega

end TextScan
