import TextScan.Span

/-! Finders: any way to place a span in a window, as long as the span lies inside it. -/
namespace TextScan

/-- Places the next delimiter of a window. The answer is a function of the window alone. -/
structure Finder where
  find : Bytes → Span
  find_valid : ∀ window, (find window).ValidFor window.length

namespace Finder

/-- Any function as a finder: what lies beyond the window is cut off. -/
def clamp (place : Bytes → Span) : Finder where
  find window :=
    let stop := min (place window).stop window.length
    ⟨min (place window).start stop, stop⟩
  find_valid _ := ⟨Nat.min_le_right _ _, Nat.min_le_right _ _⟩

/-- Widens every answer to whole characters, for windows that hold text. -/
def wholeChars (finder : Finder) : Finder where
  find window := (finder.find window).widen window
  find_valid window := (finder.find_valid window).widen

/-- More input leaves every answer as it is that ends before the end of its window. -/
def Settling (finder : Finder) : Prop :=
  ∀ window more, (finder.find window).stop < window.length →
    finder.find (window ++ more) = finder.find window

end Finder
end TextScan
