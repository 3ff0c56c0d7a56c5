import TextScan.Utf8

/-! Where a delimiter lies in a window. That there is none needs no value of its own: it is
the empty span at the window's end, so that all of the window comes before the delimiter. -/
namespace TextScan

structure Span where
  start : Nat
  stop : Nat
deriving DecidableEq

namespace Span

/-- The span that stands for no delimiter in a window of the given length. -/
def notFound (length : Nat) : Span :=
  ⟨length, length⟩

def zero : Span :=
  notFound 0

def length (span : Span) : Nat :=
  span.stop - span.start

def isEmpty (span : Span) : Bool :=
  span.start == span.stop

/-- The span touches the end of a window. Only such a span can change when the window grows. -/
def reachesEnd (span : Span) (length : Nat) : Bool :=
  span.stop == length

def isNotFound (span : Span) (length : Nat) : Bool :=
  span.isEmpty && span.reachesEnd length

/-- The span lies in a window of the given length, its ends in order. -/
def ValidFor (span : Span) (length : Nat) : Prop :=
  span.start ≤ span.stop ∧ span.stop ≤ length

instance (span : Span) (length : Nat) : Decidable (span.ValidFor length) :=
  inferInstanceAs (Decidable (_ ∧ _))

/-- The least cover of the span by whole characters of a text. -/
def widen (text : Bytes) (span : Span) : Span :=
  ⟨Utf8.boundaryBefore text span.start, Utf8.boundaryAfter text span.stop⟩

def describe (span : Span) : String :=
  "DelimiterMatch \x7b start: " ++ toString span.start ++ ", end: " ++ toString span.stop ++ " \x7d"

theorem notFound_validFor (length : Nat) : (notFound length).ValidFor length := by
  simp [notFound, ValidFor]

theorem ValidFor.widen {text : Bytes} {span : Span} (valid : span.ValidFor text.length) :
    (span.widen text).ValidFor text.length := by
  have before := Utf8.boundaryBefore_le text span.start
  have after := Utf8.le_boundaryAfter text span.stop
  exact ⟨by have := valid.1; simp only [Span.widen]; omega, Utf8.boundaryAfter_le text _ valid.2⟩

end Span
end TextScan
