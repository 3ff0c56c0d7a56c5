import TextScan.Text

/-! Splitting token by token, with a counter of the splits left that is held in a machine word. -/
namespace TextScan

namespace Walk

theorem next?_bound_lt {finder : Finder} {walk left : Walk} {token : Token}
    (more : walk.next? finder = some (token, left)) : left.sizeHint.2 < walk.sizeHint.2 := by
  obtain ⟨unsearched⟩ := walk
  obtain ⟨window, rfl, taken⟩ := Option.map_eq_some_iff.mp more
  cases taken
  cases ends : (finder.token window).isLast with
  | true => exact Nat.succ_pos window.length
  | false => exact Nat.succ_lt_succ (finder.remainder_lt ends)

/-- Takes the pieces of a walk, those so far in reverse, until it is finished or no split is left.
There is no answer if the counter would pass below zero. -/
def takePieces? (finder : Finder) (splitsLeft : UInt64) (pieces : List Bytes) (walk : Walk) :
    Option (List Bytes) :=
  match _ : walk.next? finder with
  | none => some pieces.reverse
  | some (token, left) =>
    let pieces := token.preceding :: pieces
    if left.isFinished then some pieces.reverse
    else if splitsLeft = 0 then none
    else
      let splitsLeft := splitsLeft - 1
      if splitsLeft = 0 then some (token.remainder :: pieces).reverse
      else takePieces? finder splitsLeft pieces left
termination_by walk.sizeHint.2
decreasing_by exact next?_bound_lt ‹_›

def splitCounting? (finder : Finder) (limit : UInt64) (bytes : Bytes) : Option (List Bytes) :=
  if limit = 0 then some [bytes] else takePieces? finder limit [] (start bytes)

end Walk

namespace Text

def splitCounting? (finder : Finder) (limit : UInt64) (text : Bytes) : Option (List Bytes) :=
  Walk.splitCounting? finder.wholeChars limit text

end Text
end TextScan
