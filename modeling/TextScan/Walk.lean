import TextScan.Token

/-! The walk over bytes held in memory: one token per delimiter and a last one for what
follows the last delimiter. -/
namespace TextScan

/-- A walk under way: the bytes not searched yet, or nothing after the last token. -/
structure Walk where
  unsearched : Option Bytes
deriving DecidableEq

namespace Walk

def start (bytes : Bytes) : Walk :=
  ⟨some bytes⟩

def isFinished (walk : Walk) : Bool :=
  walk.unsearched.isNone

def next? (finder : Finder) (walk : Walk) : Option (Token × Walk) :=
  walk.unsearched.map fun window =>
    let token := finder.token window
    (token, ⟨if token.isLast then none else some token.remainder⟩)

/-- Bounds on the number of tokens to come: each but the last takes at least one byte. -/
def sizeHint (walk : Walk) : Nat × Nat :=
  match walk.unsearched with
  | some rest => (1, rest.length + 1)
  | none => (0, 0)

def tokensOf (finder : Finder) (window : Bytes) : List Token :=
  let token := finder.token window
  if _ : token.isLast = false then token :: tokensOf finder token.remainder else [token]
termination_by window.length
decreasing_by exact finder.remainder_lt ‹_›

def tokens (finder : Finder) (walk : Walk) : List Token :=
  match walk.unsearched with
  | some rest => tokensOf finder rest
  | none => []

/-- The pieces between delimiters, of which only so many are used. What follows the last one
used is one piece. -/
def splitAtMost (finder : Finder) (limit : Nat) (bytes : Bytes) : List Bytes :=
  match limit with
  | 0 => [bytes]
  | limit + 1 =>
    let token := finder.token bytes
    if token.isLast then [token.preceding]
    else token.preceding :: splitAtMost finder limit token.remainder

/-- All pieces between delimiters: there are no more delimiters than bytes. -/
def split (finder : Finder) (bytes : Bytes) : List Bytes :=
  splitAtMost finder (bytes.length + 1) bytes

end Walk
end TextScan
