import TextScan.Token

/-! A cursor over bytes held in memory. Unlike a walk it passes over nothing: once the bytes
after a delimiter are used up it is exhausted. -/
namespace TextScan

/-- Where a cursor stands in its walk, with the delimiter it stands at. -/
inductive Place where
  | notStarted
  | positioned (span : Span)
  | exhausted
deriving DecidableEq

namespace Place

/-- The delimiter, or the empty span at the start of the window. -/
def span : Place → Span
  | .positioned span => span
  | _ => .zero

def isPositioned : Place → Bool
  | .positioned _ => true
  | _ => false

end Place

structure Cursor where
  window : Bytes
  place : Place
deriving DecidableEq

/-- A move of a cursor: whether there was a delimiter or anything else to move to, and the cursor after it. -/
structure Move where
  succeeded : Bool
  cursor : Cursor
deriving DecidableEq

namespace Cursor

def start (bytes : Bytes) : Cursor :=
  ⟨bytes, .notStarted⟩

def token (cursor : Cursor) : Token :=
  ⟨cursor.window, cursor.place.span⟩

def seek (finder : Finder) (rest : Bytes) : Move :=
  if rest = [] then ⟨false, [], .exhausted⟩ else ⟨true, rest, .positioned (finder.find rest)⟩

/-- Moves to the next delimiter. A delimiter that ends where its window starts stops the walk,
because the next search would find it again. -/
def advance (finder : Finder) (cursor : Cursor) : Move :=
  match cursor.place with
  | .notStarted => seek finder cursor.window
  | .positioned span =>
    if span.stop = 0 then ⟨false, [], .exhausted⟩ else seek finder cursor.token.remainder
  | .exhausted => ⟨false, cursor⟩

def afterMove (finder : Finder) (cursor : Cursor) : Cursor :=
  (cursor.advance finder).cursor

end Cursor
end TextScan
