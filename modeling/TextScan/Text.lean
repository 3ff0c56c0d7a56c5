import TextScan.Cursor
import TextScan.Walk

/-! Walks over text. Finders see bytes, and a delimiter that cuts into a character takes the
whole character, so that every view of a text is text. -/
namespace TextScan.Text

def next? (finder : Finder) (walk : Walk) : Option (Token × Walk) :=
  walk.next? finder.wholeChars

def tokens (finder : Finder) (walk : Walk) : List Token :=
  walk.tokens finder.wholeChars

def splitAtMost (finder : Finder) (limit : Nat) (text : Bytes) : List Bytes :=
  Walk.splitAtMost finder.wholeChars limit text

def split (finder : Finder) (text : Bytes) : List Bytes :=
  Walk.split finder.wholeChars text

def advance (finder : Finder) (cursor : Cursor) : Move :=
  cursor.advance finder.wholeChars

def afterMove (finder : Finder) (cursor : Cursor) : Cursor :=
  cursor.afterMove finder.wholeChars

end TextScan.Text
