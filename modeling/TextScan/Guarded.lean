import TextScan.Cursor
import TextScan.Walk

/-! Cursors, walks and splitting over text with every cut guarded. To cut a text out of bounds or inside a
character is a fault, and so is a search for a boundary that would leave the text. -/
namespace TextScan.Guarded
open Utf8 (isBoundary)

inductive Fault where
  | invalidSpan (span : Span)
  | outOfOrder (start stop : Nat)
  | insideCharacter (offset : Nat)
  | beforeStart
  | behindEnd (offset : Nat)
deriving DecidableEq

/-- The part of a text between two offsets. -/
def slice (text : Bytes) (start stop : Nat) : Except Fault Bytes :=
  if stop < start then .error (.outOfOrder start stop)
  else if isBoundary text start = false then .error (.insideCharacter start)
  else if isBoundary text stop = false then .error (.insideCharacter stop)
  else .ok ((text.take stop).drop start)

/-- Goes back from an offset to a boundary, byte by byte. -/
def retreat (text : Bytes) : Nat → Except Fault Nat
  | 0 => if isBoundary text 0 then .ok 0 else .error .beforeStart
  | offset + 1 => if isBoundary text (offset + 1) then .ok (offset + 1) else retreat text offset

/-- Goes on from an offset to a boundary, byte by byte. -/
def proceed (text : Bytes) (offset : Nat) : Except Fault Nat :=
  if isBoundary text offset then .ok offset
  else if offset < text.length then proceed text (offset + 1)
  else .error (.behindEnd offset)
termination_by text.length - offset

def widen (text : Bytes) (span : Span) : Except Fault Span := do
  let start ← retreat text span.start
  let stop ← proceed text span.stop
  return ⟨start, stop⟩

def find (finder : Finder) (window : Bytes) : Except Fault Span :=
  let span := finder.find window
  if span.ValidFor window.length then widen window span else .error (.invalidSpan span)

def preceding (token : Token) : Except Fault Bytes :=
  slice token.window 0 token.span.start

def delimiter (token : Token) : Except Fault Bytes :=
  slice token.window token.span.start token.span.stop

def remainder (token : Token) : Except Fault Bytes :=
  slice token.window token.span.stop token.window.length

def exhaust (window : Bytes) : Except Fault Move := do
  return ⟨false, ← slice window window.length window.length, .exhausted⟩

def seek (finder : Finder) (window : Bytes) (passed : Nat) : Except Fault Move := do
  let rest ← slice window passed window.length
  if rest = [] then exhaust rest
  else return ⟨true, rest, .positioned (← find finder rest)⟩

def advance (finder : Finder) (cursor : Cursor) : Except Fault Move :=
  match cursor.place with
  | .notStarted => seek finder cursor.window cursor.place.span.stop
  | .positioned span =>
    if span.stop = 0 then exhaust cursor.window else seek finder cursor.window span.stop
  | .exhausted => return ⟨false, cursor⟩

def next (finder : Finder) (walk : Walk) : Except Fault (Option (Token × Walk)) := do
  match walk.unsearched with
  | none => return none
  | some window =>
    let token : Token := ⟨window, ← find finder window⟩
    if token.isLast then return some (token, ⟨none⟩)
    else
      let rest ← slice window token.span.stop window.length
      return some (token, ⟨some rest⟩)

/-- The pieces of a walk at its next delimiter and a number of those behind it. -/
def takePieces (finder : Finder) (limit : Nat) (walk : Walk) : Except Fault (List Bytes) := do
  match ← next finder walk with
  | none => return []
  | some (token, left) =>
    let piece ← preceding token
    if left.isFinished then return [piece]
    else
      match limit with
      | 0 => return [piece, ← remainder token]
      | limit + 1 => return piece :: (← takePieces finder limit left)

def splitAtMost (finder : Finder) (limit : Nat) (text : Bytes) : Except Fault (List Bytes) :=
  match limit with
  | 0 => return [text]
  | limit + 1 => takePieces finder limit (.start text)

end TextScan.Guarded
