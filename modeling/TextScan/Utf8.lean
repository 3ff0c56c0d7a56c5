import TextScan.Bytes

/-! UTF-8: where a byte string first breaks its rules, and where characters begin. -/
namespace TextScan.Utf8

structure Range where
  low : UInt8
  high : UInt8
deriving DecidableEq

def Range.contains (range : Range) (byte : UInt8) : Bool :=
  range.low ≤ byte && byte ≤ range.high

def continuation : Range := ⟨0x80, 0xbf⟩

def isContinuation (byte : UInt8) : Bool :=
  continuation.contains byte

/-- What must follow the first byte of a character, or none if no character starts with it. The
narrower ranges keep out overlong forms, surrogates and values beyond the last character. -/
def followers? (first : UInt8) : Option (List Range) :=
  if first ≤ 0x7f then some []
  else if first ≤ 0xc1 then none
  else if first ≤ 0xdf then some [continuation]
  else if first = 0xe0 then some [⟨0xa0, 0xbf⟩, continuation]
  else if first = 0xed then some [⟨0x80, 0x9f⟩, continuation]
  else if first ≤ 0xef then some [continuation, continuation]
  else if first = 0xf0 then some [⟨0x90, 0xbf⟩, continuation, continuation]
  else if first ≤ 0xf3 then some [continuation, continuation, continuation]
  else if first = 0xf4 then some [⟨0x80, 0x8f⟩, continuation, continuation]
  else none

/-- The first character that is none: where it starts, and how many bytes were taken for it
before one that cannot follow. Without a length the bytes end inside the character. -/
structure Fault where
  position : Nat
  length : Option Nat
deriving DecidableEq

namespace Fault

def message (fault : Fault) : String :=
  match fault.length with
  | some length =>
    "invalid utf-8 sequence of " ++ toString length ++ " bytes from index " ++ toString fault.position
  | none => "incomplete utf-8 byte sequence from index " ++ toString fault.position

end Fault

/-- Checks bytes from inside a character that starts at `start`, of which `seen` bytes have
passed and the ranges in `owed` are due. -/
def faultFrom? (start seen : Nat) (owed : List Range) : Bytes → Option Fault
  | [] => if owed = [] then none else some ⟨start, none⟩
  | byte :: rest =>
    match owed with
    | [] =>
      match followers? byte with
      | some owed => faultFrom? (start + seen) 1 owed rest
      | none => some ⟨start + seen, some 1⟩
    | range :: owed =>
      if range.contains byte then faultFrom? start (seen + 1) owed rest
      else some ⟨start, some seen⟩

def fault? (bytes : Bytes) : Option Fault :=
  faultFrom? 0 0 [] bytes

/-- The bytes are the UTF-8 form of some characters. -/
def Valid (bytes : Bytes) : Prop :=
  fault? bytes = none

instance (bytes : Bytes) : Decidable (Valid bytes) :=
  inferInstanceAs (Decidable (_ = _))

/-- An offset at which a text may be cut: an end of it, or the first byte of a character. -/
def isBoundary (text : Bytes) (offset : Nat) : Bool :=
  match text[offset]? with
  | some byte => offset = 0 || !isContinuation byte
  | none => offset = text.length

def boundaryBefore (text : Bytes) : Nat → Nat
  | 0 => 0
  | offset + 1 => if isBoundary text (offset + 1) then offset + 1 else boundaryBefore text offset

def boundaryAfter (text : Bytes) (offset : Nat) : Nat :=
  if offset = 0 then 0 else offset + ((text.drop offset).takeWhile isContinuation).length

theorem boundaryBefore_le (text : Bytes) (offset : Nat) : boundaryBefore text offset ≤ offset := by
  induction offset with
  | zero => simp [boundaryBefore]
  | succ offset ih =>
    rw [boundaryBefore]
    split <;> omega

theorem le_boundaryAfter (text : Bytes) (offset : Nat) : offset ≤ boundaryAfter text offset := by
  unfold boundaryAfter
  split <;> omega

theorem boundaryAfter_le (text : Bytes) (offset : Nat) (inside : offset ≤ text.length) :
    boundaryAfter text offset ≤ text.length := by
  unfold boundaryAfter
  split
  · omega
  · have taken := (List.takeWhile_prefix isContinuation (l := text.drop offset)).length_le
    simp at taken
    omega

end TextScan.Utf8
