import TextScan.Finder
import TextScan.Quoted

/-! The built-in delimiters: a byte sequence, a byte, a run of bytes of a set, a line break. -/
namespace TextScan

structure ByteSet where
  contains : UInt8 → Bool

namespace ByteSet

def empty : ByteSet :=
  ⟨fun _ => false⟩

def ofBytes (bytes : Bytes) : ByteSet :=
  ⟨fun byte => bytes.contains byte⟩

/-- Space, tab, line feed, carriage return, vertical tab and form feed. -/
def whitespace : ByteSet :=
  ofBytes [0x20, 0x09, 0x0a, 0x0d, 0x0b, 0x0c]

def members (set : ByteSet) : Bytes :=
  ((List.range 256).map UInt8.ofNat).filter set.contains

/-- Two sets are equal if they have the same members. -/
instance : BEq ByteSet :=
  ⟨fun left right => left.members == right.members⟩

end ByteSet

inductive Delimiter where
  | sequence (pattern : Bytes)
  | oneByte (value : UInt8)
  | runOf (set : ByteSet)
  | lineBreak

namespace Delimiter

/-- The first occurrence of a pattern in the rest of a window that starts at an offset. A pattern
longer than the rest is no start of it. -/
def findSequence (pattern : Bytes) (offset : Nat) : Bytes → Span
  | [] => .notFound offset
  | byte :: rest =>
    if pattern.isPrefixOf (byte :: rest) then ⟨offset, offset + pattern.length⟩
    else findSequence pattern (offset + 1) rest

def findByte (value : UInt8) (window : Bytes) : Span :=
  let start := window.findIdx (· == value)
  ⟨start, min (start + 1) window.length⟩

/-- The first run of a set's bytes that no further byte of the set follows. -/
def findRun (set : ByteSet) (window : Bytes) : Span :=
  let start := window.findIdx set.contains
  ⟨start, start + ((window.drop start).takeWhile set.contains).length⟩

/-- The first line feed or carriage return. The two of them in the order of a line end are one
break. -/
def findLineBreak (window : Bytes) : Span :=
  let start := window.findIdx fun byte => byte == 0x0a || byte == 0x0d
  match window.drop start with
  | [] => .notFound start
  | 0x0d :: 0x0a :: _ => ⟨start, start + 2⟩
  | _ :: _ => ⟨start, start + 1⟩

/-- The empty sequence occurs nowhere. -/
def find (delimiter : Delimiter) (window : Bytes) : Span :=
  match delimiter with
  | .sequence [] => .notFound window.length
  | .sequence pattern => findSequence pattern 0 window
  | .oneByte value => findByte value window
  | .runOf set => findRun set window
  | .lineBreak => findLineBreak window

theorem findSequence_validFor (pattern : Bytes) (offset : Nat) (rest : Bytes) :
    (findSequence pattern offset rest).ValidFor (offset + rest.length) := by
  induction rest generalizing offset with
  | nil => exact Span.notFound_validFor offset
  | cons byte rest ih =>
    rw [findSequence]
    split
    · rename_i starts
      have shorter := (List.isPrefixOf_iff_prefix.mp starts).length_le
      simp only [Span.ValidFor]
      omega
    · have valid := ih (offset + 1)
      simp only [List.length_cons] at valid ⊢
      rwa [Nat.add_comm rest.length 1, ← Nat.add_assoc]

theorem findByte_validFor (value : UInt8) (window : Bytes) :
    (findByte value window).ValidFor window.length := by
  have inside : window.findIdx (· == value) ≤ window.length := List.findIdx_le_length
  simp only [findByte, Span.ValidFor]
  omega

theorem findRun_validFor (set : ByteSet) (window : Bytes) :
    (findRun set window).ValidFor window.length := by
  have inside : window.findIdx set.contains ≤ window.length := List.findIdx_le_length
  have taken := (List.takeWhile_prefix set.contains
    (l := window.drop (window.findIdx set.contains))).length_le
  simp only [findRun, Span.ValidFor, List.length_drop] at taken ⊢
  omega

theorem findLineBreak_validFor (window : Bytes) :
    (findLineBreak window).ValidFor window.length := by
  have left : window.findIdx (fun byte => byte == 0x0a || byte == 0x0d) ≤ window.length :=
    List.findIdx_le_length
  unfold findLineBreak
  generalize window.findIdx (fun byte => byte == 0x0a || byte == 0x0d) = start at left ⊢
  have rest := List.length_drop (i := start) (l := window)
  dsimp only
  split <;> rename_i same <;> simp only [same, List.length_cons, List.length_nil] at rest <;>
    simp only [Span.ValidFor, Span.notFound] <;> omega

theorem find_validFor (delimiter : Delimiter) (window : Bytes) :
    (delimiter.find window).ValidFor window.length := by
  unfold find
  split
  · exact Span.notFound_validFor _
  · simpa using findSequence_validFor _ 0 window
  · exact findByte_validFor _ window
  · exact findRun_validFor _ window
  · exact findLineBreak_validFor window

def finder (delimiter : Delimiter) : Finder :=
  ⟨delimiter.find, delimiter.find_validFor⟩

/-- A byte as it is written in a set: printable ASCII as it stands, with quotes and backslash
escaped, the rest by name or by two hexadecimal digits. -/
def escapeByte (byte : UInt8) : List Char :=
  match Char.ofNat byte.toNat with
  | '\t' => ['\\', 't']
  | '\n' => ['\\', 'n']
  | '\r' => ['\\', 'r']
  | '\'' => ['\\', '\'']
  | '"' => ['\\', '"']
  | '\\' => ['\\', '\\']
  | char =>
    if 0x20 ≤ byte && byte ≤ 0x7e then [char]
    else
      let digits := Nat.toDigits 16 byte.toNat
      '\\' :: 'x' :: (List.replicate (2 - digits.length) '0' ++ digits)

def describe : Delimiter → String
  | .sequence pattern =>
    let bytes := pattern.map fun byte => toString byte.toNat
    "FindSubstring \x7b pattern: [" ++ ", ".intercalate bytes ++ "] \x7d"
  | .oneByte value => "FindChar \x7b byte: " ++ toString value.toNat ++ " \x7d"
  | .runOf set =>
    "FindSequenceOf \x7b members: " ++ Quoted.quote (set.members.flatMap escapeByte) ++ " \x7d"
  | .lineBreak => "FindNewline"

end Delimiter
end TextScan
