/-! Byte strings. Text and streams are both lists of bytes here, and every offset
counts bytes. -/
namespace TextScan

abbrev Bytes := List UInt8

namespace Bytes

/-- The bytes of a word whose characters are all ASCII. -/
def ofAscii (word : List Char) : Bytes :=
  word.map Char.toUInt8

def isDigit (byte : UInt8) : Bool :=
  0x30 ≤ byte && byte ≤ 0x39

/-- The value of a digit or letter in bases up to thirty-six, letters in either case. -/
def digitValue? (byte : UInt8) : Option Nat :=
  if isDigit byte then some (byte.toNat - 0x30)
  else if 0x61 ≤ byte && byte ≤ 0x7a then some (byte.toNat - 0x61 + 10)
  else if 0x41 ≤ byte && byte ≤ 0x5a then some (byte.toNat - 0x41 + 10)
  else none

def digit? (base : Nat) (byte : UInt8) : Option Nat :=
  (digitValue? byte).filter (· < base)

def underscore : UInt8 := 0x5f

end Bytes
end TextScan
