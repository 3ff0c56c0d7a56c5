import TextScan.Literal.Sign

/-! Integer literals of a bounded type: decimal digits, digits after a base marker, and
three words. Digits go one at a time into a value that never leaves the type's range. -/
namespace TextScan.Literal

structure IntegerType where
  signed : Bool
  bits : Nat
deriving DecidableEq

namespace IntegerType

/-- The values of a type with a sign lie evenly around zero but for its least one. -/
def least (type : IntegerType) : Int :=
  if type.signed then -Nat.pow 2 (type.bits - 1) else 0

def greatest (type : IntegerType) : Int :=
  if type.signed then Nat.pow 2 (type.bits - 1) - 1 else Nat.pow 2 type.bits - 1

def size : IntegerType := ⟨false, 64⟩

/-- Appends a digit, moving away from zero in the direction of the sign. The limits are
compared before anything is multiplied: quotient and remainder of the least value are taken
toward zero, so its remainder is negated. -/
def pushDigit (type : IntegerType) (value : Int) (base digit : Nat) : Sign → Option Int
  | .positive =>
    let limit := type.greatest.tdiv base
    let lastDigit := type.greatest.tmod base
    if value < limit ∨ (value = limit ∧ digit ≤ lastDigit) then some (value * base + digit) else none
  | .negative =>
    if type.signed then
      let limit := type.least.tdiv base
      let lastDigit := -type.least.tmod base
      if limit < value ∨ (value = limit ∧ digit ≤ lastDigit) then some (value * base - digit) else none
    else if value = 0 ∧ digit = 0 then some 0 else none

/-- Puts a sign on a value of the type. The least signed value has no negation, and of the
unsigned values only zero has one. -/
def applySign (type : IntegerType) (value : Int) : Sign → Option Int
  | .positive => some value
  | .negative =>
    if type.signed then (if value = type.least then none else some (-value))
    else if value = 0 then some 0 else none

/-- Reads a whole digit run onto a value. A digit is due at the start and after each
underscore. -/
def readRun? (type : IntegerType) (base : Nat) (sign : Sign) (value : Int) (digitDue : Bool) :
    Bytes → Option Int
  | [] => if digitDue then none else some value
  | byte :: rest =>
    match Bytes.digit? base byte with
    | some digit =>
      match type.pushDigit value base digit sign with
      | some next => readRun? type base sign next false rest
      | none => none
    | none =>
      if byte = Bytes.underscore ∧ ¬digitDue then readRun? type base sign value true rest else none

end IntegerType

namespace Integer

def baseOfMarker? (marker : UInt8) : Option Nat :=
  match marker ||| 0x20 with
  | 0x62 => some 2
  | 0x6f => some 8
  | 0x78 => some 16
  | _ => none

/-- Splits a base marker off an unsigned literal, if at least one byte follows it. -/
def splitBase? : Bytes → Option (Nat × Bytes)
  | 0x30 :: marker :: first :: rest => (baseOfMarker? marker).map (·, first :: rest)
  | _ => none

def trueWord : Bytes := Bytes.ofAscii ['t', 'r', 'u', 'e']
def falseWord : Bytes := Bytes.ofAscii ['f', 'a', 'l', 's', 'e']
def nullWord : Bytes := Bytes.ofAscii ['n', 'u', 'l', 'l']

/-- The value of a word literal: one for true, zero for false and null. -/
def readWord? (type : IntegerType) (sign : Sign) (word : Bytes) : Option Int :=
  if word = falseWord ∨ word = nullWord then some 0
  else if word = trueWord then type.applySign 1 sign
  else none

/-- Reads an integer literal of the given type, with base markers only if asked for. -/
def read? (type : IntegerType) (detectBase : Bool) (text : Bytes) : Option Int :=
  let (sign, body) := splitSign text
  match if detectBase then splitBase? body else none with
  | some (base, digits) => type.readRun? base sign 0 true digits
  | none =>
    if (body.head?.map Bytes.isDigit).getD false then type.readRun? 10 sign 0 true body
    else readWord? type sign body

end Integer
end TextScan.Literal
