import TextScan.Literal.Bounded
import TextScan.Literal.Decimal

/-! Floating-point literals as a machine reads them: digit runs are scanned by position, and each counter
is held in a type. To look at a byte that is not there is a fault, and so is a counter that its type does
not hold. Positions need no type, no text having more bytes than they can number. -/
namespace TextScan.Literal.Counted
open TextScan.Floating

inductive Fault where
  | outOfBounds (position : Nat)
  | arithmetic (fault : Literal.Fault)
deriving DecidableEq

def signedWord : IntegerType := ⟨true, 32⟩
def word : IntegerType := ⟨false, 32⟩

def hold (type : IntegerType) (exact : Int) : Except Fault Int :=
  (type.keep exact).mapError .arithmetic

def byteAt (bytes : Bytes) (position : Nat) : Except Fault UInt8 :=
  match bytes[position]? with
  | some byte => .ok byte
  | none => .error (.outOfBounds position)

/-- The bytes from a position on. It may be the end, but not behind it. -/
def bytesFrom (bytes : Bytes) (position : Nat) : Except Fault Bytes :=
  if position ≤ bytes.length then .ok (bytes.drop position) else .error (.outOfBounds position)

section Scan
variable {State : Type} (onDigit : State → Nat → Except Fault State) (bytes : Bytes)

/-- Passes digits, each of which it hands on, and single underscores behind them. -/
def pass (position : Nat) (afterDigit : Bool) (state : State) : Except Fault (Nat × State) :=
  match read : bytes[position]? with
  | none => return (position, state)
  | some byte =>
    if Bytes.isDigit byte then do
      let digit ← hold .octet (byte.toNat - 0x30)
      let next ← onDigit state digit.toNat
      pass (position + 1) true next
    else if byte = Bytes.underscore ∧ afterDigit then pass (position + 1) false state
    else return (position, state)
termination_by bytes.length - position
decreasing_by
  all_goals
    obtain ⟨inside, _⟩ := List.getElem?_eq_some_iff.mp read
    omega

/-- Scans a digit run. It yields where the run stops, unless that is behind an underscore. -/
def scan (start : Nat) (state : State) : Except Fault (Option Nat × State) := do
  let (stop, state) ← pass onDigit bytes start false state
  if start < stop then
    let last ← byteAt bytes (stop - 1)
    return (if last = Bytes.underscore then none else some stop, state)
  else return (some stop, state)

end Scan

/-- The largest magnitude of an exponent is not counted past: it is only known to be exceeded. -/
structure Magnitude where
  value : Int
  exceeded : Bool

def Magnitude.push (limit : Nat) (magnitude : Magnitude) (digit : Nat) : Except Fault Magnitude := do
  if magnitude.exceeded then return magnitude
  else
    let product ← hold word (magnitude.value * 10)
    let value ← hold word (product + digit)
    return ⟨value, limit < value⟩

def readExponent (limit : Nat) (text : Bytes) : Except Fault (Option Int) := do
  let (sign, digits) := splitSign text
  let (stop?, magnitude) ← scan (Magnitude.push limit) digits 0 ⟨0, false⟩
  match stop? with
  | none => return none
  | some stop =>
    if stop = 0 ∨ stop ≠ digits.length ∨ magnitude.exceeded then return none
    else
      let exponent ← hold signedWord magnitude.value
      match sign with
      | .positive => return some exponent
      | .negative => return some (← hold signedWord (-exponent))

def readExponentPart (limit : Nat) (body : Bytes) (position : Nat) : Except Fault (Option Int) :=
  match body[position]? with
  | none => return some 0
  | some marker =>
    if marker ||| 0x20 = 0x65 then do
      let text ← bytesFrom body (position + 1)
      readExponent limit text
    else return none

structure Fraction where
  value : Number
  decimals : Int
  significant : Int

namespace Fraction

def empty (type : FloatType) : Fraction :=
  ⟨type.zero, 0, 0⟩

def push (type : FloatType) (fraction : Fraction) (digit : Nat) : Except Fault Fraction := do
  if fraction.significant < type.fractionDigits then
    let value := type.pushDigit fraction.value digit
    let decimals ← hold signedWord (fraction.decimals + 1)
    if value.isZero then return ⟨value, decimals, fraction.significant⟩
    else
      let significant ← hold word (fraction.significant + 1)
      return ⟨value, decimals, significant⟩
  else return fraction

end Fraction

def readFraction (type : FloatType) (body : Bytes) (position : Nat) :
    Except Fault (Option Nat × Fraction) :=
  if body[position]? = some 0x2e then scan (Fraction.push type) body (position + 1) (.empty type)
  else return (some position, .empty type)

def addFraction (type : FloatType) (whole : Number) (fraction : Fraction) : Except Fault Number := do
  if fraction.value.isZero then return whole
  else
    let place ← hold signedWord (-fraction.decimals)
    return type.format.add whole (type.format.mul fraction.value (type.powerOfTen place))

/-- Reads the exponent part and joins the parts of the value. -/
def finish (type : FloatType) (sign : Sign) (whole : Number) (fraction : Fraction) (body : Bytes)
    (marker : Nat) : Except Fault (Option Number) := do
  match ← readExponentPart type.greatestExponent10 body marker with
  | none => return none
  | some exponent =>
    let joined ← addFraction type whole fraction
    let value := type.scale joined exponent
    match sign with
    | .positive => return some value
    | .negative => return some value.neg

def readBody (type : FloatType) (sign : Sign) (body : Bytes) : Except Fault (Option Number) := do
  let (point?, whole) ← scan (fun value digit => pure (type.pushDigit value digit)) body 0 type.zero
  match point? with
  | none => return none
  | some point =>
    let (marker?, fraction) ← readFraction type body point
    match marker? with
    | none => return none
    | some marker => finish type sign whole fraction body marker

def read (type : FloatType) (text : Bytes) : Except Fault (Option Number) :=
  let (sign, body) := splitSign text
  if (body.head?.map Bytes.isDigit).getD false then readBody type sign body
  else return FloatType.readWord? text

end TextScan.Literal.Counted
