import TextScan.Literal.Integer

/-! The arithmetic of integer literals as a machine does it: every value, the base and the digits
included, is held in the type, and an operation whose exact result the type does not hold is a
fault. -/
namespace TextScan.Literal

inductive Fault where
  | outOfRange (exact : Int)
  | divisionByZero
deriving DecidableEq

namespace IntegerType

def Holds (type : IntegerType) (value : Int) : Prop :=
  type.least ≤ value ∧ value ≤ type.greatest

instance (type : IntegerType) (value : Int) : Decidable (type.Holds value) :=
  inferInstanceAs (Decidable (_ ∧ _))

def octet : IntegerType := ⟨false, 8⟩

def keep (type : IntegerType) (exact : Int) : Except Fault Int :=
  if type.Holds exact then .ok exact else .error (.outOfRange exact)

def divide (type : IntegerType) (value divisor : Int) : Except Fault (Int × Int) :=
  if divisor = 0 then .error .divisionByZero
  else do
    let quotient ← type.keep (value.tdiv divisor)
    let remainder ← type.keep (value.tmod divisor)
    return (quotient, remainder)

def letterValueBounded (byte first : UInt8) : Except Fault Int := do
  let place ← octet.keep (byte.toNat - first.toNat)
  octet.keep (place + 10)

def digitValueBounded (byte : UInt8) : Except Fault (Option Int) :=
  if Bytes.isDigit byte then return some (← octet.keep (byte.toNat - 0x30))
  else if 0x61 ≤ byte && byte ≤ 0x7a then return some (← letterValueBounded byte 0x61)
  else if 0x41 ≤ byte && byte ≤ 0x5a then return some (← letterValueBounded byte 0x41)
  else return none

/-- Appends a digit with the base and the digit cast to the type, and the limits, the product and
the sum computed in it. -/
def pushDigitBounded (type : IntegerType) (value : Int) (base digit : Int) :
    Sign → Except Fault (Option Int)
  | .positive => do
    let base ← type.keep base
    let digit ← type.keep digit
    let (limit, lastDigit) ← type.divide type.greatest base
    if value < limit ∨ (value = limit ∧ digit ≤ lastDigit) then
      let product ← type.keep (value * base)
      return some (← type.keep (product + digit))
    else return none
  | .negative => do
    let base ← type.keep base
    let digit ← type.keep digit
    if type.signed then
      let (limit, remainder) ← type.divide type.least base
      let lastDigit ← type.keep (-remainder)
      if limit < value ∨ (value = limit ∧ digit ≤ lastDigit) then
        let product ← type.keep (value * base)
        return some (← type.keep (product - digit))
      else return none
    else return if value = 0 ∧ digit = 0 then some 0 else none

def applySignBounded (type : IntegerType) (value : Int) : Sign → Except Fault (Option Int)
  | .positive => return some value
  | .negative =>
    if type.signed then
      if value = type.least then return none else return some (← type.keep (-value))
    else return if value = 0 then some 0 else none

def readRunBounded (type : IntegerType) (base : Int) (sign : Sign) (value : Int)
    (digitDue : Bool) : Bytes → Except Fault (Option Int)
  | [] => return if digitDue then none else some value
  | byte :: rest => do
    match (← digitValueBounded byte).filter (· < base) with
    | some digit =>
      match ← type.pushDigitBounded value base digit sign with
      | some next => readRunBounded type base sign next false rest
      | none => return none
    | none =>
      if byte = Bytes.underscore ∧ ¬digitDue then readRunBounded type base sign value true rest
      else return none

end IntegerType

namespace Integer

def readWordBounded (type : IntegerType) (sign : Sign) (word : Bytes) : Except Fault (Option Int) :=
  if word = falseWord ∨ word = nullWord then return some 0
  else if word = trueWord then type.applySignBounded 1 sign
  else return none

def readBounded (type : IntegerType) (detectBase : Bool) (text : Bytes) : Except Fault (Option Int) :=
  let (sign, body) := splitSign text
  match if detectBase then splitBase? body else none with
  | some (base, digits) => type.readRunBounded base sign 0 true digits
  | none =>
    if (body.head?.map Bytes.isDigit).getD false then type.readRunBounded 10 sign 0 true body
    else readWordBounded type sign body

end Integer
end TextScan.Literal
