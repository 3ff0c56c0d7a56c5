import TextScan.Literal.Sign
import TextScan.Floating.Rounding

/-! Floating-point literals. Reading finds the digits; the value is then computed in the
target type itself, one rounded operation after another, so it is not always the number
nearest to the literal. -/
namespace TextScan.Literal
open TextScan.Floating

structure DigitRun where
  digits : List Nat
  rest : Bytes
deriving DecidableEq

namespace DigitRun

/-- Single underscores may stand between digits. A run that breaks off on an underscore is no
run; a text without a leading digit has the empty run. -/
def read? (text : Bytes) : Option DigitRun :=
  go [] false text
where
  go (reversed : List Nat) (afterDigit : Bool) : Bytes → Option DigitRun
    | [] => stop reversed afterDigit []
    | byte :: rest =>
      match Bytes.digit? 10 byte with
      | some digit => go (digit :: reversed) true rest
      | none =>
        if byte = Bytes.underscore ∧ afterDigit then go reversed false rest
        else stop reversed afterDigit (byte :: rest)
  stop (reversed : List Nat) (afterDigit : Bool) (rest : Bytes) : Option DigitRun :=
    if afterDigit ∨ reversed = [] then some ⟨reversed.reverse, rest⟩ else none

end DigitRun

/-- The parts of a decimal literal. Without an exponent part the exponent is zero. -/
structure Decimal where
  sign : Sign
  whole : List Nat
  fraction : List Nat
  exponent : Int
deriving DecidableEq

namespace Decimal

/-- Appends a digit to an exponent magnitude that must stay within a limit. -/
def pushMagnitude? (limit magnitude digit : Nat) : Option Nat :=
  let next := magnitude * 10 + digit
  if limit < next then none else some next

/-- Reads all of a text as an exponent of limited magnitude. -/
def readExponent? (limit : Nat) (text : Bytes) : Option Int := do
  let (sign, body) := splitSign text
  let run ← DigitRun.read? body
  guard (run.digits ≠ [] ∧ run.rest = [])
  let magnitude ← run.digits.foldlM (pushMagnitude? limit) 0
  return match sign with
    | .positive => magnitude
    | .negative => -magnitude

def readFraction? : Bytes → Option DigitRun
  | 0x2e :: rest => DigitRun.read? rest
  | rest => some ⟨[], rest⟩

def readExponentPart? (limit : Nat) : Bytes → Option Int
  | [] => some 0
  | marker :: rest => if marker ||| 0x20 = 0x65 then readExponent? limit rest else none

def readBody? (limit : Nat) (sign : Sign) (body : Bytes) : Option Decimal := do
  let whole ← DigitRun.read? body
  let fraction ← readFraction? whole.rest
  let exponent ← readExponentPart? limit fraction.rest
  return ⟨sign, whole.digits, fraction.digits, exponent⟩

end Decimal

/-- A floating-point type as literals see it: its format, the largest exponent a literal may
carry, the fraction digits kept after the first that is not zero, and the powers of ten that it
has. No standard says how exact those are. -/
structure FloatType where
  format : Format
  greatestExponent10 : Nat
  fractionDigits : Nat
  powerOfTen : Int → Number

namespace FloatType

def double : FloatType := ⟨.double, 308, 20, Format.double.raisedPowerOfTen [23, 210]⟩
def single : FloatType := ⟨.single, 38, 10, Format.single.powerOfTen⟩

def zero (type : FloatType) : Number := type.format.zero false
def ten (type : FloatType) : Number := type.format.ofNat 10
def ofDigit (type : FloatType) (digit : Nat) : Number := type.format.ofNat digit

/-- Ten times the value plus the digit, each operation rounded. -/
def pushDigit (type : FloatType) (value : Number) (digit : Nat) : Number :=
  type.format.add (type.format.mul value type.ten) (type.ofDigit digit)

def ofDigits (type : FloatType) (digits : List Nat) : Number :=
  digits.foldl type.pushDigit type.zero

/-- A fraction under way: its digits as a whole number, how many there are, and how many of
them count toward the limit because the value was no longer zero. -/
structure Fraction where
  value : Number
  decimals : Nat
  significant : Nat

namespace Fraction

def push (type : FloatType) (fraction : Fraction) (digit : Nat) : Fraction :=
  if fraction.significant < type.fractionDigits then
    let value := type.pushDigit fraction.value digit
    { value
      decimals := fraction.decimals + 1
      significant := if value.isZero then fraction.significant else fraction.significant + 1 }
  else fraction

def ofDigits (type : FloatType) (digits : List Nat) : Fraction :=
  digits.foldl (push type) ⟨type.zero, 0, 0⟩

end Fraction

/-- Scales the fraction into place and adds it. A zero fraction is left out. -/
def addFraction (type : FloatType) (whole : Number) (fraction : Fraction) : Number :=
  if fraction.value.isZero then whole
  else type.format.add whole
    (type.format.mul fraction.value (type.powerOfTen (-(fraction.decimals : Int))))

/-- Multiplies by the power of ten of the exponent part. A zero exponent is left out. -/
def scale (type : FloatType) (value : Number) (exponent : Int) : Number :=
  if exponent = 0 then value else type.format.mul value (type.powerOfTen exponent)

def ofDecimal (type : FloatType) (literal : Decimal) : Number :=
  let whole := type.ofDigits literal.whole
  let fraction := Fraction.ofDigits type literal.fraction
  let value := type.scale (type.addFraction whole fraction) literal.exponent
  match literal.sign with
  | .positive => value
  | .negative => value.neg

def nanWord : Bytes := Bytes.ofAscii ['N', 'a', 'N']
def infinityWord : Bytes := Bytes.ofAscii ['I', 'n', 'f', 'i', 'n', 'i', 't', 'y']
def nullWord : Bytes := Bytes.ofAscii ['n', 'u', 'l', 'l']

/-- The value of a text that is a word, with its sign if it has one. -/
def readWord? (text : Bytes) : Option Number :=
  if text = infinityWord ∨ text = 0x2b :: infinityWord ∨ text = nullWord then some (.infinite false)
  else if text = 0x2d :: infinityWord then some (.infinite true)
  else if text = nanWord then some .nan
  else none

/-- Reads a floating-point literal. An exponent beyond the type's range is refused. -/
def read? (type : FloatType) (text : Bytes) : Option Number :=
  let (sign, body) := splitSign text
  if (body.head?.map Bytes.isDigit).getD false then
    (Decimal.readBody? type.greatestExponent10 sign body).map type.ofDecimal
  else readWord? text

end FloatType
end TextScan.Literal
