/-! Binary floating-point numbers of a fixed format, as exact values: a significand times a
power of two, or an infinity, or not a number. -/
namespace TextScan.Floating

/-- A binary interchange format: the bits of the significand, with the leading one that is not
stored, and the bits of the exponent field. -/
structure Format where
  precision : Nat
  exponentBits : Nat
deriving DecidableEq

inductive Number where
  | nan
  | infinite (negative : Bool)
  | finite (negative : Bool) (significand : Nat) (exponent : Int)
deriving DecidableEq

namespace Format

def double : Format := ⟨53, 11⟩
def single : Format := ⟨24, 8⟩

/-- The exponent of the unit in which subnormal numbers count. -/
def leastExponent (format : Format) : Int :=
  3 - Nat.pow 2 (format.exponentBits - 1) - format.precision

/-- The exponent of the unit of the largest finite numbers. -/
def greatestExponent (format : Format) : Int :=
  Nat.pow 2 (format.exponentBits - 1) - format.precision

def zero (format : Format) (negative : Bool) : Number :=
  .finite negative 0 format.leastExponent

/-- The significand of the powers of two, and the weight of the exponent field. -/
def leadingOne (format : Format) : Nat :=
  Nat.pow 2 (format.precision - 1)

/-- The stored word: sign, biased exponent and the significand without its leading one. -/
def toBits (format : Format) : Number → Nat
  | .nan => special * format.leadingOne + format.leadingOne / 2
  | .infinite negative => sign negative + special * format.leadingOne
  | .finite negative significand exponent =>
    -- A significand with its leading one carries into the exponent field.
    sign negative + (exponent - format.leastExponent).toNat * format.leadingOne + significand
where
  special : Nat := Nat.pow 2 format.exponentBits - 1
  sign (negative : Bool) : Nat :=
    if negative then (special + 1) * format.leadingOne else 0

end Format

namespace Number

/-- Both zeros compare equal to zero, and nothing else does. -/
def isZero : Number → Bool
  | .finite _ significand _ => significand = 0
  | _ => false

def isNegative : Number → Bool
  | .nan => false
  | .infinite negative => negative
  | .finite negative _ _ => negative

def neg : Number → Number
  | .nan => .nan
  | .infinite negative => .infinite !negative
  | .finite negative significand exponent => .finite (!negative) significand exponent

end Number
end TextScan.Floating
