import TextScan.Floating.Format

/-! Rounding an exact quotient to the nearest number of a format, ties to even, and the
arithmetic that this gives: each operation rounds its exact result once. -/
namespace TextScan.Floating

/-- The quotient rounded to the nearest natural number, a tie to the even one. -/
def nearestEven (numerator denominator : Nat) : Nat :=
  let quotient := numerator / denominator
  let rest := numerator % denominator
  if 2 * rest < denominator ∨ (2 * rest = denominator ∧ quotient % 2 = 0) then quotient
  else quotient + 1

/-- Divides a fraction by a power of two, whatever the sign of the exponent. -/
def scaleDown (numerator denominator : Nat) (exponent : Int) : Nat × Nat :=
  (numerator * Nat.pow 2 (-exponent).toNat, denominator * Nat.pow 2 exponent.toNat)

/-- The exponent of the largest power of two that a positive fraction reaches. -/
def magnitude (numerator denominator : Nat) : Int :=
  let guess : Int := numerator.log2 - denominator.log2
  let (dividend, divisor) := scaleDown numerator denominator guess
  if divisor ≤ dividend then guess else guess - 1

namespace Format

/-- Puts a rounded significand into place. Rounding up may have reached the next power of
two, and the exponent may then have left the format. -/
def pack (format : Format) (negative : Bool) (significand : Nat) (exponent : Int) : Number :=
  let (significand, exponent) :=
    if significand < 2 * format.leadingOne then (significand, exponent)
    else (format.leadingOne, exponent + 1)
  if exponent ≤ format.greatestExponent then .finite negative significand exponent
  else .infinite negative

def round (format : Format) (negative : Bool) (numerator denominator : Nat) : Number :=
  if numerator = 0 then format.zero negative
  else
    let exponent := max format.leastExponent (magnitude numerator denominator - (format.precision - 1))
    let (dividend, divisor) := scaleDown numerator denominator exponent
    format.pack negative (nearestEven dividend divisor) exponent

def roundScaled (format : Format) (negative : Bool) (significand : Nat) (exponent : Int) : Number :=
  format.round negative (significand * Nat.pow 2 exponent.toNat) (Nat.pow 2 (-exponent).toNat)

def ofNat (format : Format) (value : Nat) : Number :=
  format.round false value 1

private def signed (negative : Bool) (value : Nat) : Int :=
  if negative then -value else value

/-- An exact sum of zero is negative only if both terms are. -/
def add (format : Format) : Number → Number → Number
  | .nan, _ => .nan
  | _, .nan => .nan
  | .infinite left, .infinite right => if left = right then .infinite left else .nan
  | .infinite negative, .finite .. => .infinite negative
  | .finite .., .infinite negative => .infinite negative
  | .finite left significand exponent, .finite right significand' exponent' =>
    let unit := min exponent exponent'
    let sum := signed left (significand * Nat.pow 2 (exponent - unit).toNat) +
      signed right (significand' * Nat.pow 2 (exponent' - unit).toNat)
    if sum = 0 then format.zero (left && right)
    else format.roundScaled (sum < 0) sum.natAbs unit

def mul (format : Format) : Number → Number → Number
  | .nan, _ => .nan
  | _, .nan => .nan
  | .infinite left, .infinite right => .infinite (left ^^ right)
  | .infinite left, .finite right significand _ =>
    if significand = 0 then .nan else .infinite (left ^^ right)
  | .finite left significand _, .infinite right =>
    if significand = 0 then .nan else .infinite (left ^^ right)
  | .finite left significand exponent, .finite right significand' exponent' =>
    format.roundScaled (left ^^ right) (significand * significand') (exponent + exponent')

/-- The number nearest to a power of ten. Outside the first bounds the power lies beyond the
largest number or below half the least one, because ten is more than two. -/
def powerOfTen (format : Format) (exponent : Int) : Number :=
  if format.greatestExponent + format.precision < exponent then .infinite false
  else if exponent < format.leastExponent - 1 then format.zero false
  else format.round false (Nat.pow 10 exponent.toNat) (Nat.pow 10 (-exponent).toNat)

def above (format : Format) : Number → Number
  | .finite negative significand exponent => format.pack negative (significand + 1) exponent
  | number => number

/-- Powers of ten of which some come out one step above the nearest number. -/
def raisedPowerOfTen (format : Format) (raised : List Int) (exponent : Int) : Number :=
  let power := format.powerOfTen exponent
  if exponent ∈ raised then format.above power else power

end Format
end TextScan.Floating
