import TextScan.Floating.Format

/-! The shortest decimal text that still rounds to a given number. -/
namespace TextScan.Floating

structure Decimal where
  digits : Nat
  exponent : Int
deriving DecidableEq

namespace Decimal

/-- Moves trailing zeros of the digits into the exponent, at most as many as the fuel. -/
def stripZeros : Nat → Decimal → Decimal
  | 0, decimal => decimal
  | fuel + 1, decimal =>
    if decimal.digits ≠ 0 ∧ decimal.digits % 10 = 0 then
      stripZeros fuel ⟨decimal.digits / 10, decimal.exponent + 1⟩
    else decimal

/-- Positional text: no exponent mark, no point after a whole number, and a zero before the
point of a fraction below one. -/
def render (decimal : Decimal) : String :=
  let digits := Nat.toDigits 10 decimal.digits
  if 0 ≤ decimal.exponent then
    String.ofList (digits ++ List.replicate decimal.exponent.toNat '0')
  else
    let places := (-decimal.exponent).toNat
    let padded := List.replicate (places + 1 - digits.length) '0' ++ digits
    let (whole, fraction) := padded.splitAt (padded.length - places)
    String.ofList (whole ++ '.' :: fraction)

end Decimal

/-- The reals that round to a finite positive number, on an exact decimal grid. One step of
the significand is `unit` grid points, and the bounds are in quarters of a grid point. -/
structure Neighbourhood where
  value : Nat
  unit : Nat
  low : Nat
  high : Nat
  closed : Bool
  exponent : Int

namespace Neighbourhood

/-- The grid is fine enough for the number itself: a negative power of two is a power of five
over a power of ten. Below a power of two the numbers lie twice as close. Bounds belong to the
neighbourhood if the significand is even. -/
def of (format : Format) (significand : Nat) (exponent : Int) : Neighbourhood :=
  let unit := Nat.pow 2 exponent.toNat * Nat.pow 5 (-exponent).toNat
  let value := significand * unit
  let atPowerOfTwo : Bool :=
    significand = format.leadingOne && format.leastExponent < exponent
  { value, unit
    low := 4 * value - (if atPowerOfTwo then unit else 2 * unit)
    high := 4 * value + 2 * unit
    closed := significand % 2 = 0
    exponent := min exponent 0 }

def contains (near : Neighbourhood) (point : Nat) : Bool :=
  if near.closed then near.low ≤ 4 * point && 4 * point ≤ near.high
  else near.low < 4 * point && 4 * point < near.high

/-- The nearer of the two multiples of a power of ten around the value, among those that round
back; of two equally near ones the larger. -/
def nearest? (near : Neighbourhood) (dropped : Nat) : Option Decimal :=
  let step := Nat.pow 10 dropped
  let below := near.value / step
  let exponent := near.exponent + dropped
  match near.contains (below * step), near.contains ((below + 1) * step) with
  | true, true =>
    some ⟨if 2 * (near.value % step) < step then below else below + 1, exponent⟩
  | true, false => some ⟨below, exponent⟩
  | false, true => some ⟨below + 1, exponent⟩
  | false, false => none

/-- The first hit from the coarsest grid down. With nothing dropped the value itself is one. -/
def shortest (near : Neighbourhood) : Nat → Decimal
  | 0 => ⟨near.value, near.exponent⟩
  | dropped + 1 => (near.nearest? (dropped + 1)).getD (near.shortest dropped)

end Neighbourhood

namespace Format

/-- The fewest digits that read back as the same number, of those the nearest to it. -/
def shortest (format : Format) (significand : Nat) (exponent : Int) : Decimal :=
  let near := Neighbourhood.of format significand exponent
  let length := (Nat.toDigits 10 near.value).length
  (near.shortest (length - 1)).stripZeros length

/-- The shortest text of a number, with the sign of a negative zero kept. -/
def render (format : Format) : Number → String
  | .nan => "NaN"
  | .infinite negative => if negative then "-inf" else "inf"
  | .finite negative significand exponent =>
    let text := if significand = 0 then "0" else (format.shortest significand exponent).render
    if negative then "-" ++ text else text

end Format
end TextScan.Floating
