import TextScan.Bytes

/-! The sign in front of a number literal. -/
namespace TextScan.Literal

inductive Sign where
  | positive
  | negative
deriving DecidableEq

/-- Splits a leading plus or minus off a literal; without one the literal is positive. -/
def splitSign : Bytes → Sign × Bytes
  | 0x2d :: rest => (.negative, rest)
  | 0x2b :: rest => (.positive, rest)
  | text => (.positive, text)

end TextScan.Literal
