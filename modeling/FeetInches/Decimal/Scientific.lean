import FeetInches.Decimal.Fixed

namespace FeetInches.Decimal

/-- The value is the number that `digits` show with a point after the first one, times
`10 ^ exponent`. -/
structure Scientific where
  digits : List Digit
  exponent : Int
  deriving DecidableEq, Repr

/-- The greatest `e` with `10 ^ e` not above the quotient of two positive numbers. -/
def leadingExponent (numerator denominator : Nat) : Int :=
  if denominator ≤ numerator then (digitCount (numerator / denominator) : Int) - 1
  else -(digitCount ((denominator - 1) / numerator) : Int)

def scaled (numerator denominator : Nat) (exponent : Int) : Nat × Nat :=
  (numerator * 10 ^ (-exponent).toNat, denominator * 10 ^ exponent.toNat)

/-- The quotient rounded to `count` significant digits. Rounding up to a power of ten moves to the
next exponent. -/
def significant (count numerator denominator : Nat) : Scientific :=
  let exponent := leadingExponent numerator denominator
  let (n, d) := scaled numerator denominator (exponent - count + 1)
  let rounded := roundHalfEven n d
  if rounded = 10 ^ count then ⟨digits (10 ^ (count - 1)), exponent + 1⟩
  else ⟨digits rounded, exponent⟩

/-- How a number is written: with a power of ten outside `low ≤ exponent < high`, and with a
fraction even where it is zero if `alwaysPoint`. -/
structure Layout where
  low : Int
  high : Int
  alwaysPoint : Bool

def dropTrailingZeros (ds : List Digit) : List Digit := (ds.reverse.dropWhile (· = 0)).reverse

def withFraction (whole : String) (fraction : List Digit) : String :=
  if fraction = [] then whole else whole ++ "." ++ digitText fraction

def powerText (exponent : Int) : String :=
  let ds := digits exponent.natAbs
  "e" ++ (if exponent < 0 then "-" else "+") ++
    digitText (List.replicate (2 - ds.length) 0 ++ ds)

namespace Scientific

def text (layout : Layout) (s : Scientific) : String :=
  if s.exponent < layout.low ∨ layout.high ≤ s.exponent then
    withFraction (digitText (s.digits.take 1)) (dropTrailingZeros (s.digits.drop 1)) ++
      powerText s.exponent
  else
    let count := (s.exponent + 1).toNat
    let whole :=
      if count = 0 then [0] else s.digits.take count ++ List.replicate (count - s.digits.length) 0
    let fraction :=
      dropTrailingZeros (List.replicate (-s.exponent - 1).toNat 0 ++ s.digits.drop count)
    withFraction (digitText whole)
      (if fraction = [] ∧ layout.alwaysPoint then [0] else fraction)

end Scientific

def laidOut (layout : Layout) (choose : Nat → Scientific) (x : Binary64) : String :=
  match nonFiniteText? x with
  | some text => text
  | none =>
    (if x.isNegative then "-" else "") ++
      (if x.magnitude = 0 then ⟨[0], 0⟩ else choose x.magnitude : Scientific).text layout

/-- At most `count` significant digits, with a power of ten below `10 ^ (-4)` and from
`10 ^ count` on. -/
def general (count : Nat) : Binary64 → String :=
  laidOut ⟨-4, count, false⟩ fun magnitude => significant count magnitude oneUnits

end FeetInches.Decimal
