import FeetInches.Term

namespace FeetInches

inductive Amount where
  | whole (n : Int)
  | real (x : Binary64)
  deriving DecidableEq

namespace Amount

def toReal? : Amount → Except RangeFault Binary64
  | whole n => Binary64.ofInt? n
  | real x => .ok x

def finite? (amount : Amount) : Except CalcError Binary64 :=
  match amount.toReal? with
  | .ok x => if x.isFinite then .ok x else .error (.invalid .numberTooLarge)
  | .error _ => .error (.invalid .numberTooLarge)

end Amount

def Binary64.ofNat (n : Nat) : Binary64 := nearest false (n * oneUnits) 1

namespace TypedLength

/-- The fraction is rounded to a floating-point number before it joins the whole inches. -/
def inches? (l : TypedLength) : Except Failure Binary64 := do
  let fraction ←
    if l.denominator = 0 then pure (.zero false)
    else Binary64.quotient? l.numerator l.denominator
  let whole ← (Amount.whole (l.feet * 12 + l.inches)).finite?
  return whole.add fraction

end TypedLength

def Term.inches? : Term → Except Failure Binary64
  | typedLength l => l.inches?
  | length l => .ok l.total
  | term => .error (.fault (.notLength term.form))

/-- How far a fraction may be from the part of an inch that it shows. -/
def fractionTolerance : Binary64 := Binary64.nearest false oneUnits 64

def tidyFraction (numerator denominator : Int) : Int × Int :=
  if numerator = 0 then (0, 1) else (numerator, denominator)

def thirtySeconds? (part : Binary64) : Except RangeFault (Int × Int) := do
  return tidyFraction (← (part.mul (.ofNat 32)).nearestInt?) 32

/-- The first of the denominators, none above the limit, that comes within the tolerance;
thirty-seconds where none does. -/
def firstFraction? (limit : Int) (part : Binary64) : List Nat → Except RangeFault (Int × Int)
  | [] => thirtySeconds? part
  | denominator :: rest =>
    if limit < denominator then thirtySeconds? part
    else do
      let numerator ← (part.mul (.ofNat denominator)).nearestInt?
      let quotient ← Binary64.quotient? numerator denominator
      if (quotient.sub part).abs.lt fractionTolerance then
        return tidyFraction numerator denominator
      else firstFraction? limit part rest

def commonFraction? (limit : Int) (part : Binary64) : Except RangeFault (Int × Int) :=
  if part.isZero then .ok (0, 1) else firstFraction? limit part [2, 4, 8, 16, 32]

namespace Length

/-- The form with these whole feet, whole inches and fraction, the first two with the sign of the
total. A fraction that is rounded up to one becomes an inch. -/
def carried (total : Binary64) (feet inches : Int) (fraction : Int × Int) : Length :=
  let full := fraction.1 ≠ 0 ∧ fraction.1 = fraction.2
  let inches := if full then inches + 1 else inches
  let fraction := if full then (0, 1) else fraction
  let (feet, inches) := if 12 ≤ inches then (feet + 1, inches - 12) else (feet, inches)
  let sign : Int := if total.lt (.zero false) then -1 else 1
  ⟨total, sign * feet, sign * inches, fraction.1, fraction.2⟩

def ofTotal? (total : Binary64) : Except RangeFault Length := do
  let magnitude := total.abs
  let feet ← (magnitude.div (.ofNat 12)).floor?
  let remaining := magnitude.sub (← Binary64.ofInt? (feet * 12))
  let inches ← remaining.floor?
  let fraction ← commonFraction? 32 (remaining.sub (← Binary64.ofInt? inches))
  return carried total feet inches fraction

def ofAmount? (amount : Amount) : Except Failure Length := do
  let total ← amount.finite?
  let length ← ofTotal? total
  return length

end Length

end FeetInches
