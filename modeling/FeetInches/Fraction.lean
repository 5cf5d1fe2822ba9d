import FeetInches.Numeral.Integer

namespace FeetInches

def keyDenominators : List Int := [2, 4, 8, 16, 32]

def padDenominators : List Int := [8, 16, 32]

def defaultDenominator : Int := 16

structure Fraction where
  numerator : Int
  denominator : Int
  deriving DecidableEq, Repr

def slashHalves? (t : Text) : Option (Text × Text) :=
  match t.dropWhile (· ≠ .char '/') with
  | _ :: after =>
    if after.contains (.char '/') then none else some (t.takeWhile (· ≠ .char '/'), after)
  | [] => none

def isNumeral (t : Text) : Bool := !t.isEmpty && t.chars.all Text.isDigitLike

namespace Fraction

/-- The fraction that a text shows. A half that looks like a numeral may still fail to be one. -/
def read (text : Text) : Except Fault Fraction :=
  match slashHalves? text with
  | none => .error (.notFraction text)
  | some (above, below) =>
    if isNumeral above && isNumeral below then do
      let numerator ← Numeral.readInteger above
      let denominator ← Numeral.readInteger below
      if denominator ∉ keyDenominators then
        .error (.unsupportedDenominator denominator.toNat)
      else if 0 < numerator ∧ numerator < denominator then
        .ok ⟨numerator, denominator⟩
      else
        .error (.numeratorOutOfRange text)
    else .error (.notFraction text)

end Fraction

end FeetInches
