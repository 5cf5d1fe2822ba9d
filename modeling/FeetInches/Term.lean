import FeetInches.Key.Basic

namespace FeetInches

structure TypedLength where
  feet : Int := 0
  inches : Int := 0
  numerator : Int := 0
  denominator : Int := defaultDenominator
  deriving DecidableEq, Repr

/-- A computed length: the exact total, and its form in feet, inches and a fraction. -/
structure Length where
  total : Binary64
  feet : Int
  inches : Int
  numerator : Int
  denominator : Int
  deriving DecidableEq

structure Extent where
  total : Binary64
  text : Text
  deriving DecidableEq

/-- Numbers are kept as text, so that what was typed stays as it was typed. A key press is no
part of an expression, but may stand where one is expected. -/
inductive Term where
  | typedLength (value : TypedLength)
  | typedNumber (text : Text)
  | operator (symbol : Text)
  | length (value : Length)
  | area (value : Extent)
  | volume (value : Extent)
  | number (text : Text)
  | keyPress (key : Key)
  deriving DecidableEq

abbrev Expression := List Term

namespace TypedLength

def hasFraction (l : TypedLength) : Bool := 0 < l.numerator

def dropFraction (l : TypedLength) : TypedLength :=
  { l with numerator := 0, denominator := defaultDenominator }

end TypedLength

namespace Term

def form : Term → Form
  | typedLength _ => .typedLength
  | typedNumber _ => .typedNumber
  | operator _ => .operator
  | length _ => .length
  | area _ => .area
  | volume _ => .volume
  | number _ => .number
  | keyPress _ => .keyPress

def isOperator : Term → Bool
  | operator _ => true
  | _ => false

def isSymbol (symbol : Text) : Term → Bool
  | operator other => other = symbol
  | _ => false

def isResult : Term → Bool
  | length _ | area _ | volume _ | number _ => true
  | _ => false

def kind? : Term → Except Fault Kind
  | typedLength _ | length _ => .ok .imperial
  | typedNumber _ | number _ => .ok .scalar
  | area _ => .ok .area
  | volume _ => .ok .volume
  | operator _ => .ok .operator
  | keyPress _ => .error (.notTerm .keyPress)

end Term

end FeetInches
