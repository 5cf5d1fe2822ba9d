import FeetInches.Display
import FeetInches.Numeral.Real
/-!
Quantities: what a term contributes to a calculation. A typed operand and the result of computing
it alone have the same quantity.
-/

namespace FeetInches

/-- Totals that cannot be read are kept as failures, which arise when a rule asks for them. -/
inductive Quantity where
  | imperial (inches : Except Failure Binary64)
  | scalar (value : Except Failure Binary64)
  | area (squareInches : Binary64)
  | volume (cubicInches : Binary64)
  | operator

def Quantity.kind : Quantity → Kind
  | imperial _ => .imperial
  | scalar _ => .scalar
  | area _ => .area
  | volume _ => .volume
  | operator => .operator

/-- The number that a text of a typed or computed number shows. A text without digits is zero. -/
def numberValue? (text : Text) : Except Failure Binary64 :=
  if text = [] ∨ text = "." then .ok (.zero false)
  else do
    let x ← Numeral.readReal text
    let value ← (Amount.real x).finite?
    return value

namespace Term

def value? : Term → Except Failure Binary64
  | typedNumber text | number text => numberValue? text
  | term => .error (.fault (.noNumber term.form))

def quantity? : Term → Except Fault Quantity
  | typedLength l => .ok (.imperial l.inches?)
  | length l => .ok (.imperial (.ok l.total))
  | typedNumber text | number text => .ok (.scalar (numberValue? text))
  | area extent => .ok (.area extent.total)
  | volume extent => .ok (.volume extent.total)
  | operator _ => .ok .operator
  | keyPress _ => .error (.notTerm .keyPress)

def solution? : Term → Except Failure Term
  | typedLength l => do
    let result ← Length.ofAmount? (.real (← l.inches?))
    return length result
  | typedNumber text => .ok (number text)
  | operator _ => .error (.calc (.invalid .notEnoughOperands))
  | keyPress _ => .error (.fault (.notTerm .keyPress))
  | result => .ok result

end Term

end FeetInches
