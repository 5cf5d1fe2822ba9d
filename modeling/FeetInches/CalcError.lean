import FeetInches.Kind
import FeetInches.Text.Basic

namespace FeetInches

inductive InvalidReason where
  | operatorState
  | scalarState
  | imperialState
  | unexpected (symbol : Text)
  | notEnoughOperands
  | wrongOperandCount
  | numberTooLarge
  deriving DecidableEq, Repr

inductive CalcError where
  | emptyExpression
  | consecutiveOperator
  | mixedType
  | divisionByZero
  | unsupported (left : Kind) (symbol : Text) (right : Kind)
  | invalid (reason : InvalidReason)
  | noEquals
  deriving DecidableEq, Repr

def InvalidReason.message : InvalidReason → Text
  | .operatorState => "invalid state for operator"
  | .scalarState => "invalid state for scalar input"
  | .imperialState => "invalid state for Imperial input"
  | .unexpected symbol => "unexpected '" ++ symbol ++ "'"
  | .notEnoughOperands => "not enough operands"
  | .wrongOperandCount => "incorrect number of operands"
  | .numberTooLarge => "number too large"

namespace CalcError

def message : CalcError → Text
  | .emptyExpression => "That doesn't make any sense"
  | .consecutiveOperator => "Cannot enter consecutive operators"
  | .mixedType => "Cannot mix scalar and Imperial measurements"
  | .divisionByZero => "Division by zero"
  | .unsupported left symbol right =>
    "Unsupported operation: " ++ left.label ++ " " ++ symbol ++ " " ++ right.label
  | .invalid reason => "Invalid expression: " ++ reason.message
  | .noEquals => "No equals operator found"

def category : CalcError → String
  | .emptyExpression => "EmptyExpression"
  | .consecutiveOperator => "ConsecutiveOperator"
  | .mixedType => "MixedType"
  | .divisionByZero => "DivisionByZero"
  | .unsupported .. => "UnsupportedOperation"
  | .invalid _ => "InvalidExpression"
  | .noEquals => "NoEqualsFound"

end CalcError

end FeetInches
