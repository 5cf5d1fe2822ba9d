import FeetInches.Binary64.Arith
import FeetInches.CalcError
import FeetInches.Decimal.Digits
import FeetInches.Text.Quoted
/-!
Faults: input that is no input of the calculator, and numbers that cannot be held or written. A
fault is not shown on the display; it ends the operation in which it arises.
-/

namespace FeetInches

def maxNumeralDigits : Nat := 4300

inductive FaultNature where
  | badValue
  | wrongType
  | outOfRange
  | missingPart
  deriving DecidableEq, Repr

/-- `shown` is a value as it is written in a message, and `type` the name of a value's type. -/
inductive Fault where
  | range (fault : RangeFault)
  | notInteger (text : Text)
  | notReal (text : Text)
  | numeralTooLong (digits : Nat)
  | integerTooLong
  | notPad (shown : String)
  | notMode (shown : String)
  | keyNotText (type : String)
  | notFraction (text : Text)
  | unsupportedDenominator (denominator : Nat)
  | numeratorOutOfRange (text : Text)
  | notScalarKey (shown : String)
  | notOperator (shown : String)
  | notControl (shown : String)
  | unknownWord (word : Text)
  | notLength (form : Form)
  | notTerm (form : Form)
  | noKeys (form : Form)
  | noNumber (form : Form)
  | fractionDenominator
  | historySize
  | historyTooLong
  | timeout
  | denominatorChoice
  | notNumeric (type : String)
  deriving DecidableEq

def RangeFault.message : RangeFault → String
  | .integerTooLarge => "int too large to convert to float"
  | .quotientTooLarge => "integer division result too large for a float"
  | .notANumber => "cannot convert float NaN to integer"
  | .infinity => "cannot convert float infinity to integer"

namespace Fault

def digitLimitText : String :=
  "Exceeds the limit (" ++ Decimal.natText maxNumeralDigits ++
    " digits) for integer string conversion"

def digitLimitAdvice : String := "; use sys.set_int_max_str_digits() to increase the limit"

def message : Fault → String
  | .range fault => fault.message
  | .notInteger text =>
    "invalid literal for int() with base 10: " ++
      String.ofList ((Text.quotedChars text).take 200)
  | .notReal text => "could not convert string to float: " ++ Text.quoted text
  | .numeralTooLong digits =>
    digitLimitText ++ ": value has " ++ Decimal.natText digits ++ " digits" ++ digitLimitAdvice
  | .integerTooLong => digitLimitText ++ digitLimitAdvice
  | .notPad shown => shown ++ " is not a valid Pad"
  | .notMode shown => shown ++ " is not a valid EntryMode"
  | .keyNotText type => "'in <string>' requires string as left operand, not " ++ type
  | .notFraction text => "Invalid fraction literal: " ++ Text.quoted text
  | .unsupportedDenominator denominator =>
    "Unsupported fraction denominator: " ++ Decimal.natText denominator
  | .numeratorOutOfRange text => "Fraction numerator out of range: " ++ Text.quoted text
  | .notScalarKey shown => "Invalid scalar key: " ++ shown
  | .notOperator shown => "Invalid operator: " ++ shown
  | .notControl shown => "Invalid control command: " ++ shown
  | .unknownWord word => "Unrecognised key: " ++ Text.quoted word
  | .notLength form => "Not a length: " ++ form.label
  | .notTerm form => "Unknown math token: " ++ form.label
  | .noKeys form => "Cannot expand " ++ form.label ++ " into key presses"
  | .noNumber form => "'" ++ form.label ++ "' object has no attribute 'value'"
  | .fractionDenominator => "fraction_denominator must be one of (8, 16, 32)"
  | .historySize => "history_size must be at least 1"
  | .historyTooLong => "Python int too large to convert to C ssize_t"
  | .timeout => "error timeouts must be positive"
  | .denominatorChoice => "denominator must be one of (8, 16, 32)"
  | .notNumeric type =>
    "int() argument must be a string, a bytes-like object or a real number, not '" ++ type ++ "'"

def nature : Fault → FaultNature
  | .range .integerTooLarge | .range .quotientTooLarge | .range .infinity | .historyTooLong =>
    .outOfRange
  | .keyNotText _ | .notLength _ | .notTerm _ | .noKeys _ | .notNumeric _ => .wrongType
  | .noNumber _ => .missingPart
  | _ => .badValue

end Fault

inductive Failure where
  | calc (error : CalcError)
  | fault (fault : Fault)
  deriving DecidableEq

instance : MonadLift (Except RangeFault) (Except Fault) where
  monadLift result := result.mapError .range

instance : MonadLift (Except Fault) (Except Failure) where
  monadLift result := result.mapError .fault

instance : MonadLift (Except CalcError) (Except Failure) where
  monadLift result := result.mapError .calc

def writtenInt? (n : Int) : Except Fault String :=
  if (Decimal.digits n.natAbs).length ≤ maxNumeralDigits then .ok (Decimal.intText n)
  else .error .integerTooLong

end FeetInches
