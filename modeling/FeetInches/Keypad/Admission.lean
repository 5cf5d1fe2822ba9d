import FeetInches.Keypad.Basic

namespace FeetInches

def Mode.operatorRefusal? : Mode → Option CalcError
  | .input => some .emptyExpression
  | .imperial | .scalar => none
  | .error => some (.invalid .operatorState)

def Mode.scalarRefusal? : Mode → Option CalcError
  | .imperial => some .mixedType
  | .input | .scalar => none
  | .error => some (.invalid .scalarState)

def Mode.imperialRefusal? : Mode → Option CalcError
  | .scalar => some .mixedType
  | .input | .imperial => none
  | .error => some (.invalid .imperialState)

/-- The error with which a key is refused. A second operator in a row is refused in every mode. -/
def Mode.refusal? (mode : Mode) (key : Key) (previous : Option Key) : Option CalcError :=
  match key with
  | .control _ => none
  | .operator _ | .equals =>
    if previous.any Key.isOperator then some .consecutiveOperator else mode.operatorRefusal?
  | .scalarDigit _ | .point => mode.scalarRefusal?
  | .digit .. | .fraction .. => mode.imperialRefusal?

def logRefusal? : List Key → Option CalcError
  | first :: second :: rest =>
    if first.isOperator && second.isOperator then some .consecutiveOperator
    else logRefusal? (second :: rest)
  | _ => none

end FeetInches
