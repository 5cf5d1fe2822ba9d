namespace FeetInches

/-- What an operand measures; operators have a kind of their own, so that messages can name it. -/
inductive Kind where
  | imperial
  | scalar
  | area
  | volume
  | operator
  deriving DecidableEq, Repr

def Kind.label : Kind → String
  | .imperial => "Imperial"
  | .scalar => "Scalar"
  | .area => "Area"
  | .volume => "Volume"
  | .operator => "Operator"

inductive Form where
  | typedLength
  | typedNumber
  | operator
  | length
  | area
  | volume
  | number
  | keyPress
  deriving DecidableEq, Repr

def Form.label : Form → String
  | .typedLength => "ImperialToken"
  | .typedNumber => "ScalarToken"
  | .operator => "OperatorToken"
  | .length => "LengthToken"
  | .area => "AreaToken"
  | .volume => "VolumeToken"
  | .number => "ScalarSolutionToken"
  | .keyPress => "InputToken"

end FeetInches
