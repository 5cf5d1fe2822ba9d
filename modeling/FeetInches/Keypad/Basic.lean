import FeetInches.Expression.Typing

namespace FeetInches

inductive Mode where
  | input
  | imperial
  | scalar
  | error
  deriving DecidableEq, Repr

def Mode.label : Mode → String
  | .input => "Input"
  | .imperial => "Imperial"
  | .scalar => "Scalar"
  | .error => "Error"

def Mode.all : List Mode := [.input, .imperial, .scalar, .error]

def Term.mode : Term → Mode
  | typedLength _ | length _ | area _ | volume _ => .imperial
  | typedNumber _ | number _ => .scalar
  | operator _ | keyPress _ => .input

structure PadValue where
  whole : Int := 0
  numerator : Int := 0
  denominator : Int := defaultDenominator
  deriving DecidableEq, Repr

inductive ActivePad where
  | length (pad : LengthPad)
  | scalar
  deriving DecidableEq, Repr

def ActivePad.label : ActivePad → String
  | .length .feet => "feet"
  | .length .inches => "inches"
  | .scalar => "scalar"

structure Keypad where
  mode : Mode := .input
  feet : PadValue := {}
  inches : PadValue := {}
  scalar : Text := []
  activePad : Option ActivePad := none
  denominator : Int := defaultDenominator
  deriving DecidableEq, Repr

namespace PadValue

def typeDigit (p : PadValue) (d : Decimal.Digit) : PadValue :=
  { p with whole := p.whole * 10 + d.val }

def typeFraction (p : PadValue) (f : Fraction) : PadValue :=
  { p with numerator := f.numerator, denominator := f.denominator }

def eraseDigit (p : PadValue) : PadValue := { p with whole := p.whole / 10 }

end PadValue

namespace Keypad

def initial (denominator : Int) : Keypad :=
  { inches := { denominator := denominator }, denominator := denominator }

def onLengthPad (k : Keypad) (pad : LengthPad) (edit : PadValue → PadValue) : Keypad :=
  match pad with
  | .feet => { k with feet := edit k.feet }
  | .inches => { k with inches := edit k.inches }

def typeLength (k : Keypad) (pad : LengthPad) (edit : PadValue → PadValue) : Keypad :=
  let k := { k with activePad := some (.length pad) }
  match k.mode with
  | .scalar => { k with mode := .error }
  | .input => { k.onLengthPad pad edit with mode := .imperial }
  | .imperial | .error => k.onLengthPad pad edit

def typeScalar (k : Keypad) (edit : Text → Text) : Keypad :=
  let k := { k with activePad := some .scalar }
  match k.mode with
  | .imperial => { k with mode := .error }
  | .input => { k with scalar := edit k.scalar, mode := .scalar }
  | .scalar | .error => { k with scalar := edit k.scalar }

def pressOperator (k : Keypad) : Keypad :=
  match k.mode with
  | .imperial | .scalar => { k with mode := .input }
  | .input => { k with mode := .error }
  | .error => k

def eraseDigit (k : Keypad) : Keypad :=
  match k.activePad with
  | none => k
  | some .scalar => { k with scalar := k.scalar.dropLast }
  | some (.length pad) => k.onLengthPad pad PadValue.eraseDigit

def control (k : Keypad) : Control → Keypad
  | .clear => initial k.denominator
  | .backspace => k.eraseDigit
  | .errorTimeout => if k.mode = .error then { k with mode := .input } else k

def press (k : Keypad) : Key → Keypad
  | .digit pad d => k.typeLength pad (·.typeDigit d)
  | .fraction pad literal => k.typeLength pad (·.typeFraction literal.value)
  | .scalarDigit d => k.typeScalar (FeetInches.typeDigit · d)
  | .point => k.typeScalar typePoint
  | .operator _ | .equals => k.pressOperator
  | .control command => k.control command

def replay (k : Keypad) (log : List Key) : Keypad := log.foldl press k

end Keypad

end FeetInches
