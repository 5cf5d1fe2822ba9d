import FeetInches.Fraction
import FeetInches.Json.Shown
/-!
Key presses. Every value of `Key` is a key of the calculator: `ofText` is the only place where a
text can turn out not to be one.
-/

namespace FeetInches

open Decimal

inductive Pad where
  | feet
  | inches
  | scalar
  | operator
  | control
  deriving DecidableEq, Repr

inductive LengthPad where
  | feet
  | inches
  deriving DecidableEq, Repr

inductive Arith where
  | plus
  | minus
  | times
  | dividedBy
  deriving DecidableEq, Repr

inductive Control where
  | clear
  | backspace
  | errorTimeout
  deriving DecidableEq, Repr

/-- A fraction key keeps its text, which may show the fraction in any script. -/
structure FractionKey where
  text : Text
  value : Fraction
  reads : Fraction.read text = .ok value

instance : DecidableEq FractionKey := fun a b =>
  if same : a.text = b.text ∧ a.value = b.value then
    .isTrue (by cases a; cases b; simp_all)
  else
    .isFalse (by intro equal; exact same (by simp [equal]))

inductive Key where
  | digit (pad : LengthPad) (digit : Digit)
  | fraction (pad : LengthPad) (literal : FractionKey)
  | scalarDigit (digit : Digit)
  | point
  | operator (op : Arith)
  | equals
  | control (command : Control)
  deriving DecidableEq

def Pad.label : Pad → String
  | .feet => "Feet"
  | .inches => "Inches"
  | .scalar => "Scalar"
  | .operator => "Operator"
  | .control => "Control"

def Pad.all : List Pad := [.feet, .inches, .scalar, .operator, .control]

def Pad.ofEntry (entry : Json) : Except Fault Pad :=
  match entry with
  | .text label =>
    match Pad.all.find? (Text.ofString ·.label = label) with
    | some pad => .ok pad
    | none => .error (.notPad entry.shown)
  | _ => .error (.notPad entry.shown)

def LengthPad.pad : LengthPad → Pad
  | .feet => .feet
  | .inches => .inches

namespace Arith

def symbol : Arith → String
  | .plus => "+"
  | .minus => "-"
  | .times => "x"
  | .dividedBy => "/"

def ofSymbol? (symbol : Text) : Option Arith :=
  if symbol = "+" then some .plus
  else if symbol = "-" then some .minus
  else if symbol = "x" then some .times
  else if symbol = "/" then some .dividedBy
  else none

theorem ofSymbol?_symbol (op : Arith) : ofSymbol? op.symbol = some op := by
  cases op <;> decide

end Arith

def equalsSymbol : String := "="

namespace Control

def label : Control → String
  | .clear => "Clear"
  | .backspace => "Backspace"
  | .errorTimeout => "ErrorTimeout"

def ofLabel? (label : Text) : Option Control :=
  if label = "Clear" then some .clear
  else if label = "Backspace" then some .backspace
  else if label = "ErrorTimeout" then some .errorTimeout
  else none

end Control

namespace Key

def pad : Key → Pad
  | digit pad _ | fraction pad _ => pad.pad
  | scalarDigit _ | point => .scalar
  | operator _ | equals => .operator
  | control _ => .control

def text : Key → Text
  | digit _ d | scalarDigit d => digitText [d]
  | fraction _ literal => literal.text
  | point => "."
  | operator op => op.symbol
  | equals => equalsSymbol
  | control command => command.label

def isDigit : Key → Bool
  | digit .. | scalarDigit _ => true
  | _ => false

def isFraction : Key → Bool
  | fraction .. => true
  | _ => false

def isOperand : Key → Bool
  | digit .. | fraction .. | scalarDigit _ | point => true
  | _ => false

def isOperator : Key → Bool
  | operator _ | equals => true
  | _ => false

def fractionOfText (pad : LengthPad) (text : Text) : Except Fault Key :=
  match reads : Fraction.read text with
  | .ok value => .ok (fraction pad ⟨text, value, reads⟩)
  | .error fault => .error fault

def digitOfText? (text : Text) : Option Digit :=
  match text with
  | [.char c] => digit? c
  | _ => none

def lengthOfText (pad : LengthPad) (text : Text) : Except Fault Key :=
  match digitOfText? text with
  | some d => .ok (digit pad d)
  | none => fractionOfText pad text

def ofText (pad : Pad) (text : Text) : Except Fault Key :=
  match pad with
  | .feet => lengthOfText .feet text
  | .inches => lengthOfText .inches text
  | .scalar =>
    match digitOfText? text with
    | some d => .ok (scalarDigit d)
    | none => if text = "." then .ok point else .error (.notScalarKey (Text.quoted text))
  | .operator =>
    match Arith.ofSymbol? text with
    | some op => .ok (operator op)
    | none => if text = equalsSymbol then .ok equals else .error (.notOperator (Text.quoted text))
  | .control =>
    match Control.ofLabel? text with
    | some command => .ok (control command)
    | none => .error (.notControl (Text.quoted text))

/-- The key that two values of any type name. Operand pads take a text only; the others compare any
value with their keys. -/
def ofEntry (pad key : Json) : Except Fault Key := do
  let pad ← Pad.ofEntry pad
  match key, pad with
  | .text text, pad => ofText pad text
  | _, .operator => .error (.notOperator key.shown)
  | _, .control => .error (.notControl key.shown)
  | _, _ => .error (.keyNotText key.typeName)

end Key

end FeetInches
