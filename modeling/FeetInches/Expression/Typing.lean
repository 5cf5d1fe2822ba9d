import FeetInches.Term
/-!
Typing: the key presses of a log become the terms of an expression. Digits join the operand being
typed; an operator, or a key of the other family of operands, ends it.
-/

namespace FeetInches

open Decimal

namespace TypedLength

def typeDigit (l : TypedLength) (pad : LengthPad) (d : Digit) : TypedLength :=
  match pad with
  | .feet => { l with feet := l.feet * 10 + d.val }
  | .inches => { l with inches := l.inches * 10 + d.val }

/-- A later fraction takes the place of an earlier one. -/
def typeFraction (l : TypedLength) (f : Fraction) : TypedLength :=
  { l with numerator := f.numerator, denominator := f.denominator }

end TypedLength

def typeDigit (text : Text) (d : Digit) : Text := text ++ [.char (digitChar d)]

/-- A second point is ignored. -/
def typePoint (text : Text) : Text :=
  if text.contains (.char '.') then text else text ++ [.char '.']

inductive Operand where
  | length (value : TypedLength)
  | number (text : Text)
  deriving DecidableEq

namespace Operand

def term : Operand → Term
  | length l => .typedLength l
  | number text => .typedNumber text

end Operand

structure Typing where
  complete : Expression := []
  operand : Option Operand := none
  deriving DecidableEq

namespace Typing

def terms (t : Typing) : Expression := t.complete ++ (t.operand.map Operand.term).toList

def onLength (t : Typing) (type : TypedLength → TypedLength) : Typing :=
  match t.operand with
  | some (.length l) => { t with operand := some (.length (type l)) }
  | _ => ⟨t.terms, some (.length (type {}))⟩

def onNumber (t : Typing) (type : Text → Text) : Typing :=
  match t.operand with
  | some (.number text) => { t with operand := some (.number (type text)) }
  | _ => ⟨t.terms, some (.number (type []))⟩

def onOperator (t : Typing) (symbol : Text) : Typing :=
  ⟨t.terms ++ [.operator symbol], none⟩

def press (t : Typing) : Key → Typing
  | .digit pad d => t.onLength (·.typeDigit pad d)
  | .fraction _ literal => t.onLength (·.typeFraction literal.value)
  | .scalarDigit d => t.onNumber (typeDigit · d)
  | .point => t.onNumber typePoint
  | .operator op => t.onOperator op.symbol
  | .equals => t.onOperator equalsSymbol
  | .control _ => t

end Typing

def Expression.ofKeys (log : List Key) : Expression := (log.foldl Typing.press {}).terms

end FeetInches
