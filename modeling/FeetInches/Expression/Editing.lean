import FeetInches.Expression.Typing

namespace FeetInches

open Decimal

namespace TypedLength

/-- Takes back a digit of the feet, else one of the inches, else the fraction. -/
def eraseInput (l : TypedLength) : TypedLength :=
  if 0 < l.feet then { l with feet := l.feet / 10 }
  else if 0 < l.inches then { l with inches := l.inches / 10 }
  else if l.hasFraction then l.dropFraction
  else l

def isBlank (l : TypedLength) : Bool := l.feet = 0 && l.inches = 0 && !l.hasFraction

end TypedLength

def Term.eraseInput : Term → Option Term
  | typedLength l => if l.eraseInput.isBlank then none else some (typedLength l.eraseInput)
  | typedNumber text =>
    if 1 < text.length then some (typedNumber text.dropLast) else none
  | _ => none

/-- The expression without the last piece of its input. -/
def Expression.eraseInput (terms : Expression) : Expression :=
  match terms.getLast? with
  | none => []
  | some last => terms.dropLast ++ last.eraseInput.toList

def keysOfText (pad : Pad) : Text → Except Fault (List Key)
  | [] => .ok []
  | c :: rest => do
    let key ← Key.ofText pad [c]
    let keys ← keysOfText pad rest
    return key :: keys

def keysOfCount (pad : Pad) (n : Int) : Except Fault (List Key) :=
  if n = 0 then .ok [] else do
    let text ← writtenInt? n
    keysOfText pad text

namespace TypedLength

def fractionKeys (l : TypedLength) : Except Fault (List Key) :=
  if l.hasFraction then do
    let numerator ← writtenInt? l.numerator
    let denominator ← writtenInt? l.denominator
    return [← Key.ofText .inches (numerator ++ "/" ++ denominator)]
  else .ok []

/-- Feet, inches, then the fraction; a zero on the feet pad where all of them are zero. -/
def keys (l : TypedLength) : Except Fault (List Key) := do
  let feet ← keysOfCount .feet l.feet
  let inches ← keysOfCount .inches l.inches
  let fraction ← l.fractionKeys
  let keys := feet ++ inches ++ fraction
  return if keys = [] then [.digit .feet 0] else keys

end TypedLength

def Term.keys : Term → Except Fault (List Key)
  | operator symbol => do return [← Key.ofText .operator symbol]
  | typedLength l => l.keys
  | typedNumber text => keysOfText .scalar (if text = [] then "0" else text)
  | term => .error (.noKeys term.form)

/-- The key presses that type an expression. Only what was typed has such a form. -/
def Expression.keys : Expression → Except Fault (List Key)
  | [] => .ok []
  | term :: rest => do
    let first ← term.keys
    let others ← Expression.keys rest
    return first ++ others

end FeetInches
