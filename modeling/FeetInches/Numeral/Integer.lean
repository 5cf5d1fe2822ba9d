import FeetInches.Fault
import FeetInches.Text.Classes

namespace FeetInches.Numeral

open Decimal Text

/-- The text with blanks and digits of every script in their ASCII form. A text of plain ASCII
stays as it is; in any other one, a character that is neither becomes a question mark and ends
the text. -/
def plainForm (cs : List Char) : List Char :=
  if cs.all (·.toNat < 128) then cs else go cs
where
  go : List Char → List Char
    | [] => []
    | c :: rest =>
      if c.toNat < 127 then c :: go rest
      else if isBlank c then ' ' :: go rest
      else match decimalDigit? c with
        | some d => digitChar d :: go rest
        | none => ['?']

def takeSign : List Char → Bool × List Char
  | '-' :: rest => (true, rest)
  | '+' :: rest => (false, rest)
  | cs => (false, cs)

/-- The digits at the start and what follows them. Nothing if an underscore there does not stand
between two digits; `afterDigit` tells that a digit stands before the text. -/
def takeDigits (afterDigit : Bool) : List Char → Option (List Digit × List Char)
  | [] => some ([], [])
  | c :: rest =>
    match digit? c with
    | some d => (takeDigits true rest).map fun (ds, more) => (d :: ds, more)
    | none =>
      if c ≠ '_' then some ([], c :: rest)
      else if afterDigit && rest.head?.any (fun next => (digit? next).isSome) then
        takeDigits false rest
      else none

def signed (negative : Bool) (n : Nat) : Int := if negative then -(n : Int) else n

def readInteger (text : Text) : Except Fault Int :=
  let (negative, body) := takeSign ((plainForm text.chars).dropWhile isPlainBlank)
  match takeDigits false body with
  | none => .error (.notInteger text)
  | some (ds, rest) =>
    if maxNumeralDigits < ds.length then .error (.numeralTooLong ds.length)
    else if ds = [] ∨ ¬ rest.all isPlainBlank then .error (.notInteger text)
    else .ok (signed negative (ofDigits ds))

end FeetInches.Numeral
