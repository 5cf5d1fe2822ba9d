import FeetInches.Numeral.Integer

namespace FeetInches.Numeral

open Decimal Text

/-- The number nearest to `digits * 10 ^ exponent`. Magnitudes far outside the range are settled
by their order, so that no huge power is formed. -/
def ofDecimal (negative : Bool) (digits : Nat) (exponent : Int) : Binary64 :=
  let order := (digitCount digits : Int) + exponent
  if digits = 0 ∨ order < -330 then .zero negative
  else if 310 < order then .infinite negative
  else .nearest negative (digits * 10 ^ exponent.toNat * oneUnits) (10 ^ (-exponent).toNat)

def dropUnderscores (afterDigit : Bool) : List Char → Option (List Char)
  | [] => some []
  | c :: rest =>
    if c = '_' then
      if afterDigit && rest.head?.any (fun next => (digit? next).isSome) then
        dropUnderscores false rest
      else none
    else (dropUnderscores (digit? c).isSome rest).map (c :: ·)

def leadingDigits (cs : List Char) : List Digit :=
  (cs.takeWhile fun c => (digit? c).isSome).filterMap digit?

def afterDigits (cs : List Char) : List Char := cs.dropWhile fun c => (digit? c).isSome

def exponentPart? : List Char → Option Int
  | [] => some 0
  | c :: rest =>
    if c = 'e' ∨ c = 'E' then
      let (negative, body) := takeSign rest
      let ds := leadingDigits body
      if ds ≠ [] ∧ afterDigits body = [] then some (signed negative (ofDigits ds)) else none
    else none

def decimalBody? (negative : Bool) (cs : List Char) : Option Binary64 :=
  let whole := leadingDigits cs
  let (fraction, rest) :=
    match afterDigits cs with
    | '.' :: more => (leadingDigits more, afterDigits more)
    | more => ([], more)
  if whole ++ fraction = [] then none
  else (exponentPart? rest).map fun exponent =>
    ofDecimal negative (ofDigits (whole ++ fraction)) (exponent - fraction.length)

def realBody? (negative : Bool) (cs : List Char) : Option Binary64 :=
  let word := String.ofList (cs.map Char.toLower)
  if word = "inf" ∨ word = "infinity" then some (.infinite negative)
  else if word = "nan" then some .nan
  else decimalBody? negative cs

def readReal (text : Text) : Except Fault Binary64 :=
  let value := do
    let cs ← dropUnderscores false (trim isPlainBlank (plainForm text.chars))
    let (negative, body) := takeSign cs
    realBody? negative body
  match value with
  | some x => .ok x
  | none => .error (.notReal text)

end FeetInches.Numeral
