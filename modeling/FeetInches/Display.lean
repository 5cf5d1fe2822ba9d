import FeetInches.Decimal.Scientific
import FeetInches.Measure

namespace FeetInches

open Decimal

def Binary64.text (x : Binary64) : String :=
  if x.isWhole then intText (x.units / (oneUnits : Int)) else general 10 x

def Amount.text? (amount : Amount) : Except RangeFault String :=
  Binary64.text <$> amount.toReal?

def lowestTerms (numerator denominator : Int) : Int × Int :=
  if numerator = 0 then (0, 1)
  else
    let divisor : Int := Int.gcd numerator denominator
    (numerator / divisor, denominator / divisor)

def fractionText? (numerator denominator : Int) : Except Fault (Option String) :=
  if 0 < numerator then do
    let (n, d) := lowestTerms numerator denominator
    return some ((← writtenInt? n) ++ "/" ++ (← writtenInt? d))
  else .ok none

def countText? (n : Int) : Except Fault (Option String) :=
  if n = 0 then .ok none else some <$> writtenInt? n

def feetInchesText? (feet inches numerator denominator : Int) : Except Fault String := do
  let feet ← countText? feet
  let inches ← countText? inches
  let fraction ← fractionText? numerator denominator
  let words := inches.toList ++ fraction.toList
  let parts :=
    (feet.map (· ++ "ft")).toList ++ (if words = [] then [] else [" ".intercalate words ++ "in"])
  return if parts = [] then "0" else " ".intercalate parts

def TypedLength.text? (l : TypedLength) : Except Fault String :=
  feetInchesText? l.feet l.inches l.numerator l.denominator

/-- The form in feet and inches, then the total in brackets. -/
def Length.text? (l : Length) : Except Fault String := do
  let form ← feetInchesText? l.feet.natAbs l.inches.natAbs l.numerator l.denominator
  let sign := if l.total.lt (.zero false) ∧ form ≠ "0" then "-" else ""
  return sign ++ form ++ " (" ++ l.total.text ++ "in)"

structure BigUnit where
  size : Nat
  label : String
  smallLabel : String

def squareFoot : BigUnit := ⟨144, "sq.ft", "sq.in"⟩

def cubicFoot : BigUnit := ⟨1728, "cu.ft", "cu.in"⟩

namespace BigUnit

def join (u : BigUnit) (negative : Bool) (big : Int) (rest : Option String) : String :=
  let parts :=
    (if 0 < big then [intText big ++ " " ++ u.label] else []) ++
      (rest.map (· ++ " " ++ u.smallLabel)).toList
  if parts = [] then "0 " ++ u.smallLabel
  else (if negative then "-" else "") ++ " ".intercalate parts

def text? (u : BigUnit) : Amount → Except RangeFault String
  | .real total => do
    let magnitude := total.abs
    let big ← (magnitude.div (.ofNat u.size)).floor?
    let rest := magnitude.sub (← Binary64.ofInt? (big * u.size))
    return u.join (total.lt (.zero false)) big
      (if (Binary64.zero false).lt rest then some (fixed 2 rest) else none)
  | .whole total => do
    let magnitude : Int := total.natAbs
    let big ← (← Binary64.quotient? magnitude u.size).floor?
    let rest := magnitude - big * u.size
    if 0 < rest then
      return u.join (total < 0) big (some (fixed 2 (← Binary64.ofInt? rest)))
    else
      return u.join (total < 0) big none

end BigUnit

def BigUnit.extent? (u : BigUnit) (total : Binary64) : Except RangeFault Extent := do
  return ⟨total, ← u.text? (.real total)⟩

def Extent.display (u : BigUnit) (extent : Extent) : Text :=
  extent.text ++ " (" ++ extent.total.text ++ " " ++ u.smallLabel ++ ")"

def Term.text? : Term → Except Fault Text
  | typedLength l => Text.ofString <$> l.text?
  | typedNumber text => .ok (if text = [] then "0" else text)
  | operator symbol => .ok (" " ++ symbol ++ " ")
  | length l => Text.ofString <$> l.text?
  | area extent => .ok (extent.display squareFoot)
  | volume extent => .ok (extent.display cubicFoot)
  | number text => .ok text
  | keyPress _ => .error (.notTerm .keyPress)

def Expression.text? : Expression → Except Fault Text
  | [] => .ok []
  | term :: rest => do
    let first ← term.text?
    let others ← Expression.text? rest
    return first ++ others

end FeetInches
