import FeetInches.Binary64.Basic
import FeetInches.Decimal.Digits

namespace FeetInches.Decimal

def nonFiniteText? : Binary64 → Option String
  | .nan => some "nan"
  | .infinite negative => some (if negative then "-inf" else "inf")
  | .finite .. => none

def pointed (places count : Nat) : String :=
  let whole := natText (count / 10 ^ places)
  let part := digits (count % 10 ^ places)
  whole ++ "." ++ digitText (List.replicate (places - part.length) 0 ++ part)

def fixed (places : Nat) (x : Binary64) : String :=
  match nonFiniteText? x with
  | some text => text
  | none =>
    (if x.isNegative then "-" else "") ++
      pointed places (roundHalfEven (x.magnitude * 10 ^ places) oneUnits)

end FeetInches.Decimal
