import FeetInches.Binary64.Arith
import FeetInches.Decimal.Scientific

namespace FeetInches.Decimal

def Scientific.nearest (s : Scientific) : Binary64 :=
  let exponent := s.exponent - s.digits.length + 1
  Binary64.nearest false (ofDigits s.digits * 10 ^ exponent.toNat * oneUnits)
    (10 ^ (-exponent).toNat)

/-- The neighbours with `count` digits of a positive count of units that read back to `x`, the
nearer one first; the even one first at a tie. -/
def readingBack (x : Binary64) (count : Nat) : List Scientific :=
  let exponent := leadingExponent x.magnitude oneUnits
  let (n, d) := scaled x.magnitude oneUnits (exponent - count + 1)
  let below : Scientific := ⟨digits (n / d), exponent⟩
  let above : Scientific :=
    if n / d + 1 = 10 ^ count then ⟨digits (10 ^ (count - 1)), exponent + 1⟩
    else ⟨digits (n / d + 1), exponent⟩
  let nearer := if roundHalfEven n d = n / d then [below, above] else [above, below]
  nearer.filter (·.nearest = x.abs)

/-- Seventeen digits always read back. -/
def shortestDigits (x : Binary64) : Scientific :=
  ((List.range 17).findSome? fun i => (readingBack x (i + 1)).head?).getD
    (significant 17 x.magnitude oneUnits)

/-- Positional from `10 ^ (-4)` up to `10 ^ 16`, always with a point there. -/
def shortest (x : Binary64) : String :=
  laidOut ⟨-4, 16, true⟩ (fun _ => shortestDigits x) x

end FeetInches.Decimal
