import FeetInches.Binary64.Basic
/-!
Arithmetic on 64-bit floating-point numbers. Each operation forms the exact result in units and
rounds it once. Whole numbers enter through `ofInt?` and `quotient?`, which report a result past
the greatest finite number, and leave through `floor?`, `nearestInt?` and `truncate?`.
-/

namespace FeetInches

inductive RangeFault where
  | integerTooLarge
  | quotientTooLarge
  | notANumber
  | infinity
  deriving DecidableEq, Repr

namespace Binary64

/-- The number nearest to a signed count of units; `negativeZero` is the sign of a zero. -/
def ofUnits (units : Int) (negativeZero : Bool) : Binary64 :=
  if units = 0 then zero negativeZero else nearest (units < 0) units.natAbs 1

def neg : Binary64 → Binary64
  | .nan => .nan
  | .infinite negative => .infinite !negative
  | .finite negative mantissa exponent canonical =>
    .finite (!negative) mantissa exponent canonical

def abs : Binary64 → Binary64
  | .nan => .nan
  | .infinite _ => .infinite false
  | .finite _ mantissa exponent canonical => .finite false mantissa exponent canonical

/-- A sum that cancels is the positive zero, unless both terms are negative zeros. -/
def add : Binary64 → Binary64 → Binary64
  | .nan, _ | _, .nan => .nan
  | .infinite a, .infinite b => if a = b then .infinite a else .nan
  | .infinite a, .finite .. => .infinite a
  | .finite .., .infinite b => .infinite b
  | .finite s m e c, .finite t n f d =>
    ofUnits ((finite s m e c).units + (finite t n f d).units) (s && t)

def sub (x y : Binary64) : Binary64 := add x y.neg

def mul : Binary64 → Binary64 → Binary64
  | .nan, _ | _, .nan => .nan
  | .infinite a, .infinite b => .infinite (a != b)
  | .infinite a, .finite t n _ _ => if n = 0 then .nan else .infinite (a != t)
  | .finite s m _ _, .infinite b => if m = 0 then .nan else .infinite (s != b)
  | .finite s m e _, .finite t n f _ => nearest (s != t) (m * 2 ^ e * (n * 2 ^ f)) oneUnits

def div : Binary64 → Binary64 → Binary64
  | .nan, _ | _, .nan => .nan
  | .infinite _, .infinite _ => .nan
  | .infinite a, .finite t _ _ _ => .infinite (a != t)
  | .finite s _ _ _, .infinite b => zero (s != b)
  | .finite s m e _, .finite t n f _ =>
    if n = 0 then (if m = 0 then .nan else .infinite (s != t))
    else nearest (s != t) (m * 2 ^ e * oneUnits) (n * 2 ^ f)

def bounded? (fault : RangeFault) : Binary64 → Except RangeFault Binary64
  | .infinite _ => .error fault
  | x => .ok x

def ofInt? (n : Int) : Except RangeFault Binary64 :=
  (ofUnits (n * oneUnits) false).bounded? .integerTooLarge

/-- The number nearest to the quotient of two whole numbers, the second not zero. A zero quotient
keeps the sign that the operands give it. -/
def quotient? (n d : Int) : Except RangeFault Binary64 :=
  (nearest ((n < 0) != (d < 0)) (n.natAbs * oneUnits) d.natAbs).bounded? .quotientTooLarge

def finiteUnits? : Binary64 → Except RangeFault Int
  | .nan => .error .notANumber
  | .infinite _ => .error .infinity
  | x => .ok x.units

def floor? (x : Binary64) : Except RangeFault Int :=
  (· / (oneUnits : Int)) <$> x.finiteUnits?

def nearestInt? (x : Binary64) : Except RangeFault Int := do
  let units ← x.finiteUnits?
  let rounded := (roundHalfEven units.natAbs oneUnits : Int)
  return if units < 0 then -rounded else rounded

def truncate? (x : Binary64) : Except RangeFault Int :=
  (Int.tdiv · oneUnits) <$> x.finiteUnits?

def isWhole (x : Binary64) : Bool :=
  x.isFinite && x.units % (oneUnits : Int) == 0

end Binary64

end FeetInches
