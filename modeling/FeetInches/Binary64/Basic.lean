/-!
Binary floating-point numbers of 64 bits. A finite number is a whole multiple of the least
positive one, `2 ^ (-1074)`; that multiple is its count of units. Every rounding goes through
`nearest`, which takes an exact quotient of units to the nearest number, a tie to the even
mantissa.
-/

namespace FeetInches

-- Powers of numbers are those of the core library, also where a library with monoids is imported.
attribute [instance(high)] instPowNat instNatPowNat Int.instNatPow
attribute [default_instance(20000)] instPowNat

/-- The units in one: `1 = oneUnits * 2 ^ (-1074)`. -/
@[irreducible] def oneUnits : Nat := 2 ^ 1074

/-- A mantissa has 53 bits, fewer only at the least exponent, so each number has one form. -/
def Canonical (mantissa exponent : Nat) : Prop :=
  mantissa < 2 ^ 53 ∧ (exponent = 0 ∨ 2 ^ 52 ≤ mantissa) ∧ exponent ≤ 2045

instance (mantissa exponent : Nat) : Decidable (Canonical mantissa exponent) := by
  unfold Canonical
  infer_instance

/-- `finite negative m e` stands for `m * 2 ^ e` units, with the sign kept at zero too. -/
inductive Binary64 where
  | nan
  | infinite (negative : Bool)
  | finite (negative : Bool) (mantissa exponent : Nat) (canonical : Canonical mantissa exponent)
  deriving DecidableEq

def roundHalfEven (numerator denominator : Nat) : Nat :=
  let quotient := numerator / denominator
  let remainder := numerator % denominator
  if 2 * remainder < denominator then quotient
  else if denominator < 2 * remainder then quotient + 1
  else quotient + quotient % 2

namespace Binary64

def zero (negative : Bool) : Binary64 :=
  .finite negative 0 0 (by decide)

/-- The number nearest to `numerator / denominator` units. A mantissa that rounds up to 54 bits
moves to the next exponent, and past the last exponent the result is infinite. -/
def nearest (negative : Bool) (numerator denominator : Nat) : Binary64 :=
  let exponent := (numerator / denominator).log2 - 52
  let mantissa := roundHalfEven numerator (denominator * 2 ^ exponent)
  if fits : Canonical mantissa exponent then
    .finite negative mantissa exponent fits
  else if carries : Canonical (2 ^ 52) (exponent + 1) then
    .finite negative (2 ^ 52) (exponent + 1) carries
  else
    .infinite negative

def units : Binary64 → Int
  | .finite negative mantissa exponent _ =>
    if negative then -((mantissa * 2 ^ exponent : Nat) : Int)
    else ((mantissa * 2 ^ exponent : Nat) : Int)
  | _ => 0

def magnitude (x : Binary64) : Nat := x.units.natAbs

def isFinite : Binary64 → Bool
  | .finite .. => true
  | _ => false

def isNegative : Binary64 → Bool
  | .nan => false
  | .infinite negative => negative
  | .finite negative _ _ _ => negative

/-- Sign, biased exponent and fraction packed into 64 bits; the quiet form for what is not a
number. -/
def toBits : Binary64 → Nat
  | .nan => 0x7ff8000000000000
  | .infinite negative => (if negative then 2 ^ 63 else 0) + 0x7ff0000000000000
  | .finite negative mantissa exponent _ =>
    (if negative then 2 ^ 63 else 0) + exponent * 2 ^ 52 + mantissa

/-- `x < y`; nothing compares with what is not a number. -/
def lt : Binary64 → Binary64 → Bool
  | .nan, _ | _, .nan => false
  | .infinite a, .infinite b => a && !b
  | .infinite a, .finite .. => a
  | .finite .., .infinite b => !b
  | .finite s m e c, .finite t n f d =>
    decide ((finite s m e c).units < (finite t n f d).units)

def eq (x y : Binary64) : Bool :=
  match x, y with
  | .nan, _ | _, .nan => false
  | _, _ => !lt x y && !lt y x

def le (x y : Binary64) : Bool := lt x y || eq x y

def isZero : Binary64 → Bool
  | .finite _ 0 _ _ => true
  | _ => false

end Binary64

end FeetInches
