import FeetInches.Text.Basic

namespace FeetInches

inductive Encoding where
  | units8
  | units16 (bigEndian : Bool)
  | units32 (bigEndian : Bool)
  deriving DecidableEq, Repr

namespace Encoding

/-- The encoding of a JSON text, and its bytes without the mark in front that may tell it. Where
there is no mark, the zeros among the first four bytes, or of two bytes in all, tell it. -/
def detect : List UInt8 → Encoding × List UInt8
  | 0x00 :: 0x00 :: 0xfe :: 0xff :: rest => (units32 true, rest)
  | 0xff :: 0xfe :: 0x00 :: 0x00 :: rest => (units32 false, rest)
  | 0xfe :: 0xff :: rest => (units16 true, rest)
  | 0xff :: 0xfe :: rest => (units16 false, rest)
  | 0xef :: 0xbb :: 0xbf :: rest => (units8, rest)
  | a :: b :: c :: d :: rest =>
    let bytes := a :: b :: c :: d :: rest
    if a = 0 then (if b = 0 then units32 true else units16 true, bytes)
    else if b = 0 then (if c = 0 ∧ d = 0 then units32 false else units16 false, bytes)
    else (units8, bytes)
  | [a, b] => (if a = 0 then units16 true else if b = 0 then units16 false else units8, [a, b])
  | bytes => (units8, bytes)

def following? (b : UInt8) : Option Nat :=
  if 0x80 ≤ b ∧ b < 0xc0 then some (b.toNat - 0x80) else none

def decode8 : List UInt8 → Option Text
  | [] => some []
  | a :: rest =>
    if a < 0x80 then do return .ofNat a.toNat :: (← decode8 rest)
    else if a < 0xe0 then
      match rest with
      | b :: rest => do
        let n := (a.toNat - 0xc0) * 0x40 + (← following? b)
        if n < 0x80 then none else return .ofNat n :: (← decode8 rest)
      | _ => none
    else if a < 0xf0 then
      match rest with
      | b :: c :: rest => do
        let n := ((a.toNat - 0xe0) * 0x40 + (← following? b)) * 0x40 + (← following? c)
        if n < 0x800 then none else return .ofNat n :: (← decode8 rest)
      | _ => none
    else
      match rest with
      | b :: c :: d :: rest => do
        let n := (((a.toNat - 0xf0) * 0x40 + (← following? b)) * 0x40 + (← following? c)) * 0x40 +
          (← following? d)
        if n < 0x10000 ∨ 0x110000 ≤ n then none else return .ofNat n :: (← decode8 rest)
      | _ => none

def units16? (bigEndian : Bool) : List UInt8 → Option (List Nat)
  | [] => some []
  | a :: b :: rest => do
    let n := if bigEndian then a.toNat * 0x100 + b.toNat else b.toNat * 0x100 + a.toNat
    return n :: (← units16? bigEndian rest)
  | _ => none

def joinPairs : List Nat → Text
  | [] => []
  | [n] => [.ofNat n]
  | high :: low :: rest =>
    if isHighSurrogate high && isLowSurrogate low then .ofPair high low :: joinPairs rest
    else .ofNat high :: joinPairs (low :: rest)

def decode32 (bigEndian : Bool) : List UInt8 → Option Text
  | [] => some []
  | a :: b :: c :: d :: rest => do
    let (a, b, c, d) := if bigEndian then (a, b, c, d) else (d, c, b, a)
    let n := ((a.toNat * 0x100 + b.toNat) * 0x100 + c.toNat) * 0x100 + d.toNat
    if 0x110000 ≤ n then none else return .ofNat n :: (← decode32 bigEndian rest)
  | _ => none

def decode : Encoding → List UInt8 → Option Text
  | units8, bytes => decode8 bytes
  | units16 bigEndian, bytes => joinPairs <$> units16? bigEndian bytes
  | units32 bigEndian, bytes => decode32 bigEndian bytes

end Encoding

end FeetInches
