import FeetInches.Evaluation.Quantity

namespace FeetInches

namespace Arith

def apply : Arith → Binary64 → Binary64 → Binary64
  | plus => Binary64.add
  | minus => Binary64.sub
  | times => Binary64.mul
  | dividedBy => Binary64.div

end Arith

namespace UnitRule

def lengthOf (total : Binary64) : Except Failure Term := do
  let result ← Length.ofAmount? (.real total)
  return .length result

def finite (total : Binary64) : Except Failure Binary64 := do
  let total ← (Amount.real total).finite?
  return total

def areaOf (total : Binary64) : Except Failure Term := do
  let total ← finite total
  let extent ← squareFoot.extent? total
  return .area extent

def volumeOf (total : Binary64) : Except Failure Term := do
  let total ← finite total
  let extent ← cubicFoot.extent? total
  return .volume extent

def numberOf (value : Binary64) : Except Failure Term := do
  let value ← finite value
  return .number value.text

/-- A divisor, read before the dividend. -/
def divisor (value : Except Failure Binary64) : Except Failure Binary64 := do
  let value ← value
  if value.isZero then .error (.calc .divisionByZero) else return value

def result? (left : Quantity) (op : Arith) (right : Quantity) : Option (Except Failure Term) :=
  match left, op, right with
  | .imperial a, .plus, .imperial b | .imperial a, .minus, .imperial b => some do
    let a ← a
    let b ← b
    lengthOf (op.apply a b)
  | .imperial a, .times, .imperial b => some do
    let a ← a
    let b ← b
    areaOf (a.mul b)
  | .imperial a, .dividedBy, .imperial b => some do
    let b ← divisor b
    let a ← a
    numberOf (a.div b)
  | .scalar factor, .times, .imperial a | .imperial a, .times, .scalar factor => some do
    let factor ← factor
    let a ← a
    lengthOf (factor.mul a)
  | .area total, .times, .imperial a | .imperial a, .times, .area total => some do
    let a ← a
    volumeOf (total.mul a)
  | .scalar a, .dividedBy, .scalar b => some do
    let b ← divisor b
    let a ← a
    numberOf (a.div b)
  | .scalar a, op, .scalar b => some do
    let b ← b
    let a ← a
    numberOf (op.apply a b)
  | .imperial a, .dividedBy, .scalar b => some do
    let b ← divisor b
    let a ← a
    lengthOf (a.div b)
  | _, _, _ => none

end UnitRule

def Term.combine? (left : Term) (symbol : Text) (right : Term) : Except Failure Term := do
  let leftQuantity ← left.quantity?
  let rightQuantity ← right.quantity?
  match (Arith.ofSymbol? symbol).bind (UnitRule.result? leftQuantity · rightQuantity) with
  | some result => result
  | none => .error (.calc (.unsupported leftQuantity.kind symbol rightQuantity.kind))

end FeetInches
