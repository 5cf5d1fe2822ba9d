import FeetInches.Evaluation.Outcome
import FeetInches.Proofs.Failing
/-!
The unit rules in two halves: what an operator forms of two quantities, and the term that is made
of it. The first half fails only where a quantity cannot be read, or is zero and divides.
-/

namespace FeetInches

/-- A total that a calculation forms, before it is made a term. -/
inductive Subtotal where
  | length (total : Binary64)
  | area (total : Binary64)
  | volume (total : Binary64)
  | number (value : Binary64)
  deriving DecidableEq

namespace Subtotal

def total : Subtotal → Binary64
  | length x | area x | volume x | number x => x

def term? : Subtotal → Except Failure Term
  | length total => UnitRule.lengthOf total
  | area total => UnitRule.areaOf total
  | volume total => UnitRule.volumeOf total
  | number value => UnitRule.numberOf value

end Subtotal

def Quantity.total : Quantity → Except Failure Binary64
  | imperial total | scalar total => total
  | area total | volume total => .ok total
  | operator => .ok (.zero false)

def Quantity.Fails (P : Failure → Prop) (quantity : Quantity) : Prop :=
  Settles P (fun _ => True) quantity.total

namespace UnitRule

def subtotal? : Kind → Arith → Kind → Option (Binary64 → Binary64 → Subtotal)
  | .imperial, .plus, .imperial => some fun a b => .length (a.add b)
  | .imperial, .minus, .imperial => some fun a b => .length (a.sub b)
  | .imperial, .times, .imperial => some fun a b => .area (a.mul b)
  | .imperial, .dividedBy, .imperial => some fun a b => .number (a.div b)
  | .scalar, .times, .imperial => some fun factor a => .length (factor.mul a)
  | .imperial, .times, .scalar => some fun a factor => .length (factor.mul a)
  | .area, .times, .imperial => some fun total a => .volume (total.mul a)
  | .imperial, .times, .area => some fun a total => .volume (total.mul a)
  | .scalar, op, .scalar => some fun a b => .number (op.apply a b)
  | .imperial, .dividedBy, .scalar => some fun a b => .length (a.div b)
  | _, _, _ => none

/-- The totals of two quantities. A divisor is read first, and so is a number on the right. -/
def totals (left : Quantity) (op : Arith) (right : Quantity) :
    Except Failure (Binary64 × Binary64) :=
  if op = .dividedBy then do
    let b ← divisor right.total
    let a ← left.total
    return (a, b)
  else if right.kind = .scalar then do
    let b ← right.total
    let a ← left.total
    return (a, b)
  else do
    let a ← left.total
    let b ← right.total
    return (a, b)

/-- A rule goes by the kinds of the quantities, reads their totals, and makes a term of what it
forms of them. -/
theorem result?_eq (left : Quantity) (op : Arith) (right : Quantity) :
    result? left op right = (subtotal? left.kind op right.kind).map fun form =>
      totals left op right >>= fun read => (form read.1 read.2).term? := by
  cases left <;> cases op <;> cases right <;>
    simp [result?, subtotal?, totals, Quantity.kind, Quantity.total, Subtotal.term?] <;> rfl

section Failures

variable {P : Failure → Prop}

theorem settles_divisor (zero : P (.calc .divisionByZero)) {value : Except Failure Binary64}
    (known : Settles P (fun _ => True) value) : Settles P (fun _ => True) (divisor value) := by
  apply settles_bind known
  intro x _
  split
  · exact zero
  · exact trivial

theorem settles_pair {first second : Except Failure Binary64}
    (firstKnown : Settles P (fun _ => True) first) (secondKnown : Settles P (fun _ => True) second)
    (pair : Binary64 → Binary64 → Binary64 × Binary64) :
    Settles P (fun _ => True) (do
      let x ← first
      let y ← second
      return pair x y) := by
  apply settles_bind firstKnown
  intro x _
  apply settles_bind secondKnown
  intro y _
  exact trivial

theorem settles_totals (zero : P (.calc .divisionByZero)) {left right : Quantity} (op : Arith)
    (leftKnown : left.Fails P) (rightKnown : right.Fails P) :
    Settles P (fun _ => True) (totals left op right) := by
  unfold totals
  split
  · exact settles_pair (settles_divisor zero rightKnown) leftKnown fun b a => (a, b)
  · split
    · exact settles_pair rightKnown leftKnown fun b a => (a, b)
    · exact settles_pair leftKnown rightKnown fun a b => (a, b)

end Failures

end UnitRule

theorem Term.combine?_of_quantities {left right : Term} {first second : Quantity}
    (leftQuantity : left.quantity? = .ok first) (rightQuantity : right.quantity? = .ok second)
    (symbol : Text) :
    left.combine? symbol right =
      match (Arith.ofSymbol? symbol).bind (UnitRule.result? first · second) with
      | some result => result
      | none => .error (.calc (.unsupported first.kind symbol second.kind)) := by
  unfold combine?
  rw [leftQuantity, rightQuantity]
  rfl

end FeetInches
