import FeetInches.Proofs.Evaluation.Subtotals
import FeetInches.Proofs.Evaluation.UnitTable

namespace FeetInches

/-- The failure of an operator with its operands the other way round. -/
def Failure.turned : Failure → Failure
  | .calc (.unsupported left symbol right) => .calc (.unsupported right symbol left)
  | failure => failure

theorem Failure.OfArithmetic.turned_eq {failure : Failure} (ofArithmetic : failure.OfArithmetic) :
    failure.turned = failure := by
  cases ofArithmetic <;> rfl

theorem Computed.mapError_turned {α : Type} {Q : α → Prop} {x : Except Failure α}
    (computed : Computed Q x) : x.mapError Failure.turned = x := by
  cases x with
  | error failure => exact congrArg Except.error (Failure.OfArithmetic.turned_eq computed)
  | ok value => rfl

namespace UnitRule

theorem subtotal?_times_comm (left right : Kind) :
    subtotal? right .times left = (subtotal? left .times right).map flip := by
  have area : (fun a b : Binary64 => Subtotal.area (a.mul b)) = flip fun a b => .area (a.mul b) :=
    funext₂ fun a b => congrArg Subtotal.area (Binary64.mul_comm a b)
  have number : (fun a b : Binary64 => Subtotal.number (a.mul b)) =
      flip fun a b => .number (a.mul b) :=
    funext₂ fun a b => congrArg Subtotal.number (Binary64.mul_comm a b)
  cases left <;> cases right <;> first
    | rfl
    | exact congrArg some area
    | exact congrArg some number

theorem result?_times_comm {left right : Quantity} {a b : Binary64}
    (leftRead : left.total = finite a) (rightRead : right.total = finite b) :
    result? right .times left = result? left .times right := by
  rw [result?_eq, result?_eq, totals_eq .times leftRead rightRead,
    totals_eq .times rightRead leftRead, subtotal?_times_comm left.kind right.kind,
    Bool.and_comm b.isFinite, Option.map_map]
  congr 1
  funext form
  cases a.isFinite && b.isFinite <;> rfl

theorem computed_of_result? {left right : Quantity} {op : Arith} {result : Except Failure Term}
    (leftReads : left.Fails Failure.OfArithmetic) (rightReads : right.Fails Failure.OfArithmetic)
    (rule : result? left op right = some result) : Computed (fun _ => True) result := by
  cases row : row? left.kind op right.kind with
  | none => cases (result?_of_no_row row).symm.trans rule
  | some kind =>
      obtain ⟨other, found, computed⟩ := computed_result op leftReads rightReads row
      obtain rfl : other = result := Option.some.inj (found.symm.trans rule)
      exact settles_mono computed (fun _ failure => failure) fun _ _ => trivial

end UnitRule

theorem Quantity.failsOfArithmetic {quantity : Quantity} {x : Binary64}
    (read : quantity.total = UnitRule.finite x) : quantity.Fails Failure.OfArithmetic := by
  rw [Fails, read, UnitRule.finite_eq]
  split
  · exact trivial
  · exact .numberTooLarge

namespace Term

/-- What a calculation meets: what it is given, and what operators make of it on the way. -/
inductive Occurs : Term → Prop where
  | given {term : Term} (usable : term.Usable) : Occurs term
  | combined {left right value : Term} {symbol : Text} (leftOccurs : Occurs left)
      (rightOccurs : Occurs right) (combined : left.combine? symbol right = .ok value) :
      Occurs value

theorem Occurs.legible {term : Term} (occurs : term.Occurs) : term.Legible := by
  induction occurs with
  | given usable => exact usable.legible
  | combined _ _ combined leftLegible rightLegible =>
      exact (answers_combine leftLegible rightLegible _).value _ combined

/-- A product is the same term in either order, or fails alike; an error that names the kinds names
them in the other order. -/
theorem combine?_times_comm {left right : Term} (leftOccurs : left.Occurs)
    (rightOccurs : right.Occurs) :
    right.combine? Arith.times.symbol left =
      (left.combine? Arith.times.symbol right).mapError Failure.turned := by
  obtain ⟨first, leftRead, _, leftTotal⟩ := leftOccurs.legible.reads
  obtain ⟨second, rightRead, _, rightTotal⟩ := rightOccurs.legible.reads
  have same := UnitRule.result?_times_comm leftTotal rightTotal
  rw [combine?_of_quantities leftRead rightRead, combine?_of_quantities rightRead leftRead,
    Arith.ofSymbol?_symbol, Option.bind_some, Option.bind_some, same]
  cases rule : UnitRule.result? first .times second with
  | none => rfl
  | some result =>
      have computed :=
        UnitRule.computed_of_result? (Quantity.failsOfArithmetic leftTotal)
          (Quantity.failsOfArithmetic rightTotal) rule
      exact computed.mapError_turned.symm

/-- The area of `1ft x 2ft` times `3ft`, and times a number, in either order. -/
theorem box_either_way :
    let foot (n : Int) : Term := .typedLength { feet := n }
    let area : Term := .area ⟨.ofNat 288, "2 sq.ft"⟩
    let half : Term := .typedNumber ".5"
    area.Occurs ∧ (foot 3).Occurs ∧ half.Occurs ∧
      area.combine? Arith.times.symbol (foot 3) = .ok (.volume ⟨.ofNat 10368, "6 cu.ft"⟩) ∧
      (foot 3).combine? Arith.times.symbol area = .ok (.volume ⟨.ofNat 10368, "6 cu.ft"⟩) ∧
      half.combine? Arith.times.symbol area =
        .error (.calc (.unsupported .scalar Arith.times.symbol .area)) ∧
      area.combine? Arith.times.symbol half =
        .error (.calc (.unsupported .area Arith.times.symbol .scalar)) := by
  intro foot area half
  have typed (n : Int) (nonneg : 0 ≤ n) : (foot n).Occurs :=
    .given (.typed ⟨nonneg, Int.le_refl 0, Or.inl ⟨rfl, rfl⟩⟩ rfl)
  have number : half.Occurs := .given (.typed ⟨by decide, by decide, by decide⟩ rfl)
  have rectangle : area.Occurs :=
    .combined (typed 1 (by decide)) (typed 2 (by decide))
      (show (foot 1).combine? Arith.times.symbol (foot 2) = .ok area by decide +kernel)
  have box : area.combine? Arith.times.symbol (foot 3) =
      .ok (.volume ⟨.ofNat 10368, "6 cu.ft"⟩) := by decide +kernel
  have turned : half.combine? Arith.times.symbol area =
      .error (.calc (.unsupported .scalar Arith.times.symbol .area)) := by decide +kernel
  refine ⟨rectangle, typed 3 (by decide), number, box, ?_, turned, ?_⟩
  · rw [combine?_times_comm rectangle (typed 3 (by decide)), box]
    rfl
  · rw [combine?_times_comm number rectangle, turned]
    rfl

end Term

end FeetInches
