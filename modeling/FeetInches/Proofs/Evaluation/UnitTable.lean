import FeetInches.Proofs.Evaluation.Formation
import FeetInches.Proofs.Expression.Alternation

namespace FeetInches

/-- What can go wrong where the units agree: a zero divides, a number leaves the range or cannot be
rounded, or a text is no number. -/
inductive Failure.OfArithmetic : Failure → Prop where
  | divisionByZero : OfArithmetic (.calc .divisionByZero)
  | numberTooLarge : OfArithmetic (.calc (.invalid .numberTooLarge))
  | range (fault : RangeFault) : OfArithmetic (.fault (.range fault))
  | notReal (text : Text) : OfArithmetic (.fault (.notReal text))

abbrev Computed {α : Type} (Q : α → Prop) (x : Except Failure α) : Prop :=
  Settles Failure.OfArithmetic Q x

/-! Reading and measuring -/

theorem computed_finite (amount : Amount) :
    Computed (fun _ => True) (liftM amount.finite? : Except Failure Binary64) := by
  apply settles_mapError
  unfold Amount.finite?
  repeat' split
  · exact trivial
  · exact .numberTooLarge
  · exact .numberTooLarge

theorem computed_range {α : Type} (x : Except RangeFault α) :
    Computed (fun _ => True) (liftM x : Except Failure α) := by
  apply settles_mapError
  apply settles_mapError
  exact settles_true .range x

theorem computed_ofAmount (amount : Amount) :
    Computed (fun _ => True) (Length.ofAmount? amount) := by
  apply settles_bind (computed_finite amount)
  intro total _
  exact computed_range (Length.ofTotal? total)

theorem computed_inches (l : TypedLength) : Computed (fun _ => True) l.inches? := by
  have whole (fraction : Binary64) : Computed (fun _ => True) (do
      let whole ← (Amount.whole (l.feet * 12 + l.inches)).finite?
      return whole.add fraction : Except Failure Binary64) := by
    apply settles_bind (computed_finite _)
    intro inches _
    exact trivial
  unfold TypedLength.inches?
  split
  · exact whole _
  · apply settles_bind (computed_range _)
    intro fraction _
    exact whole fraction

theorem computed_readReal (text : Text) :
    Computed (fun _ => True) (liftM (Numeral.readReal text) : Except Failure Binary64) := by
  apply settles_mapError
  unfold Numeral.readReal
  simp only
  split
  · exact trivial
  · exact .notReal text

theorem computed_numberValue (text : Text) : Computed (fun _ => True) (numberValue? text) := by
  unfold numberValue?
  split
  · exact trivial
  · apply settles_bind (computed_readReal text)
    intro x _
    exact computed_finite _

namespace Term

/-- A result that measures what a quantity of this kind measures. -/
def IsResultOf (kind : Kind) (term : Term) : Prop := term.isResult ∧ term.kind? = .ok kind

theorem exists_kind {term : Term} (operand : term.isOperand) : ∃ kind, term.kind? = .ok kind := by
  cases term with
  | operator symbol => cases operand
  | keyPress key => cases operand
  | _ => exact ⟨_, rfl⟩

theorem exists_quantity {term : Term} {kind : Kind} (known : term.kind? = .ok kind) :
    ∃ quantity, term.quantity? = .ok quantity ∧ quantity.kind = kind ∧
      quantity.Fails Failure.OfArithmetic := by
  cases term with
  | typedLength l =>
      cases known
      exact ⟨_, rfl, rfl, computed_inches l⟩
  | typedNumber text =>
      cases known
      exact ⟨_, rfl, rfl, computed_numberValue text⟩
  | number text =>
      cases known
      exact ⟨_, rfl, rfl, computed_numberValue text⟩
  | keyPress key => cases known
  | _ =>
      cases known
      exact ⟨_, rfl, rfl, trivial⟩

theorem computed_solution {term : Term} {kind : Kind} (operand : term.isOperand)
    (known : term.kind? = .ok kind) : Computed (IsResultOf kind) term.solution? := by
  cases term with
  | typedLength l =>
      cases known
      apply settles_bind (computed_inches l)
      intro total _
      apply settles_bind (computed_ofAmount _)
      intro length _
      exact ⟨rfl, rfl⟩
  | operator symbol => cases operand
  | keyPress key => cases operand
  | _ => exact ⟨rfl, known⟩

end Term

/-! What an operator forms -/

def Subtotal.kind : Subtotal → Kind
  | length _ => .imperial
  | area _ => .area
  | volume _ => .volume
  | number _ => .scalar

theorem Subtotal.computed_term (s : Subtotal) : Computed (Term.IsResultOf s.kind) s.term? := by
  cases s with
  | length total =>
      apply settles_bind (computed_ofAmount _)
      intro length _
      exact ⟨rfl, rfl⟩
  | area total =>
      apply settles_bind (computed_finite _)
      intro total _
      apply settles_bind (computed_range _)
      intro extent _
      exact ⟨rfl, rfl⟩
  | volume total =>
      apply settles_bind (computed_finite _)
      intro total _
      apply settles_bind (computed_range _)
      intro extent _
      exact ⟨rfl, rfl⟩
  | number value =>
      apply settles_bind (computed_finite _)
      intro value _
      exact ⟨rfl, rfl⟩

namespace UnitRule

def row? : Kind → Arith → Kind → Option Kind
  | .imperial, .plus, .imperial | .imperial, .minus, .imperial => some .imperial
  | .scalar, .times, .imperial | .imperial, .times, .scalar => some .imperial
  | .imperial, .times, .imperial => some .area
  | .area, .times, .imperial | .imperial, .times, .area => some .volume
  | .scalar, _, .scalar => some .scalar
  | .imperial, .dividedBy, .imperial => some .scalar
  | .imperial, .dividedBy, .scalar => some .imperial
  | _, _, _ => none

/-- There is a rule for each row, which forms something of the kind in the row, and no other. -/
theorem kind_subtotal? (left : Kind) (op : Arith) (right : Kind) (a b : Binary64) :
    (subtotal? left op right).map (fun form => (form a b).kind) = row? left op right := by
  cases left <;> cases op <;> cases right <;> rfl

theorem computed_result {left right : Quantity} (op : Arith)
    (leftReads : left.Fails Failure.OfArithmetic) (rightReads : right.Fails Failure.OfArithmetic)
    {kind : Kind} (row : row? left.kind op right.kind = some kind) :
    ∃ result, result? left op right = some result ∧ Computed (Term.IsResultOf kind) result := by
  cases found : subtotal? left.kind op right.kind with
  | none =>
      have absent := kind_subtotal? left.kind op right.kind (.zero false) (.zero false)
      rw [found, row] at absent
      cases absent
  | some form =>
      refine ⟨_, by rw [result?_eq, found, Option.map_some], ?_⟩
      apply settles_bind (settles_totals .divisionByZero op leftReads rightReads)
      intro read _
      have same := kind_subtotal? left.kind op right.kind read.1 read.2
      rw [found, row, Option.map_some, Option.some.injEq] at same
      rw [← same]
      exact (form read.1 read.2).computed_term

theorem result?_of_no_row {left right : Quantity} {op : Arith}
    (absent : row? left.kind op right.kind = none) : result? left op right = none := by
  rw [← kind_subtotal? left.kind op right.kind (.zero false) (.zero false),
    Option.map_eq_none_iff] at absent
  rw [result?_eq, absent, Option.map_none]

end UnitRule

namespace Term

section Operands

variable {left right : Term} {leftKind rightKind : Kind} (op : Arith)
variable (leftKnown : left.kind? = .ok leftKind) (rightKnown : right.kind? = .ok rightKind)

include leftKnown rightKnown

theorem computed_combine {kind : Kind} (row : UnitRule.row? leftKind op rightKind = some kind) :
    Computed (IsResultOf kind) (left.combine? op.symbol right) := by
  obtain ⟨first, leftRead, rfl, leftReads⟩ := exists_quantity leftKnown
  obtain ⟨second, rightRead, rfl, rightReads⟩ := exists_quantity rightKnown
  obtain ⟨result, rule, computed⟩ := UnitRule.computed_result op leftReads rightReads row
  rw [combine?_of_quantities leftRead rightRead, Arith.ofSymbol?_symbol, Option.bind_some, rule]
  exact computed

theorem combine?_unsupported (absent : UnitRule.row? leftKind op rightKind = none) :
    left.combine? op.symbol right =
      .error (.calc (.unsupported leftKind op.symbol rightKind)) := by
  obtain ⟨first, leftRead, rfl, _⟩ := exists_quantity leftKnown
  obtain ⟨second, rightRead, rfl, _⟩ := exists_quantity rightKnown
  rw [combine?_of_quantities leftRead rightRead, Arith.ofSymbol?_symbol, Option.bind_some,
    UnitRule.result?_of_no_row absent]

end Operands

end Term

end FeetInches
