import FeetInches.Proofs.Evaluation.Chaining
import FeetInches.Proofs.Measure.Range
import FeetInches.Proofs.Numeral.Readable

namespace FeetInches

open Binary64

/-- A number's text shows a number, and a result has a finite total and a form that can be
written. -/
def Term.Legible : Term → Prop
  | typedLength l => l.Tidy
  | typedNumber text | number text => text = "." ∨ Readable text
  | length l => l.total.isFinite ∧ ∃ text, l.text? = .ok text
  | area extent | volume extent => extent.total.isFinite
  | operator _ => True
  | keyPress _ => False

theorem Term.legible_of_tidy {term : Term} (tidy : term.Tidy) : term.Legible := by
  cases term with
  | typedLength l => exact tidy
  | typedNumber text => exact tidy.readable
  | operator symbol => exact trivial
  | _ => cases tidy

/-! Magnitudes -/

def Binary64.unbounded (x : Except RangeFault Binary64) : Binary64 :=
  x.toOption.getD (.infinite false)

def TypedLength.magnitude (l : TypedLength) : Binary64 :=
  (unbounded (ofInt? (l.feet * 12 + l.inches))).add
    (unbounded (quotient? l.numerator l.denominator))

def Text.magnitude (text : Text) : Binary64 :=
  if text = [] ∨ text = "." then .zero false else (Numeral.readReal text).toOption.getD .nan

def Term.magnitude : Term → Binary64
  | typedLength l => l.magnitude
  | typedNumber text | number text => Text.magnitude text
  | length l => l.total
  | area extent | volume extent => extent.total
  | operator _ | keyPress _ => .zero false

/-! Reading -/

theorem UnitRule.finite_eq (total : Binary64) :
    UnitRule.finite total =
      if total.isFinite then .ok total else .error (.calc (.invalid .numberTooLarge)) := by
  have read : (Amount.real total).finite? =
      if total.isFinite then .ok total else .error (.invalid .numberTooLarge) := rfl
  rw [UnitRule.finite, read]
  split <;> rfl

theorem TypedLength.Tidy.fraction_range {l : TypedLength} (tidy : l.Tidy) :
    l.denominator ∈ keyDenominators ∧ 0 ≤ l.numerator ∧ l.numerator < l.denominator := by
  rcases tidy.fraction with ⟨absent, sixteen⟩ | ⟨known, positive, less⟩
  · rw [absent, sixteen]
    decide
  · exact ⟨known, Int.le_of_lt positive, less⟩

theorem Binary64.isFinite_add {x y : Binary64} (other : x.isFinite = false) :
    (x.add y).isFinite = false := by
  cases x with
  | nan => rfl
  | finite => cases other
  | infinite a =>
      cases y with
      | nan => rfl
      | finite => rfl
      | infinite b => cases a <;> cases b <;> rfl

theorem Binary64.isFinite_add_fraction {whole fraction : Binary64} {f : Nat}
    (known : whole.isFinite) (counts : Counts fraction f) (small : f ≤ oneUnits) :
    (whole.add fraction).isFinite := by
  have total := Counts.of_isFinite known
  have held := total.le_greatest
  have room : 2 * oneUnits < topStep := by
    have exponent : oneExponent + 2 ≤ 2045 := by
      rw [oneExponent_eq]
      decide
    have power := two_pow_le_topStep exponent
    have positive := oneUnits_pos
    rw [Nat.pow_add, ← oneUnits_eq] at power
    omega
  have range : rounded (whole.units + f).natAbs 1 ≤ greatestUnits := by
    apply rounded_in_range Nat.one_pos
    omega
  obtain ⟨negativeZero, same⟩ := add_eq_ofUnits total counts
  rw [same]
  exact (counts_ofUnits range negativeZero).1

theorem TypedLength.exists_fraction {l : TypedLength} (tidy : l.Tidy) :
    ∃ (fraction : Binary64) (f : Nat), quotient? l.numerator l.denominator = .ok fraction ∧
      Counts fraction f ∧ f ≤ oneUnits := by
  obtain ⟨member, nonnegative, less⟩ := tidy.fraction_range
  obtain ⟨n, numerator⟩ := Int.eq_ofNat_of_zero_le nonnegative
  obtain ⟨d, known, denominator⟩ := exists_keyDenominator member
  obtain ⟨c, divides, _, positive, _⟩ := exists_thirtySeconds known
  have le : n ≤ d := by omega
  obtain ⟨x, made, counts⟩ := counts_quotient divides positive le
  rw [numerator, denominator]
  refine ⟨x, _, made, counts, ?_⟩
  rw [oneUnits_eq_mul, ← divides, Nat.mul_comm c]
  exact Nat.mul_le_mul_right _ (Nat.mul_le_mul_right c le)

theorem TypedLength.inches?_eq {l : TypedLength} (tidy : l.Tidy) :
    l.inches? = UnitRule.finite l.magnitude := by
  obtain ⟨fraction, f, made, counts, small⟩ := exists_fraction tidy
  have nonzero : ¬ l.denominator = 0 := by
    obtain ⟨d, known, same⟩ := exists_keyDenominator tidy.fraction_range.1
    obtain ⟨_, _, _, positive, _⟩ := exists_thirtySeconds known
    omega
  have read : (Amount.whole (l.feet * 12 + l.inches)).toReal? = ofInt? (l.feet * 12 + l.inches) :=
    rfl
  rw [inches?, if_neg nonzero, magnitude, made, UnitRule.finite_eq, Amount.finite?, read]
  cases whole : ofInt? (l.feet * 12 + l.inches) with
  | error fault =>
      have beyond : ((unbounded (.error fault)).add (unbounded (.ok fraction))).isFinite = false :=
        isFinite_add rfl
      rw [beyond]
      rfl
  | ok x =>
      cases known : x.isFinite with
      | false =>
          have beyond : ((unbounded (.ok x)).add (unbounded (.ok fraction))).isFinite = false :=
            isFinite_add known
          simp only [known, beyond]
          rfl
      | true =>
          have within : ((unbounded (.ok x)).add (unbounded (.ok fraction))).isFinite :=
            isFinite_add_fraction known counts small
          simp only [known, within]
          rfl

theorem numberValue?_eq {text : Text} (legible : text = "." ∨ Readable text) :
    numberValue? text = UnitRule.finite (Text.magnitude text) := by
  unfold numberValue? Text.magnitude
  split
  · rfl
  · rename_i digits
    have readable := legible.resolve_left fun point => digits (Or.inr point)
    obtain ⟨x, read⟩ := readable.readReal
    rw [read]
    rfl

theorem Term.Legible.reads {term : Term} (legible : term.Legible) :
    ∃ quantity, term.quantity? = .ok quantity ∧ term.kind? = .ok quantity.kind ∧
      quantity.total = UnitRule.finite term.magnitude := by
  have held {x : Binary64} (known : x.isFinite) : UnitRule.finite x = .ok x := by
    rw [UnitRule.finite_eq, if_pos known]
  cases term with
  | typedLength l => exact ⟨_, rfl, rfl, TypedLength.inches?_eq legible⟩
  | typedNumber text => exact ⟨_, rfl, rfl, numberValue?_eq legible⟩
  | number text => exact ⟨_, rfl, rfl, numberValue?_eq legible⟩
  | length l => exact ⟨_, rfl, rfl, (held legible.1).symm⟩
  | area extent => exact ⟨_, rfl, rfl, (held legible).symm⟩
  | volume extent => exact ⟨_, rfl, rfl, (held legible).symm⟩
  | operator symbol => exact ⟨_, rfl, rfl, rfl⟩
  | keyPress key => cases legible

/-! Forming -/

namespace Subtotal

def IsGreatest (s : Subtotal) : Prop :=
  (∀ value, s ≠ number value) ∧ s.total.abs = Binary64.greatest

end Subtotal

theorem Binary64.isFinite_of_abs_greatest {x : Binary64} (top : x.abs = greatest) : x.isFinite := by
  rcases finite_of_abs_greatest top with rfl | rfl <;> rfl

namespace Subtotal

def shown? : Subtotal → Except Failure Term
  | length total => do return .length (← Length.ofTotal? total)
  | area total => do return .area (← squareFoot.extent? total)
  | volume total => do return .volume (← cubicFoot.extent? total)
  | number value => .ok (.number value.text)

theorem term?_eq (s : Subtotal) :
    s.term? =
      if s.total.isFinite then s.shown? else .error (.calc (.invalid .numberTooLarge)) := by
  have read : (Amount.real s.total).finite? =
      if s.total.isFinite then .ok s.total else .error (.invalid .numberTooLarge) := rfl
  cases known : s.total.isFinite <;> rw [known] at read <;> cases s <;>
    simp only [term?, UnitRule.lengthOf, UnitRule.areaOf, UnitRule.volumeOf, UnitRule.numberOf,
      UnitRule.finite, Length.ofAmount?, total] at read ⊢ <;>
    rw [read] <;> rfl

variable {s : Subtotal}

theorem shown?_of_isGreatest (greatest : s.IsGreatest) :
    s.shown? = .error (.fault (.range .integerTooLarge)) := by
  obtain ⟨measure, top⟩ := greatest
  cases s with
  | length x =>
      rw [shown?, Length.ofTotal?_greatest (x := x) top]
      rfl
  | area x =>
      rw [shown?, squareFoot_greatest (x := x) top]
      rfl
  | volume x =>
      rw [shown?, cubicFoot_greatest (x := x) top]
      rfl
  | number x => exact absurd rfl (measure x)

theorem exists_shown? (known : s.total.isFinite) (other : ¬ s.IsGreatest) :
    ∃ term, s.shown? = .ok term ∧ term.Legible := by
  have below (measure : ∀ value, s ≠ number value) : s.total.abs ≠ Binary64.greatest :=
    fun top => other ⟨measure, top⟩
  cases s with
  | length x =>
      obtain ⟨length, formed, written⟩ := Length.exists_ofTotal? (x := x) known (below (by simp))
      have finite : length.total.isFinite := by
        rw [Length.total_of_ofTotal? formed]
        exact known
      exact ⟨.length length, by rw [shown?, formed]; rfl, finite, written⟩
  | area x =>
      obtain ⟨text, formed⟩ :=
        squareFoot.exists_extent? (x := x) (by decide) (by decide) known (below (by simp))
      exact ⟨.area ⟨x, text⟩, by rw [shown?, formed]; rfl, known⟩
  | volume x =>
      obtain ⟨text, formed⟩ :=
        cubicFoot.exists_extent? (x := x) (by decide) (by decide) known (below (by simp))
      exact ⟨.volume ⟨x, text⟩, by rw [shown?, formed]; rfl, known⟩
  | number x => exact ⟨.number x.text, rfl, Or.inr (readable_text known)⟩

end Subtotal

end FeetInches
