import FeetInches.Proofs.Evaluation.Chaining
import FeetInches.Proofs.Measure.NearestForm
import Mathlib.Data.Sign.Basic
/-!
Sums and differences of typed lengths. Every length that can be typed is a whole number of
thirty-seconds of an inch, and so is every sum of them. Below `2 ^ 48` inches such a number can be
held, so nothing is rounded: neither the sum nor its form in feet, inches and a fraction.
-/

namespace FeetInches

open Binary64

namespace TypedLength

structure Proper (l : TypedLength) : Prop where
  feet_nonneg : 0 ≤ l.feet
  inches_nonneg : 0 ≤ l.inches
  denominator_mem : l.denominator ∈ keyDenominators
  numerator_nonneg : 0 ≤ l.numerator
  numerator_lt : l.numerator < l.denominator

def value (l : TypedLength) : ℚ := 12 * l.feet + l.inches + l.numerator / l.denominator

end TypedLength

def Grammar.Loose.apply : Loose → ℚ → ℚ → ℚ
  | plus, a, b => a + b
  | minus, a, b => a - b

/-- Typed lengths with `+` and `-` between them, and their exact sum. Each length, and each sum on
the way, is smaller than the limit. -/
inductive Expression.SumsTo (limit : ℚ) : Expression → ℚ → Prop where
  | operand {l : TypedLength} (proper : l.Proper) (small : |l.value| < limit) :
      SumsTo limit [.typedLength l] l.value
  | step {terms : Expression} {sum : ℚ} {l : TypedLength} (before : SumsTo limit terms sum)
      (op : Grammar.Loose) (proper : l.Proper) (small : |l.value| < limit)
      (next : |op.apply sum l.value| < limit) :
      SumsTo limit (terms ++ [.operator op.arith.symbol, .typedLength l]) (op.apply sum l.value)

/-! Lengths in thirty-seconds -/

theorem counts_thirtySeconds_lt {t : Int} {s : ℚ} (same : (t : ℚ) = 32 * s)
    (small : |s| < 2 ^ 48) : t.natAbs < 2 ^ 53 := by
  have bounds := abs_lt.mp small
  have upper : (t : ℚ) < (2 ^ 53 : Int) := by
    push_cast
    linarith
  have lower : ((-2 ^ 53 : Int) : ℚ) < t := by
    push_cast
    linarith
  have less := Int.cast_lt.mp upper
  have more := Int.cast_lt.mp lower
  omega

theorem natAbs_thirtySeconds (t : Int) :
    (t * thirtySecondUnits).natAbs = t.natAbs * thirtySecondUnits := by
  rw [Int.natAbs_mul, Int.natAbs_natCast]

namespace TypedLength

theorem inches?_exact {l : TypedLength} (proper : l.Proper) (small : |l.value| < 2 ^ 48) :
    ∃ (t : Int) (x : Binary64), (t : ℚ) = 32 * l.value ∧ l.inches? = .ok x ∧
      Counts x (t * thirtySecondUnits) := by
  obtain ⟨m, whole⟩ := Int.eq_ofNat_of_zero_le
    (show 0 ≤ l.feet * 12 + l.inches by have := proper.1; have := proper.2; omega)
  obtain ⟨n, numerator⟩ := Int.eq_ofNat_of_zero_le proper.numerator_nonneg
  obtain ⟨d, known, denominator⟩ := exists_keyDenominator proper.denominator_mem
  obtain ⟨c, divides, _, positive, _⟩ := exists_thirtySeconds known
  have less : n < d := by
    have := proper.numerator_lt
    omega
  have exact : ((32 * m + n * c : Nat) : ℚ) = 32 * l.value := by
    have wholeCast : ((l.feet * 12 + l.inches : Int) : ℚ) = (m : ℚ) := by
      rw [whole]
      rfl
    have dividesCast : (c : ℚ) * d = 32 := by exact_mod_cast divides
    have nonzero : (d : ℚ) ≠ 0 := by exact_mod_cast Nat.ne_of_gt positive
    have part : (n : ℚ) / d = n * c / 32 := by
      rw [div_eq_div_iff nonzero (by norm_num), mul_assoc, dividesCast]
    rw [value, numerator, denominator, Int.cast_natCast, Int.cast_natCast, part]
    push_cast at wholeCast ⊢
    linarith
  have bound : 32 * m + n * c < 2 ^ 53 := counts_thirtySeconds_lt exact small
  obtain ⟨fraction, made, fractionCounts⟩ := counts_quotient divides positive (Nat.le_of_lt less)
  have fewer : m < 2 ^ 53 := by omega
  obtain ⟨inches, read, inchesCounts⟩ := ofInt?_exact (n := m)
    (by rw [natAbs_whole]; exact representable_whole fewer)
  have sum : (m : Int) * oneUnits + (n * c * thirtySecondUnits : Nat) =
      ((32 * m + n * c : Nat) : Int) * thirtySecondUnits := by
    rw [oneUnits_eq_mul]
    push_cast
    ring
  have total := inchesCounts.add fractionCounts
    (by rw [sum, natAbs_thirtySeconds]; exact representable_thirtySeconds bound)
  rw [sum] at total
  refine ⟨_, inches.add fraction, exact, ?_, total⟩
  have nonzero : ¬ l.denominator = 0 := by omega
  have finite : (Amount.whole m).finite? = .ok inches :=
    Amount.finite?_eq_ok read inchesCounts.1
  rw [inches?, if_neg nonzero, whole, numerator, denominator]
  have joined : (do
      let whole ← (Amount.whole m).finite?
      return whole.add fraction : Except Failure Binary64) = .ok (inches.add fraction) := by
    rw [finite]
    rfl
  exact bind_eq_ok.mpr ⟨fraction, by rw [made]; rfl, joined⟩

end TypedLength

/-! The value of a sum -/

/-- A length of `t` thirty-seconds, with nothing rounded. -/
def Length.Exact (l : Length) (t : Int) : Prop :=
  Counts l.total (t * thirtySecondUnits) ∧ l.Shows t.natAbs

theorem exact_ofAmount? {total : Binary64} {t : Int} (counts : Counts total (t * thirtySecondUnits))
    (small : t.natAbs < 2 ^ 53) :
    ∃ length, Length.ofAmount? (.real total) = .ok length ∧ length.Exact t := by
  have range : (t * thirtySecondUnits).natAbs ≤ 2 ^ 53 * oneUnits := by
    rw [natAbs_thirtySeconds, oneUnits_eq_mul]
    apply Nat.mul_le_mul (Nat.le_of_lt small)
    omega
  obtain ⟨length, formed, kept, shows⟩ := Length.shows_ofTotal? counts range
  rw [natAbs_thirtySeconds, Nat.mul_comm, roundHalfEven_exact thirtySecondUnits_pos] at shows
  refine ⟨length, Length.ofAmount?_eq_ok counts.1 formed, ?_, shows⟩
  rwa [kept]

def Term.Measures (term : Term) (t : Int) : Prop :=
  ∃ length, term.solution? = .ok (.length length) ∧ length.Exact t

theorem Term.Measures.quantity {term : Term} {t : Int} (measures : term.Measures t) :
    ∃ x, term.quantity? = .ok (.imperial (.ok x)) ∧ Counts x (t * thirtySecondUnits) := by
  obtain ⟨length, solved, counts, _⟩ := measures
  exact ⟨length.total, (quantity_of_solution solved).symm, counts⟩

theorem measures_typedLength {l : TypedLength} (proper : l.Proper) (small : |l.value| < 2 ^ 48) :
    ∃ t : Int, (t : ℚ) = 32 * l.value ∧ (Term.typedLength l).Measures t := by
  obtain ⟨t, x, same, read, counts⟩ := TypedLength.inches?_exact proper small
  have bound := counts_thirtySeconds_lt same small
  obtain ⟨length, formed, exact⟩ := exact_ofAmount? counts bound
  refine ⟨t, same, length, ?_, exact⟩
  exact bind_eq_ok.mpr ⟨x, read, bind_eq_ok.mpr ⟨length, formed, rfl⟩⟩

def Grammar.Loose.combine : Loose → Int → Int → Int
  | plus, a, b => a + b
  | minus, a, b => a - b

theorem Term.combine?_eq {left right : Term} {first second : Quantity} {op : Arith}
    {result : Except Failure Term} (leftQuantity : left.quantity? = .ok first)
    (rightQuantity : right.quantity? = .ok second)
    (rule : UnitRule.result? first op second = some result) :
    left.combine? op.symbol right = result := by
  rw [combine?_of_quantities leftQuantity rightQuantity, Arith.ofSymbol?_symbol, Option.bind_some,
    rule]

theorem Term.combine?_measures {left right : Term} {a b : Int} (op : Grammar.Loose)
    (first : left.Measures a) (second : right.Measures b)
    (small : (op.combine a b).natAbs < 2 ^ 53) :
    ∃ value, left.combine? op.arith.symbol right = .ok value ∧ value.Measures (op.combine a b) := by
  obtain ⟨x, leftQuantity, leftCounts⟩ := first.quantity
  obtain ⟨y, rightQuantity, rightCounts⟩ := second.quantity
  have counts : Counts (op.arith.apply x y) (op.combine a b * thirtySecondUnits) := by
    cases op with
    | plus =>
        have held : Representable (a * thirtySecondUnits + b * thirtySecondUnits).natAbs := by
          rw [← Int.add_mul, natAbs_thirtySeconds]
          exact representable_thirtySeconds small
        have sum := leftCounts.add rightCounts held
        rwa [← Int.add_mul] at sum
    | minus =>
        have held : Representable (a * thirtySecondUnits - b * thirtySecondUnits).natAbs := by
          rw [← Int.sub_mul, natAbs_thirtySeconds]
          exact representable_thirtySeconds small
        have difference := leftCounts.sub rightCounts held
        rwa [← Int.sub_mul] at difference
  obtain ⟨length, formed, exact⟩ := exact_ofAmount? counts small
  refine ⟨.length length, ?_, length, rfl, exact⟩
  have rule : UnitRule.result? (.imperial (.ok x)) op.arith (.imperial (.ok y)) =
      some (UnitRule.lengthOf (op.arith.apply x y)) := by
    cases op <;> rfl
  have result : UnitRule.lengthOf (op.arith.apply x y) = .ok (.length length) :=
    bind_eq_ok.mpr ⟨length, formed, rfl⟩
  rw [combine?_eq leftQuantity rightQuantity rule, result]

theorem Expression.SumsTo.measures {terms : Expression} {sum : ℚ}
    (sums : SumsTo (2 ^ 48) terms sum) :
    ∃ (phrase : Grammar.Phrase) (value : Term) (t : Int), phrase.terms = terms ∧
      phrase.tree.value? = .ok value ∧ value.Measures t ∧ (t : ℚ) = 32 * sum ∧ |sum| < 2 ^ 48 := by
  induction sums with
  | @operand l proper small =>
      obtain ⟨t, same, measures⟩ := measures_typedLength proper small
      exact ⟨.product (.operand ⟨.typedLength l, rfl⟩), .typedLength l, t, rfl, rfl, measures, same,
        small⟩
  | @step terms sum l before op proper small next read =>
      obtain ⟨phrase, left, a, rfl, calculated, first, same, _⟩ := read
      obtain ⟨b, other, second⟩ := measures_typedLength proper small
      have exact : ((op.combine a b : Int) : ℚ) = 32 * op.apply sum l.value := by
        cases op <;> simp only [Grammar.Loose.combine, Grammar.Loose.apply] <;> push_cast <;>
          linarith
      obtain ⟨value, combined, measures⟩ :=
        Term.combine?_measures op first second (counts_thirtySeconds_lt exact next)
      refine ⟨.step phrase op (.operand ⟨.typedLength l, rfl⟩), value, op.combine a b, rfl, ?_,
        measures, exact, next⟩
      exact bind_eq_ok.mpr ⟨left, calculated, bind_eq_ok.mpr ⟨.typedLength l, rfl, combined⟩⟩

theorem Length.Exact.value {length : Length} {t : Int} {sum : ℚ} (exact : length.Exact t)
    (same : (t : ℚ) = 32 * sum) : length.total.value = sum := by
  have step : (thirtySecondUnits : ℚ) ≠ 0 := by
    exact_mod_cast Nat.ne_of_gt thirtySecondUnits_pos
  rw [Binary64.value, exact.1.2, oneUnits_eq_mul]
  push_cast
  rw [same, mul_div_mul_right _ _ step]
  linarith

theorem Length.Exact.shown {length : Length} {t : Int} {sum : ℚ} (exact : length.Exact t)
    (same : (t : ℚ) = 32 * sum) :
    12 * |(length.feet : ℚ)| + |(length.inches : ℚ)| + length.numerator / length.denominator =
      |sum| := by
  rw [exact.2.shown, Nat.cast_natAbs, Int.cast_abs, same, abs_mul]
  norm_num

/-- Sums and differences of typed lengths are exact, and so is the form of the result. -/
theorem Expression.evaluate?_sum {terms : Expression} {sum : ℚ}
    (sums : SumsTo (2 ^ 48) terms sum) :
    ∃ length : Length,
      evaluate? (terms ++ [.operator equalsSymbol]) =
        .ok ⟨terms ++ [.operator equalsSymbol], .ok (.length length)⟩ ∧
      length.total.isFinite ∧ length.total.value = sum ∧
      SignType.sign sum * (12 * |(length.feet : ℚ)| + |(length.inches : ℚ)| +
        length.numerator / length.denominator) = sum ∧
      |length.inches| < 12 ∧ 0 ≤ length.numerator ∧ length.numerator < length.denominator := by
  obtain ⟨phrase, value, t, rfl, calculated, ⟨length, solved, exact⟩, same, _⟩ := sums.measures
  have result : solve? phrase.terms = .ok (.length length) := by
    rw [Grammar.solve?_terms]
    exact bind_eq_ok.mpr ⟨value, calculated, solved⟩
  have evaluated := evaluate?_equals phrase.terms
  rw [result] at evaluated
  have short : |length.inches| < 12 := by
    rw [Int.abs_eq_natAbs]
    exact_mod_cast exact.2.inches_lt
  refine ⟨length, evaluated, exact.1.1, exact.value same, ?_, short, exact.2.numerator_nonneg,
    exact.2.numerator_lt⟩
  rw [exact.shown same]
  exact sign_mul_abs sum

/-- `5ft 3 1/2in - 7ft 0 3/8in` is `-1ft 8 7/8in`. -/
theorem Expression.evaluate?_difference :
    let first : TypedLength := { feet := 5, inches := 3, numerator := 1, denominator := 2 }
    let second : TypedLength := { feet := 7, numerator := 3, denominator := 8 }
    let terms : Expression :=
      [.typedLength first] ++ [.operator Grammar.Loose.minus.arith.symbol, .typedLength second]
    SumsTo (2 ^ 48) terms (-(167 / 8)) ∧
      ∃ length : Length,
        evaluate? (terms ++ [.operator equalsSymbol]) =
          .ok ⟨terms ++ [.operator equalsSymbol], .ok (.length length)⟩ ∧
        length.total.value = -(167 / 8) := by
  intro first second terms
  have firstProper : first.Proper := by constructor <;> decide
  have secondProper : second.Proper := by constructor <;> decide
  have firstValue : first.value = 127 / 2 := by norm_num [TypedLength.value, first]
  have secondValue : second.value = 675 / 8 := by norm_num [TypedLength.value, second]
  have difference : Grammar.Loose.minus.apply first.value second.value = -(167 / 8) := by
    norm_num [Grammar.Loose.apply, firstValue, secondValue]
  have sums : SumsTo (2 ^ 48) terms (-(167 / 8)) := by
    rw [← difference]
    apply SumsTo.step (.operand firstProper _) .minus secondProper
    · norm_num [secondValue, abs_lt]
    · norm_num [difference, abs_lt]
    · norm_num [firstValue, abs_lt]
  obtain ⟨length, evaluated, _, value, _⟩ := evaluate?_sum sums
  exact ⟨sums, length, evaluated, value⟩

end FeetInches
