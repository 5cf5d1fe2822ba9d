import FeetInches.Proofs.Binary64.Arithmetic
import Mathlib.Algebra.Order.Field.Basic
import Mathlib.Tactic.Linarith
import Mathlib.Tactic.NormNum
import Mathlib.Tactic.Ring

namespace FeetInches

def Binary64.value (x : Binary64) : ℚ := x.units / oneUnits

/-- The whole number nearest to `q`; of two that are as near, the even one. -/
structure IsNearestEven (q : ℚ) (n : ℤ) : Prop where
  near : |q - n| ≤ 1 / 2
  even : |q - n| = 1 / 2 → Even n

namespace Binary64

variable {x : Binary64} {u : Int}

theorem cast_oneUnits_pos : (0 : ℚ) < oneUnits := by exact_mod_cast oneUnits_pos

theorem Counts.value_eq (counts : Counts x u) : x.value = u / oneUnits := by
  rw [value, counts.2]

theorem Counts.abs_value (counts : Counts x u) : |x.value| = u.natAbs / oneUnits := by
  rw [counts.value_eq, abs_div, abs_of_pos cast_oneUnits_pos, Nat.cast_natAbs, Int.cast_abs]

theorem Counts.abs_value_le_iff (counts : Counts x u) (n : Nat) :
    |x.value| ≤ n ↔ u.natAbs ≤ n * oneUnits := by
  rw [counts.abs_value, div_le_iff₀ cast_oneUnits_pos]
  exact_mod_cast Iff.rfl

theorem Counts.abs_value_lt_iff (counts : Counts x u) (n : Nat) :
    |x.value| < n ↔ u.natAbs < n * oneUnits := by
  rw [counts.abs_value, div_lt_iff₀ cast_oneUnits_pos]
  exact_mod_cast Iff.rfl

theorem value_eq_of_units (x : Binary64) {n : ℤ} {d : Nat} (below : 0 < d)
    (units : x.units * d = n * oneUnits) : x.value = n / d := by
  have positive : (0 : ℚ) < d := by exact_mod_cast below
  rw [value, div_eq_div_iff cast_oneUnits_pos.ne' positive.ne']
  exact_mod_cast units

theorem lt_zero_iff (known : x.isFinite) : x.lt (.zero false) ↔ x.value < 0 := by
  have counts := Counts.of_isFinite known
  rw [counts.lt (counts_zero false), counts.value_eq, div_lt_iff₀ cast_oneUnits_pos, zero_mul,
    decide_eq_true_eq]
  exact_mod_cast Iff.rfl

end Binary64

/-! Rounding to the nearest -/

/-- Half way below an even number is rounded up to it. -/
theorem IsNearestEven.lt_iff_of_even {q : ℚ} {n k : ℤ} (nearest : IsNearestEven q n)
    (even : Even k) : n < k ↔ q < k - 1 / 2 := by
  obtain ⟨lower, upper⟩ := abs_le.mp nearest.near
  constructor
  · intro less
    have below : (n : ℚ) ≤ k - 1 := by
      have le : n ≤ k - 1 := by omega
      exact_mod_cast le
    apply lt_of_le_of_ne (by linarith)
    intro tie
    have same : (n : ℚ) = k - 1 := by linarith
    have before : n = k - 1 := by exact_mod_cast same
    have half : |q - n| = 1 / 2 := by
      rw [tie, same]
      norm_num
    obtain ⟨r, twice⟩ := even
    obtain ⟨m, odd⟩ := nearest.even half
    omega
  · intro less
    have below : (n : ℚ) < k := by linarith
    exact_mod_cast below

theorem IsNearestEven.le_of_le {q : ℚ} {n k : ℤ} (nearest : IsNearestEven q n) (below : q ≤ k) :
    n ≤ k := by
  have near := (abs_le.mp nearest.near).1
  have less : (n : ℚ) < (k + 1 : ℤ) := by
    push_cast
    linarith
  exact Int.le_of_lt_add_one (by exact_mod_cast less)

theorem IsNearestEven.ge_of_ge {q : ℚ} {n k : ℤ} (nearest : IsNearestEven q n) (above : k ≤ q) :
    k ≤ n := by
  have near := (abs_le.mp nearest.near).2
  have less : (k : ℚ) < (n + 1 : ℤ) := by
    push_cast
    linarith
  exact Int.le_of_lt_add_one (by exact_mod_cast less)

theorem roundHalfEven_of_tie {n d : Nat} (tie : 2 * (n % d) = d) : Even (roundHalfEven n d) := by
  rw [Nat.even_iff]
  unfold roundHalfEven
  dsimp only
  rw [if_neg (by omega), if_neg (by omega)]
  omega

theorem isNearestEven_roundHalfEven (n : Nat) {d : Nat} (positive : 0 < d) :
    IsNearestEven (n / d) (roundHalfEven n d : Nat) := by
  have divisor : (0 : ℚ) < d := by exact_mod_cast positive
  have quotient : (n : ℚ) / d = (n / d : Nat) + ((n % d : Nat) : ℚ) / d := by
    rw [div_eq_iff divisor.ne', add_mul, div_mul_cancel₀ _ divisor.ne']
    exact_mod_cast (Nat.div_add_mod' n d).symm
  have below : ((n % d : Nat) : ℚ) / d < 1 := by
    rw [div_lt_one divisor]
    exact_mod_cast Nat.mod_lt n positive
  have nonnegative : (0 : ℚ) ≤ ((n % d : Nat) : ℚ) / d := by positivity
  have tie (half : ((n % d : Nat) : ℚ) / d = 1 / 2) : Even ((roundHalfEven n d : Nat) : ℤ) := by
    rw [div_eq_iff divisor.ne'] at half
    have same : 2 * (n % d) = d := by
      have twice : 2 * ((n % d : Nat) : ℚ) = d := by linarith
      exact_mod_cast twice
    exact_mod_cast roundHalfEven_of_tie same
  rw [quotient]
  generalize part : ((n % d : Nat) : ℚ) / d = f at below nonnegative tie
  rcases roundHalfEven_cases n d with ⟨down, near⟩ | ⟨up, near⟩
  · have less : f ≤ 1 / 2 := by
      rw [← part, div_le_iff₀ divisor]
      have scaled : 2 * ((n % d : Nat) : ℚ) ≤ d := by exact_mod_cast near
      linarith
    have off : ((n / d : Nat) : ℚ) + f - ((roundHalfEven n d : Nat) : ℤ) = f := by
      rw [down, Int.cast_natCast]
      ring
    exact ⟨by rwa [off, abs_of_nonneg nonnegative],
      by rwa [off, abs_of_nonneg nonnegative]⟩
  · have more : 1 / 2 ≤ f := by
      rw [← part, le_div_iff₀ divisor]
      have scaled : (d : ℚ) ≤ 2 * ((n % d : Nat) : ℚ) := by exact_mod_cast near
      linarith
    have off : ((n / d : Nat) : ℚ) + f - ((roundHalfEven n d : Nat) : ℤ) = -(1 - f) := by
      rw [up, Int.cast_natCast, Nat.cast_succ]
      ring
    have short : |-(1 - f)| = 1 - f := by rw [abs_neg, abs_of_pos (by linarith)]
    refine ⟨by rw [off, short]; linarith, ?_⟩
    rw [off, short]
    intro half
    exact tie (by linarith)

end FeetInches
