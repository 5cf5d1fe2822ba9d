import FeetInches.Proofs.Decimal.Significant
import Mathlib.Data.List.TakeWhile

namespace FeetInches

open Binary64 Decimal Numeral

def Numeral.Spelling.amount (s : Spelling) : ℚ :=
  ofDigits (s.whole ++ s.places) * 10 ^ (s.exponent - s.places.length)

/-! What is laid out -/

theorem exists_trailing_zeros (ds : List Digit) :
    ∃ count, ds = dropTrailingZeros ds ++ List.replicate count 0 := by
  have split := List.takeWhile_append_dropWhile (p := (· = 0)) (l := ds.reverse)
  have zeros : ds.reverse.takeWhile (· = 0) =
      List.replicate (ds.reverse.takeWhile (· = 0)).length 0 := by
    apply List.eq_replicate_of_mem
    intro d member
    simpa using List.mem_takeWhile_imp member
  refine ⟨(ds.reverse.takeWhile (· = 0)).length, ?_⟩
  rw [dropTrailingZeros, ← List.reverse_replicate, ← zeros, ← List.reverse_append, split,
    List.reverse_reverse]

theorem amount_dropTrailingZeros (whole places : List Digit) (e : ℤ) :
    (ofDigits (whole ++ dropTrailingZeros places) : ℚ) *
        10 ^ (e - (dropTrailingZeros places).length) =
      ofDigits (whole ++ places) * 10 ^ (e - places.length) := by
  obtain ⟨count, split⟩ := exists_trailing_zeros places
  generalize dropTrailingZeros places = kept at split ⊢
  subst split
  have exponent : e - (kept.length : ℤ) =
      count + (e - ((kept ++ List.replicate count (0 : Digit)).length : Nat)) := by
    rw [List.length_append, List.length_replicate]
    push_cast
    ring
  rw [← List.append_assoc, ofDigits_append_zeros, exponent, ten_zpow_add, zpow_natCast]
  push_cast
  ring

theorem amount_point (whole fraction : List Digit) (always : Bool) :
    (ofDigits (whole ++ if fraction = [] ∧ always then [0] else fraction) : ℚ) *
        10 ^ (0 - ((if fraction = [] ∧ always then [0] else fraction).length : ℤ)) =
      ofDigits (whole ++ fraction) * 10 ^ (0 - (fraction.length : ℤ)) := by
  split
  · rename_i empty
    rw [empty.1]
    exact (amount_dropTrailingZeros whole [0] 0).symm
  · rfl

theorem amount_spelling (layout : Layout) {s : Scientific} (nonempty : s.digits ≠ []) :
    (s.spelling layout).amount = s.value := by
  have point (ds : List Digit) : (pointed? ds).getD [] = ds := by
    unfold pointed?
    split <;> simp [*]
  have filled := List.length_pos_iff.mpr nonempty
  unfold Scientific.spelling Scientific.value
  split
  · have behind := amount_dropTrailingZeros (s.digits.take 1) (s.digits.drop 1) s.exponent
    simp only [Spelling.amount, Spelling.places, Spelling.exponent, signed_powerDigits, point]
    rw [behind, List.take_append_drop, List.length_drop]
    congr 2
    omega
  · simp only [Spelling.amount, Spelling.places, Spelling.exponent, point]
    rw [amount_point, amount_dropTrailingZeros, List.length_append, List.length_replicate,
      List.length_drop]
    split
    · rename_i below
      rw [List.singleton_append, below, List.drop_zero]
      have zeros := ofDigits_zeros ((-s.exponent - 1).toNat + 1) s.digits
      rw [List.replicate_succ, List.cons_append] at zeros
      rw [zeros]
      congr 2
      omega
    · rename_i above
      have noZeros : (-s.exponent - 1).toNat = 0 := by omega
      rw [noZeros, List.replicate_zero, List.nil_append]
      rcases Nat.le_total (s.exponent + 1).toNat s.digits.length with short | long
      · rw [Nat.sub_eq_zero_of_le short, List.replicate_zero, List.append_nil,
          List.take_append_drop]
        congr 2
        omega
      · rw [List.take_of_length_le long, List.drop_of_length_le long, List.append_nil,
          ofDigits_append_zeros]
        push_cast
        rw [mul_assoc, ← zpow_natCast, ← ten_zpow_add]
        congr 2
        omega

/-! What is read -/

theorem order_spec {k : Nat} (positive : 0 < k) (e : ℤ) :
    (10 : ℚ) ^ (digitCount k + e - 1) ≤ k * 10 ^ e ∧
      (k : ℚ) * 10 ^ e < 10 ^ (digitCount k + e) := by
  have unit := ten_zpow_pos e
  obtain ⟨count, length, lower, upper⟩ := exists_digitCount positive
  have exponent : ((count + 1 : Nat) : ℤ) + e - 1 = count + e := by
    push_cast
    ring
  rw [length, exponent, ten_zpow_add, ten_zpow_add, zpow_natCast, zpow_natCast]
  constructor
  · exact mul_le_mul_of_nonneg_right (by exact_mod_cast lower) unit.le
  · exact mul_lt_mul_of_pos_right (by exact_mod_cast upper) unit

/-- A number between `10 ^ (-330)` and `10 ^ 100` is read as the count of units nearest to it. -/
theorem counts_ofDecimal (negative : Bool) {k n d : Nat} {e : ℤ} (below : 0 < d)
    (units : (k : ℚ) * 10 ^ e * oneUnits = n / d) (least : (10 : ℚ) ^ (-330 : ℤ) ≤ k * 10 ^ e)
    (most : (k : ℚ) * 10 ^ e < (10 : ℚ) ^ (100 : ℤ)) :
    Counts (ofDecimal negative k e) (signedUnits negative (rounded n d)) := by
  have nonzero : 0 < k := by
    apply Nat.pos_of_ne_zero
    rintro rfl
    rw [Nat.cast_zero, zero_mul] at least
    exact absurd least (ten_zpow_pos _).not_ge
  obtain ⟨first, beyond⟩ := order_spec nonzero e
  have low := (zpow_lt_zpow_iff_right₀ (by norm_num)).mp (least.trans_lt beyond)
  have high := (zpow_lt_zpow_iff_right₀ (by norm_num)).mp (first.trans_lt most)
  have positive : 0 < 10 ^ (-e).toNat := Nat.pow_pos (by decide)
  have divisor : (0 : ℚ) < d := by exact_mod_cast below
  have same : rounded (k * 10 ^ e.toNat * oneUnits) (10 ^ (-e).toNat) = rounded n d := by
    apply rounded_congr positive below
    have scale : ((10 ^ (-e).toNat : Nat) : ℚ) ≠ 0 := by positivity
    rw [ten_zpow_eq, ← mul_div_assoc, div_mul_eq_mul_div, div_eq_div_iff scale divisor.ne'] at units
    exact_mod_cast units
  have range : rounded n d ≤ greatestUnits := by
    have less : (n : ℚ) / d < 10 ^ 100 * oneUnits := by
      rw [← units]
      exact mul_lt_mul_of_pos_right most cast_oneUnits_pos
    rw [div_lt_iff₀ divisor] at less
    have small : n < 10 ^ 100 * oneUnits * d := by exact_mod_cast less
    have top : 10 ^ 100 * oneUnits ≤ greatestUnits := by decide +kernel
    have scaled := Nat.mul_le_mul_right d top
    apply rounded_in_range below
    rw [Nat.mul_add, Nat.mul_left_comm, Nat.mul_comm d]
    omega
  have counts := counts_nearest negative positive (same.trans_le range)
  rw [same] at counts
  rwa [ofDecimal_eq_nearest negative nonzero (by omega) (by omega)]

end FeetInches
